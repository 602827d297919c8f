import Phrasebook.Number.Reading

/-!
# Settings in TOML

Settings are written in TOML: tables, and in them keys with integers, truth
values, texts on one line, and lists of texts.  What is none of these is passed
over.
-/

namespace Phrasebook.Toml

/-- The value of a setting. -/
inductive Setting where
  | integer (value : Int)
  | truth (value : Bool)
  | text (value : Text)
  | texts (values : List Text)
  deriving DecidableEq

/-- A setting under its full key: the parts of its table's name and of its own. -/
abbrev Entry := List Text × Setting

/-- Whether the character may stand between the parts of a line. -/
def isGap (char : Char) : Bool :=
  char == ' ' || char == '\t'

/-- Whether the character separates the items of a list. -/
def separatesItems (char : Char) : Bool :=
  isGap char || char == ',' || char == '\n' || char == '\r'

def nextLine (text : Text) : Text :=
  (text.dropWhile (· != '\n')).drop 1

/-- The character that a hexadecimal number stands for. -/
def charOfHex? (digits : Text) : Option Char :=
  (digits.foldl (fun total digit =>
      total.bind fun total =>
        if '0' ≤ digit ∧ digit ≤ '9' then
          some (16 * total + (digit.toNat - '0'.toNat))
        else if 'a' ≤ digit ∧ digit ≤ 'f' then
          some (16 * total + (digit.toNat - 'a'.toNat + 10))
        else if 'A' ≤ digit ∧ digit ≤ 'F' then
          some (16 * total + (digit.toNat - 'A'.toNat + 10))
        else none)
    (some 0)).map Char.ofNat

def escapes : List (Char × Char) :=
  [('"', '"'), ('\\', '\\'), ('n', '\n'), ('t', '\t'), ('r', '\r'),
    ('b', '\x08'), ('f', '\x0c')]

/-- The character behind a backslash and the text behind its escape. -/
def escaped? : Text → Option (Char × Text)
  | 'u' :: rest => (charOfHex? (rest.take 4)).map fun char => (char, rest.drop 4)
  | 'U' :: rest => (charOfHex? (rest.take 8)).map fun char => (char, rest.drop 8)
  | letter :: rest => (escapes.lookup letter).map fun char => (char, rest)
  | [] => none

/-- A text in double quotes, from just after the opening one, and what follows the
closing one.  The fuel is the length of the text. -/
def quotedText? : Nat → Text → Option (Text × Text)
  | _, '"' :: rest => some ([], rest)
  | fuel + 1, '\\' :: rest => do
      let (char, rest) ← escaped? rest
      let (text, rest) ← quotedText? fuel rest
      pure (char :: text, rest)
  | fuel + 1, char :: rest =>
      if char == '\n' then none
      else (quotedText? fuel rest).map fun (text, rest) => (char :: text, rest)
  | _, _ => none

/-- A text in quotes of either kind and what follows it. -/
def text? : Text → Option (Text × Text)
  | '"' :: rest => quotedText? rest.length rest
  | '\'' :: rest =>
      match rest.dropWhile fun char => char != '\'' && char != '\n' with
      | '\'' :: after => some (rest.takeWhile (· != '\''), after)
      | _ => none
  | _ => none

/-- The texts of a list, from just after its opening bracket, and what follows the
closing one.  Comments may stand between items.  The fuel is the length of the
text. -/
def texts? : Nat → Text → Option (List Text × Text)
  | 0, _ => none
  | fuel + 1, text =>
      match text.dropWhile separatesItems with
      | ']' :: rest => some ([], rest)
      | '#' :: rest => texts? fuel (nextLine rest)
      | item => do
          let (first, rest) ← text? item
          let (others, rest) ← texts? fuel rest
          pure (first :: others, rest)

def inWord (char : Char) : Bool :=
  !(separatesItems char || char == '#')

/-- A value and what follows it. -/
def setting? (text : Text) : Option (Setting × Text) :=
  match text with
  | '[' :: rest => (texts? (rest.length + 1) rest).map fun (texts, rest) =>
      (.texts texts, rest)
  | _ =>
      match text? text with
      | some (value, rest) => some (.text value, rest)
      | none =>
          let word := text.takeWhile inWord
          let rest := text.dropWhile inWord
          if word = "true" then some (.truth true, rest)
          else if word = "false" then some (.truth false, rest)
          else (Text.readGroupedInteger? word).map fun value =>
            (.integer value, rest)

def keyPart (written : Text) : Text :=
  let part := Text.strip written
  ((text? part).map (·.1)).getD part

/-- The parts of a key, which points separate. -/
def keyParts (written : Text) : List Text :=
  (Text.splitOnChar '.' written).map keyPart

/-- The settings of a text, from inside of a table.  The fuel is the length of the
text. -/
def entriesFrom : Nat → List Text → Text → List Entry
  | 0, _, _ => []
  | fuel + 1, table, text =>
      match text.dropWhile fun char => isGap char || char == '\n' ||
          char == '\r' with
      | [] => []
      | '#' :: rest => entriesFrom fuel table (nextLine rest)
      | '[' :: rest =>
          entriesFrom fuel (keyParts (rest.takeWhile (· != ']')))
            (nextLine rest)
      | line =>
          let key := line.takeWhile fun char => char != '=' && char != '\n'
          let value := ((line.drop key.length).drop 1).dropWhile isGap
          match setting? value with
          | some (setting, rest) =>
              (table ++ keyParts key, setting) :: entriesFrom fuel table
                (nextLine rest)
          | none => entriesFrom fuel table (nextLine line)

def entries (text : Text) : List Entry :=
  entriesFrom (text.length + 1) [] text

end Phrasebook.Toml
