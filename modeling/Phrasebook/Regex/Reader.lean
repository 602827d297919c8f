import Phrasebook.Regex.Basic

/-!
# Reading regular expressions

A regular expression is read from its tokens, where a backslash and the
character after it are one token.  A backslash at the very end is found out as
soon as the token before it has been taken, ahead of any fault that this token
itself would raise.
-/

namespace Phrasebook.Regex

/-- A character of a written regular expression, or a backslash with what
follows it. -/
inductive Symbol where
  | plain (char : Char)
  | escaped (char : Char)
  | dangling
  deriving DecidableEq

/-- A symbol and its offset. -/
structure Token where
  symbol : Symbol
  position : Nat

namespace Token

def written (token : Token) : Text :=
  match token.symbol with
  | .plain char => [char]
  | .escaped char => ['\\', char]
  | .dangling => ['\\']

end Token

/-- The tokens of a written regular expression, from the given offset on. -/
def tokens (position : Nat) : Text → List Token
  | [] => []
  | ['\\'] => [⟨.dangling, position⟩]
  | '\\' :: char :: rest => ⟨.escaped char, position⟩ :: tokens (position + 2) rest
  | char :: rest => ⟨.plain char, position⟩ :: tokens (position + 1) rest

/-- What is still to be read, the offset of the end, and the number of groups
opened so far. -/
structure Reading where
  tokens : List Token
  size : Nat
  groups : Nat

namespace Reading

def position (reading : Reading) : Nat :=
  match reading.tokens with
  | [] => reading.size
  | token :: _ => token.position

/-- Fails if the next token is a backslash with nothing after it. -/
def checked (reading : Reading) : Except RegexFault Reading :=
  match reading.tokens with
  | ⟨.dangling, position⟩ :: _ => .error ⟨.danglingBackslash, position⟩
  | _ => .ok reading

def advance (reading : Reading) : Except RegexFault Reading :=
  checked { reading with tokens := reading.tokens.tail }

/-- Whether the next token is this plain character. -/
def startsWith (reading : Reading) (char : Char) : Bool :=
  match reading.tokens with
  | ⟨.plain next, _⟩ :: _ => next == char
  | _ => false

/-- Takes the plain character away if it comes next, and tells whether it did. -/
def skip (reading : Reading) (char : Char) : Except RegexFault (Bool × Reading) :=
  if reading.startsWith char then do pure (true, ← reading.advance)
  else .ok (false, reading)

/-- Takes the plain characters away that come next and pass the check, at most
as many as the number says. -/
def takeWhile (reading : Reading) (passes : Char → Bool) :
    Nat → Except RegexFault (Text × Reading)
  | 0 => .ok ([], reading)
  | most + 1 =>
      match reading.tokens with
      | ⟨.plain char, _⟩ :: _ =>
          if passes char then do
            let (rest, reading) ← (← reading.advance).takeWhile passes most
            pure (char :: rest, reading)
          else .ok ([], reading)
      | _ => .ok ([], reading)

end Reading

/-- The class that a letter after a backslash names. -/
def classOf? : Char → Option (CharClass × Bool)
  | 'd' => some (.digit, false)
  | 'D' => some (.digit, true)
  | 'w' => some (.word, false)
  | 'W' => some (.word, true)
  | 's' => some (.blank, false)
  | 'S' => some (.blank, true)
  | _ => none

/-- The control character that a letter after a backslash stands for. -/
def controlOf? : Char → Option Char
  | 'a' => some '\x07'
  | 'f' => some '\x0c'
  | 'n' => some '\n'
  | 'r' => some '\r'
  | 't' => some '\t'
  | 'v' => some '\x0b'
  | _ => none

def anchorOf? : Char → Option Anchor
  | 'A' => some .start
  | 'Z' => some .textEnd
  | 'b' => some .wordEdge
  | 'B' => some .noWordEdge
  | _ => none

/-- How many hexadecimal digits follow a letter after a backslash. -/
def hexWidth? : Char → Option Nat
  | 'x' => some 2
  | 'u' => some 4
  | 'U' => some 8
  | _ => none

def hexValue? (char : Char) : Option Nat :=
  if '0' ≤ char && char ≤ '9' then some (char.toNat - '0'.toNat)
  else if 'a' ≤ char && char ≤ 'f' then some (char.toNat - 'a'.toNat + 10)
  else if 'A' ≤ char && char ≤ 'F' then some (char.toNat - 'A'.toNat + 10)
  else none

def isHexDigit (char : Char) : Bool :=
  (hexValue? char).isSome

def isOctalDigit (char : Char) : Bool :=
  '0' ≤ char && char ≤ '7'

/-- The number that digits denote to the given base. -/
def codeOf (base : Nat) (digits : Text) : Nat :=
  digits.foldl (fun value char => base * value + (hexValue? char).getD 0) 0

/-- The character with this code, if it is one. -/
def charOf (escape : Text) (position code : Nat) : Except RegexFault Char :=
  if code.isValidChar then .ok (.ofNat code)
    else .error ⟨.badEscape escape, position⟩

/-- The character that a letter and so many hexadecimal digits after it stand
for. -/
def hexEscape (letter : Char) (width position : Nat) (reading : Reading) :
    Except RegexFault (Char × Reading) := do
  let (digits, reading) ← reading.takeWhile isHexDigit width
  let escape := '\\' :: letter :: digits
  if digits.length = width then
    let char ← charOf escape position (codeOf 16 digits)
    pure (char, reading)
  else .error ⟨.incompleteEscape escape, position⟩

/-- The character that octal digits stand for. -/
def octalChar (digits : Text) (position : Nat) : Except RegexFault Char :=
  if codeOf 8 digits ≤ 255 then .ok (.ofNat (codeOf 8 digits))
  else .error ⟨.octalOutOfRange ('\\' :: digits), position⟩

/-- The character that a digit after a backslash, with those behind it, stands
for outside of a set.  Digits that are not the octal number of a character are
the number of a group. -/
def digitEscape (digit : Char) (position : Nat) (reading : Reading) :
    Except RegexFault (Char × Reading) := do
  if digit = '0' then
    let (more, reading) ← reading.takeWhile isOctalDigit 2
    let char ← octalChar (digit :: more) position
    pure (char, reading)
  else
    let (second, reading) ← reading.takeWhile Char.isDigit 1
    let (third, reading) ←
      if second ≠ [] ∧ (digit :: second).all isOctalDigit then
        reading.takeWhile isOctalDigit 1
      else pure ([], reading)
    let digits := digit :: second
    if third.isEmpty then .error ⟨.badGroupReference digits, position + 1⟩
    else
      let char ← octalChar (digits ++ third) position
      pure (char, reading)

def escapeItem (char : Char) (position : Nat) (reading : Reading) :
    Except RegexFault (Regex × Reading) := do
  match classOf? char, controlOf? char, anchorOf? char, hexWidth? char with
  | some (charClass, negated), _, _, _ =>
      pure (.test (.oneOf [.class charClass negated] false), reading)
  | _, some control, _, _ => pure (.test (.exactly control), reading)
  | _, _, some spot, _ => pure (.anchor spot, reading)
  | _, _, _, some width =>
      let (read, reading) ← hexEscape char width position reading
      pure (.test (.exactly read), reading)
  | _, _, _, _ =>
      if char.isDigit then
        let (read, reading) ← digitEscape char position reading
        pure (.test (.exactly read), reading)
      else if char.isAlpha then .error ⟨.badEscape ['\\', char], position⟩
      else pure (.test (.exactly char), reading)

def setEscape (char : Char) (position : Nat) (reading : Reading) :
    Except RegexFault (SetItem × Reading) := do
  match classOf? char, controlOf? char, hexWidth? char with
  | some (charClass, negated), _, _ => pure (.class charClass negated, reading)
  | _, some control, _ => pure (.char control, reading)
  | _, _, some width =>
      let (read, reading) ← hexEscape char width position reading
      pure (.char read, reading)
  | _, _, _ =>
      if char = 'b' then pure (.char '\x08', reading)
      else if isOctalDigit char then
        let (more, reading) ← reading.takeWhile isOctalDigit 2
        let read ← octalChar (char :: more) position
        pure (.char read, reading)
      else if char.isAlphanum then .error ⟨.badEscape ['\\', char], position⟩
      else pure (.char char, reading)

/-- The meaning of a token inside a set. -/
def setItem (token : Token) (reading : Reading) :
    Except RegexFault (SetItem × Reading) :=
  match token.symbol with
  | .plain char => .ok (.char char, reading)
  | .dangling => .error ⟨.danglingBackslash, token.position⟩
  | .escaped char => setEscape char token.position reading

/-- A range between two items, which both have to be single characters in
order.  A fault is reported as far before the place that has been reached as
the two tokens and the dash are long. -/
def setRange (low high : Token) (lowItem highItem : SetItem) (reached : Nat) :
    Except RegexFault SetItem :=
  let fault : RegexFault :=
    ⟨.badRange low.written high.written,
      reached - (low.written.length + 1 + high.written.length)⟩
  match lowItem, highItem with
  | .char first, .char last => if first ≤ last then .ok (.range first last)
      else .error fault
  | _, _ => .error fault

/-- Reads the items of a set up to its closing bracket.  A closing bracket that
comes first is an item. -/
def readSet (opened : Nat) :
    Nat → List SetItem → Reading → Except RegexFault (List SetItem × Reading)
  | 0, _, _ => .error ⟨.unterminatedSet, opened⟩
  | fuel + 1, items, reading =>
      match reading.tokens with
      | [] => .error ⟨.unterminatedSet, opened⟩
      | token :: _ => do
          let reading ← reading.advance
          if token.symbol = .plain ']' && !items.isEmpty then pure (items, reading)
          else
            let (item, reading) ← setItem token reading
            let (dashed, reading) ← reading.skip '-'
            if dashed then
              match reading.tokens with
              | [] => .error ⟨.unterminatedSet, opened⟩
              | next :: _ =>
                  let reading ← reading.advance
                  if next.symbol = .plain ']' then
                    pure (items ++ [item, .char '-'], reading)
                  else
                    let (nextItem, reading) ← setItem next reading
                    let range ← setRange token next item nextItem reading.position
                    readSet opened fuel (items ++ [range]) reading
            else readSet opened fuel (items ++ [item]) reading

/-- The number of rounds that digits denote; there is a limit to it. -/
def roundsOf (digits : Text) (position : Nat) : Except RegexFault Nat :=
  let rounds := Text.digitsValue digits
  if rounds < 4294967295 then .ok rounds else .error ⟨.tooManyRounds, position⟩

/-- The bounds of a repetition, after its first character has been taken.
Braces that hold no bounds are no repetition. -/
def readBounds (quantifier : Char) (fuel : Nat) (reading : Reading) :
    Except RegexFault (Option (Nat × Option Nat) × Reading) :=
  match quantifier with
  | '?' => .ok (some (0, some 1), reading)
  | '*' => .ok (some (0, none), reading)
  | '+' => .ok (some (1, none), reading)
  | _ =>
      if reading.startsWith '}' then .ok (none, reading)
      else do
        let start := reading
        let (low, reading) ← reading.takeWhile Char.isDigit fuel
        let (comma, reading) ← reading.skip ','
        let (high, reading) ←
          if comma then reading.takeWhile Char.isDigit fuel else pure (low, reading)
        let (closed, reading) ← reading.skip '}'
        if !closed then pure (none, start)
        else
          let least ← roundsOf low start.position
          if high.isEmpty then pure (some (least, none), reading)
          else
            let most ← roundsOf high start.position
            if most < least then .error ⟨.rangeOutOfOrder, start.position⟩
            else pure (some (least, some most), reading)

/-- Repeats the last item read.  There has to be one that is neither an anchor
nor a repetition. -/
def repeatLast (position : Nat) (least : Nat) (most : Option Nat)
    (appetite : Appetite) :
    List Regex → Except RegexFault (List Regex)
  | [] => .error ⟨.nothingToRepeat, position⟩
  | .anchor _ :: _ => .error ⟨.nothingToRepeat, position⟩
  | .repeated .. :: _ => .error ⟨.multipleRepeat, position⟩
  | item :: items => .ok (.repeated item least most appetite :: items)

/-- The items of a sequence, given last one first. -/
def sequence : List Regex → Regex
  | [] => .empty
  | [item] => item
  | item :: items => .seq (sequence items) item

/-- The alternative of two sequences, either of which may be the only one. -/
def alternative : Option Regex → Regex → Regex
  | none, second => second
  | some first, second => .alt first second

/-- Items that a group without a number contributes.  An anchor or a repetition
in such a group may be repeated, so it is shielded by an empty sequence. -/
def shield : Regex → Regex
  | .anchor spot => .seq .empty (.anchor spot)
  | .repeated body least most appetite =>
      .seq .empty (.repeated body least most appetite)
  | other => other

mutual

/-- Reads alternatives up to the end or to a closing parenthesis. -/
def readAlternatives :
    Nat → Option Regex → Reading → Except RegexFault (Regex × Reading)
  | 0, _, reading => .error ⟨.unterminatedGroup, reading.position⟩
  | fuel + 1, before, reading => do
      let (items, reading) ← readItems fuel [] reading
      let read := alternative before (sequence items)
      let (more, reading) ← reading.skip '|'
      if more then readAlternatives fuel (some read) reading
        else pure (read, reading)

/-- Reads the items of one sequence; the last item comes first. -/
def readItems :
    Nat → List Regex → Reading → Except RegexFault (List Regex × Reading)
  | 0, _, reading => .error ⟨.unterminatedGroup, reading.position⟩
  | fuel + 1, items, reading =>
      match reading.tokens with
      | [] => .ok (items, reading)
      | token :: _ =>
          if token.symbol = .plain '|' || token.symbol = .plain ')' then
            .ok (items, reading)
          else do
            let reading ← reading.advance
            match token.symbol with
            | .dangling => .error ⟨.danglingBackslash, token.position⟩
            | .escaped char =>
                let (item, reading) ← escapeItem char token.position reading
                readItems fuel (item :: items) reading
            | .plain '[' =>
                let (negated, reading) ← reading.skip '^'
                let (listed, reading) ← readSet token.position fuel [] reading
                readItems fuel (.test (.oneOf listed negated) :: items) reading
            | .plain '.' => readItems fuel (.test .anyButNewline :: items) reading
            | .plain '^' => readItems fuel (.anchor .start :: items) reading
            | .plain '$' => readItems fuel (.anchor .stop :: items) reading
            | .plain '(' =>
                let (item, reading) ← readGroup fuel token.position reading
                readItems fuel (item :: items) reading
            | .plain char =>
                if char = '*' || char = '+' || char = '?' || char = '{' then
                  let (bounds, reading) ← readBounds char fuel reading
                  match bounds with
                  | none => readItems fuel (.test (.exactly char) :: items) reading
                  | some (least, most) =>
                      let _ ← repeatLast token.position least most .greedy items
                      let (lazy, reading) ← reading.skip '?'
                      let (possessive, reading) ←
                        if lazy then pure (false, reading) else reading.skip '+'
                      let appetite : Appetite :=
                        if lazy then .lazy else if possessive then .possessive
                          else .greedy
                      let items ← repeatLast token.position least most
                        appetite items
                      readItems fuel items reading
                else readItems fuel (.test (.exactly char) :: items) reading

/-- Reads a group whose opening parenthesis has been taken. -/
def readGroup : Nat → Nat → Reading → Except RegexFault (Regex × Reading)
  | 0, opened, _ => .error ⟨.unterminatedGroup, opened⟩
  | fuel + 1, opened, reading => do
      let (extended, reading) ← reading.skip '?'
      if extended then
        match reading.tokens with
        | ⟨.plain ':', _⟩ :: _ =>
            let reading ← reading.advance
            let (body, reading) ← readAlternatives fuel none reading
            let (closed, reading) ← reading.skip ')'
            if closed then pure (shield body, reading)
            else .error ⟨.unterminatedGroup, opened⟩
        | token :: _ =>
            .error ⟨.unknownExtension ('?' :: token.written), opened + 1⟩
        | [] => .error ⟨.unexpectedEnd, reading.position⟩
      else
        let group := reading.groups
        let (body, reading) ←
          readAlternatives fuel none { reading with groups := group + 1 }
        let (closed, reading) ← reading.skip ')'
        if closed then pure (.capture group body, reading)
        else .error ⟨.unterminatedGroup, opened⟩

end

/-- Reads a whole regular expression; the second part is its number of groups. -/
def read (body : Text) : Except RegexFault (Regex × Nat) := do
  let start ← Reading.checked ⟨tokens 0 body, body.length, 0⟩
  let (regex, reading) ← readAlternatives (3 * body.length + 3) none start
  match reading.tokens with
  | [] => pure (regex, reading.groups)
  | token :: _ => .error ⟨.unbalancedGroup, token.position⟩

end Phrasebook.Regex
