import Phrasebook.Highlight.Token
import Phrasebook.Text.Blank
import Phrasebook.Text.Word

/-!
# Highlighting scripts

The tokens of a script: comments, the headers of triggers, variables, quoted
texts, numbers, words and signs.
-/

namespace Phrasebook.Highlight

/-- Whether a quoted text is open. -/
inductive ScriptState where
  | line
  | quoted
  deriving DecidableEq

namespace ScriptScan

def isBasicDigit (char : Char) : Bool :=
  '0' ≤ char && char ≤ '9'

def atLineEnd : Text → Bool
  | [] => true
  | first :: _ => first == '\n'

/-- A comment, up to the end of the line. -/
def comment : Scan
  | _, '#' :: rest =>
      some ⟨[⟨.comment, '#' :: rest.takeWhile (· != '\n')⟩],
        rest.dropWhile (· != '\n')⟩
  | _, _ => none

def inTriggerName (char : Char) : Bool :=
  char != ':' && char != '\n'

/-- The name of a trigger and the colon behind it, which ends the line.  Only its
first character can be a colon, and it is neither blank nor a number sign. -/
def triggerName : Text → Option Taken
  | [] => none
  | first :: rest =>
      if Text.isBlank first || first == '#' then none
      else
        match rest.dropWhile inTriggerName with
        | ':' :: after =>
            if atLineEnd after then
              some ⟨[⟨.nameFunction, first :: rest.takeWhile inTriggerName⟩,
                ⟨.punctuation, [':']⟩], after⟩
            else none
        | _ => none

/-- The header of a trigger, which starts a line.  The word `on` is set apart if a
name follows it. -/
def header : Scan := fun previous text =>
  if previous.all (· == '\n') then
    match text with
    | 'o' :: 'n' :: ' ' :: rest =>
        match triggerName rest with
        | some taken => some (taken.prepend ⟨.keywordDeclaration, ['o', 'n', ' ']⟩)
        | none => triggerName text
    | _ => triggerName text
  else none

def inVariable (char : Char) : Bool :=
  char != '}' && char != '\n'

/-- A variable, closed on its line. -/
def braced : Scan
  | _, '{' :: rest =>
      match rest.dropWhile inVariable with
      | '}' :: after =>
          some ⟨[⟨.nameVariable, '{' :: rest.takeWhile inVariable ++ ['}']⟩],
            after⟩
      | _ => none
  | _, _ => none

/-- A number with a point between digits. -/
def float : Scan := fun _ text =>
  match text.takeWhile isBasicDigit, text.dropWhile isBasicDigit with
  | digit :: digits, '.' :: rest =>
      match rest.takeWhile isBasicDigit with
      | [] => none
      | place :: places =>
          some ⟨[⟨.float, digit :: digits ++ '.' :: place :: places⟩],
            rest.dropWhile isBasicDigit⟩
  | _, _ => none

/-- One of the words, if no word character touches it. -/
def word (kind : TokenKind) (words : List Text) : Scan := fun previous text =>
  if previous.any Text.isWordChar then none
  else
    words.findSome? fun word =>
      let rest := text.drop word.length
      if word.isPrefixOf text && !rest.head?.any Text.isWordChar then
        some ⟨[⟨kind, word⟩], rest⟩
      else none

def truthWords : List Text :=
  ["true", "false", "yes", "no", "on", "off"]

/-- The words that hold a phrase together. -/
def linkWords : List Text :=
  ["is", "are", "isn't", "aren't", "not", "of", "the", "to", "and", "or"]

def startsName (char : Char) : Bool :=
  ('a' ≤ char && char ≤ 'z') || ('A' ≤ char && char ≤ 'Z') || char == '_'

def inName (char : Char) : Bool :=
  Text.isWordChar char || char == '\'' || char == '-'

def name : Scan
  | _, first :: rest =>
      if startsName first then
        some ⟨[⟨.name, first :: rest.takeWhile inName⟩], rest.dropWhile inName⟩
      else none
  | _, [] => none

/-- Two quotes, which stand for one inside of a quoted text. -/
def doubledQuote : Scan
  | _, '"' :: '"' :: rest => some ⟨[⟨.stringEscape, ['"', '"']⟩], rest⟩
  | _, _ => none

/-- The rules outside of quoted texts. -/
def lineRules : List (Rule ScriptState) :=
  [⟨.run .text Text.isBlank, .line⟩, ⟨comment, .line⟩, ⟨header, .line⟩,
    ⟨braced, .line⟩, ⟨.char .string (· == '"'), .quoted⟩, ⟨float, .line⟩,
    ⟨.run .integer isBasicDigit, .line⟩,
    ⟨word .keywordConstant truthWords, .line⟩, ⟨word .keyword linkWords, .line⟩,
    ⟨name, .line⟩, ⟨.char .punctuation ([',', ':'].contains ·), .line⟩,
    ⟨.char .text (· != '\n'), .line⟩]

/-- The rules inside of a quoted text. -/
def quotedRules : List (Rule ScriptState) :=
  [⟨doubledQuote, .quoted⟩, ⟨.run .string (· != '"'), .quoted⟩,
    ⟨.char .string (· == '"'), .line⟩]

end ScriptScan

/-- The lexer of scripts. -/
def scriptLexer : Lexer ScriptState where
  root := .line
  rules
    | .line => ScriptScan.lineRules
    | .quoted => ScriptScan.quotedRules

def scriptTokens (script : Text) : List Token :=
  scriptLexer.tokens (prepare script)

end Phrasebook.Highlight
