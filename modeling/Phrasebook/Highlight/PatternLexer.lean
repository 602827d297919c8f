import Phrasebook.Highlight.Token
import Phrasebook.Text.Blank
import Phrasebook.Text.Digit

/-!
# Highlighting patterns

The tokens of a pattern: escapes, typed placeholders such as `%-types@-1%`,
regular expressions, groups, alternatives, and the literal text between them.
-/

namespace Phrasebook.Highlight

namespace PatternScan

/-- A backslash and the character that it makes literal. -/
def escape : Scan
  | _, '\\' :: char :: rest =>
      if char = '\n' then none else some ⟨[⟨.stringEscape, ['\\', char]⟩], rest⟩
  | _, _ => none

/-- The percent sign that closes a placeholder, after a time state that is written
as its digits behind the given opening. -/
def timeEnd (opening text : Text) : Option Taken :=
  match text.takeWhile Text.isDigit, text.dropWhile Text.isDigit with
  | digit :: digits, '%' :: rest =>
      some ⟨[⟨.integer, opening ++ digit :: digits⟩, ⟨.punctuation, ['%']⟩], rest⟩
  | _, _ => none

/-- The end of a placeholder: a percent sign, with or without a time state. -/
def placeholderEnd : Text → Option Taken
  | '%' :: rest => some ⟨[⟨.punctuation, ['%']⟩], rest⟩
  | '@' :: '-' :: rest => timeEnd ['@', '-'] rest
  | '@' :: rest => timeEnd ['@'] rest
  | _ => none

def inTypeName (char : Char) : Bool :=
  char != '%' && char != '@'

/-- The name of a placeholder's type and the end of the placeholder. -/
def typeName (text : Text) : Option Taken :=
  match text.takeWhile inTypeName with
  | [] => none
  | first :: name =>
      (placeholderEnd (text.dropWhile inTypeName)).map
        (.prepend ⟨.nameClass, first :: name⟩)

/-- What follows the opening percent sign.  A dash is an operator if a name comes
after it, and otherwise the name itself. -/
def placeholderBody (text : Text) : Option Taken :=
  match text with
  | '-' :: rest =>
      match typeName rest with
      | some taken => some (taken.prepend ⟨.operator, ['-']⟩)
      | none => typeName text
  | _ => typeName text

def placeholder : Scan
  | _, '%' :: rest => (placeholderBody rest).map (.prepend ⟨.punctuation, ['%']⟩)
  | _, _ => none

/-- A regular expression, up to the first closing bracket. -/
def regex : Scan
  | _, '<' :: rest =>
      match rest.dropWhile (· != '>') with
      | '>' :: after =>
          some ⟨[⟨.stringRegex, '<' :: rest.takeWhile (· != '>') ++ ['>']⟩],
            after⟩
      | _ => none
  | _, _ => none

def isLiteral (char : Char) : Bool :=
  !(['\\', '%', '<', '[', ']', '(', ')', '|'].contains char || Text.isBlank char)

def all : List Scan :=
  [escape, placeholder, regex,
    .char .keyword (['[', ']'].contains ·),
    .char .punctuation (['(', ')'].contains ·),
    .char .operator (· == '|'), .run .text Text.isBlank, .run .text isLiteral]

end PatternScan

/-- The lexer of patterns; it has a single state. -/
def patternLexer : Lexer Unit where
  root := ()
  rules := fun _ => PatternScan.all.map fun scan => ⟨scan, ()⟩

def patternTokens (pattern : Text) : List Token :=
  patternLexer.tokens (prepare pattern)

end Phrasebook.Highlight
