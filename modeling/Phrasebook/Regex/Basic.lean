import Phrasebook.Text.Blank
import Phrasebook.Text.Digit
import Phrasebook.Text.Word

/-!
# Regular expressions

The syntax of the regular expressions that may stand inside a pattern, and the
faults that their written form can have.
-/

namespace Phrasebook

/-- A named class of characters. -/
inductive CharClass where
  | digit
  | word
  | blank
  deriving DecidableEq

/-- One item of a bracketed character set. -/
inductive SetItem where
  | char (char : Char)
  | range (low high : Char)
  | class (charClass : CharClass) (negated : Bool)
  deriving DecidableEq

/-- What a single character is tested for. -/
inductive CharTest where
  | exactly (char : Char)
  | anyButNewline
  | oneOf (items : List SetItem) (negated : Bool)
  deriving DecidableEq

/-- A condition on a place between characters. -/
inductive Anchor where
  | start
  /-- The end, or the place before a newline that ends the text. -/
  | stop
  /-- The very end. -/
  | textEnd
  | wordEdge
  | noWordEdge
  deriving DecidableEq

/-- How a repetition chooses its number of rounds. -/
inductive Appetite where
  | greedy
  | lazy
  /-- Takes all it can and gives nothing back. -/
  | possessive
  deriving DecidableEq

/-- A regular expression.  Capturing groups are numbered from 0. -/
inductive Regex where
  | empty
  | test (test : CharTest)
  | anchor (anchor : Anchor)
  | seq (first second : Regex)
  | alt (first second : Regex)
  | capture (group : Nat) (body : Regex)
  | repeated (body : Regex) (least : Nat) (most : Option Nat) (appetite : Appetite)
  deriving DecidableEq

/-- What is wrong with the written form of a regular expression. -/
inductive RegexFaultKind where
  | unterminatedSet
  | unterminatedGroup
  | unbalancedGroup
  | nothingToRepeat
  | multipleRepeat
  | badRange (low high : Text)
  | rangeOutOfOrder
  | tooManyRounds
  | danglingBackslash
  | badEscape (escape : Text)
  | incompleteEscape (escape : Text)
  | octalOutOfRange (escape : Text)
  | badGroupReference (reference : Text)
  | unknownExtension (extension : Text)
  | unexpectedEnd
  deriving DecidableEq

/-- A fault and the offset at which it is reported. -/
structure RegexFault where
  kind : RegexFaultKind
  position : Nat
  deriving DecidableEq

namespace CharClass

def contains : CharClass → Char → Bool
  | .digit, char => Text.isDigit char
  | .word, char => Text.isWordChar char
  | .blank, char => Text.isBlank char

end CharClass

namespace SetItem

def contains : SetItem → Char → Bool
  | .char listed, letter => listed == letter
  | .range low high, letter => low ≤ letter && letter ≤ high
  | .class charClass negated, letter => charClass.contains letter != negated

end SetItem

namespace CharTest

def passes : CharTest → Char → Bool
  | .exactly expected, char => expected == char
  | .anyButNewline, char => char != '\n'
  | .oneOf items negated, char => items.any (·.contains char) != negated

end CharTest

namespace RegexFaultKind

def message : RegexFaultKind → Text
  | .unterminatedSet => "unterminated character set"
  | .unterminatedGroup => "missing ), unterminated subpattern"
  | .unbalancedGroup => "unbalanced parenthesis"
  | .nothingToRepeat => "nothing to repeat"
  | .multipleRepeat => "multiple repeat"
  | .badRange low high => "bad character range " ++ low ++ "-" ++ high
  | .rangeOutOfOrder => "min repeat greater than max repeat"
  | .tooManyRounds => "the repetition number is too large"
  | .danglingBackslash => "bad escape (end of pattern)"
  | .badEscape escape => "bad escape " ++ escape
  | .incompleteEscape escape => "incomplete escape " ++ escape
  | .octalOutOfRange escape =>
      "octal escape value " ++ escape ++ " outside of range 0-0o377"
  | .badGroupReference reference => "invalid group reference " ++ reference
  | .unknownExtension extension => "unknown extension " ++ extension
  | .unexpectedEnd => "unexpected end of pattern"

end RegexFaultKind

namespace RegexFault

/-- The fault and its position.  In a body of several lines the line and the
column are told as well. -/
def message (fault : RegexFault) (body : Text) : Text :=
  let place := fault.kind.message ++ " at position " ++ Text.ofNat fault.position
  if body.contains '\n' then
    let before := body.take fault.position
    let column := (before.reverse.takeWhile (· != '\n')).length + 1
    place ++ " (line " ++ Text.ofNat (before.count '\n' + 1) ++
      ", column " ++ Text.ofNat column ++ ")"
  else place

end RegexFault

end Phrasebook
