import Phrasebook.Text

/-!
# Quoted and braced runs

A quoted text stands between double quotes, and a quote inside it is written
twice.  A braced run reaches from an opening brace to the next closing one.
Both are opaque to whoever looks for a boundary in the text around them.
-/

namespace Phrasebook.Text

/-- The text with every quote written twice. -/
def doubleQuotes : Text → Text
  | [] => []
  | '"' :: rest => '"' :: '"' :: doubleQuotes rest
  | char :: rest => char :: doubleQuotes rest

/-- The written form of a text: between quotes, inner quotes doubled. -/
def quoted (text : Text) : Text :=
  '"' :: (doubleQuotes text ++ ['"'])

/-- What a quoted run holds, from just after its opening quote; the closing quote
has to end the text. -/
def unquoteTail : Text → Option Text
  | [] => none
  | ['"'] => some []
  | '"' :: '"' :: rest => (unquoteTail rest).map ('"' :: ·)
  | '"' :: _ :: _ => none
  | char :: rest => (unquoteTail rest).map (char :: ·)

/-- The text whose written form this is. -/
def unquote? : Text → Option Text
  | '"' :: rest => unquoteTail rest
  | _ => none

/-- The offset of the quote that closes a run, from just after its opening quote.
A doubled quote is passed over. -/
def closingQuote : Text → Option Nat
  | [] => none
  | '"' :: '"' :: rest => (closingQuote rest).map (· + 2)
  | '"' :: _ => some 0
  | _ :: rest => (closingQuote rest).map (· + 1)

/-- The offset of the first closing brace. -/
def closingBrace : Text → Option Nat
  | [] => none
  | '}' :: _ => some 0
  | _ :: rest => (closingBrace rest).map (· + 1)

/-- Whether the character opens a quoted or a braced run. -/
def opensRun (char : Char) : Bool :=
  char == '"' || char == '{'

/-- The length of the quoted or braced run that starts with the given opening
character, unless the run is unterminated. -/
def runLength (opener : Char) (rest : Text) : Option Nat :=
  (if opener = '"' then closingQuote rest else closingBrace rest).map (· + 2)

end Phrasebook.Text
