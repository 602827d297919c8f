import Phrasebook.Text.Line

/-!
# Highlighting tokens

A lexer cuts a text into tokens.  Its rules are data: every state has a list of
them, the first rule that applies at a position takes its tokens off the text,
and a character that no rule takes becomes a token of its own.
-/

namespace Phrasebook.Highlight

/-- What a token is for the reader. -/
inductive TokenKind where
  | text
  | whitespace
  | error
  | operator
  | punctuation
  | comment
  | keyword
  | keywordConstant
  | keywordDeclaration
  | name
  | nameClass
  | nameFunction
  | nameVariable
  | string
  | stringEscape
  | stringRegex
  | integer
  | float
  deriving DecidableEq

/-- A piece of a text and its kind. -/
structure Token where
  kind : TokenKind
  text : Text
  deriving DecidableEq

/-- What has been taken off a text: its tokens, and the rest of the text. -/
structure Taken where
  tokens : List Token
  rest : Text
  deriving DecidableEq

/-- Takes tokens off a text, given the character before it, if there is one. -/
abbrev Scan := Option Char → Text → Option Taken

/-- A scan, and the state that a lexer is in after it. -/
structure Rule (State : Type) where
  scan : Scan
  next : State

/-- The state at the start of a text, and the rules of every state in the order in
which they are tried. -/
structure Lexer (State : Type) where
  root : State
  rules : State → List (Rule State)

namespace TokenKind

def fullName : TokenKind → Text
  | .text => "Token.Text"
  | .whitespace => "Token.Text.Whitespace"
  | .error => "Token.Error"
  | .operator => "Token.Operator"
  | .punctuation => "Token.Punctuation"
  | .comment => "Token.Comment.Single"
  | .keyword => "Token.Keyword"
  | .keywordConstant => "Token.Keyword.Constant"
  | .keywordDeclaration => "Token.Keyword.Declaration"
  | .name => "Token.Name"
  | .nameClass => "Token.Name.Class"
  | .nameFunction => "Token.Name.Function"
  | .nameVariable => "Token.Name.Variable"
  | .string => "Token.Literal.String"
  | .stringEscape => "Token.Literal.String.Escape"
  | .stringRegex => "Token.Literal.String.Regex"
  | .integer => "Token.Literal.Number.Integer"
  | .float => "Token.Literal.Number.Float"

end TokenKind

namespace Taken

def prepend (token : Token) (taken : Taken) : Taken :=
  { taken with tokens := token :: taken.tokens }

def lastChar? (taken : Taken) : Option Char :=
  taken.tokens.getLast?.bind (·.text.getLast?)

end Taken

namespace Scan

/-- Takes one admitted character. -/
def char (kind : TokenKind) (admits : Char → Bool) : Scan
  | _, first :: rest =>
      if admits first then some ⟨[⟨kind, [first]⟩], rest⟩ else none
  | _, [] => none

/-- Takes the longest run of admitted characters, which must not be empty. -/
def run (kind : TokenKind) (admits : Char → Bool) : Scan := fun _ text =>
  match text.takeWhile admits with
  | [] => none
  | first :: taken => some ⟨[⟨kind, first :: taken⟩], text.dropWhile admits⟩

end Scan

namespace Lexer

variable {State : Type}

/-- A character that no rule takes.  A newline leads back to the first state. -/
def unmatched (lexer : Lexer State) (state : State) (char : Char)
    (rest : Text) : Taken × State :=
  if char = '\n' then (⟨[⟨.whitespace, [char]⟩], rest⟩, lexer.root)
  else (⟨[⟨.error, [char]⟩], rest⟩, state)

/-- What the first applicable rule takes, and the state after it. -/
def step (lexer : Lexer State) (state : State) (previous : Option Char)
    (char : Char) (rest : Text) : Taken × State :=
  let found := (lexer.rules state).findSome? fun rule =>
    (rule.scan previous (char :: rest)).map fun taken => (taken, rule.next)
  found.getD (lexer.unmatched state char rest)

/-- The tokens of a text from a state on.  A step that takes nothing would end the
work; no rule takes nothing. -/
def tokensFrom (lexer : Lexer State) (state : State) (previous : Option Char)
    (text : Text) :
    List Token :=
  match text with
  | [] => []
  | char :: rest =>
      let (taken, next) := lexer.step state previous char rest
      if _ : taken.rest.length < (char :: rest).length then
        taken.tokens ++ lexer.tokensFrom next taken.lastChar? taken.rest
      else taken.tokens
  termination_by text.length
  decreasing_by assumption

def tokens (lexer : Lexer State) (text : Text) : List Token :=
  lexer.tokensFrom lexer.root none text

end Lexer

/-- The text without a byte order mark at its start. -/
def withoutMark : Text → Text
  | first :: rest => if first.toNat = 0xFEFF then rest else first :: rest
  | [] => []

/-- The form in which texts are highlighted: without a byte order mark, with
newlines as line ends, and with exactly one newline after the last line. -/
def prepare (text : Text) : Text :=
  Text.dropTrailing '\n' ((Text.normalizeLineEnds (withoutMark text)).dropWhile
    (· == '\n')) ++ ['\n']

end Phrasebook.Highlight
