import Phrasebook.Highlight.PatternLexer
import Phrasebook.Text.Rendition

/-!
# Highlighting on a terminal

Tokens are shown in renditions that depend on their kind.
-/

namespace Phrasebook.Highlight

/-- The renditions of a kind of token, each of which is selected in turn. -/
def TokenKind.renditions : TokenKind → List Text
  | .keyword | .keywordConstant | .keywordDeclaration | .integer | .float => ["34"]
  | .nameClass => ["04", "32"]
  | .nameFunction => ["32"]
  | .nameVariable => ["31"]
  | .string | .stringEscape | .stringRegex => ["33"]
  | .comment | .whitespace => ["37"]
  | .error => ["04", "91"]
  | .text | .operator | .punctuation | .name => []

/-- The token in its renditions; a newline is never coloured. -/
def Token.painted (token : Token) : Text :=
  let renditions := token.kind.renditions
  if renditions.isEmpty || token.text = ['\n'] then token.text
  else renditions.flatMap Text.rendition ++ token.text ++ Text.rendition "39;49;00"

def paintedPattern (pattern : Text) : Text :=
  Text.dropTrailing '\n' ((patternTokens pattern).flatMap Token.painted)

end Phrasebook.Highlight
