import Phrasebook.Text.Blank
import Phrasebook.Text.Line

/-!
# Source files and spans

Diagnostics point into script files by spans.  Lines and columns are counted
from 1, and a span includes both of its ends.
-/

namespace Phrasebook

/-- A range within a source file. -/
structure Span where
  file : Text
  startLine : Int
  startColumn : Int
  endLine : Int
  endColumn : Int
  deriving DecidableEq

/-- The lines of a loaded script file. -/
structure SourceFile where
  content : Text

namespace Span

/-- The start of the span, as shown in reports. -/
def place (span : Span) : Text :=
  span.file ++ ":" ++ Text.ofInt span.startLine ++ ":" ++
    Text.ofInt span.startColumn

/-- The span of the text of a line without the blanks around it.  A blank line
has the span of its first column. -/
def ofLine (file : Text) (number : Nat) (line : Text) : Span :=
  let stripped := Text.strip line
  if stripped.isEmpty then ⟨file, number, 1, number, 1⟩
  else
    let start : Nat := line.length - (Text.stripStart line).length + 1
    ⟨file, number, start, number, start + stripped.length - 1⟩

end Span

namespace SourceFile

def lines (source : SourceFile) : List Text :=
  Text.lines source.content

/-- The line with the given number, counted from 1.  There is no text outside of
the file. -/
def lineAt (source : SourceFile) (number : Int) : Text :=
  if number < 1 then [] else source.lines[number.toNat - 1]?.getD []

end SourceFile

end Phrasebook
