import Phrasebook.Span

/-!
# Ranges in an editor

An editor counts lines and characters from 0, and a range excludes its end.
-/

namespace Phrasebook.Editor

/-- A place in a document. -/
structure Position where
  line : Int
  character : Int
  deriving DecidableEq

/-- The characters from one place up to another. -/
structure Range where
  start : Position
  stop : Position
  deriving DecidableEq

namespace Position

def before (left right : Position) : Prop :=
  left.line < right.line ∨
  (left.line = right.line ∧ left.character < right.character)

def notAfter (left right : Position) : Prop :=
  left.line < right.line ∨
  (left.line = right.line ∧ left.character ≤ right.character)

end Position

namespace Range

/-- The empty range at the start of a document. -/
def documentStart : Range := ⟨⟨0, 0⟩, ⟨0, 0⟩⟩

/-- The range of a span: lines and columns counted from 0 instead of 1, and the end
excluded. -/
def ofSpan (span : Span) : Range :=
  ⟨⟨span.startLine - 1, span.startColumn - 1⟩, ⟨span.endLine - 1, span.endColumn⟩⟩

def contains (range : Range) (position : Position) : Prop :=
  range.start.notAfter position ∧ position.before range.stop

def inside (inner outer : Range) : Prop :=
  outer.start.notAfter inner.start ∧ inner.stop.notAfter outer.stop

end Range

end Phrasebook.Editor
