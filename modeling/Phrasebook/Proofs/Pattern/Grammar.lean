import Phrasebook.Proofs.Pattern.Item
import Phrasebook.Proofs.Pattern.Nesting
import Phrasebook.Proofs.Pattern.Placement

/-!
# The grammar of patterns

How a pattern is read as a sequence of items.  What stands before a part of a
pattern is kept along, nearest character first, because it decides whether an
optional sequence takes the space behind it along.
-/

namespace Phrasebook.Pattern

/-- Whether an optional sequence takes the space behind it along when it is
skipped: there has to be one, and before the sequence nothing but opening
brackets, or a space. -/
def absorbsSpace (before behind : Text) : Bool :=
  (before.all (fun char => char == '[' || char == '(') ||
    before.head? == some ' ') &&
    behind.head? == some ' '

/-- What may stand in a regular expression slot: an expression that the engine
compiles, without percent signs and with nested brackets. -/
structure Slot (engine : RegexEngine) (body : Text) (program : RegexProgram) :
    Prop where
  compiles : engine.compile body = .ok program
  noPercent : '%' ∉ body
  nested : Nested false body

mutual

/-- The text reads as the sequence of items, where so much stands before it. -/
inductive Sequence (engine : RegexEngine) : Text → Text → Items → Prop where
  | done {before : Text} : Sequence engine before [] .done
  | letter {before text : Text} {char : Char} {rest : Items}
      (noMark : char ∉ Demand.marks) :
      Sequence engine (char :: before) text rest →
      Sequence engine before (char :: text) (.letter char rest)
  | escaped {before text : Text} {char : Char} {rest : Items} :
      Sequence engine (char :: '\\' :: before) text rest →
      Sequence engine before ('\\' :: char :: text) (.letter char rest)
  | space {before text : Text} {rest : Items} :
      Sequence engine (' ' :: before) text rest →
      Sequence engine before (' ' :: text) (.space rest)
  | regex {before body text : Text} {program : RegexProgram} {rest : Items}
      (noEnd : '>' ∉ body) (slot : Slot engine body program) :
      Sequence engine ('>' :: (body.reverse ++ '<' :: before)) text rest →
      Sequence engine before ('<' :: (body ++ '>' :: text)) (.regex program rest)
  | choice {before inside text : Text} {alternatives : Alternatives}
      {rest : Items} :
      Choice engine ('(' :: before) inside alternatives →
      Sequence engine (')' :: (inside.reverse ++ '(' :: before)) text rest →
      Sequence engine before ('(' :: (inside ++ ')' :: text))
        (.choice alternatives rest)
  | optional {before inside text : Text} {content rest : Items} :
      Sequence engine ('[' :: before) inside content →
      Sequence engine (']' :: (inside.reverse ++ '[' :: before)) text rest →
      Sequence engine before ('[' :: (inside ++ ']' :: text))
        (.optional (absorbsSpace before text) content rest)

/-- The text reads as the alternatives, where so much stands before it. -/
inductive Choice (engine : RegexEngine) : Text → Text → Alternatives → Prop where
  | last {before text : Text} {content : Items} :
      Sequence engine before text content →
      Choice engine before text (.more content .none)
  | more {before text later : Text} {content : Items} {others : Alternatives} :
      Sequence engine before text content →
      Choice engine ('|' :: (text.reverse ++ before)) later others →
      Choice engine before (text ++ '|' :: later) (.more content others)

end

variable {engine : RegexEngine}

theorem Slot.enclosed {body : Text} {program : RegexProgram}
    (slot : Slot engine body program) : Nested false ('<' :: (body ++ ['>'])) :=
  .plain (by decide) (slot.nested.append (.plain (by decide) .nil))

theorem Slot.segment {body : Text} {program : RegexProgram}
    (slot : Slot engine body program) : Segment ('<' :: (body ++ ['>'])) 0 :=
  .plain (by decide) (by decide)
    (segment_snoc (by decide) (by decide) body slot.noPercent)

theorem not_mem_of_noMark {char mark : Char} (noMark : char ∉ Demand.marks)
    (isMark : mark ∈ Demand.marks) : char ≠ mark := by
  rintro rfl
  exact noMark isMark

mutual

theorem Sequence.nested {before text : Text} {items : Items}
    (reading : Sequence engine before text items) : Nested false text := by
  cases reading with
  | done => exact .nil
  | letter noMark rest =>
      have allMarks : ∀ mark ∈ ['(', ')', '[', ']', '|', '\\'],
          mark ∈ Demand.marks := by
        simp [Demand.marks]
      exact .plain (fun isMark => noMark (allMarks _ isMark)) rest.nested
  | escaped rest => exact .escaped _ rest.nested
  | space rest => exact .plain (by decide) rest.nested
  | regex noEnd slot rest =>
      rw [cons_append_cons]
      exact slot.enclosed.append rest.nested
  | choice alternatives rest =>
      exact .enclosed .round alternatives.nested rest.nested
  | optional content rest =>
      exact .enclosed .square content.nested.within rest.nested

theorem Choice.nested {before text : Text} {alternatives : Alternatives}
    (reading : Choice engine before text alternatives) : Nested true text := by
  cases reading with
  | last content => exact content.nested.within
  | more content others => exact content.nested.within.append (.bar others.nested)

end

mutual

theorem Sequence.segment {before text : Text} {items : Items}
    (reading : Sequence engine before text items) : Segment text 0 := by
  cases reading with
  | done => exact .nil
  | letter noMark rest =>
      exact .plain (not_mem_of_noMark noMark (by decide))
        (not_mem_of_noMark noMark (by decide))
        rest.segment
  | escaped rest => exact .escaped _ rest.segment
  | space rest => exact .plain (by decide) (by decide) rest.segment
  | regex noEnd slot rest =>
      rw [cons_append_cons]
      exact slot.segment.append rest.segment
  | choice alternatives rest =>
      have inside := alternatives.segment
      exact .plain (by decide) (by decide)
        (inside.append (.plain (by decide) (by decide) rest.segment))
  | optional content rest =>
      have inside := content.segment
      exact .plain (by decide) (by decide)
        (inside.append (.plain (by decide) (by decide) rest.segment))

theorem Choice.segment {before text : Text} {alternatives : Alternatives}
    (reading : Choice engine before text alternatives) : Segment text 0 := by
  cases reading with
  | last content => exact content.segment
  | more content others =>
      exact content.segment.append (.plain (by decide) (by decide) others.segment)

end

/-- A pattern that reads as a sequence of items has no placeholders. -/
theorem Sequence.placeholderCount_eq {pattern : Text} {items : Items}
    (reading : Sequence engine [] pattern items) :
    placeholderCount pattern = 0 := by
  rw [placeholderCount, percentCount_segment reading.segment]

end Phrasebook.Pattern
