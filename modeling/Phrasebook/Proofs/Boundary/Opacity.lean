import Phrasebook.Proofs.Boundary.Runs
import Phrasebook.Proofs.Builtins
import Phrasebook.Proofs.Coverage.Walk

/-!
# Boundaries of bound texts

What a placeholder inside of a pattern takes ends outside of all runs, as long as
runs stand apart.  Where one run stands directly behind another one, a boundary
inside of the second run can be taken.
-/

namespace Phrasebook

variable {m : Type → Type} [Searching m] {yielding : Searching.Yielding m}
  {matcher : Matcher m} {pattern : Text}

/-- A piece that was bound by a placeholder inside of the pattern ends outside
of all runs of the text from its start on, if these runs stand apart. -/
theorem Piece.Sound.endsOutside {part : Pattern.Part} {taken left : Text}
    {expr : Expr}
    (sound : (Piece.bound part taken expr).Sound yielding matcher pattern left)
    (inside : part.behind ≠ [])
    (apart : Text.runsApart (taken ++ left) = true) :
    Text.endsOutside 0 taken left = true := by
  obtain ⟨name, placeholder, type, found, _, _, _, isCut, _⟩ := sound.takes
  have notLast : part.behind.isEmpty = false := by simpa using inside
  rw [notLast] at isCut
  obtain ⟨_, _, outside, _⟩ := (Cut.mem_ofPlaceholder_iff apart).mp isCut
  exact outside

/-- Runs that stand apart are kept whole by every match. -/
theorem Matcher.run_keepsRuns {text : Text} {result : MatchResult}
    (yields : yielding.Yields (matcher.run pattern text) (some result)) :
    ∃ pieces, (Cursor.start pattern).Covers yielding matcher pattern text 0
      result pieces ∧
      ∀ part taken expr later, .bound part taken expr :: later <:+ pieces →
      part.behind ≠ [] →
        Text.runsApart (taken ++ later.flatMap Piece.text) = true →
        Text.endsOutside 0 taken (later.flatMap Piece.text) = true := by
  obtain ⟨pieces, covers⟩ := run_covered yields
  refine ⟨pieces, covers, ?_⟩
  intro part taken expr later isSuffix inside apart
  exact (covers.sound _ later isSuffix).endsOutside inside apart

theorem Matcher.keepsRuns_of_braces :
    let matcher := (⟨.builtins, .script, true, 5⟩ : Attempt).tracked
    let pattern : Text := "%object%;"
    let text : Text := "x\x7b;\x7d;"
    ∃ result pieces, (matcher.run pattern text ⟨.empty, .empty⟩).1 =
      .ok (some result) ∧
      result.exprs = [some (.unparsed "x\x7b;\x7d")] ∧
      (Cursor.start pattern).Covers Tracked.yielding matcher pattern text 0
        result pieces ∧
      ∀ part taken expr later, .bound part taken expr :: later <:+ pieces →
      part.behind ≠ [] →
        Text.runsApart (taken ++ later.flatMap Piece.text) = true →
        Text.endsOutside 0 taken (later.flatMap Piece.text) = true := by
  intro matcher pattern text
  have matched : ∃ result,
    (matcher.run "%object%;" "x\x7b;\x7d;" ⟨.empty, .empty⟩).1 =
      .ok (some result) ∧ result.exprs = [some (.unparsed "x\x7b;\x7d")] :=
    ⟨_, rfl, rfl⟩
  obtain ⟨result, answered, exprs⟩ := matched
  obtain ⟨pieces, covers, keeps⟩ :=
    run_keepsRuns (Tracked.yields_of_answer answered)
  exact ⟨result, pieces, answered, exprs, covers, keeps⟩

/-- Behind the first run the second one is not noticed, and the text is cut
inside of it. -/
theorem Matcher.boundary_within_run :
    let matcher := (⟨.builtins, .script, false, 5⟩ : Attempt).tracked
    ∃ result, (matcher.run "%object%b\x7d" "x\x7ba\x7d\x7bb\x7d" ⟨.empty,
      .empty⟩).1 =
        .ok (some result) ∧
      result.exprs = [some (.unparsed "x\x7ba\x7d\x7b")] ∧ result.matchedChars = 2 ∧
      Text.endsOutside 0 "x\x7ba\x7d\x7b" "b\x7d" = false := by
  intro matcher
  exact ⟨_, rfl, rfl, rfl, by decide⟩

end Phrasebook
