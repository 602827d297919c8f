import Phrasebook.Proofs.Builtins
import Phrasebook.Proofs.Pattern.Advance
import Phrasebook.Proofs.Pattern.Token
import Phrasebook.Proofs.Rendering.Literals
import Phrasebook.Proofs.Search.Yielding

/-!
# Repeated spaces

A space of a pattern never takes a space of the input that is behind another
one, and no unescaped character but a space takes a space at all.  So a pattern
of nothing else, whatever its groups and however many spaces it has in a row,
matches no text with two spaces in a row.
-/

namespace Phrasebook

open Searching.Yielding (Ensures)

namespace Pattern

/-- The pattern has no placeholders, no regular expression slots and no escaped
spaces. -/
structure Bare (pattern : Text) : Prop where
  noPlaceholder : ∀ written, .placeholder written ∉ tokens pattern
  noSlot : ∀ body, .regex body ∉ tokens pattern
  noEscapedSpace : .escaped ' ' ∉ tokens pattern

namespace Bare

variable {rest : Text}

theorem of_tokens {pattern : Text} (bare : Bare pattern)
    (included : ∀ token ∈ tokens rest, token ∈ tokens pattern) : Bare rest where
  noPlaceholder written member := bare.noPlaceholder written (included _ member)
  noSlot body member := bare.noSlot body (included _ member)
  noEscapedSpace member := bare.noEscapedSpace (included _ member)

theorem not_percent (bare : Bare ('%' :: rest)) : False := by
  obtain ⟨more, member⟩ := placeholder_mem [] rest
  exact bare.noPlaceholder _ member

theorem not_slot (bare : Bare ('<' :: rest)) : False := by
  obtain ⟨more, member⟩ := regex_mem [] rest
  exact bare.noSlot _ member

theorem not_escapedSpace (bare : Bare ('\\' :: ' ' :: rest)) : False :=
  bare.noEscapedSpace List.mem_cons_self

theorem behind {part : Text} {count : Nat} (segment : Segment part count)
    (bare : Bare (part ++ rest)) : Bare rest := by
  induction segment with
  | nil => exact bare
  | escaped char _ induction =>
      exact induction (bare.of_tokens fun token member =>
        List.mem_cons_of_mem _ member)
  | percent _ _ => exact bare.not_percent.elim
  | @plain char part _ noEscape noPercent _ induction =>
      apply induction
      by_cases isSlot : char = '<'
      · subst isSlot
        exact bare.not_slot.elim
      · apply bare.of_tokens
        intro token member
        rw [tokens, List.cons_append, tokensFrom_plain noEscape,
          if_neg noPercent, if_neg isSlot]
        exact List.mem_cons_of_mem _ member

/-- Wherever a walk gets to, what lies ahead is bare. -/
theorem along {cursor later : Cursor} (bare : Bare cursor.rest)
    (moves : cursor.Moves later) :
    Bare later.rest := by
  obtain ⟨part, count, segment, ahead, _⟩ := moves.reaches
  rw [ahead] at bare
  exact bare.behind segment

theorem letter_ne_space {letter : Char} {length : Nat} (bare : Bare rest)
    (begins : (Demand.letter letter length).Begins rest) : letter ≠ ' ' := by
  rintro rfl
  obtain ⟨behind, ⟨rfl, _⟩ | ⟨_, _, noMark⟩⟩ := begins
  · exact bare.not_escapedSpace
  · exact noMark (by decide)

end Bare

end Pattern

/-- There are no two spaces in a row from the position on, the character before
it included. -/
def Position.SingleSpaced (position : Position) : Prop :=
  ¬ [' ', ' '] <:+: position.previous.toList ++ position.rest

namespace Position.SingleSpaced

variable {position next : Position}

theorem finished (ended : position.rest = []) : position.SingleSpaced := by
  intro doubled
  have short := doubled.length_le
  rw [ended, List.append_nil] at short
  cases previous : position.previous <;> simp [previous] at short

theorem step {char : Char} (isRest : position.rest = char :: next.rest)
    (isBehind : next.previous = some char)
    (apart : position.previous = some ' ' → char ≠ ' ')
    (single : next.SingleSpaced) : position.SingleSpaced := by
  have behind : ¬ [' ', ' '] <:+: char :: next.rest := by
    simpa [SingleSpaced, isBehind] using single
  rw [SingleSpaced, isRest]
  cases previous : position.previous with
  | none => exact behind
  | some before =>
      intro doubled
      rcases List.infix_cons_iff.mp doubled with starts | later
      · obtain ⟨isSpace, again⟩ : ' ' = before ∧ ' ' = char := by
          simpa [List.cons_prefix_cons] using starts
        exact apart (by rw [previous, isSpace]) again.symm
      · exact behind later

end Position.SingleSpaced

namespace Matcher

variable {m : Type → Type} [Searching m] {yielding : Searching.Yielding m}
  {matcher : Matcher m}

/-- What a walk matches has no two spaces in a row, from wherever it starts. -/
theorem walk_singleSpaced (text : Text) (fuel matched : Nat) (cursor : Cursor)
    (position : Position) (bare : Pattern.Bare cursor.rest) :
    yielding.Ensures (fun found => ∀ result ∈ found, position.SingleSpaced)
      (matcher.walk text fuel matched cursor position) := by
  induction fuel generalizing matched cursor position with
  | zero => exact Ensures.pure (by simp)
  | succ fuel induction =>
      unfold Matcher.walk
      have begins := Demand.begins_ofText cursor.rest
      have goesOn {later : Cursor} (moves : cursor.Moves later) (matched : Nat) :
          yielding.Ensures (fun found => ∀ result ∈ found, position.SingleSpaced)
            (matcher.walk text fuel matched later position) :=
        induction matched later position (bare.along moves)
      cases demand : Demand.ofText cursor.rest <;> rw [demand]
        at begins <;> dsimp only
      case nothing =>
          apply Ensures.pure
          intro result same
          split at same
          · rename_i isEmpty
            exact .finished (List.isEmpty_iff.mp isEmpty)
          · cases same
      case optional inside =>
          apply Ensures.bind (goesOn (.one begins (by decide) (by decide)) 0)
          intro found holds
          cases found with
          | some result => exact Ensures.pure fun _ _ => holds result rfl
          | none =>
              cases closing : Pattern.closingOffset ']' '[' 0 inside with
              | none => exact Ensures.fail _
              | some offset => exact goesOn (.optional begins closing _) matched
      case choice inside =>
          cases closing : Pattern.closingOffset ')' '(' 0 inside with
          | none => exact Ensures.fail _
          | some offset =>
              refine Ensures.map_found
                (Ensures.firstSome (fun _ => position.SingleSpaced) ?_)
                fun _ => id
              intro start member
              exact Ensures.map_found
                (goesOn (.alternative begins
                  (List.fst_mem_of_mem_zipIdx member)) 0) fun _ => id
      case placeholder inside =>
          rw [begins] at bare
          exact bare.not_percent.elim
      case capture inside =>
          rw [begins] at bare
          exact bare.not_slot.elim
      case bar inside =>
          cases closing : Pattern.closingOffset ')' '(' 0 inside with
          | none => exact Ensures.fail _
          | some offset =>
              exact goesOn (.jump begins (by decide) (by decide) (by decide)
                (Pattern.closingOffset_stands closing)) matched
      case closing =>
          obtain ⟨rest, ahead | ahead⟩ := begins
          · exact goesOn (.one ahead (by decide) (by decide)) matched
          · exact goesOn (.one ahead (by decide) (by decide)) matched
      case space =>
          obtain ⟨rest, ahead⟩ := begins
          have moves := Cursor.Moves.one ahead (by decide) (by decide)
          cases taken : position.takeSpace with
          | none => exact Ensures.pure (by simp)
          | some step =>
              obtain ⟨count, next⟩ := step
              obtain ⟨rfl, rfl⟩ | ⟨rfl, isRest, apart, isBehind⟩ :=
                Position.takeSpace_cases taken
              · exact goesOn moves matched
              · apply (induction (matched + 1) _ next (bare.along moves)).mono
                intro found holds result member
                exact .step isRest isBehind (fun again => absurd again apart)
                  (holds result member)
      case loneBackslash => exact Ensures.fail _
      case letter letter length =>
          cases taken : position.takeLetter letter with
          | none => exact Ensures.pure (by simp)
          | some next =>
              obtain ⟨char, same, isRest, isBehind⟩ :=
                Position.takeLetter_cases taken
              have solid : char ≠ ' ' := by
                rintro rfl
                exact bare.letter_ne_space begins
                  ((Text.sameLetter_low (by decide) (by decide)).mp same)
              apply (induction (matched + 1) _ next
                (bare.along (.letter begins))).mono
              intro found holds result member
              exact .step isRest isBehind (fun _ => solid) (holds result member)

/-- A bare pattern, whatever spaces it has itself, matches no text with two
spaces in a row. -/
theorem run_singleSpaced {pattern text : Text} (bare : Pattern.Bare pattern)
    (doubled : [' ', ' '] <:+: text) (result : MatchResult) :
    ¬ yielding.Yields (matcher.run pattern text) (some result) := by
  intro yields
  have single : (Position.start text).SingleSpaced :=
    (walk_singleSpaced text _ 0 (.start pattern) (.start text) bare).holds _
      yields result rfl
  exact single doubled

/-- Several spaces in a row ask for one, in and around groups, too. -/
theorem run_singleSpaced_of_greeting :
    let matcher := (⟨.builtins, .script, true, 5⟩ : Attempt).tracked
    let pattern : Text := "good  [very  ](day|  night)"
    Pattern.Bare pattern ∧ [' ', ' '] <:+: ("good very  night" : Text) ∧
      (∃ result,
        (matcher.run pattern "good very night" ⟨.empty, .empty⟩).1 =
          .ok (some result)) ∧
      ∀ before result,
        (matcher.run pattern "good very  night" before).1 ≠ .ok (some result) := by
  intro matcher pattern
  have bare : Pattern.Bare pattern := by
    refine ⟨fun written member => ?_, fun body member => ?_, by decide⟩
    · simp [pattern, Pattern.tokens, Pattern.tokensFrom] at member
    · simp [pattern, Pattern.tokens, Pattern.tokensFrom] at member
  have doubled : [' ', ' '] <:+: ("good very  night" : Text) :=
    ⟨"good very", "night", rfl⟩
  refine ⟨bare, doubled, ⟨_, rfl⟩, ?_⟩
  intro before result answered
  exact run_singleSpaced bare doubled result (Tracked.yields_of_answer answered)

end Matcher

end Phrasebook
