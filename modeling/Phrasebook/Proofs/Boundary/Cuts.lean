import Phrasebook.Matching.Boundary

/-!
# Cuts of a text

Every cut that is tried takes something and leaves the rest, and the two parts make
up the text again.  Only the last of the cuts leaves nothing.
-/

namespace Phrasebook.Cut

structure Splits (cut : Cut) (text : Text) : Prop where
  joined : cut.taken ++ cut.rest = text
  nonempty : cut.taken ≠ []

theorem onward_split {gait : Gait} {taken text : Text} {cut : Cut}
    (member : cut ∈ onward gait taken text) :
    ∃ more, cut.taken = taken ++ more ∧ more ++ cut.rest = text := by
  fun_induction onward gait taken text with
  | case1 taken =>
      cases List.mem_singleton.mp member
      exact ⟨[], by simp, rfl⟩
  | case2 => cases member
  | case3 taken char rest opens length found induction =>
      obtain ⟨more, isTaken, rfl⟩ := induction member
      exact ⟨char :: more, by simp [isTaken], rfl⟩
  | case4 taken char rest opens induction =>
      rcases List.mem_cons.mp member with rfl | member
      · exact ⟨[], by simp, rfl⟩
      · obtain ⟨more, isTaken, rfl⟩ := induction member
        exact ⟨char :: more, by simp [isTaken], rfl⟩
  | case5 taken =>
      cases List.mem_singleton.mp member
      exact ⟨[], by simp, rfl⟩
  | case6 taken char rest induction =>
      rcases List.mem_cons.mp member with rfl | member
      · exact ⟨[], by simp, rfl⟩
      · obtain ⟨more, isTaken, rfl⟩ := induction member
        exact ⟨char :: more, by simp [isTaken], rfl⟩
  | case7 => cases member
  | case8 left taken char rest induction =>
      obtain ⟨more, isTaken, rfl⟩ := induction member
      exact ⟨char :: more, by simp [isTaken], rfl⟩

private theorem splits_of_onward {gait : Gait} {taken text : Text} {cut : Cut}
    (started : taken ≠ []) (member : cut ∈ onward gait taken text) :
    cut.Splits (taken ++ text) := by
  obtain ⟨more, isTaken, rfl⟩ := onward_split member
  constructor
  · rw [isTaken, List.append_assoc]
  · rw [isTaken]
    exact List.append_ne_nil_of_left_ne_nil started more

private theorem take_run_ne_nil {opener : Char} {rest : Text} {length : Nat}
    (found : Text.runLength opener rest = some length) :
    (opener :: rest).take length ≠ [] := by
  obtain ⟨offset, _, rfl⟩ := Option.map_eq_some_iff.mp found
  simp

theorem ofPlaceholder_splits {isLast : Bool} {text : Text} {cut : Cut}
    (present : text ≠ []) (member : cut ∈ ofPlaceholder isLast text) :
    cut.Splits text := by
  unfold ofPlaceholder at member
  split at member
  · cases List.mem_singleton.mp member
    exact ⟨List.append_nil text, present⟩
  · split at member
    · cases member
    · rename_i char rest
      split at member
      · split at member
        · cases member
        · rename_i length found
          have splits := splits_of_onward (take_run_ne_nil found) member
          rwa [List.take_append_drop] at splits
      · exact splits_of_onward (List.cons_ne_nil char []) member

theorem nonempty_splits {text : Text} {cut : Cut} (member : cut ∈ nonempty text) :
    cut.Splits text := by
  obtain ⟨index, inside, rfl⟩ := List.mem_map.mp member
  constructor
  · exact List.take_append_drop (index + 1) text
  · intro isEmpty
    have short := List.mem_range.mp inside
    rcases List.take_eq_nil_iff.mp isEmpty with zero | nothing
    · cases zero
    · rw [nothing] at short
      cases short

end Phrasebook.Cut
