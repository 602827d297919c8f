import Phrasebook.Pattern.Scan
import Phrasebook.Proofs.Pattern.Segment

/-!
# Nested texts

The scans for closing brackets and bars count brackets as they pass over a text.
Over a text whose brackets are properly nested they come out as they went in.
-/

namespace Phrasebook.Pattern

/-- The two kinds of brackets, the closing one first. -/
def IsPair (closing opening : Char) : Prop :=
  (closing = ')' ∧ opening = '(') ∨ (closing = ']' ∧ opening = '[')

theorem IsPair.round : IsPair ')' '(' := .inl ⟨rfl, rfl⟩

theorem IsPair.square : IsPair ']' '[' := .inr ⟨rfl, rfl⟩

/-- A text with properly nested brackets.  Bars stand inside of brackets only,
unless the text itself is taken from inside of brackets. -/
inductive Nested : Bool → Text → Prop where
  | nil {inside : Bool} : Nested inside []
  | escaped {inside : Bool} (char : Char) {rest : Text} :
      Nested inside rest → Nested inside ('\\' :: char :: rest)
  | plain {inside : Bool} {char : Char} {rest : Text}
      (noMark : char ∉ ['(', ')', '[', ']', '|', '\\']) :
      Nested inside rest → Nested inside (char :: rest)
  | bar {rest : Text} : Nested true rest → Nested true ('|' :: rest)
  | enclosed {inside : Bool} {closing opening : Char} {part rest : Text}
      (pair : IsPair closing opening) :
      Nested true part → Nested inside rest →
      Nested inside (opening :: (part ++ closing :: rest))

theorem cons_append_cons (first last : Char) (part rest : Text) :
    first :: (part ++ last :: rest) = (first :: (part ++ [last])) ++ rest := by
  simp

namespace Nested

variable {inside : Bool} {text : Text}

theorem of_plain (plain : ∀ char ∈ text, char ∉ ['(', ')', '[', ']', '|', '\\']) :
    Nested inside text := by
  induction text with
  | nil => exact .nil
  | cons char text induction =>
      exact .plain (plain char List.mem_cons_self)
        (induction fun other member =>
          plain other (List.mem_cons_of_mem char member))

theorem append {rest : Text} (first : Nested inside text)
    (second : Nested inside rest) :
    Nested inside (text ++ rest) := by
  induction first with
  | nil => exact second
  | escaped char _ induction => exact .escaped char (induction second)
  | plain noMark _ induction => exact .plain noMark (induction second)
  | bar _ induction => exact .bar (induction second)
  | enclosed pair part _ _ induction =>
      rw [List.cons_append, List.append_assoc, List.cons_append]
      exact .enclosed pair part (induction second)

theorem within (nested : Nested inside text) : Nested true text := by
  induction nested with
  | nil => exact .nil
  | escaped char _ induction => exact .escaped char induction
  | plain noMark _ induction => exact .plain noMark induction
  | bar _ induction => exact .bar induction
  | enclosed pair part _ _ induction => exact .enclosed pair part induction

end Nested

/-! ## The scan for a closing bracket -/

section Closing

variable {closing opening : Char}

theorem closingOffset_escaped (depth : Nat) (char : Char) (rest : Text) :
    closingOffset closing opening depth ('\\' :: char :: rest) =
      (closingOffset closing opening depth rest).map (· + 2) :=
  rfl

theorem closingOffset_cons {char : Char} (noEscape : char ≠ '\\') (depth : Nat)
    (rest : Text) :
    closingOffset closing opening depth (char :: rest) =
      if char = closing then
        match depth with
        | 0 => some 0
        | depth + 1 => (closingOffset closing opening depth rest).map (· + 1)
      else if char = opening then
        (closingOffset closing opening (depth + 1) rest).map (· + 1)
      else (closingOffset closing opening depth rest).map (· + 1) := by
  cases depth <;> simp [closingOffset, noEscape]

theorem map_add_add (found : Option Nat) (first second : Nat) :
    (found.map (· + first)).map (· + second) =
      found.map (· + (first + second)) := by
  rw [Option.map_map]
  congr 1
  funext offset
  exact Nat.add_assoc offset first second

/-- The scan passes over the part as if it were not there. -/
def PassesOver (closing opening : Char) (part : Text) : Prop :=
  ∀ depth rest, closingOffset closing opening depth (part ++ rest) =
    (closingOffset closing opening depth rest).map (· + part.length)

namespace PassesOver

theorem nil : PassesOver closing opening [] := by
  intro depth rest
  simp

theorem append {first second : Text} (left : PassesOver closing opening first)
    (right : PassesOver closing opening second) :
    PassesOver closing opening (first ++ second) := by
  intro depth rest
  rw [List.append_assoc, left, right, map_add_add, List.length_append, Nat.add_comm]

theorem escaped (char : Char) : PassesOver closing opening ['\\', char] := by
  intro depth rest
  exact closingOffset_escaped depth char rest

theorem single {char : Char} (noEscape : char ≠ '\\') (noClosing : char ≠ closing)
    (noOpening : char ≠ opening) : PassesOver closing opening [char] := by
  intro depth rest
  rw [List.singleton_append, closingOffset_cons noEscape, if_neg noClosing,
    if_neg noOpening]
  rfl

theorem plain {text : Text}
    (clean : ∀ char ∈ text, char ≠ '\\' ∧ char ≠ closing ∧ char ≠ opening) :
    PassesOver closing opening text := by
  induction text with
  | nil => exact .nil
  | cons char text induction =>
      obtain ⟨noEscape, noClosing, noOpening⟩ := clean char List.mem_cons_self
      have behind := induction fun other member =>
        clean other (List.mem_cons_of_mem char member)
      exact (single noEscape noClosing noOpening).append behind

theorem of_avoiding {avoided text : Text} (escape : '\\' ∈ avoided)
    (noClosing : closing ∈ avoided) (noOpening : opening ∈ avoided)
    (clean : ∀ char ∈ text, char ∉ avoided) :
    PassesOver closing opening text := by
  apply plain
  intro char member
  refine ⟨?_, ?_, ?_⟩
  · rintro rfl
    exact clean _ member escape
  · rintro rfl
    exact clean _ member noClosing
  · rintro rfl
    exact clean _ member noOpening

theorem between {part : Text} {first last : Char}
    (inner : PassesOver closing opening part)
    (left : PassesOver closing opening [first])
    (right : PassesOver closing opening [last]) :
    PassesOver closing opening (first :: (part ++ [last])) :=
  left.append (inner.append right)

theorem enclosed {part : Text} (noEscape : closing ≠ '\\' ∧ opening ≠ '\\')
    (differ : opening ≠ closing) (inner : PassesOver closing opening part) :
    PassesOver closing opening (opening :: (part ++ [closing])) := by
  intro depth rest
  have apart : (opening :: (part ++ [closing])) ++ rest =
      opening :: (part ++ closing :: rest) := by
    simp
  rw [apart, closingOffset_cons noEscape.2, if_neg differ, if_pos rfl, inner,
    closingOffset_cons noEscape.1, if_pos rfl, map_add_add, map_add_add]
  have total : 1 + (part.length + 1) = (opening :: (part ++ [closing])).length := by
    simp only [List.length_cons, List.length_append, List.length_nil]
    omega
  rw [← total]

end PassesOver

/-- A nested text is passed over. -/
theorem Nested.passesOver {inside : Bool} {text : Text}
    (scanned : IsPair closing opening) (nested : Nested inside text) :
    PassesOver closing opening text := by
  induction nested with
  | nil => exact .nil
  | escaped char _ induction => exact (PassesOver.escaped char).append induction
  | @plain _ char _ noMark _ induction =>
      simp only [List.mem_cons, List.not_mem_nil, or_false, not_or] at noMark
      obtain ⟨noRound, noRoundEnd, noSquare, noSquareEnd, _, noEscape⟩ := noMark
      rcases scanned with ⟨rfl, rfl⟩ | ⟨rfl, rfl⟩
      · exact (PassesOver.single noEscape noRoundEnd noRound).append induction
      · exact (PassesOver.single noEscape noSquareEnd noSquare).append induction
  | bar _ induction =>
      rcases scanned with ⟨rfl, rfl⟩ | ⟨rfl, rfl⟩
      · exact (PassesOver.single (by decide) (by decide) (by decide)).append
          induction
      · exact (PassesOver.single (by decide) (by decide) (by decide)).append
          induction
  | enclosed pair _ _ inner outer =>
      rw [cons_append_cons]
      apply PassesOver.append _ outer
      rcases scanned with ⟨rfl, rfl⟩ | ⟨rfl, rfl⟩ <;> rcases pair
        with ⟨rfl, rfl⟩ | ⟨rfl, rfl⟩
      · exact inner.enclosed (by decide) (by decide)
      · exact inner.between (.single (by decide) (by decide) (by decide))
          (.single (by decide) (by decide) (by decide))
      · exact inner.between (.single (by decide) (by decide) (by decide))
          (.single (by decide) (by decide) (by decide))
      · exact inner.enclosed (by decide) (by decide)

theorem Nested.closingOffset_eq {inside : Bool} {text : Text}
    (scanned : IsPair closing opening) (nested : Nested inside text)
    (rest : Text) :
    closingOffset closing opening 0 (text ++ closing :: rest) =
      some text.length := by
  have noEscape : closing ≠ '\\' := by
    rcases scanned with ⟨rfl, rfl⟩ | ⟨rfl, rfl⟩ <;> decide
  rw [nested.passesOver scanned, closingOffset_cons noEscape, if_pos rfl]
  simp

end Closing

/-! ## The scan for bars -/

theorem barOffsets_escaped (depth : Int) (offset : Nat) (char : Char)
    (rest : Text) :
    barOffsets depth offset ('\\' :: char :: rest) =
      barOffsets depth (offset + 2) rest := by
  simp [barOffsets]

theorem barOffsets_cons {char : Char} (noEscape : char ≠ '\\') (depth : Int)
    (offset : Nat) (rest : Text) :
    barOffsets depth offset (char :: rest) =
      if char = '(' || char = '[' then barOffsets (depth + 1) (offset + 1) rest
      else if char = ')' || char = ']' then barOffsets (depth - 1) (offset + 1) rest
      else if char = '|' && depth = 0 then
        (offset + 1) :: barOffsets depth (offset + 1) rest
      else barOffsets depth (offset + 1) rest := by
  simp [barOffsets, noEscape]

theorem barOffsets_plain {char : Char}
    (noMark : char ∉ ['(', ')', '[', ']', '|', '\\']) (depth : Int)
    (offset : Nat) (rest : Text) :
    barOffsets depth offset (char :: rest) =
      barOffsets depth (offset + 1) rest := by
  simp only [List.mem_cons, List.not_mem_nil, or_false, not_or] at noMark
  obtain ⟨noRound, noRoundEnd, noSquare, noSquareEnd, noBar, noEscape⟩ := noMark
  rw [barOffsets_cons noEscape]
  simp [noRound, noRoundEnd, noSquare, noSquareEnd, noBar]

theorem barOffsets_atBar (offset : Nat) (rest : Text) :
    barOffsets 0 offset ('|' :: rest) =
      (offset + 1) :: barOffsets 0 (offset + 1) rest := by
  rw [barOffsets_cons (by decide)]
  simp

theorem barOffsets_enclosed {last first : Char} (pair : IsPair last first)
    {part : Text}
    {depth : Int} (inner : ∀ offset rest,
      barOffsets (depth + 1) offset (part ++ rest) =
      barOffsets (depth + 1) (offset + part.length) rest) (offset :
      Nat) (rest : Text) :
    barOffsets depth offset (first :: (part ++ last :: rest)) =
      barOffsets depth (offset + (part.length + 2)) rest := by
  have opened : ∀ later, barOffsets depth offset (first :: later) =
      barOffsets (depth + 1) (offset + 1) later := by
    intro later
    rcases pair with ⟨rfl, rfl⟩ | ⟨rfl, rfl⟩ <;>
      rw [barOffsets_cons (by decide)] <;> rfl
  have closed : ∀ behind later, barOffsets (depth + 1) behind (last :: later) =
      barOffsets depth (behind + 1) later := by
    intro behind later
    rcases pair with ⟨rfl, rfl⟩ | ⟨rfl, rfl⟩ <;>
      rw [barOffsets_cons (by decide)] <;> simp
  rw [opened, inner, closed]
  congr 1
  omega

/-- A nested text has no bars at the depth of its start, unless it is taken from
inside of brackets and the scan has not passed over these. -/
theorem Nested.barOffsets_append {inside : Bool} {text : Text}
    (nested : Nested inside text) {depth : Int} (started : 0 ≤ depth)
    (within : inside = true → 0 < depth) (offset : Nat) (rest : Text) :
    barOffsets depth offset (text ++ rest) =
      barOffsets depth (offset + text.length) rest := by
  induction nested generalizing depth offset rest with
  | nil => rfl
  | @escaped _ char part _ induction =>
      rw [List.cons_append, List.cons_append, barOffsets_escaped,
        induction started within]
      congr 1
      simp only [List.length_cons]
      omega
  | @plain _ char part noMark _ induction =>
      rw [List.cons_append, barOffsets_plain noMark, induction started within]
      congr 1
      simp only [List.length_cons]
      omega
  | @bar part _ induction =>
      have deeper : depth ≠ 0 := by
        have positive := within rfl
        omega
      have passed : barOffsets depth offset ('|' :: (part ++ rest)) =
          barOffsets depth (offset + 1) (part ++ rest) := by
        rw [barOffsets_cons (by decide)]
        simp [deeper]
      rw [List.cons_append, passed, induction started within]
      congr 1
      simp only [List.length_cons]
      omega
  | @enclosed _ closing opening part later pair _ _ inner outer =>
      have split : (opening :: (part ++ closing :: later)) ++ rest =
          opening :: (part ++ closing :: (later ++ rest)) := by simp
      have deeper : 0 < depth + 1 := by omega
      rw [split, barOffsets_enclosed pair (inner (Int.le_of_lt deeper) fun _ =>
        deeper), outer started within]
      congr 1
      simp only [List.length_cons, List.length_append]
      omega

theorem Nested.barOffsets_bar {text : Text} (nested : Nested false text)
    (offset : Nat) (rest : Text) :
    barOffsets 0 offset (text ++ '|' :: rest) =
      (offset + text.length + 1) :: barOffsets 0 (offset + text.length + 1)
        rest := by
  rw [nested.barOffsets_append (Int.le_refl 0) (by simp), barOffsets_atBar]

theorem Nested.barOffsets_nil {text : Text} (nested : Nested false text)
    (offset : Nat) :
    barOffsets 0 offset text = [] := by
  have passed := nested.barOffsets_append (Int.le_refl 0) (by simp) offset []
  rw [List.append_nil] at passed
  rw [passed]
  rfl

end Phrasebook.Pattern
