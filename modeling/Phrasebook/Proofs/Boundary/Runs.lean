import Phrasebook.Proofs.Boundary.Cuts
import Phrasebook.Proofs.Rendering.Literals

/-!
# Boundaries and runs

A quoted or braced run is meant to be opaque to the search for a boundary.  The
search jumps over a run that it comes upon, but the character behind that run it
passes over without a look.  So it keeps out of all runs as long as no run stands
directly behind another one, where only a run that starts the text does no harm.
-/

namespace Phrasebook

namespace Text

/-- Whether the boundary between two texts lies outside of all runs.  The scan
starts with so many characters left to pass over; a run that never ends reaches
beyond every boundary. -/
def endsOutside : Nat → Text → Text → Bool
  | left, [], _ => left == 0
  | left + 1, _ :: taken, rest => endsOutside left taken rest
  | 0, char :: taken, rest =>
      if opensRun char then
        match runLength char (taken ++ rest) with
        | none => false
        | some length => endsOutside (length - 1) taken rest
      else endsOutside 0 taken rest

def startsRun : Text → Bool
  | [] => false
  | char :: _ => opensRun char

/-- Whether no run that a search comes upon has another one directly behind it. -/
def runsApartFrom : Cut.Gait → Text → Bool
  | .look, [] => true
  | .look, char :: rest =>
      if opensRun char then
        match runLength char rest with
        | none => true
        | some length => runsApartFrom (.pass (length - 1)) rest
      else runsApartFrom .look rest
  | .pass 0, [] => true
  | .pass 0, char :: rest => !opensRun char && runsApartFrom .look rest
  | .pass (_ + 1), [] => true
  | .pass (left + 1), _ :: rest => runsApartFrom (.pass left) rest

/-- Whether no run has another one directly behind it, except perhaps one that
starts the text. -/
def runsApart : Text → Bool
  | [] => true
  | char :: rest =>
      if opensRun char then
        match runLength char rest with
        | none => true
        | some length => runsApartFrom .look ((char :: rest).drop length)
      else runsApartFrom .look rest

theorem endsOutside_plain {char : Char} (plain : opensRun char = false)
    (taken rest : Text) :
    endsOutside 0 (char :: taken) rest = endsOutside 0 taken rest := by
  simp [endsOutside, plain]

theorem endsOutside_run {char : Char} {taken rest : Text} {length : Nat}
    (opens : opensRun char = true)
    (found : runLength char (taken ++ rest) = some length) :
    endsOutside 0 (char :: taken) rest = endsOutside (length - 1) taken rest := by
  simp [endsOutside, opens, found]

theorem endsOutside_endless {char : Char} {taken rest : Text}
    (opens : opensRun char = true)
    (endless : runLength char (taken ++ rest) = none) :
    endsOutside 0 (char :: taken) rest = false := by
  simp [endsOutside, opens, endless]

theorem taken_of_run {char : Char} {text taken rest : Text}
    (opens : opensRun char = true) (joined : taken ++ rest = char :: text)
    (notRun : startsRun rest = false) :
    ∃ later, taken = char :: later ∧ later ++ rest = text := by
  cases taken with
  | nil =>
      obtain rfl : rest = char :: text := joined
      rw [startsRun, opens] at notRun
      cases notRun
  | cons first later =>
      obtain ⟨rfl, rfl⟩ := List.cons.inj joined
      exact ⟨later, rfl, rfl⟩

/-- A boundary is outside of a run that a scan has started on only if it is
behind it. -/
theorem endsOutside_behind {inside behind taken rest : Text}
    (joined : taken ++ rest = inside ++ behind) :
    endsOutside inside.length taken rest = true ↔
      ∃ later, taken = inside ++ later ∧ endsOutside 0 later rest = true := by
  induction inside generalizing taken with
  | nil => simp
  | cons char inside induction =>
      cases taken with
      | nil => simp [endsOutside]
      | cons first taken =>
          obtain ⟨rfl, joinedBehind⟩ := List.cons.inj joined
          rw [List.length_cons, endsOutside, induction joinedBehind]
          simp

private theorem closingQuote_lt {text : Text} {offset : Nat}
    (found : closingQuote text = some offset) :
    offset < text.length := by
  obtain ⟨inside, behind, rfl, rfl, _⟩ := closingQuote_split found
  simp

private theorem closingBrace_lt {text : Text} {offset : Nat}
    (found : closingBrace text = some offset) :
    offset < text.length := by
  fun_induction closingBrace text generalizing offset with
  | case1 => cases found
  | case2 rest =>
      cases found
      simp
  | case3 char rest _ induction =>
      obtain ⟨later, next, rfl⟩ := Option.map_eq_some_iff.mp found
      have inside := induction next
      simp only [List.length_cons]
      omega

theorem runLength_split {opener : Char} {rest : Text} {length : Nat}
    (found : runLength opener rest = some length) :
    ∃ inside behind, rest = inside ++ behind ∧ inside.length + 1 = length := by
  obtain ⟨offset, closing, rfl⟩ := Option.map_eq_some_iff.mp found
  have within : offset < rest.length := by
    by_cases isQuote : opener = '"'
    · rw [if_pos isQuote] at closing
      exact closingQuote_lt closing
    · rw [if_neg isQuote] at closing
      exact closingBrace_lt closing
  refine ⟨rest.take (offset + 1), rest.drop (offset + 1),
    (List.take_append_drop _ _).symm, ?_⟩
  rw [List.length_take, Nat.min_eq_left within]

end Text

namespace Cut

open Text

def Gait.left : Gait → Nat
  | .look => 0
  | .pass left => left

theorem mem_onward_behind {gait : Gait} {taken more text rest : Text}
    {char : Char} :
    ⟨taken ++ more, rest⟩ ∈ onward gait (taken ++ [char]) text ↔
      ∃ later, more = char :: later ∧
        ⟨taken ++ [char] ++ later, rest⟩ ∈ onward gait (taken ++ [char]) text := by
  constructor
  · intro member
    obtain ⟨later, isTaken, _⟩ := onward_split member
    have isMore : more = char :: later := by simpa using isTaken
    refine ⟨later, isMore, ?_⟩
    rw [← isTaken]
    exact member
  · rintro ⟨later, rfl, member⟩
    simpa using member

private theorem mem_end_iff {taken more rest : Text} :
    (⟨taken ++ more, rest⟩ : Cut) ∈ [⟨taken, []⟩] ↔
      more ++ rest = [] ∧ endsOutside 0 more rest = true ∧
      startsRun rest = false := by
  constructor
  · intro member
    obtain ⟨isTaken, rfl⟩ : taken ++ more = taken ∧ rest = [] := by
      simpa using member
    obtain rfl : more = [] := by simpa using isTaken
    exact ⟨rfl, rfl, rfl⟩
  · rintro ⟨joined, _, _⟩
    obtain ⟨rfl, rfl⟩ := List.append_eq_nil_iff.mp joined
    simp

/-- A character that opens no run may have a boundary in front of it. -/
theorem mem_plain_iff {taken text more rest : Text} {char : Char}
    (plain : opensRun char = false)
    (behind : ∀ {more : Text},
      ⟨taken ++ [char] ++ more, rest⟩ ∈ onward .look (taken ++ [char]) text ↔
      more ++ rest = text ∧ endsOutside 0 more rest = true ∧
      startsRun rest = false) :
    ⟨taken ++ more, rest⟩ ∈ ⟨taken, char :: text⟩ ::
      onward .look (taken ++ [char]) text ↔
      more ++ rest = char :: text ∧ endsOutside 0 more rest = true ∧
      startsRun rest = false := by
  rw [List.mem_cons, mem_onward_behind]
  constructor
  · rintro (isHere | ⟨later, rfl, member⟩)
    · obtain ⟨isTaken, rfl⟩ : taken ++ more = taken ∧ rest = char :: text := by
        simpa using isHere
      obtain rfl : more = [] := by simpa using isTaken
      exact ⟨rfl, rfl, plain⟩
    · obtain ⟨rfl, outside, notRun⟩ := behind.mp member
      refine ⟨rfl, ?_, notRun⟩
      rw [endsOutside_plain plain]
      exact outside
  · rintro ⟨joined, outside, notRun⟩
    cases more with
    | nil =>
        left
        rw [List.append_nil, ← joined]
        rfl
    | cons first later =>
        obtain ⟨rfl, rfl⟩ := List.cons.inj joined
        rw [endsOutside_plain plain] at outside
        exact .inr ⟨later, rfl, behind.mpr ⟨rfl, outside, notRun⟩⟩

/-- If runs stand apart, the cuts that are tried are those outside of all runs,
except for those right in front of a run. -/
theorem mem_onward_iff {gait : Gait} {taken text more rest : Text}
    (apart : runsApartFrom gait text = true) :
    ⟨taken ++ more, rest⟩ ∈ onward gait taken text ↔
      more ++ rest = text ∧ endsOutside gait.left more rest = true ∧
      startsRun rest = false := by
  fun_induction onward gait taken text generalizing more with
  | case1 taken => exact mem_end_iff
  | case2 taken char text opens endless =>
      constructor
      · intro member
        cases member
      · rintro ⟨joined, outside, notRun⟩
        obtain ⟨later, rfl, rfl⟩ := taken_of_run opens joined notRun
        rw [Gait.left, endsOutside_endless opens endless] at outside
        cases outside
  | case3 taken char text opens length found induction =>
      have beyond : runsApartFrom (.pass (length - 1)) text = true := by
        simpa [runsApartFrom, opens, found] using apart
      rw [mem_onward_behind]
      constructor
      · rintro ⟨later, rfl, member⟩
        obtain ⟨rfl, outside, notRun⟩ := (induction beyond).mp member
        refine ⟨rfl, ?_, notRun⟩
        rw [Gait.left, endsOutside_run opens found]
        exact outside
      · rintro ⟨joined, outside, notRun⟩
        obtain ⟨later, rfl, rfl⟩ := taken_of_run opens joined notRun
        rw [Gait.left, endsOutside_run opens found] at outside
        exact ⟨later, rfl, (induction beyond).mpr ⟨rfl, outside, notRun⟩⟩
  | case4 taken char text plain induction =>
      have plain : opensRun char = false := by simpa using plain
      have beyond : runsApartFrom .look text = true := by
        simpa [runsApartFrom, plain] using apart
      exact mem_plain_iff plain (induction beyond)
  | case5 taken => exact mem_end_iff
  | case6 taken char text induction =>
      obtain ⟨plain, beyond⟩ : opensRun char = false ∧
          runsApartFrom .look text = true := by
        simpa [runsApartFrom] using apart
      exact mem_plain_iff plain (induction beyond)
  | case7 =>
      constructor
      · intro member
        cases member
      · rintro ⟨joined, outside, _⟩
        obtain ⟨rfl, rfl⟩ := List.append_eq_nil_iff.mp joined
        cases outside
  | case8 left taken char text induction =>
      have beyond : runsApartFrom (.pass left) text = true := apart
      rw [mem_onward_behind]
      constructor
      · rintro ⟨later, rfl, member⟩
        obtain ⟨rfl, outside, notRun⟩ := (induction beyond).mp member
        exact ⟨rfl, outside, notRun⟩
      · rintro ⟨joined, outside, notRun⟩
        cases more with
        | nil => cases outside
        | cons first later =>
            obtain ⟨rfl, rfl⟩ := List.cons.inj joined
            exact ⟨later, rfl, (induction beyond).mpr ⟨rfl, outside, notRun⟩⟩

/-- What a placeholder takes first, a run or a character, lies before each
boundary that is tried. -/
theorem mem_behind_iff {first behind taken rest : Text} (nonempty : first ≠ [])
    (apart : runsApartFrom .look behind = true)
    (begins : ∀ {taken rest : Text}, taken ≠ [] → taken ++ rest = first ++ behind →
      startsRun rest = false →
      (endsOutside 0 taken rest = true ↔
        ∃ later, taken = first ++ later ∧ endsOutside 0 later rest = true)) :
    ⟨taken, rest⟩ ∈ onward .look first behind ↔
      taken ≠ [] ∧ taken ++ rest = first ++ behind ∧
      endsOutside 0 taken rest = true ∧
        startsRun rest = false := by
  constructor
  · intro member
    obtain ⟨later, rfl, _⟩ := onward_split member
    obtain ⟨rfl, outside, notRun⟩ := (mem_onward_iff apart).mp member
    have present : first ++ later ≠ [] := by simp [nonempty]
    have joined : first ++ later ++ rest = first ++ (later ++ rest) :=
      List.append_assoc _ _ _
    exact ⟨present, joined,
      (begins present joined notRun).mpr ⟨later, rfl, outside⟩, notRun⟩
  · rintro ⟨present, joined, outside, notRun⟩
    obtain ⟨later, rfl, outsideLater⟩ := (begins present joined notRun).mp outside
    rw [List.append_assoc] at joined
    obtain rfl := List.append_cancel_left joined
    exact (mem_onward_iff apart).mpr ⟨rfl, outsideLater, notRun⟩

/-- The same holds of all cuts that a placeholder tries. -/
theorem mem_ofPlaceholder_iff {text taken rest : Text}
    (apart : runsApart text = true) :
    ⟨taken, rest⟩ ∈ ofPlaceholder false text ↔
      taken ≠ [] ∧ taken ++ rest = text ∧ endsOutside 0 taken rest = true ∧
        startsRun rest = false := by
  cases text with
  | nil =>
      constructor
      · intro member
        cases member
      · rintro ⟨nonempty, joined, _⟩
        exact absurd (List.append_eq_nil_iff.mp joined).1 nonempty
  | cons char text =>
      rw [ofPlaceholder, if_neg Bool.false_ne_true]
      by_cases opens : opensRun char = true
      · rw [if_pos opens]
        rw [runsApart, if_pos opens] at apart
        cases found : runLength char text with
        | none =>
            constructor
            · intro member
              cases member
            · rintro ⟨_, joined, outside, notRun⟩
              obtain ⟨later, rfl, rfl⟩ := taken_of_run opens joined notRun
              rw [endsOutside_endless opens found] at outside
              cases outside
        | some length =>
            rw [found] at apart
            obtain ⟨inside, behind, rfl, rfl⟩ := runLength_split found
            dsimp only at apart ⊢
            rw [List.drop_succ_cons, List.drop_left] at apart
            rw [List.take_succ_cons, List.take_left, List.drop_succ_cons,
              List.drop_left]
            refine mem_behind_iff (List.cons_ne_nil char inside) apart ?_
            intro taken rest _ joined notRun
            obtain ⟨taken, rfl, joinedBehind⟩ := taken_of_run opens joined notRun
            have joinedBehind : taken ++ rest = inside ++ behind := joinedBehind
            rw [← joinedBehind] at found
            rw [endsOutside_run opens found, Nat.add_sub_cancel,
              endsOutside_behind joinedBehind]
            simp
      · have plain : opensRun char = false := by simpa using opens
        rw [if_neg opens]
        rw [runsApart, if_neg opens] at apart
        refine mem_behind_iff (List.cons_ne_nil char []) apart ?_
        intro taken rest present joined _
        cases taken with
        | nil => exact absurd rfl present
        | cons first taken =>
            obtain ⟨rfl, _⟩ := List.cons.inj joined
            rw [endsOutside_plain plain]
            simp

end Cut

end Phrasebook
