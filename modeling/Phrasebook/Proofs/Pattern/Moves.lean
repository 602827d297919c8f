import Phrasebook.Matching
import Phrasebook.Proofs.Pattern.Demand

/-!
# The moves of a walk

A walk along a pattern passes over whole characters.  Mostly it knows what it
passes over: a character, or a placeholder with both of its percent signs.  But
on its way into a group, or out of one, it jumps to a bracket or a bar without a
look at what lies in between, and it jumps to the end of a regular expression
slot.  In the input it moves by single characters, except where a placeholder or
a slot takes a longer text.
-/

namespace Phrasebook

open Pattern

theorem Cursor.advance_advance (cursor : Cursor) (first second : Nat) :
    (cursor.advance first).advance second = cursor.advance (first + second) := by
  simp [Cursor.advance, List.take_add, ← List.append_assoc]

/-- A walk at the first place may get to the second one. -/
inductive Cursor.Moves : Cursor → Cursor → Prop where
  /-- Over a part with none of the percent signs of a placeholder, or with both. -/
  | passed {cursor : Cursor} {part rest : Text} {count : Nat}
      (ahead : cursor.rest = part ++ rest)
      (segment : Segment part count) (isEven : count % 2 = 0) :
      Moves cursor (cursor.advance part.length)
  /-- To a bracket or a bar, and behind it. -/
  | mark {cursor : Cursor} {part rest : Text} {mark : Char} {count : Nat}
      (ahead : cursor.rest = part ++ mark :: rest) (segment : Segment part count)
      (isMark : mark ∈ "()[]|".toList) : Moves cursor
      (cursor.advance (part.length + 1))
  /-- Over a regular expression slot. -/
  | regex {cursor : Cursor} {body rest : Text} (ahead : cursor.rest =
      '<' :: (body ++ '>' :: rest))
      (noEnd : '>' ∉ body) : Moves cursor (cursor.advance (body.length + 2))
  | trans {cursor middle later : Cursor} (first : Moves cursor middle)
      (second : Moves middle later) : Moves cursor later

namespace Cursor.Moves

variable {cursor : Cursor}

theorem one {char : Char} {rest : Text} (ahead : cursor.rest = char :: rest)
    (noEscape : char ≠ '\\') (noPercent : char ≠ '%') :
    cursor.Moves (cursor.advance 1) := by
  have split : cursor.rest = [char] ++ rest := ahead
  exact .passed split (.single noEscape noPercent) rfl

theorem letter {letter : Char} {length : Nat}
    (begins : (Demand.letter letter length).Begins cursor.rest) :
    cursor.Moves (cursor.advance length) := by
  obtain ⟨rest, ⟨ahead, rfl⟩ | ⟨ahead, rfl, noMark⟩⟩ := begins
  · have split : cursor.rest = ['\\', letter] ++ rest := ahead
    exact .passed split (.escaped letter .nil) rfl
  · apply one ahead
    · rintro rfl
      exact noMark (by decide)
    · rintro rfl
      exact noMark (by decide)

theorem jump {first mark : Char} {inside : Text} {offset : Nat}
    (ahead : cursor.rest = first :: inside) (noEscape : first ≠ '\\')
    (noPercent : first ≠ '%') (isMark : mark ∈ "()[]|".toList)
    (stands : StandsAt mark inside offset) :
    cursor.Moves (cursor.advance (offset + 2)) := by
  obtain ⟨part, rest, count, rfl, rfl, segment⟩ := stands
  have split : cursor.rest = (first :: part) ++ mark :: rest := ahead
  exact .mark split (.plain noEscape noPercent segment) isMark

theorem alternative {inside : Text} {offset start : Nat}
    (ahead : cursor.rest = '(' :: inside)
    (member : start ∈ alternativeStarts (inside.take offset)) :
    cursor.Moves (cursor.advance (start + 1)) := by
  rcases List.mem_cons.mp member with rfl | member
  · exact one ahead (by decide) (by decide)
  · obtain ⟨bar, ⟨part, rest, count, isTaken, rfl, segment⟩, rfl⟩ :=
      barOffsets_stands member
    have behind : inside = part ++ '|' :: (rest ++ inside.drop offset) := by
      calc
        inside = inside.take offset ++ inside.drop offset :=
      (List.take_append_drop _ _).symm
        _ = part ++ '|' :: (rest ++ inside.drop offset) := by rw [isTaken]; simp
    have stands : StandsAt '|' inside part.length :=
      ⟨part, _, count, behind, rfl, segment⟩
    have moved := jump ahead (by decide) (by decide) (by decide) stands
    have same : 0 + part.length + 1 + 1 = part.length + 2 := by omega
    rwa [same]

theorem optional {inside : Text} {offset : Nat}
    (ahead : cursor.rest = '[' :: inside)
    (closing : closingOffset ']' '[' 0 inside = some offset) (absorbs : Bool) :
    cursor.Moves (cursor.advance
      (if absorbs && (inside.drop (offset + 1)).head? == some ' ' then offset + 3
        else offset + 2)) := by
  have behind :=
    jump ahead (by decide) (by decide) (by decide)
      (closingOffset_stands closing)
  by_cases spaced : (absorbs && (inside.drop (offset + 1)).head? == some ' ') = true
  · rw [if_pos spaced]
    obtain ⟨_, isSpace⟩ := Bool.and_eq_true_iff.mp spaced
    obtain ⟨rest, isRest⟩ := List.head?_eq_some_iff.mp (beq_iff_eq.mp isSpace)
    have aheadThere : (cursor.advance (offset + 2)).rest = ' ' :: rest := by
      simp [Cursor.advance, ahead, isRest]
    have moved := behind.trans (one aheadThere (by decide) (by decide))
    rwa [Cursor.advance_advance] at moved
  · rw [if_neg spaced]
    exact behind

theorem placeholder {inside : Text} {offset : Nat}
    (ahead : cursor.rest = '%' :: inside)
    (found : unescapedOffset '%' inside = some offset) :
    cursor.Moves (cursor.advance (offset + 2)) := by
  obtain ⟨name, rest, rfl, rfl, segment⟩ := unescapedOffset_percent found
  have whole : Segment ('%' :: (name ++ ['%'])) 2 :=
    .percent (segment.append .single_percent)
  have split : cursor.rest = '%' :: (name ++ ['%']) ++ rest := by simp [ahead]
  simpa using passed split whole rfl

theorem capture {inside : Text} {offset : Nat}
    (ahead : cursor.rest = '<' :: inside)
    (found : regexEndOffset inside = some offset) :
    cursor.Moves (cursor.advance (offset + 2)) := by
  obtain ⟨body, rest, rfl, rfl, noEnd⟩ := regexEndOffset_split found
  exact .regex ahead noEnd

end Cursor.Moves

/-! ## Characters of the input -/

namespace Position

/-- A space of the pattern takes nothing, or a space that is not behind another
one. -/
theorem takeSpace_cases {position next : Position} {count : Nat}
    (taken : position.takeSpace = some (count, next)) :
    count = 0 ∧ next = position ∨
      count = 1 ∧ position.rest = ' ' :: next.rest ∧ position.previous ≠ some ' ' ∧
        next.previous = some ' ' := by
  unfold takeSpace at taken
  split at taken
  · cases taken
    exact .inl ⟨rfl, rfl⟩
  · rename_i char rest ahead
    by_cases doubled : position.previous = some ' '
    · rw [if_pos doubled] at taken
      cases taken
      exact .inl ⟨rfl, rfl⟩
    · rw [if_neg doubled] at taken
      by_cases isSpace : char = ' '
      · subst isSpace
        cases taken
        exact .inr ⟨rfl, ahead, doubled, rfl⟩
      · rw [if_neg isSpace] at taken
        cases taken

theorem takeLetter_cases {position next : Position} {letter : Char}
    (taken : position.takeLetter letter = some next) :
    ∃ char, Text.sameLetter letter char = true ∧ position.rest = char :: next.rest ∧
      next.previous = some char := by
  unfold takeLetter at taken
  split at taken
  · cases taken
  · rename_i char rest ahead
    by_cases same : Text.sameLetter letter char = true
    · rw [if_pos same] at taken
      cases taken
      exact ⟨char, same, ahead, rfl⟩
    · rw [if_neg same] at taken
      cases taken

end Position

end Phrasebook
