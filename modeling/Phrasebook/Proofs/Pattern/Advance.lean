import Phrasebook.Proofs.Pattern.Moves

/-!
# How a walk advances

Whatever a pattern holds, each move of a walk along it passes over whole
characters: none ends between a backslash and the character that it escapes.
Slots are numbered by counting percent signs, so a place that is reached later
never has an earlier slot.
-/

namespace Phrasebook

open Pattern

/-- The walk gets from the first place to the second one over whole characters. -/
structure Cursor.Reaches (cursor later : Cursor) : Prop where
  passed : ∃ part count, Segment part count ∧ cursor.rest = part ++ later.rest ∧
    later.before = part.reverse ++ cursor.before

namespace Cursor.Reaches

variable {cursor : Cursor}

theorem of_segment {part rest : Text} {count : Nat}
    (segment : Segment part count) (ahead : cursor.rest = part ++ rest) :
    cursor.Reaches (cursor.advance part.length) := by
  refine ⟨part, count, segment, ?_, ?_⟩
  · simp [Cursor.advance, ahead]
  · simp [Cursor.advance, ahead]

theorem trans {middle later : Cursor} (first : cursor.Reaches middle)
    (second : middle.Reaches later) : cursor.Reaches later := by
  obtain ⟨part, count, segment, ahead, before⟩ := first
  obtain ⟨more, others, further, aheadLater, beforeLater⟩ := second
  refine ⟨part ++ more, count + others, segment.append further, ?_, ?_⟩
  · rw [ahead, aheadLater, List.append_assoc]
  · rw [beforeLater, before, List.reverse_append, List.append_assoc]

theorem length_le {later : Cursor} (reaches : cursor.Reaches later) :
    cursor.before.length ≤ later.before.length := by
  obtain ⟨part, _, _, _, before⟩ := reaches
  simp [before]

theorem over_placeholder {inside : Text} {offset : Nat}
    (ahead : cursor.rest = '%' :: inside)
    (found : unescapedOffset '%' inside = some offset) :
    ∃ part, Segment part 2 ∧
    cursor.rest = part ++ (cursor.advance (offset + 2)).rest ∧
      (cursor.advance (offset + 2)).before = part.reverse ++ cursor.before := by
  obtain ⟨name, rest, rfl, rfl, segment⟩ := unescapedOffset_percent found
  have whole : Segment ('%' :: (name ++ ['%'])) 2 :=
    .percent (segment.append .single_percent)
  have split : cursor.rest = '%' :: (name ++ ['%']) ++ rest := by simp [ahead]
  have length : name.length + 2 = ('%' :: (name ++ ['%'])).length := by simp
  refine ⟨'%' :: (name ++ ['%']), whole, ?_, ?_⟩
  · rw [length, Cursor.advance, split, List.drop_left]
  · rw [length, Cursor.advance, split, List.take_left]

end Cursor.Reaches

theorem Cursor.Moves.reaches {cursor later : Cursor} (moves : cursor.Moves later) :
    cursor.Reaches later := by
  induction moves with
  | passed ahead segment _ => exact .of_segment segment ahead
  | @mark cursor part rest mark count ahead segment isMark =>
      have split : cursor.rest = part ++ [mark] ++ rest := by simp [ahead]
      simpa using Reaches.of_segment (segment.append (.single_mark isMark)) split
  | @regex cursor body rest ahead _ =>
      obtain ⟨count, closed⟩ := segment_closed (by decide : '>' ≠ '\\') body
      obtain ⟨total, whole⟩ := closed.cons (by decide : '<' ≠ '\\')
      have split : cursor.rest = '<' :: (body ++ ['>']) ++ rest := by simp [ahead]
      simpa using Reaches.of_segment whole split
  | trans _ _ first second => exact first.trans second

/-- The cursor is at a place of the pattern that a scan from its start gets to. -/
structure Cursor.Aligned (pattern : Text) (cursor : Cursor) : Prop where
  whole : cursor.pattern = pattern
  segment : ∃ count, Segment cursor.before.reverse count

namespace Cursor.Aligned

variable {pattern : Text} {cursor later : Cursor}

theorem start (pattern : Text) : Aligned pattern (.start pattern) where
  whole := rfl
  segment := ⟨0, .nil⟩

theorem reach (aligned : Aligned pattern cursor) (reaches : cursor.Reaches later) :
    Aligned pattern later := by
  obtain ⟨part, count, segment, ahead, before⟩ := reaches
  obtain ⟨earlier, behind⟩ := aligned.segment
  constructor
  · rw [← aligned.whole]
    simp [Cursor.pattern, before, ahead]
  · refine ⟨earlier + count, ?_⟩
    rw [before, List.reverse_append, List.reverse_reverse]
    exact behind.append segment

theorem slot_le (aligned : Aligned pattern cursor)
    (reaches : cursor.Reaches later) :
    cursor.slot ≤ later.slot := by
  obtain ⟨part, count, segment, ahead, before⟩ := reaches
  obtain ⟨earlier, behind⟩ := aligned.segment
  have counted : percentCount later.before.reverse = earlier + count := by
    rw [before, List.reverse_append, List.reverse_reverse]
    exact percentCount_segment (behind.append segment)
  rw [Cursor.slot, Cursor.slot, slotAfter, slotAfter,
    percentCount_segment behind, counted]
  exact Nat.div_le_div_right (Nat.le_add_right earlier count)

/-- Both percent signs of a placeholder count, so the places behind it have
later slots. -/
theorem slot_lt {inside : Text} {offset : Nat}
    (aligned : Aligned pattern cursor) (ahead : cursor.rest = '%' :: inside)
    (found : unescapedOffset '%' inside = some offset) :
    cursor.slot < (cursor.advance (offset + 2)).slot ∧
    cursor.slot < placeholderCount pattern := by
  obtain ⟨part, segment, split, before⟩ :=
    Cursor.Reaches.over_placeholder ahead found
  obtain ⟨earlier, behind⟩ := aligned.segment
  have passed := behind.append segment
  have here : cursor.slot = earlier / 2 := by
    rw [Cursor.slot, slotAfter, percentCount_segment behind]
  constructor
  · rw [here, Cursor.slot, slotAfter, before, List.reverse_append,
      List.reverse_reverse, percentCount_segment passed]
    omega
  · rw [here, placeholderCount, ← aligned.whole, Cursor.pattern,
      split, ← List.append_assoc, percentCount_append passed]
    omega

end Cursor.Aligned

end Phrasebook
