import Mathlib.Data.List.Induction
import Phrasebook.Proofs.Pattern.Moves
import Phrasebook.Proofs.Pattern.Tidy

/-!
# Where a walk can be

A walk along a pattern is always at a place behind whole placeholders, if none
of the signs that it jumps to stands inside of a placeholder.  In tidy patterns
none does.
-/

namespace Phrasebook

namespace Pattern

/-- Each bracket or bar stands behind whole placeholders, and so does the end of
each regular expression slot that starts behind whole placeholders. -/
structure Sheltered (pattern : Text) : Prop where
  mark : ∀ {before rest : Text} {mark : Char} {count : Nat},
    pattern = before ++ mark :: rest →
    Segment before count → mark ∈ "()[]|".toList → count % 2 = 0
  regex : ∀ {before body rest : Text} {count : Nat},
    pattern = before ++ '<' :: (body ++ '>' :: rest) → '>' ∉ body →
    Segment before count →
      count % 2 = 0 → ∃ inside, Segment ('<' :: (body ++ ['>'])) inside ∧
      inside % 2 = 0

private theorem Tidy.standing {before rest : Text} {count : Nat}
    (tidy : Tidy (before ++ rest)) (segment : Segment before count) :
    Standing count rest := by
  have atStart : Standing 0 (before ++ rest) := (Standing.even rfl).mpr (.inl tidy)
  have later := atStart.behind segment
  rwa [Nat.zero_add] at later

/-- A regular expression slot of a tidy pattern has no percent sign. -/
theorem regex_clean {read body rest : Text} (noEnd : '>' ∉ body)
    (tidy : AllTidy (tokensFrom (.regex read) (body ++ '>' :: rest))) :
    '%' ∉ body := by
  induction body generalizing read with
  | nil => exact List.not_mem_nil
  | cons char body induction =>
      have notEnd : char ≠ '>' := Ne.symm (List.ne_of_not_mem_cons noEnd)
      rw [List.cons_append, tokensFrom_regex, if_neg notEnd] at tidy
      have clean : '%' ∉ read ++ [char] := tidy.not_percent
      intro member
      rcases List.mem_cons.mp member with isPercent | member
      · exact clean (List.mem_append_right read (List.mem_singleton.mpr isPercent))
      · exact induction (List.not_mem_of_not_mem_cons noEnd) tidy member

theorem Tidy.sheltered {pattern : Text} (tidy : Tidy pattern) :
    Sheltered pattern where
  mark := by
    rintro before rest mark count rfl segment isMark
    exact (tidy.standing segment).even_of_mark isMark
  regex := by
    rintro before body rest count rfl noEnd segment isEven
    have tidyInside : ∃ read,
        AllTidy (tokensFrom (.regex read) (body ++ '>' :: rest)) := by
      rcases (Standing.even isEven).mp (tidy.standing segment)
        with plain | ⟨read, regex⟩
      · rw [tokensFrom_plain (by decide), if_neg (by decide), if_pos rfl] at plain
        exact ⟨[], plain⟩
      · rw [tokensFrom_regex, if_neg (by decide)] at regex
        exact ⟨_, regex⟩
    obtain ⟨read, tidyInside⟩ := tidyInside
    have clean := regex_clean noEnd tidyInside
    exact ⟨0, .plain (by decide) (by decide)
      (segment_snoc (by decide) (by decide) body clean), rfl⟩

/-- Up to each sign that a walk jumps to, wherever it stands, there is an even
number of percent signs. -/
def SignsEven (pattern : Text) : Prop :=
  ∀ (before : Text) (sign : Char), before ++ [sign] <+: pattern →
  sign ∈ "()[]|>".toList →
    percentCount (before ++ [sign]) % 2 = 0

namespace SignsEven

variable {pattern : Text}

theorem nil : SignsEven [] := by
  intro before sign starts
  have short := starts.length_le
  simp at short

theorem concat {char : Char} (even : SignsEven pattern)
    (last : percentCount (pattern ++ [char]) % 2 = 0) :
    SignsEven (pattern ++ [char]) := by
  intro before sign starts isSign
  rcases List.prefix_concat_iff.mp starts with isWhole | starts
  · rw [isWhole]
    exact last
  · exact even before sign starts isSign

theorem append {more : Text} (even : SignsEven pattern)
    (clean : ∀ char ∈ more, char ∉ "()[]|>".toList) :
    SignsEven (pattern ++ more) := by
  induction more using List.reverseRecOn with
  | nil => simpa using even
  | append_singleton more last induction =>
      intro before sign starts isSign
      rw [← List.append_assoc] at starts
      rcases List.prefix_concat_iff.mp starts with isWhole | starts
      · obtain ⟨_, isLast⟩ := List.append_inj' isWhole rfl
        cases isLast
        exact absurd isSign (clean last (by simp))
      · refine induction ?_ before sign starts isSign
        intro char member
        exact clean char (List.mem_append_left [last] member)

theorem sheltered (even : SignsEven pattern) : Sheltered pattern where
  mark := by
    rintro before rest mark count rfl segment isMark
    have starts : before ++ [mark] <+: before ++ mark :: rest := ⟨rest, by simp⟩
    have isSign : mark ∈ "()[]|>".toList := List.mem_append_left ['>'] isMark
    have counted := even before mark starts isSign
    rw [percentCount_append segment, percentCount_segment (.single_mark isMark)]
      at counted
    exact counted
  regex := by
    rintro before body rest count rfl noEnd segment isEven
    obtain ⟨last, closed⟩ := segment_closed (by decide : '>' ≠ '\\') body
    obtain ⟨inside, whole⟩ := closed.cons (by decide : '<' ≠ '\\')
    have starts : before ++ '<' :: body ++ ['>'] <+: before ++
        '<' :: (body ++ '>' :: rest) :=
      ⟨rest, by simp⟩
    have counted := even _ '>' starts (by decide)
    rw [List.append_assoc, List.cons_append, percentCount_append segment,
      percentCount_segment whole] at counted
    exact ⟨inside, whole, by omega⟩

end SignsEven

end Pattern

/-- The cursor is at a place of the pattern behind whole placeholders. -/
structure Cursor.Placed (pattern : Text) (cursor : Cursor) : Prop where
  whole : cursor.pattern = pattern
  even : ∃ slot, Pattern.Segment cursor.before.reverse (2 * slot)

namespace Cursor.Placed

open Pattern

theorem start (pattern : Text) : Placed pattern (.start pattern) where
  whole := rfl
  even := ⟨0, .nil⟩

variable {pattern : Text} {cursor : Cursor}

private theorem advance {count : Nat} (placed : Placed pattern cursor)
    (part rest : Text) (ahead : cursor.rest = part ++ rest)
    (segment : Segment part count) (isEven : count % 2 = 0) :
    Placed pattern (cursor.advance part.length) where
  whole := by
    rw [← placed.whole]
    simp [Cursor.pattern, Cursor.advance]
  even := by
    obtain ⟨slot, before⟩ := placed.even
    refine ⟨slot + count / 2, ?_⟩
    have joined := before.append segment
    have total : 2 * (slot + count / 2) = 2 * slot + count := by omega
    rw [total]
    simpa [Cursor.advance, ahead] using joined

/-- Where a walk gets to from behind whole placeholders, if they are sheltered. -/
theorem along {later : Cursor} (sheltered : Sheltered pattern)
    (moves : cursor.Moves later) (placed : Placed pattern cursor) :
    Placed pattern later := by
  induction moves with
  | @passed cursor part rest count ahead segment isEven =>
      exact placed.advance part rest ahead segment isEven
  | @mark cursor part rest mark count ahead segment isMark =>
      obtain ⟨slot, before⟩ := placed.even
      have split : pattern = cursor.before.reverse ++ part ++ mark :: rest := by
        rw [← placed.whole, Cursor.pattern, ahead, List.append_assoc]
      have isEven := sheltered.mark split (before.append segment) isMark
      have moved := placed.advance (part ++ [mark]) rest (by simp [ahead])
        (segment.append (.single_mark isMark)) (by omega)
      simpa using moved
  | @regex cursor body rest ahead noEnd =>
      obtain ⟨slot, before⟩ := placed.even
      have split : pattern = cursor.before.reverse ++
          '<' :: (body ++ '>' :: rest) := by
        rw [← placed.whole, Cursor.pattern, ahead]
      obtain ⟨count, segment, isEven⟩ :=
        sheltered.regex split noEnd before (by omega)
      have moved := placed.advance ('<' :: (body ++ ['>'])) rest
        (by simp [ahead]) segment isEven
      simpa using moved
  | trans _ _ first second => exact second (first placed)

/-- A placeholder in front of the cursor is listed in the slot that the cursor
gives it. -/
theorem listed {inside : Text} {offset : Nat} (placed : Placed pattern cursor)
    (ahead : cursor.rest = '%' :: inside)
    (found : unescapedOffset '%' inside = some offset) :
    (placeholders pattern)[cursor.slot]? = some (inside.take offset) := by
  obtain ⟨name, rest, rfl, rfl, segment⟩ := unescapedOffset_percent found
  obtain ⟨slot, before⟩ := placed.even
  have numbered : cursor.slot = slot := by
    rw [Cursor.slot, slotAfter, percentCount_segment before]
    omega
  rw [numbered, ← placed.whole, Cursor.pattern, ahead,
    placeholders_at before segment]
  simp

end Cursor.Placed

end Phrasebook
