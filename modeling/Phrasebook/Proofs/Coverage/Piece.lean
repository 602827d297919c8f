import Mathlib.Algebra.GroupWithZero.Nat
import Phrasebook.Proofs.Boundary.Cuts
import Phrasebook.Proofs.Pattern.Advance
import Phrasebook.Proofs.Pattern.Placement
import Phrasebook.Proofs.Search.Yielding

/-!
# Pieces of a matched text

A match divides its text into pieces, each of which one part of the pattern has
taken.  Literal characters and spaces take single characters; regular expression
slots and placeholders take longer pieces, which are never empty.
-/

namespace Phrasebook

open Pattern (Segment slotAfter placeholderCount)

/-- A part of a pattern, with what stands before it and behind it. -/
structure Pattern.Part where
  before : Text
  written : Text
  behind : Text

namespace Pattern.Part

def In (part : Part) (pattern : Text) : Prop :=
  part.before ++ (part.written ++ part.behind) = pattern

def Before (part later : Part) : Prop :=
  part.before.length + part.written.length ≤ later.before.length

def slot (part : Part) : Nat :=
  slotAfter part.before

end Pattern.Part

def Cursor.part (cursor : Cursor) (length : Nat) : Pattern.Part :=
  ⟨cursor.before.reverse, cursor.rest.take length, cursor.rest.drop length⟩

theorem Cursor.Aligned.part_in {pattern : Text} {cursor : Cursor}
    (aligned : cursor.Aligned pattern) (length : Nat) :
    (cursor.part length).In pattern := by
  rw [← aligned.whole, Pattern.Part.In, Cursor.part, List.take_append_drop]
  rfl

theorem Cursor.part_ends (cursor : Cursor) (length : Nat) :
    (cursor.part length).before.length + (cursor.part length).written.length =
      (cursor.advance length).before.length := by
  rw [Cursor.part, Cursor.advance, List.length_append, List.length_reverse,
    List.length_reverse]
  exact Nat.add_comm _ _

theorem Cursor.part_enclosed {cursor : Cursor} {first last : Char}
    {inside behind : Text}
    (ahead : cursor.rest = first :: (inside ++ last :: behind)) :
    (cursor.part (inside.length + 2)).written = first :: (inside ++ [last]) := by
  rw [Cursor.part, ahead, List.take_succ_cons, List.take_length_add_append]
  rfl

/-- A piece of a matched text, with the part of the pattern that has taken it. -/
inductive Piece where
  | letter (part : Pattern.Part) (char : Char)
  | space (part : Pattern.Part)
  | captured (part : Pattern.Part) (capture : Capture)
  | bound (part : Pattern.Part) (taken : Text) (expr : Expr)

namespace Piece

def part : Piece → Pattern.Part
  | .letter part _ | .space part | .captured part _ | .bound part _ _ => part

def text : Piece → Text
  | .letter _ char => [char]
  | .space _ => [' ']
  | .captured _ capture => capture.whole
  | .bound _ taken _ => taken

def isLiteral : Piece → Bool
  | .letter _ _ | .space _ => true
  | .captured _ _ | .bound _ _ _ => false

def capture? : Piece → Option Capture
  | .captured _ capture => some capture
  | .letter _ _ | .space _ | .bound _ _ _ => none

def slot? : Piece → Option Nat
  | .bound part _ _ => some part.slot
  | .letter _ _ | .space _ | .captured _ _ => none

def boundLength : Piece → Nat
  | .bound _ taken _ => taken.length
  | .letter _ _ | .space _ | .captured _ _ => 0

def fill : Piece → List (Option Expr) → List (Option Expr)
  | .bound part _ expr, exprs => exprs.set part.slot (some expr)
  | .letter _ _, exprs | .space _, exprs | .captured _ _, exprs => exprs

section Soundness

variable {m : Type → Type} [Searching m] (yielding : Searching.Yielding m)
  (matcher : Matcher m)

/-- The part of the pattern takes this piece from the start of a text of which
the rest is left. -/
def Takes (left : Text) : Piece → Prop
  | .letter part char => ∃ letter,
      (part.written = ['\\', letter] ∨ part.written = [letter] ∧
        letter ∉ Demand.marks) ∧
      Text.sameLetter letter char = true
  | .space part => part.written = [' ']
  | .captured part capture => ∃ body program,
      part.written = '<' :: (body ++ ['>']) ∧ '>' ∉ body ∧ capture.whole ≠ [] ∧
      matcher.registry.regexes.compile body = .ok program ∧
      program.fullMatch? capture.whole = some capture.groups
  | .bound part taken expr => ∃ name placeholder type found,
      part.written = '%' :: (name ++ ['%']) ∧ Segment name 0 ∧ taken ≠ [] ∧
      ⟨taken, left⟩ ∈ Cut.ofPlaceholder part.behind.isEmpty (taken ++ left) ∧
      Placeholder.read matcher.registry.normalize name = .ok placeholder ∧
      matcher.registry.getType placeholder.name = .ok type ∧
      yielding.Yields (matcher.resolve type taken) (some found) ∧
      found.setTime placeholder.time = some expr

/-- The piece was taken by a part of the pattern that may take it. -/
structure Sound (pattern left : Text) (piece : Piece) : Prop where
  inPattern : piece.part.In pattern
  takes : piece.Takes yielding matcher left

/-- What is bound is an expression that fits its placeholder; where a walk stays
behind whole placeholders, the placeholder is the one that is listed in the
slot. -/
def Seated (pattern : Text) : Piece → Prop
  | .bound part taken expr => ∃ name placeholder type found,
      part.written = '%' :: (name ++ ['%']) ∧
      (Pattern.Sheltered pattern → (Pattern.placeholders pattern)[part.slot]? =
        some name) ∧
      Placeholder.read matcher.registry.normalize name = .ok placeholder ∧
      matcher.registry.getType placeholder.name = .ok type ∧
      yielding.Yields (matcher.resolve type taken) (some found) ∧
      (placeholder.plural = false → found.isUnparsed = true ∨
        found.isSingle = true) ∧
      found.setTime placeholder.time = some expr
  | .letter _ _ | .space _ | .captured _ _ => True

/-! ## Pieces taken at a cursor -/

variable {yielding matcher} {pattern left : Text} {cursor : Cursor}

theorem sound_letter {letter char : Char} {length : Nat}
    (aligned : cursor.Aligned pattern)
    (begins : (Demand.letter letter length).Begins cursor.rest)
    (same : Text.sameLetter letter char = true) :
    (Piece.letter (cursor.part length) char).Sound yielding matcher
      pattern left where
  inPattern := aligned.part_in length
  takes := by
    refine ⟨letter, ?_, same⟩
    obtain ⟨rest, ⟨ahead, rfl⟩ | ⟨ahead, rfl, noMark⟩⟩ := begins
    · left
      rw [Cursor.part, ahead]
      rfl
    · right
      rw [Cursor.part, ahead]
      exact ⟨rfl, noMark⟩

theorem sound_space {rest : Text} (aligned : cursor.Aligned pattern)
    (ahead : cursor.rest = ' ' :: rest) :
    (Piece.space (cursor.part 1)).Sound yielding matcher pattern left where
  inPattern := aligned.part_in 1
  takes := by
    rw [Takes, Cursor.part, ahead]
    rfl

theorem sound_captured {inside whole : Text} {offset : Nat} {program : RegexProgram}
    {captured : List (Option Text)} (aligned : cursor.Aligned pattern)
    (ahead : cursor.rest = '<' :: inside)
    (found : Pattern.regexEndOffset inside = some offset)
    (compiles : matcher.registry.regexes.compile (inside.take offset) = .ok program)
    (nonempty : whole ≠ []) (isMatched : program.fullMatch? whole = some captured) :
    (Piece.captured (cursor.part (offset + 2)) ⟨whole, captured⟩).Sound
      yielding matcher
      pattern left where
  inPattern := aligned.part_in (offset + 2)
  takes := by
    obtain ⟨body, behind, rfl, rfl, noEnd⟩ := Pattern.regexEndOffset_split found
    rw [List.take_left] at compiles
    exact ⟨body, program, Cursor.part_enclosed ahead, noEnd, nonempty,
      compiles, isMatched⟩

theorem sound_bound {inside taken : Text} {offset : Nat} {placeholder : Placeholder}
    {type : RegisteredType} {found expr : Expr} (aligned : cursor.Aligned pattern)
    (ahead : cursor.rest = '%' :: inside)
    (closing : Pattern.unescapedOffset '%' inside = some offset)
    (nonempty : taken ≠ [])
    (isCut : ⟨taken, left⟩ ∈
      Cut.ofPlaceholder (cursor.advance (offset + 2)).rest.isEmpty (taken ++ left))
    (read : Placeholder.read matcher.registry.normalize (inside.take offset) =
      .ok placeholder)
    (known : matcher.registry.getType placeholder.name = .ok type)
    (yields : yielding.Yields (matcher.resolve type taken) (some found))
    (timed : found.setTime placeholder.time = some expr) :
    (Piece.bound (cursor.part (offset + 2)) taken expr).Sound yielding matcher
      pattern left where
  inPattern := aligned.part_in (offset + 2)
  takes := by
    obtain ⟨name, behind, rfl, rfl, segment⟩ :=
      Pattern.unescapedOffset_percent closing
    rw [List.take_left] at read
    exact ⟨name, placeholder, type, found, Cursor.part_enclosed ahead, segment,
      nonempty, isCut, read, known, yields, timed⟩

theorem seated_bound {inside taken : Text} {offset : Nat}
    {placeholder : Placeholder} {type : RegisteredType} {found expr : Expr}
    (placed : Pattern.Sheltered pattern → cursor.Placed pattern)
    (ahead : cursor.rest = '%' :: inside)
    (closing : Pattern.unescapedOffset '%' inside = some offset)
    (read : Placeholder.read matcher.registry.normalize (inside.take offset) =
      .ok placeholder)
    (known : matcher.registry.getType placeholder.name = .ok type)
    (yields : yielding.Yields (matcher.resolve type taken) (some found))
    (single : placeholder.plural = false → found.isUnparsed = true ∨
      found.isSingle = true)
    (timed : found.setTime placeholder.time = some expr) :
    (Piece.bound (cursor.part (offset + 2)) taken expr).Seated yielding matcher
      pattern := by
  have listed (sheltered : Pattern.Sheltered pattern) :
      (Pattern.placeholders pattern)[cursor.slot]? = some (inside.take offset) :=
    (placed sheltered).listed ahead closing
  obtain ⟨name, behind, rfl, rfl, _⟩ := Pattern.unescapedOffset_percent closing
  rw [List.take_left] at read listed
  exact ⟨name, placeholder, type, found, Cursor.part_enclosed ahead, listed,
    read, known, yields, single, timed⟩

end Soundness

/-! ## Bound slots -/

theorem length_filled (pieces : List Piece) (exprs : List (Option Expr)) :
    (pieces.foldr fill exprs).length = exprs.length := by
  induction pieces with
  | nil => rfl
  | cons piece pieces induction => cases piece <;> simp [fill, induction]

/-- Pieces that were bound to different slots, all of which exist, fill these
slots and no others. -/
theorem filled_iff {pieces : List Piece} {count slot : Nat} {expr : Expr}
    (inside : ∀ slot ∈ pieces.filterMap slot?, slot < count)
    (increasing : (pieces.filterMap slot?).Pairwise (· < ·)) :
    (pieces.foldr fill (List.replicate count none))[slot]? = some (some expr) ↔
      ∃ part taken, part.slot = slot ∧ .bound part taken expr ∈ pieces := by
  induction pieces with
  | nil => simp [List.getElem?_replicate]
  | cons piece pieces induction =>
      cases piece with
      | letter part char => simpa [fill] using induction inside increasing
      | space part => simpa [fill] using induction inside increasing
      | captured part capture => simpa [fill] using induction inside increasing
      | bound part taken own =>
          have split := List.pairwise_cons.mp increasing
          have later := induction (fun slot member =>
            inside slot (List.mem_cons_of_mem _ member))
            split.2
          have within : part.slot <
              (pieces.foldr fill (List.replicate count none)).length := by
            rw [length_filled, List.length_replicate]
            exact inside part.slot List.mem_cons_self
          rw [List.foldr_cons, fill, List.getElem?_set]
          by_cases same : part.slot = slot
          · subst same
            rw [if_pos rfl, if_pos within]
            constructor
            · intro isOwn
              cases isOwn
              exact ⟨part, taken, rfl, List.mem_cons_self⟩
            · rintro ⟨other, others, sameSlot, member⟩
              rcases List.mem_cons.mp member with isOwn | member
              · cases isOwn
                rfl
              · have further :=
                  split.1 other.slot (List.mem_filterMap.mpr ⟨_, member, rfl⟩)
                exact absurd sameSlot (Nat.ne_of_gt further)
          · rw [if_neg same, later]
            constructor
            · rintro ⟨other, others, isSlot, member⟩
              exact ⟨other, others, isSlot, List.mem_cons_of_mem _ member⟩
            · rintro ⟨other, others, isSlot, member⟩
              rcases List.mem_cons.mp member with isOwn | member
              · cases isOwn
                exact absurd isSlot same
              · exact ⟨other, others, isSlot, member⟩

/-! ## Lengths -/

private theorem length_text (piece : Piece) :
    piece.text.length = (if piece.isLiteral then 1 else 0) +
      ((piece.capture?.map (·.whole.length)).getD 0 + piece.boundLength) := by
  cases piece <;> simp [text, isLiteral, capture?, boundLength]

theorem length_flatMap_text (pieces : List Piece) :
    (pieces.flatMap text).length = pieces.countP isLiteral +
      ((pieces.filterMap capture?).map (·.whole.length)).sum +
        (pieces.map boundLength).sum := by
  induction pieces with
  | nil => rfl
  | cons piece pieces induction =>
      rw [List.flatMap_cons, List.length_append, induction, length_text,
        List.countP_cons, List.map_cons, List.sum_cons, List.filterMap_cons]
      cases piece <;> simp [isLiteral, capture?, boundLength] <;> omega

end Piece

end Phrasebook
