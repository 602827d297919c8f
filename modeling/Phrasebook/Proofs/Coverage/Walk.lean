import Phrasebook.Proofs.Builtins
import Phrasebook.Proofs.Coverage.Piece

/-!
# What a match accounts for

Whatever way a walk goes, the text that it passes over falls into pieces, and the
result it comes back with is what these pieces make up: their captures in order,
their expressions in their slots, and the number of those that are literal
characters.
-/

namespace Phrasebook

open Pattern (placeholderCount)

variable {m : Type → Type} [Searching m] {yielding : Searching.Yielding m}
  {matcher : Matcher m} {pattern : Text}

/-! ## Pieces from a place on -/

/-- The pieces account for the rest of a text and for all that a walk from the
cursor finds in it. -/
structure Cursor.Covers (yielding : Searching.Yielding m) (matcher : Matcher m)
    (pattern : Text) (cursor : Cursor) (rest : Text) (matched : Nat)
    (result : MatchResult) (pieces : List Piece) : Prop where
  whole : pieces.flatMap Piece.text = rest
  sound : ∀ piece later, piece :: later <:+ pieces →
    piece.Sound yielding matcher pattern (later.flatMap Piece.text)
  captures : result.captures = pieces.filterMap Piece.capture?
  exprs : result.exprs =
    pieces.foldr Piece.fill (List.replicate (placeholderCount pattern) none)
  placed : ∀ piece ∈ pieces, cursor.before.length ≤ piece.part.before.length
  ordered : pieces.Pairwise fun piece later => piece.part.Before later.part
  ahead : ∀ slot ∈ pieces.filterMap Piece.slot?,
    cursor.slot ≤ slot ∧ slot < placeholderCount pattern
  increasing : (pieces.filterMap Piece.slot?).Pairwise (· < ·)
  matchedChars : result.matchedChars = matched + pieces.countP Piece.isLiteral

namespace Cursor.Covers

variable {cursor later : Cursor} {rest : Text} {matched : Nat}
  {result : MatchResult} {pieces : List Piece} {piece : Piece}

theorem finished (cursor : Cursor) (text : Text) (matched : Nat) :
    cursor.Covers yielding matcher pattern [] matched
      (.unbound text (placeholderCount pattern) matched) [] where
  whole := rfl
  sound := by
    intro piece later isSuffix
    cases List.suffix_nil.mp isSuffix
  captures := rfl
  exprs := rfl
  placed := by
    intro piece member
    cases member
  ordered := List.Pairwise.nil
  ahead := by
    intro slot member
    cases member
  increasing := List.Pairwise.nil
  matchedChars := rfl

theorem plusChars
    (covers : cursor.Covers yielding matcher pattern rest 0 result pieces)
    (matched : Nat) :
    cursor.Covers yielding matcher pattern rest matched
      (result.plusChars matched) pieces where
  whole := covers.whole
  sound := covers.sound
  captures := covers.captures
  exprs := covers.exprs
  placed := covers.placed
  ordered := covers.ordered
  ahead := covers.ahead
  increasing := covers.increasing
  matchedChars := by
    have counted := covers.matchedChars
    simp only [MatchResult.plusChars]
    omega

theorem choose
    (covers : cursor.Covers yielding matcher pattern rest matched result pieces)
    (index : Nat) :
    cursor.Covers yielding matcher pattern rest matched (result.choose index)
      pieces :=
  ⟨covers.whole, covers.sound, covers.captures, covers.exprs, covers.placed,
    covers.ordered, covers.ahead, covers.increasing, covers.matchedChars⟩

theorem length_exprs
    (covers : cursor.Covers yielding matcher pattern rest matched result pieces) :
    result.exprs.length = placeholderCount pattern := by
  rw [covers.exprs, Piece.length_filled, List.length_replicate]

/-- The slots that are bound are those of the bound pieces. -/
theorem bound_iff
    (covers : cursor.Covers yielding matcher pattern rest matched result pieces)
    {slot : Nat} {expr : Expr} :
    result.exprs[slot]? = some (some expr) ↔
      ∃ part taken, part.slot = slot ∧ .bound part taken expr ∈ pieces := by
  rw [covers.exprs]
  exact Piece.filled_iff (fun slot member => (covers.ahead slot member).2)
    covers.increasing

/-- What is accounted for from a later place on is accounted for from here on,
if nothing is taken in between. -/
theorem further
    (covers : later.Covers yielding matcher pattern rest matched result pieces)
    (aligned : cursor.Aligned pattern) (reaches : cursor.Reaches later) :
    cursor.Covers yielding matcher pattern rest matched result pieces where
  whole := covers.whole
  sound := covers.sound
  captures := covers.captures
  exprs := covers.exprs
  placed := by
    intro piece member
    exact Nat.le_trans reaches.length_le (covers.placed piece member)
  ordered := covers.ordered
  ahead := by
    intro slot member
    obtain ⟨behind, inside⟩ := covers.ahead slot member
    exact ⟨Nat.le_trans (aligned.slot_le reaches) behind, inside⟩
  increasing := covers.increasing
  matchedChars := covers.matchedChars

section Front

variable {length : Nat}
  (covers : (cursor.advance length).Covers yielding matcher pattern rest matched
    result pieces)
  (isPart : piece.part = cursor.part length)

include covers

theorem sound_cons (sound : piece.Sound yielding matcher pattern rest) :
    ∀ other later, other :: later <:+ piece :: pieces →
      other.Sound yielding matcher pattern (later.flatMap Piece.text) := by
  intro other later isSuffix
  rcases List.suffix_cons_iff.mp isSuffix with isWhole | isSuffix
  · cases isWhole
    rw [covers.whole]
    exact sound
  · exact covers.sound other later isSuffix

include isPart

theorem placed_cons :
    ∀ other ∈ piece :: pieces, cursor.before.length ≤ other.part.before.length := by
  have starts : piece.part.before.length = cursor.before.length := by
    rw [isPart, Cursor.part, List.length_reverse]
  have ends := cursor.part_ends length
  rw [← isPart] at ends
  intro other member
  rcases List.mem_cons.mp member with rfl | member
  · exact Nat.le_of_eq starts.symm
  · have behind := covers.placed other member
    omega

theorem ordered_cons :
    (piece :: pieces).Pairwise fun piece later => piece.part.Before later.part := by
  apply List.pairwise_cons.mpr
  refine ⟨?_, covers.ordered⟩
  intro other member
  rw [isPart, Pattern.Part.Before, cursor.part_ends]
  exact covers.placed other member

end Front

theorem literal {length : Nat}
    (covers : (cursor.advance length).Covers yielding matcher pattern rest
      (matched + 1) result pieces)
    (aligned : cursor.Aligned pattern)
    (reaches : cursor.Reaches (cursor.advance length))
    (isPart : piece.part = cursor.part length)
    (sound : piece.Sound yielding matcher pattern rest)
    (isLiteral : piece.isLiteral = true) :
    cursor.Covers yielding matcher pattern (piece.text ++ rest) matched result
      (piece :: pieces) := by
  have noCapture : piece.capture? = none := by
    cases piece <;> first | rfl | cases isLiteral
  have noSlot : piece.slot? = none := by
    cases piece <;> first | rfl | cases isLiteral
  have fillsNothing (exprs : List (Option Expr)) : piece.fill exprs = exprs := by
    cases piece <;> first | rfl | cases isLiteral
  constructor
  case whole => rw [List.flatMap_cons, covers.whole]
  case sound => exact covers.sound_cons sound
  case captures => rw [List.filterMap_cons_none noCapture, covers.captures]
  case exprs => rw [List.foldr_cons, fillsNothing, covers.exprs]
  case placed => exact covers.placed_cons isPart
  case ordered => exact covers.ordered_cons isPart
  case ahead =>
    rw [List.filterMap_cons_none noSlot]
    exact (covers.further aligned reaches).ahead
  case increasing =>
    rw [List.filterMap_cons_none noSlot]
    exact covers.increasing
  case matchedChars =>
    rw [List.countP_cons_of_pos isLiteral, covers.matchedChars]
    omega

theorem capture {length : Nat} {capture : Capture}
    (covers : (cursor.advance length).Covers yielding matcher pattern rest
      matched result pieces)
    (aligned : cursor.Aligned pattern)
    (reaches : cursor.Reaches (cursor.advance length))
    (sound : (Piece.captured (cursor.part length) capture).Sound yielding
      matcher pattern rest) :
    cursor.Covers yielding matcher pattern (capture.whole ++ rest) matched
      (result.capture capture) (.captured (cursor.part length) capture ::
        pieces) where
  whole := by rw [List.flatMap_cons, covers.whole]; rfl
  sound := covers.sound_cons sound
  captures := by
    rw [List.filterMap_cons_some (by rfl), ← covers.captures]
    rfl
  exprs := covers.exprs
  placed := covers.placed_cons rfl
  ordered := covers.ordered_cons rfl
  ahead := (covers.further aligned reaches).ahead
  increasing := covers.increasing
  matchedChars := covers.matchedChars

theorem bind {length : Nat} {taken : Text} {expr : Expr}
    (covers : (cursor.advance length).Covers yielding matcher pattern rest
      matched result pieces)
    (sound : (Piece.bound (cursor.part length) taken expr).Sound yielding
      matcher pattern rest)
    (before : cursor.slot < (cursor.advance length).slot)
    (inside : cursor.slot < placeholderCount pattern) :
    cursor.Covers yielding matcher pattern (taken ++ rest) matched
      (result.bind cursor.slot expr) (.bound (cursor.part length) taken expr ::
        pieces) where
  whole := by rw [List.flatMap_cons, covers.whole]; rfl
  sound := covers.sound_cons sound
  captures := covers.captures
  exprs := by
    rw [List.foldr_cons, Piece.fill, ← covers.exprs]
    rfl
  placed := covers.placed_cons rfl
  ordered := covers.ordered_cons rfl
  ahead := by
    intro slot member
    rw [List.filterMap_cons_some (by rfl)] at member
    rcases List.mem_cons.mp member with rfl | member
    · exact ⟨Nat.le_refl _, inside⟩
    · obtain ⟨behind, within⟩ := covers.ahead slot member
      exact ⟨Nat.le_trans (Nat.le_of_lt before) behind, within⟩
  increasing := by
    rw [List.filterMap_cons_some (by rfl)]
    apply List.pairwise_cons.mpr
    refine ⟨?_, covers.increasing⟩
    intro slot member
    exact Nat.lt_of_lt_of_le before (covers.ahead slot member).1
  matchedChars := covers.matchedChars

end Cursor.Covers

/-! ## The steps of a walk -/

open Searching.Yielding (Ensures)

theorem Expr.setTime_zero (expr : Expr) : expr.setTime 0 = some expr := by
  cases expr <;> simp [Expr.setTime]

theorem Expr.setTime_cases {expr timed : Expr} {time : Int}
    (success : expr.setTime time = some timed) :
    timed = expr ∨ ∃ element type converted,
      expr = .computed element type converted ∧
      timed = .computed { element with time := time } type converted := by
  by_cases present : time = 0
  · subst present
    rw [setTime_zero] at success
    exact .inl (Option.some.inj success).symm
  · cases expr with
    | computed element type converted =>
        rw [setTime, if_neg present] at success
        obtain ⟨other, set, rfl⟩ := Option.map_eq_some_iff.mp success
        obtain ⟨_, same⟩ := Option.ite_none_right_eq_some.mp set
        cases same
        exact .inr ⟨element, type, converted, rfl, rfl⟩
    | literal values type andList => simp [setTime, present] at success
    | unparsed text => simp [setTime, present] at success
    | «variable» name type => simp [setTime, present] at success

namespace Matcher

private theorem fit_ensures {placeholder : Placeholder} {type : TypeInfo}
    {expr : Expr} :
    yielding.Ensures
      (fun fitted => ∀ fitting ∈ fitted,
        (placeholder.plural = false → expr.isUnparsed = true ∨
          expr.isSingle = true) ∧
          expr.setTime placeholder.time = some fitting)
      (matcher.fit placeholder type expr) := by
  unfold Matcher.fit
  split
  · exact Ensures.bind_self fun _ _ => Ensures.pure (by simp)
  rename_i notSeveral
  have single : placeholder.plural = false → expr.isUnparsed = true ∨
      expr.isSingle = true := by
    intro singular
    cases unparsed : expr.isUnparsed with
    | true => exact .inl rfl
    | false => exact .inr (by simpa [singular, unparsed] using notSeveral)
  split
  · rename_i timeless
    apply Ensures.pure
    intro fitting same
    cases same
    rw [timeless]
    exact ⟨single, Expr.setTime_zero expr⟩
  split
  · exact Ensures.pure (by simp)
  split
  · rename_i timed set
    apply Ensures.pure
    intro fitting same
    cases same
    exact ⟨single, set⟩
  · exact Ensures.bind_self fun _ _ => Ensures.pure (by simp)

private theorem tryCut_ensures {slot : Nat} {placeholder : Placeholder}
    {type : RegisteredType}
    {matched : Nat} {remainder : Cut → m (Option MatchResult)} {cut : Cut}
    {before after : MatchResult → Prop}
    (remains : yielding.Ensures (fun found => ∀ result ∈ found, before result)
      (remainder cut))
    (binds : ∀ result found expr, before result →
      yielding.Yields (matcher.resolve type cut.taken) (some found) →
      (placeholder.plural = false → found.isUnparsed = true ∨
        found.isSingle = true) →
      found.setTime placeholder.time = some expr → after (result.bind slot expr)) :
    yielding.Ensures (fun found => ∀ inner ∈ found, ∀ result ∈ inner, after result)
      (matcher.tryCut slot placeholder type matched remainder cut) := by
  apply Ensures.bind remains
  intro remaining holds
  cases remaining with
  | none => exact Ensures.pure (by simp)
  | some result =>
      apply Ensures.bind_self
      intro resolved yields
      cases resolved with
      | some found =>
          apply Ensures.bind fit_ensures
          intro fitted fits
          apply Ensures.pure
          intro inner same other member
          cases same
          obtain ⟨expr, isFitted, rfl⟩ := Option.map_eq_some_iff.mp member
          obtain ⟨single, timed⟩ := fits expr isFitted
          exact binds result found expr (holds result rfl) yields single timed
      | none => exact Ensures.bind_self fun _ _ => Ensures.pure (by simp)

private theorem tryCapture_ensures {program : RegexProgram}
    {remainder : Cut → m (Option MatchResult)} {cut : Cut}
    {before after : MatchResult → Prop}
    (remains : yielding.Ensures (fun found => ∀ result ∈ found, before result)
      (remainder cut))
    (captures : ∀ result captured, before result →
      program.fullMatch? cut.taken = some captured →
      after (result.capture ⟨cut.taken, captured⟩)) :
    yielding.Ensures (fun found => ∀ result ∈ found, after result)
      (tryCapture program remainder cut) := by
  apply Ensures.bind remains
  intro remaining holds
  cases remaining with
  | none => exact Ensures.pure (by simp)
  | some result =>
      apply Ensures.pure
      intro captured same
      obtain ⟨groups, isMatched, rfl⟩ := Option.map_eq_some_iff.mp same
      exact captures result groups (holds result rfl) isMatched

/-! ## The walk -/

/-- Some pieces account for the rest of the text and for the result. -/
def Covered (yielding : Searching.Yielding m) (matcher : Matcher m) (pattern : Text)
    (cursor : Cursor) (rest : Text) (matched : Nat) (result : MatchResult) : Prop :=
  ∃ pieces, cursor.Covers yielding matcher pattern rest matched result pieces

/-- Some pieces do so of which the bound ones fit their placeholders. -/
def Seated (yielding : Searching.Yielding m) (matcher : Matcher m) (pattern : Text)
    (cursor : Cursor) (rest : Text) (matched : Nat) (result : MatchResult) : Prop :=
  ∃ pieces, cursor.Covers yielding matcher pattern rest matched result pieces ∧
    ∀ piece ∈ pieces, piece.Seated yielding matcher pattern

/-- What a walk finds is accounted for, from wherever it starts. -/
theorem walk_seated (text : Text) (fuel matched : Nat) (cursor : Cursor)
    (position : Position) (aligned : cursor.Aligned pattern)
    (placed : Pattern.Sheltered pattern → cursor.Placed pattern) :
    yielding.Ensures
      (fun found => ∀ result ∈ found,
        Seated yielding matcher pattern cursor position.rest matched result)
      (matcher.walk text fuel matched cursor position) := by
  induction fuel generalizing matched cursor position with
  | zero => exact Ensures.pure (by simp)
  | succ fuel induction =>
      unfold Matcher.walk
      have begins := Demand.begins_ofText cursor.rest
      have onward {later : Cursor} (moves : cursor.Moves later)
          (sheltered : Pattern.Sheltered pattern) : later.Placed pattern :=
        (placed sheltered).along sheltered moves
      have goesOn {later : Cursor} (moves : cursor.Moves later) (matched : Nat) :
          yielding.Ensures
            (fun found => ∀ result ∈ found,
              Seated yielding matcher pattern cursor position.rest matched result)
            (matcher.walk text fuel matched later position) := by
        apply (induction matched later position (aligned.reach moves.reaches)
          (onward moves)).mono
        intro found holds result member
        obtain ⟨pieces, covers, seated⟩ := holds result member
        exact ⟨pieces, covers.further aligned moves.reaches, seated⟩
      have takes {piece : Piece} {length : Nat} {next : Position}
          (moves : cursor.Moves (cursor.advance length))
          (isPart : piece.part = cursor.part length)
          (sound : piece.Sound yielding matcher pattern next.rest)
          (own : piece.Seated yielding matcher pattern)
          (isRest : position.rest = piece.text ++ next.rest)
          (isLiteral : piece.isLiteral = true) :
          yielding.Ensures
            (fun found => ∀ result ∈ found,
              Seated yielding matcher pattern cursor position.rest matched result)
            (matcher.walk text fuel (matched + 1) (cursor.advance length)
              next) := by
        apply (induction (matched + 1) _ next (aligned.reach moves.reaches)
          (onward moves)).mono
        intro found holds result member
        obtain ⟨pieces, covers, seated⟩ := holds result member
        rw [isRest]
        exact ⟨_, covers.literal aligned moves.reaches isPart sound isLiteral,
          List.forall_mem_cons.mpr ⟨own, seated⟩⟩
      have counts (result : MatchResult)
          (holds : Seated yielding matcher pattern cursor position.rest 0 result) :
          Seated yielding matcher pattern cursor position.rest matched
            (result.plusChars matched) := by
        obtain ⟨pieces, covers, seated⟩ := holds
        exact ⟨pieces, covers.plusChars matched, seated⟩
      cases demand : Demand.ofText cursor.rest <;> rw [demand]
        at begins <;> dsimp only
      case nothing =>
          apply Ensures.pure
          intro result same
          split at same
          · rename_i isEmpty
            cases same
            rw [List.isEmpty_iff.mp isEmpty, aligned.whole]
            exact ⟨[], .finished cursor text matched, by simp⟩
          · cases same
      case optional inside =>
          apply Ensures.bind (goesOn (.one begins (by decide) (by decide)) 0)
          intro found holds
          cases found with
          | some result =>
              apply Ensures.pure
              intro other same
              cases same
              exact counts result (holds result rfl)
          | none =>
              cases closing : Pattern.closingOffset ']' '[' 0 inside with
              | none => exact Ensures.fail _
              | some offset => exact goesOn (.optional begins closing _) matched
      case choice inside =>
          cases closing : Pattern.closingOffset ')' '(' 0 inside with
          | none => exact Ensures.fail _
          | some offset =>
              refine Ensures.map_found (Ensures.firstSome _ ?_) counts
              intro start member
              refine Ensures.map_found
                (goesOn (.alternative begins
                  (List.fst_mem_of_mem_zipIdx member)) 0) ?_
              intro result holds
              obtain ⟨pieces, covers, seated⟩ := holds
              exact ⟨pieces, covers.choose start.2, seated⟩
      case placeholder inside =>
          by_cases isEmpty : position.rest.isEmpty = true
          · rw [if_pos isEmpty]
            exact Ensures.pure (by simp)
          rw [if_neg isEmpty]
          have present : position.rest ≠ [] := by simpa using isEmpty
          cases closing : Pattern.unescapedOffset '%' inside with
          | none => exact Ensures.fail _
          | some offset =>
              apply Ensures.bind (Ensures.lift fun _ => id)
              intro placeholder read
              apply Ensures.bind (Ensures.lift fun _ => id)
              intro type known
              have moves := Cursor.Moves.placeholder begins closing
              have moved := aligned.reach moves.reaches
              obtain ⟨before, within⟩ := aligned.slot_lt begins closing
              refine Ensures.bind (Ensures.firstSome (fun found => ∀ result ∈ found,
                Seated yielding matcher pattern cursor position.rest 0
                  result) ?_) ?_
              · intro cut member
                obtain ⟨joined, nonempty⟩ := Cut.ofPlaceholder_splits present member
                rw [← joined] at member ⊢
                apply tryCut_ensures
                  (induction 0 _ (position.after cut) moved (onward moves))
                intro result found expr holds yields single timed
                obtain ⟨pieces, covers, seated⟩ := holds
                have sound := Piece.sound_bound aligned begins closing nonempty
                  member read known
                  yields timed
                have own := Piece.seated_bound placed begins closing read known
                  yields single timed
                exact ⟨_, covers.bind sound before within,
                  List.forall_mem_cons.mpr ⟨own, seated⟩⟩
              · intro found holds
                apply Ensures.pure
                intro result same
                obtain ⟨inner, isFound, rfl⟩ := Option.map_eq_some_iff.mp same
                cases found with
                | none => cases isFound
                | some found => exact counts inner (holds found rfl inner isFound)
      case capture inside =>
          cases closing : Pattern.regexEndOffset inside with
          | none => exact Ensures.fail _
          | some offset =>
              simp only
              split
              · exact Ensures.fail _
              · rename_i program compiles
                have moves := Cursor.Moves.capture begins closing
                have moved := aligned.reach moves.reaches
                refine Ensures.map_found (Ensures.firstSome _ ?_) counts
                intro cut member
                obtain ⟨joined, nonempty⟩ := Cut.nonempty_splits member
                rw [← joined]
                apply tryCapture_ensures
                  (induction 0 _ (position.after cut) moved (onward moves))
                intro result captured holds isMatched
                obtain ⟨pieces, covers, seated⟩ := holds
                exact ⟨_, covers.capture aligned moves.reaches
                  (Piece.sound_captured aligned begins closing compiles
                    nonempty isMatched),
                  List.forall_mem_cons.mpr ⟨trivial, seated⟩⟩
      case bar inside =>
          cases closing : Pattern.closingOffset ')' '(' 0 inside with
          | none => exact Ensures.fail _
          | some offset =>
              exact goesOn (.jump begins (by decide) (by decide) (by decide)
                (Pattern.closingOffset_stands closing)) matched
      case closing =>
          obtain ⟨rest, ahead | ahead⟩ := begins
          · exact goesOn (.one ahead (by decide) (by decide)) matched
          · exact goesOn (.one ahead (by decide) (by decide)) matched
      case space =>
          obtain ⟨rest, ahead⟩ := begins
          have moves := Cursor.Moves.one ahead (by decide) (by decide)
          cases taken : position.takeSpace with
          | none => exact Ensures.pure (by simp)
          | some step =>
              obtain ⟨count, next⟩ := step
              obtain ⟨rfl, rfl⟩ | ⟨rfl, isRest, _⟩ := Position.takeSpace_cases taken
              · exact goesOn moves matched
              · exact takes moves rfl (Piece.sound_space aligned ahead)
                  trivial isRest rfl
      case loneBackslash => exact Ensures.fail _
      case letter letter length =>
          cases taken : position.takeLetter letter with
          | none => exact Ensures.pure (by simp)
          | some next =>
              obtain ⟨char, same, isRest, _⟩ := Position.takeLetter_cases taken
              exact takes (.letter begins) rfl
                (Piece.sound_letter aligned begins same) trivial
                isRest rfl

theorem run_seated {text : Text} {result : MatchResult}
    (yields : yielding.Yields (matcher.run pattern text) (some result)) :
    Seated yielding matcher pattern (.start pattern) text 0 result :=
  (walk_seated text _ 0 (.start pattern) (.start text) (.start pattern)
    fun _ => .start pattern).holds _ yields result rfl

theorem run_covered {text : Text} {result : MatchResult}
    (yields : yielding.Yields (matcher.run pattern text) (some result)) :
    Covered yielding matcher pattern (.start pattern) text 0 result := by
  obtain ⟨pieces, covers, _⟩ := run_seated yields
  exact ⟨pieces, covers⟩

/-- What a slot of a match holds has been bound by a placeholder that it fits. -/
theorem run_bound {text : Text} {result : MatchResult}
    (yields : yielding.Yields (matcher.run pattern text) (some result))
    {slot : Nat} {expr : Expr}
    (holds : result.exprs[slot]? = some (some expr)) :
    ∃ part taken, part.slot = slot ∧
      (Piece.bound part taken expr).Seated yielding matcher pattern := by
  obtain ⟨pieces, covers, seated⟩ := run_seated yields
  obtain ⟨part, taken, isSlot, member⟩ := covers.bound_iff.mp holds
  exact ⟨part, taken, isSlot, seated _ member⟩

theorem run_length_exprs {text : Text} {result : MatchResult}
    (yields : yielding.Yields (matcher.run pattern text) (some result)) :
    result.exprs.length = placeholderCount pattern := by
  obtain ⟨pieces, covers⟩ := run_covered yields
  exact covers.length_exprs

end Matcher

/-- The pieces make up the whole text, each taken by a part of the pattern of
its own and in the order of the pattern, and the result of the match holds what
they say and nothing else. -/
structure Account (yielding : Searching.Yielding m) (matcher : Matcher m)
    (pattern text : Text) (result : MatchResult) (pieces : List Piece) :
    Prop where
  whole : pieces.flatMap Piece.text = text
  sound : ∀ piece later, piece :: later <:+ pieces →
    piece.Sound yielding matcher pattern (later.flatMap Piece.text)
  ordered : pieces.Pairwise fun piece later => piece.part.Before later.part
  captures : result.captures = pieces.filterMap Piece.capture?
  slots : result.exprs.length = placeholderCount pattern
  increasing : (pieces.filterMap Piece.slot?).Pairwise (· < ·)
  bound : ∀ slot expr, result.exprs[slot]? = some (some expr) ↔
    ∃ part taken, part.slot = slot ∧ .bound part taken expr ∈ pieces
  matchedChars : result.matchedChars = pieces.countP Piece.isLiteral
  length : text.length =
    result.matchedChars + (result.captures.map (·.whole.length)).sum +
    (pieces.map Piece.boundLength).sum

theorem Cursor.Covers.account {text : Text} {result : MatchResult}
    {pieces : List Piece}
    (covers : (Cursor.start pattern).Covers yielding matcher pattern text 0
      result pieces) :
    Account yielding matcher pattern text result pieces := by
  have literal : result.matchedChars = pieces.countP Piece.isLiteral := by
    rw [covers.matchedChars, Nat.zero_add]
  refine ⟨covers.whole, covers.sound, covers.ordered, covers.captures,
    covers.length_exprs,
    covers.increasing, fun _ _ => covers.bound_iff, literal, ?_⟩
  rw [← covers.whole, Piece.length_flatMap_text, literal, covers.captures]

/-- Every match accounts for every character of its text. -/
theorem Matcher.run_account {text : Text} {result : MatchResult}
    (yields : yielding.Yields (matcher.run pattern text) (some result)) :
    ∃ pieces, Account yielding matcher pattern text result pieces := by
  obtain ⟨pieces, covers⟩ := run_covered yields
  exact ⟨pieces, covers.account⟩

theorem Matcher.account_of_errand :
    let matcher := (⟨.builtins, .script, true, 5⟩ : Attempt).tracked
    let pattern : Text := "buy [up to ]%integer% <[a-z]+>"
    ∃ result pieces,
      (matcher.run pattern "Buy 12 eggs" ⟨.empty, .empty⟩).1 = .ok (some result) ∧
      result.matchedChars = 5 ∧
      Account Tracked.yielding matcher pattern "Buy 12 eggs" result pieces := by
  intro matcher pattern
  have matched : ∃ result, (matcher.run pattern "Buy 12 eggs" ⟨.empty, .empty⟩).1 =
      .ok (some result) ∧ result.matchedChars = 5 :=
    ⟨_, rfl, rfl⟩
  obtain ⟨result, answered, counted⟩ := matched
  obtain ⟨pieces, account⟩ := run_account (Tracked.yields_of_answer answered)
  exact ⟨result, pieces, answered, counted, account⟩

end Phrasebook
