import Phrasebook.Proofs.Boundary.Cuts
import Phrasebook.Proofs.Coverage.Walk
import Phrasebook.Proofs.LiteralOnly
import Phrasebook.Proofs.Pattern.Stepping
import Phrasebook.Proofs.Search.Simulation
import Phrasebook.Proofs.Shrinking.Anchor

/-!
# Walks that take less than the whole text

A walk along an anchored pattern resolves a text only when the pattern behind it
has matched.  So the anchor has taken a character by then, before that text or
behind it, and what is resolved is shorter than the text that the walk started
on.
-/

namespace Phrasebook

/-! ## Searches that find nothing -/

section Barren

variable {m : Type → Type} [Searching m]

/-- The search gives no answer and leaves no records, or hits a setup error. -/
def Searching.Barren {α : Type} (search : m (Option α)) : Prop :=
  search = pure none ∨ ∃ error, search = Searching.fail error

namespace Searching.Barren

variable {α β : Type}

theorem none : Barren (pure none : m (Option α)) :=
  .inl rfl

theorem fail (error : SetupError) : Barren (Searching.fail error : m (Option α)) :=
  .inr ⟨error, rfl⟩

variable [LawfulMonad m] (stops : Searching.Stops m)
include stops

theorem bind {search : m (Option α)} {next : Option α → m (Option β)}
    (barren : Barren search) (later : Barren (next Option.none)) :
    Barren (search >>= next) := by
  rcases barren with rfl | ⟨error, rfl⟩
  · rwa [pure_bind]
  · rw [stops]
    exact .fail error

theorem firstSome {attempt : α → m (Option β)} {items : List α}
    (barren : ∀ item ∈ items, Barren (attempt item)) :
    Barren (Searching.firstSome attempt items) := by
  induction items with
  | nil => exact .none
  | cons item items induction =>
      obtain ⟨here, behind⟩ := List.forall_mem_cons.mp barren
      exact here.bind stops (induction behind)

end Searching.Barren

end Barren

/-! ## Moves of the cursor -/

theorem Cursor.rest_advance {cursor : Cursor} {char : Char} {inside : Text}
    (begins : cursor.rest = char :: inside) (count : Nat) :
    (cursor.advance (count + 1)).rest = inside.drop count := by
  change cursor.rest.drop (count + 1) = inside.drop count
  rw [begins, List.drop_succ_cons]

namespace Pattern.Ahead

variable {cursor : Cursor} {inside : Text} {offset : Nat}
  (ahead : Ahead cursor.rest)
include ahead

theorem into_optional (begins : cursor.rest = '[' :: inside) : Ahead
    (cursor.advance 1).rest := by
  rw [begins] at ahead
  rw [cursor.rest_advance begins]
  exact ahead.opened .square

theorem past_optional (begins : cursor.rest = '[' :: inside)
    (found : closingOffset ']' '[' 0 inside = some offset) (absorbs : Bool) :
    Ahead (cursor.advance
      (if absorbs && (inside.drop (offset + 1)).head? == some ' '
        then offset + 3 else offset + 2)).rest := by
  rw [begins] at ahead
  split
  · rename_i both
    have isSpace := beq_iff_eq.mp (Bool.and_eq_true_iff.mp both).2
    rw [cursor.rest_advance begins]
    exact ahead.spaced found isSpace
  · rw [cursor.rest_advance begins]
    exact ahead.closed .square found

theorem into_alternative {start : Nat} (begins : cursor.rest = '(' :: inside)
    (found : closingOffset ')' '(' 0 inside = some offset)
    (member : start ∈ alternativeStarts (inside.take offset)) :
    Ahead (cursor.advance (start + 1)).rest := by
  rw [begins] at ahead
  rw [cursor.rest_advance begins]
  exact ahead.alternative found member

theorem past_placeholder (begins : cursor.rest = '%' :: inside)
    (found : unescapedOffset '%' inside = some offset) :
    Ahead (cursor.advance (offset + 2)).rest := by
  rw [begins] at ahead
  rw [cursor.rest_advance begins]
  exact ahead.placeholder found

theorem past_alternatives (begins : cursor.rest = '|' :: inside)
    (found : closingOffset ')' '(' 0 inside = some offset) :
    Ahead (cursor.advance (offset + 2)).rest := by
  rw [begins] at ahead
  rw [cursor.rest_advance begins]
  exact ahead.bar found

omit inside in
theorem past_closing
    (begins : ∃ rest, cursor.rest = ')' :: rest ∨ cursor.rest = ']' :: rest) :
    Ahead (cursor.advance 1).rest := by
  obtain ⟨rest, begins | begins⟩ := begins
  · rw [begins] at ahead
    rw [cursor.rest_advance begins]
    exact ahead.closing (.inl rfl)
  · rw [begins] at ahead
    rw [cursor.rest_advance begins]
    exact ahead.closing (.inr rfl)

omit inside in
theorem past_space (begins : ∃ rest, cursor.rest = ' ' :: rest) :
    Ahead (cursor.advance 1).rest := by
  obtain ⟨rest, begins⟩ := begins
  rw [begins] at ahead
  rw [cursor.rest_advance begins]
  exact ahead.space

end Pattern.Ahead

namespace Matcher

open Pattern (Ahead)
open Searching (Barren)

variable {m : Type → Type} [Searching m] [LawfulMonad m] (stops : Searching.Stops m)

/-! ## Nothing left -/

include stops in
/-- When an anchor lies ahead and nothing is left of the text, there is no match. -/
theorem walk_barren (matcher : Matcher m) (text : Text) (fuel matched : Nat)
    {cursor : Cursor} (ahead : Ahead cursor.rest) {position : Position}
    (exhausted : position.rest = []) :
    Barren (matcher.walk text fuel matched cursor position) := by
  induction fuel generalizing matched cursor position with
  | zero => exact .none
  | succ fuel induction =>
      have begins := Demand.begins_ofText cursor.rest
      unfold Matcher.walk
      generalize Demand.ofText cursor.rest = demand at begins
      cases demand <;> dsimp only [Demand.Begins] at begins ⊢
      case nothing => exact absurd begins ahead.present
      case optional inside =>
          apply (induction 0 (ahead.into_optional begins) exhausted).bind stops
          cases found : Pattern.closingOffset ']' '[' 0 inside with
          | none => exact .fail _
          | some offset =>
              exact induction matched (ahead.past_optional begins found _)
                exhausted
      case choice inside =>
          cases found : Pattern.closingOffset ')' '(' 0 inside with
          | none => exact .fail _
          | some offset =>
              refine Barren.bind stops (Barren.firstSome stops ?_) .none
              rintro ⟨start, index⟩ member
              have starts := List.fst_mem_of_mem_zipIdx member
              exact (induction 0 (ahead.into_alternative begins found starts)
                exhausted).bind stops .none
      case placeholder inside =>
          rw [exhausted]
          exact .none
      case capture inside =>
          cases Pattern.regexEndOffset inside with
          | none => exact .fail _
          | some offset =>
              dsimp only
              cases matcher.registry.regexes.compile (inside.take offset) with
              | error reason => exact .fail _
              | ok program =>
                  rw [exhausted]
                  exact Barren.bind stops .none .none
      case bar inside =>
          cases found : Pattern.closingOffset ')' '(' 0 inside with
          | none => exact .fail _
          | some offset =>
              exact induction matched (ahead.past_alternatives begins found)
                exhausted
      case closing => exact induction matched (ahead.past_closing begins) exhausted
      case space =>
          rw [Position.takeSpace, exhausted]
          exact induction matched (ahead.past_space begins) exhausted
      case loneBackslash => exact .fail _
      case letter letter length =>
          rw [Position.takeLetter, exhausted]
          exact .none

/-! ## Less left than there was -/

/-- Less is left of the text than the limit says, or just as much and an anchor
lies ahead. -/
def Narrowed (limit : Nat) (cursor : Cursor) (position : Position) : Prop :=
  position.rest.length < limit ∨ position.rest.length = limit ∧ Ahead cursor.rest

namespace Narrowed

variable {limit : Nat} {cursor later : Cursor} {position next : Position}
  (narrowed : Narrowed limit cursor position)
include narrowed

theorem onward (moves : Ahead cursor.rest → Ahead later.rest) :
    Narrowed limit later position :=
  narrowed.imp_right fun full => ⟨full.1, moves full.2⟩

theorem length_le : position.rest.length ≤ limit := by
  rcases narrowed with short | ⟨full, _⟩
  · exact Nat.le_of_lt short
  · exact Nat.le_of_eq full

theorem taking {taken : Text} (nonempty : taken ≠ [])
    (split : position.rest = taken ++ next.rest) :
    Narrowed limit later next := by
  have bounded := narrowed.length_le
  have positive := List.length_pos_iff.mpr nonempty
  rw [split, List.length_append] at bounded
  left
  omega

/-- A cut takes less than the limit, or it leaves nothing for the anchor. -/
theorem cut {cut : Cut} (splits : cut.Splits position.rest) :
    cut.taken.length < limit ∨ cut.rest = [] ∧ Ahead cursor.rest := by
  have lengths := congrArg List.length splits.joined
  rw [List.length_append] at lengths
  rcases narrowed with short | ⟨full, ahead⟩
  · left
    omega
  · by_cases nothing : cut.rest = []
    · exact .inr ⟨nothing, ahead⟩
    · have positive := List.length_pos_iff.mpr nothing
      left
      omega

end Narrowed

/-- The matchers are alike but for what they make of texts that are not shorter
than the limit. -/
structure AgreeBelow (limit : Nat) (left right : Matcher m) : Prop where
  registry : left.registry = right.registry
  context : left.context = right.context
  minErrorChars : left.minErrorChars = right.minErrorChars
  resolve : ∀ type taken, taken.length < limit → left.resolve type taken =
    right.resolve type taken

section Agreement

variable {limit : Nat} {left right : Matcher m}

include stops in
private theorem AgreeBelow.tryCut_eq (agree : AgreeBelow limit left right)
    {remainder otherRemainder : Cut → m (Option MatchResult)} {cut : Cut}
    (remains : remainder cut = otherRemainder cut)
    (unresolved : cut.taken.length < limit ∨ Barren (remainder cut))
    (slot matched : Nat) (placeholder : Placeholder) (type : RegisteredType) :
    left.tryCut slot placeholder type matched remainder cut =
      right.tryCut slot placeholder type matched otherRemainder cut := by
  rcases unresolved with short | barren
  · exact tryCut_of_resolve agree.context agree.minErrorChars
      (agree.resolve type cut.taken short)
      remains slot placeholder matched
  · unfold tryCut
    rw [← remains]
    rcases barren with nothing | ⟨error, fails⟩
    · rw [nothing, pure_bind, pure_bind]
    · rw [fails, stops, stops]

include stops in
/-- So the matchers walk alike: what the walk resolves is shorter than the limit. -/
theorem AgreeBelow.walk_eq (agree : AgreeBelow limit left right) (text : Text)
    (fuel matched : Nat) {cursor : Cursor} {position : Position}
    (narrowed : Narrowed limit cursor position) :
    left.walk text fuel matched cursor position =
      right.walk text fuel matched cursor position := by
  induction fuel generalizing matched cursor position with
  | zero => rfl
  | succ fuel induction =>
      have begins := Demand.begins_ofText cursor.rest
      unfold Matcher.walk
      generalize Demand.ofText cursor.rest = demand at begins
      cases demand <;> dsimp only [Demand.Begins] at begins ⊢
      case optional inside =>
          rw [induction 0 (narrowed.onward fun ahead => ahead.into_optional begins)]
          apply bind_congr
          intro result
          cases result with
          | some result => rfl
          | none =>
              cases found : Pattern.closingOffset ']' '[' 0 inside with
              | none => rfl
              | some offset =>
                  exact induction matched
                    (narrowed.onward fun ahead =>
                      ahead.past_optional begins found _)
      case choice inside =>
          cases found : Pattern.closingOffset ')' '(' 0 inside with
          | none => rfl
          | some offset =>
              dsimp only
              rw [Searching.firstSome_congr]
              rintro ⟨start, index⟩ member
              have starts := List.fst_mem_of_mem_zipIdx member
              dsimp only
              rw [induction 0 (narrowed.onward fun ahead =>
                ahead.into_alternative begins found starts)]
      case placeholder inside =>
          rw [agree.registry]
          by_cases ended : position.rest.isEmpty
          · rw [if_pos ended, if_pos ended]
          rw [if_neg ended, if_neg ended]
          cases found : Pattern.unescapedOffset '%' inside with
          | none => rfl
          | some offset =>
              apply bind_congr
              intro placeholder
              apply bind_congr
              intro type
              rw [Searching.firstSome_congr]
              intro cut member
              have splits :=
                Cut.ofPlaceholder_splits (mt List.isEmpty_iff.mpr ended) member
              apply agree.tryCut_eq stops
              · exact induction 0
                  (narrowed.taking splits.nonempty splits.joined.symm)
              · refine (narrowed.cut splits).imp_right ?_
                rintro ⟨exhausted, ahead⟩
                exact walk_barren stops left text fuel 0
                  (ahead.past_placeholder begins found)
                  exhausted
      case capture inside =>
          cases Pattern.regexEndOffset inside with
          | none => rfl
          | some offset =>
              dsimp only
              rw [agree.registry]
              cases right.registry.regexes.compile (inside.take offset) with
              | error reason => rfl
              | ok program =>
                  dsimp only
                  rw [Searching.firstSome_congr]
                  intro cut member
                  have splits := Cut.nonempty_splits member
                  have remains : left.walk text fuel 0 (cursor.advance (offset + 2))
                      (position.after cut) =
                        right.walk text fuel 0 _ (position.after cut) :=
                    induction 0 (narrowed.taking splits.nonempty splits.joined.symm)
                  unfold tryCapture
                  dsimp only
                  rw [remains]
      case bar inside =>
          cases found : Pattern.closingOffset ')' '(' 0 inside with
          | none => rfl
          | some offset =>
              exact induction matched
                (narrowed.onward fun ahead => ahead.past_alternatives begins found)
      case closing =>
        exact induction matched (narrowed.onward fun ahead =>
          ahead.past_closing begins)
      case space =>
          cases taken : position.takeSpace with
          | none => rfl
          | some outcome =>
              obtain ⟨count, next⟩ := outcome
              rcases Position.takeSpace_cases taken
                with ⟨rfl, rfl⟩ | ⟨rfl, isRest, _⟩
              · exact induction _ (narrowed.onward fun ahead =>
                  ahead.past_space begins)
              · exact induction _ (narrowed.taking (List.cons_ne_nil ' ' []) isRest)
      case letter letter length =>
          cases taken : position.takeLetter letter with
          | none => rfl
          | some next =>
              obtain ⟨char, _, isRest, _⟩ := Position.takeLetter_cases taken
              exact induction _ (narrowed.taking (List.cons_ne_nil char []) isRest)

include stops in
theorem AgreeBelow.run_eq {pattern text : Text}
    (agree : AgreeBelow text.length left right) (ahead : Ahead pattern) :
    left.run pattern text = right.run pattern text :=
  agree.walk_eq stops text _ 0 (.inr ⟨rfl, ahead⟩)

end Agreement

end Matcher

end Phrasebook
