import Phrasebook.Proofs.Builtins
import Phrasebook.Proofs.Coverage.Walk
import Phrasebook.Proofs.Pattern.Orderly

/-!
# The numbering of placeholders

The slots of a pattern are numbered by pairing its unescaped percent signs,
wherever they stand, while the check of the pattern steps over its placeholders.
Both agree as long as no stray percent sign in a regular expression slot gets in
between.
-/

namespace Phrasebook.Pattern

namespace Token

def text : Token → Text
  | .char letter => [letter]
  | .escaped letter => ['\\', letter]
  | .placeholder written => '%' :: (written ++ ['%'])
  | .regex body => '<' :: (body ++ ['>'])

def written? : Token → Option Text
  | .placeholder written => some written
  | _ => none

theorem eq_of_written {token : Token} {written : Text}
    (isWritten : token.written? = some written) :
    token = .placeholder written := by
  cases token with
  | placeholder other =>
      cases isWritten
      rfl
  | char letter => cases isWritten
  | escaped letter => cases isWritten
  | regex body => cases isWritten

/-- The number of unescaped percent signs that belong to no placeholder. -/
def strays : Token → Nat
  | .regex body => percentCount body
  | _ => 0

def marks (token : Token) : Nat :=
  (if token.written?.isSome then 2 else 0) + token.strays

/-- A placeholder holds no percent sign, and any other token is scanned as a
whole. -/
def IsWhole : Token → Prop
  | .placeholder written => Segment written 0
  | token => Segment token.text token.marks

theorem IsWhole.segment {token : Token} (whole : token.IsWhole) :
    Segment token.text token.marks := by
  cases token with
  | placeholder written => exact .percent (Segment.append whole .single_percent)
  | char letter => exact whole
  | escaped letter => exact whole
  | regex body => exact whole

end Token

/-- The placeholders among the tokens, left to right. -/
def stepped (tokens : List Token) : List Text :=
  tokens.filterMap Token.written?

def strays (tokens : List Token) : Nat :=
  (tokens.map Token.strays).sum

/-- No stray percent sign stands in front of a placeholder. -/
def StraysLate (tokens : List Token) : Prop :=
  tokens.Pairwise fun token later => later.written?.isSome → token.strays = 0

instance : DecidablePred StraysLate :=
  fun tokens => inferInstanceAs (Decidable (tokens.Pairwise _))

/-! ## Tokens are segments -/

theorem Lexed.text {owed : List Char} {text : Text} {tokens : List Token}
    (lexed : Lexed owed text tokens) : tokens.flatMap Token.text = text := by
  induction lexed with
  | done => rfl
  | escaped char _ induction => rw [List.flatMap_cons, induction]; rfl
  | plain _ _ induction => rw [List.flatMap_cons, induction]; rfl
  | opening _ _ induction => rw [List.flatMap_cons, induction]; rfl
  | closing _ _ induction => rw [List.flatMap_cons, induction]; rfl
  | bar _ _ induction => rw [List.flatMap_cons, induction]; rfl
  | placeholder _ _ induction =>
      rw [List.flatMap_cons, induction]
      simp [Token.text]
  | slot _ _ induction =>
      rw [List.flatMap_cons, induction]
      simp [Token.text]

private theorem segment_bracketed (body : Text) :
    Segment ('<' :: (body ++ ['>'])) (percentCount body) := by
  obtain ⟨count, whole⟩ := segment_closed (show '>' ≠ '\\' by decide) body
  have counted : count = percentCount body := by
    rw [← percentCount_segment whole, percentCount_closed (by decide) (by decide)]
  rw [← counted]
  exact .plain (by decide) (by decide) whole

theorem Lexed.whole {owed : List Char} {text : Text} {tokens : List Token}
    (lexed : Lexed owed text tokens) : ∀ token ∈ tokens, token.IsWhole := by
  induction lexed with
  | done => simp
  | escaped char _ induction =>
      exact List.forall_mem_cons.mpr ⟨.escaped char .nil, induction⟩
  | plain noMark _ induction =>
      simp only [List.mem_cons, List.not_mem_nil, or_false, not_or] at noMark
      exact List.forall_mem_cons.mpr ⟨.single noMark.2.2.2.2.2.2.2 noMark.2.2.1,
        induction⟩
  | opening pair _ induction =>
      refine List.forall_mem_cons.mpr ⟨?_, induction⟩
      rcases pair with ⟨rfl, rfl⟩ | ⟨rfl, rfl⟩
      · exact .single (by decide) (by decide)
      · exact .single (by decide) (by decide)
  | closing pair _ induction =>
      refine List.forall_mem_cons.mpr ⟨?_, induction⟩
      rcases pair with ⟨rfl, rfl⟩ | ⟨rfl, rfl⟩
      · exact .single (by decide) (by decide)
      · exact .single (by decide) (by decide)
  | bar _ _ induction =>
      exact List.forall_mem_cons.mpr ⟨.single (by decide) (by decide), induction⟩
  | placeholder segment _ induction =>
      exact List.forall_mem_cons.mpr ⟨segment, induction⟩
  | @slot _ body _ _ _ _ induction =>
      refine List.forall_mem_cons.mpr ⟨?_, induction⟩
      have bracketed := segment_bracketed body
      rwa [← Nat.zero_add (percentCount body)] at bracketed

section Numbering

variable {tokens : List Token}

theorem segment_tokens (whole : ∀ token ∈ tokens, token.IsWhole) :
    Segment (tokens.flatMap Token.text)
      (2 * (stepped tokens).length + strays tokens) := by
  induction tokens with
  | nil => exact .nil
  | cons token tokens induction =>
      obtain ⟨here, behind⟩ := List.forall_mem_cons.mp whole
      have joined := here.segment.append (induction behind)
      have counts : token.marks + (2 * (stepped tokens).length + strays tokens) =
          2 * (stepped (token :: tokens)).length + strays (token :: tokens) := by
        cases steps : token.written? with
        | none => simp [stepped, strays, Token.marks, steps]; omega
        | some written => simp [stepped, strays, Token.marks, steps]; omega
      rwa [counts] at joined

/-! ## Slots -/

/-- Half of the strays are counted as placeholders. -/
theorem slotAfter_tokens (whole : ∀ token ∈ tokens, token.IsWhole) :
    slotAfter (tokens.flatMap Token.text) = (stepped tokens).length +
      strays tokens / 2 := by
  rw [slotAfter, percentCount_segment (segment_tokens whole)]
  omega

/-- A placeholder stands behind those that come before it. -/
theorem stepped_split {slot : Nat} {written : Text}
    (found : (stepped tokens)[slot]? = some written) :
    ∃ earlier later, tokens = earlier ++ .placeholder written :: later ∧
      (stepped earlier).length = slot := by
  induction tokens generalizing slot with
  | nil => cases found
  | cons token tokens induction =>
      cases steps : token.written? with
      | none =>
          rw [stepped, List.filterMap_cons_none steps] at found
          obtain ⟨earlier, later, rfl, count⟩ := induction found
          refine ⟨token :: earlier, later, rfl, ?_⟩
          rwa [stepped, List.filterMap_cons_none steps]
      | some first =>
          rw [stepped, List.filterMap_cons_some steps] at found
          cases slot with
          | zero =>
              cases found
              obtain rfl := Token.eq_of_written steps
              exact ⟨[], tokens, rfl, rfl⟩
          | succ slot =>
              obtain ⟨earlier, later, rfl, count⟩ := induction found
              refine ⟨token :: earlier, later, rfl, ?_⟩
              rw [stepped, List.filterMap_cons_some steps, List.length_cons]
              exact congrArg Nat.succ count

section Split

variable {earlier later : List Token} {written : Text}
  (split : tokens = earlier ++ .placeholder written :: later)
include split

theorem StraysLate.before (late : StraysLate tokens) : strays earlier = 0 := by
  rw [split] at late
  have none : ∀ token ∈ earlier, token.strays = 0 := fun token member =>
    (List.pairwise_append.mp late).2.2 token member _ List.mem_cons_self rfl
  rw [strays, List.sum_eq_zero_iff_forall_eq_nat]
  simpa using none

theorem whole_before (whole : ∀ token ∈ tokens, token.IsWhole) :
    ∀ token ∈ earlier, token.IsWhole := by
  intro token member
  apply whole
  rw [split]
  exact List.mem_append_left _ member

theorem text_split : tokens.flatMap Token.text = earlier.flatMap Token.text ++
    '%' :: (written ++ '%' :: later.flatMap Token.text) := by
  simp [split, Token.text]

end Split

private theorem placeholders_tokens (whole : ∀ token ∈ tokens, token.IsWhole)
    (few : strays tokens ≤ 1) (late : StraysLate tokens) :
    placeholders (tokens.flatMap Token.text) = stepped tokens := by
  have count : (placeholders (tokens.flatMap Token.text)).length =
      (stepped tokens).length := by
    have slots := slotAfter_tokens whole
    rw [length_placeholders, placeholderCount]
    rw [slotAfter] at slots
    omega
  apply List.ext_getElem?
  intro slot
  cases found : (stepped tokens)[slot]? with
  | none =>
      rw [List.getElem?_eq_none_iff] at found ⊢
      omega
  | some written =>
      obtain ⟨earlier, later, split, before⟩ := stepped_split found
      have segment := segment_tokens (whole_before split whole)
      rw [late.before split, before] at segment
      rw [text_split split]
      apply placeholders_at segment
      apply whole (.placeholder written)
      rw [split]
      exact List.mem_append_right earlier List.mem_cons_self

end Numbering

/-- In a valid pattern whose regular expression slots have no unescaped percent
signs, or a single one behind all placeholders, the slots are numbered as the
placeholders are stepped over, and a match has a slot for each of them. -/
theorem slots_agree {pattern : Text} (valid : validate pattern = .ok ())
    (few : strays (tokens pattern) ≤ 1) (late : StraysLate (tokens pattern)) :
    placeholderCount pattern = (stepped (tokens pattern)).length ∧
      placeholders pattern = stepped (tokens pattern) ∧
      (∀ earlier written later, tokens pattern =
        earlier ++ .placeholder written :: later →
        pattern = earlier.flatMap Token.text ++
            '%' :: (written ++ '%' :: later.flatMap Token.text) ∧
          slotAfter (earlier.flatMap Token.text) = (stepped earlier).length) ∧
      ∀ {m : Type → Type} [Searching m] (yielding :
        Searching.Yielding m) (matcher : Matcher m)
        (text : Text) (result : MatchResult),
        yielding.Yields (matcher.run pattern text) (some result) →
          result.exprs.length = (stepped (tokens pattern)).length := by
  have lexed := lexed_of_validate valid
  have count : placeholderCount pattern = (stepped (tokens pattern)).length := by
    have slots := slotAfter_tokens lexed.whole
    rw [lexed.text] at slots
    change slotAfter pattern = _
    omega
  refine ⟨count, ?_, ?_, ?_⟩
  · have listed := placeholders_tokens lexed.whole few late
    rwa [lexed.text] at listed
  · intro earlier written later split
    refine ⟨?_, ?_⟩
    · rw [← text_split split, lexed.text]
    · rw [slotAfter_tokens (whole_before split lexed.whole), late.before split,
        Nat.zero_div, Nat.add_zero]
  · intro m searching yielding matcher text result yields
    rw [Matcher.run_length_exprs yields, count]

theorem slots_of_share :
    let pattern : Text := "\\%%integer% of %string%<%?>"
    let matcher := (⟨.builtins, .script, true, 5⟩ : Attempt).tracked
    validate pattern = .ok () ∧ strays (tokens pattern) = 1 ∧
    placeholderCount pattern = 2 ∧
      placeholders pattern = (["integer", "string"] : List Text) ∧
      ∃ result, (matcher.run pattern "%5 of \"it\"%" ⟨.empty, .empty⟩).1 =
        .ok (some result) ∧
        result.exprs.length = 2 := by
  intro pattern matcher
  have valid : validate pattern = .ok () := rfl
  have few : strays (tokens pattern) ≤ 1 := by decide
  have late : StraysLate (tokens pattern) := by decide
  obtain ⟨count, listed, _, slots⟩ := slots_agree valid few late
  have matched : ∃ result,
    (matcher.run pattern "%5 of \"it\"%" ⟨.empty, .empty⟩).1 =
      .ok (some result) := ⟨_, rfl⟩
  obtain ⟨result, answered⟩ := matched
  exact ⟨valid, rfl, count, listed, result, answered,
    slots Tracked.yielding matcher _ result (Tracked.yields_of_answer answered)⟩

/-- Two percent signs of a regular expression slot pass for a placeholder. -/
theorem slots_misnumbered :
    let pattern : Text := "<%%>%integer%"
    let matcher := (⟨.builtins, .script, false, 5⟩ : Attempt).tracked
    validate pattern = .ok () ∧
    tokens pattern = [.regex "%%", .placeholder "integer"] ∧
      stepped (tokens pattern) = (["integer"] : List Text) ∧
      placeholderCount pattern = 2 ∧
      placeholders pattern = (["", "integer"] : List Text) ∧ slotAfter "<%%>" = 1 ∧
      ∃ result, (matcher.run pattern "%%5" ⟨.empty, .empty⟩).1 = .ok (some result) ∧
        result.exprs.length = 2 :=
  ⟨rfl, rfl, rfl, rfl, rfl, rfl, _, rfl, rfl⟩

end Phrasebook.Pattern
