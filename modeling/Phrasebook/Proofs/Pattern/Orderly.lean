import Phrasebook.Proofs.Pattern.Advance
import Phrasebook.Proofs.Pattern.Lexing

/-!
# Patterns on which no scan goes astray

The check of a pattern does not look into its placeholders and regular
expression slots.  The scans for closing brackets and bars do.  In a valid
pattern they find what the check has found all the same, as long as the brackets
inside of a token are nested, and its bars too where it stands directly in a
choice.
-/

namespace Phrasebook.Pattern

/-! ## Tokens that do not lead scans astray -/

/-- Scans pass over the text inside of the brackets that are owed: its own
brackets are nested, and directly in a choice its bars stand inside of them.
Outside of all brackets nothing is scanned. -/
def Clear (owed : List Char) (text : Text) : Prop :=
  ∀ closing, owed.head? = some closing → Nested (closing != ')') text

/-- A regular expression slot does no harm if scans pass over it.  Directly in a
choice, it may have bars of its own if all of it can stand in a pattern. -/
def ClearSlot (owed : List Char) (body : Text) : Prop :=
  Clear owed body ∨ Nested true body ∧ '%' ∉ body ∧ '<' ∉ body

/-- The rest of a pattern, where these closing brackets are owed, on which no scan
goes astray, which names registered types only, and of which all slots compile. -/
inductive Orderly (registry : Registry) : List Char → Text → Prop where
  | done : Orderly registry [] []
  | escaped {owed : List Char} (char : Char) {rest : Text} :
      Orderly registry owed rest → Orderly registry owed ('\\' :: char :: rest)
  | plain {owed : List Char} {char : Char} {rest : Text}
      (noMark : char ∉ ['[', '(', '%', '<', '|', ')', ']', '\\']) :
      Orderly registry owed rest → Orderly registry owed (char :: rest)
  | opening {owed : List Char} {closing opening : Char} {rest : Text}
      (pair : IsPair closing opening) :
      Orderly registry (closing :: owed) rest →
      Orderly registry owed (opening :: rest)
  | closing {owed : List Char} {closing opening : Char} {rest : Text}
      (pair : IsPair closing opening) :
      Orderly registry owed rest →
      Orderly registry (closing :: owed) (closing :: rest)
  | bar {owed : List Char} {rest : Text} (inChoice : ')' ∈ owed) :
      Orderly registry owed rest → Orderly registry owed ('|' :: rest)
  | placeholder {owed : List Char} {written rest : Text}
      (segment : Segment written 0)
      (clear : Clear owed written)
      (named : registry.checkPlaceholder written = .ok ()) :
      Orderly registry owed rest →
      Orderly registry owed ('%' :: (written ++ '%' :: rest))
  | slot {owed : List Char} {body rest : Text} {program : RegexProgram}
      (noEnd : '>' ∉ body)
      (clear : ClearSlot owed body)
      (compiles : registry.regexes.compile body = .ok program) :
      Orderly registry owed rest →
      Orderly registry owed ('<' :: (body ++ '>' :: rest))

namespace Orderly

variable {registry : Registry} {owed : List Char} {text : Text}

theorem behind_space (orderly : Orderly registry owed (' ' :: text)) :
    Orderly registry owed text := by
  cases orderly with
  | plain _ later => exact later
  | opening pair _ => rcases pair with ⟨_, same⟩ | ⟨_, same⟩ <;> cases same
  | closing pair _ => rcases pair with ⟨same, _⟩ | ⟨same, _⟩ <;> cases same

theorem prepend {inside : Bool} {part : Text} (nested : Nested inside part)
    (noPercent : '%' ∉ part)
    (noSlot : '<' ∉ part) (inChoice : ')' ∈ owed)
    (orderly : Orderly registry owed text) :
    Orderly registry owed (part ++ text) := by
  induction nested generalizing owed text with
  | nil => exact orderly
  | escaped char _ induction =>
      simp only [List.mem_cons, not_or] at noPercent noSlot
      exact .escaped char (induction noPercent.2.2 noSlot.2.2 inChoice orderly)
  | plain noMark _ induction =>
      simp only [List.mem_cons, not_or, List.not_mem_nil, not_false_eq_true,
        and_true]
        at noPercent noSlot noMark
      refine .plain ?_ (induction noPercent.2 noSlot.2 inChoice orderly)
      simp [noMark, Ne.symm noPercent.1, Ne.symm noSlot.1]
  | bar _ induction =>
      simp only [List.mem_cons, not_or] at noPercent noSlot
      exact .bar inChoice (induction noPercent.2 noSlot.2 inChoice orderly)
  | enclosed pair _ _ inner outer =>
      simp only [List.mem_cons, List.mem_append, not_or] at noPercent noSlot
      rw [List.cons_append, List.append_assoc, List.cons_append]
      apply Orderly.opening pair
      apply inner noPercent.2.1 noSlot.2.1 (List.mem_cons_of_mem _ inChoice)
      exact .closing pair (outer noPercent.2.2.2 noSlot.2.2.2 inChoice orderly)

end Orderly

/-! ## What the scans find -/

/-- The scan for a closing bracket that is owed, where the `inner` ones have to
come first, finds it.  It stands behind so much text, in which the alternatives
of a choice start at places from which on the pattern is orderly again. -/
structure Group (registry : Registry) (closing opening : Char)
    (inner outer : List Char) (text inside rest : Text) : Prop where
  split : text = inside ++ closing :: rest
  found : closingOffset closing opening (inner.count closing) text =
    some inside.length
  behind : Orderly registry outer rest
  bars : closing = ')' → ∀ offset start,
    start ∈ barOffsets inner.length offset inside →
    ∃ before later, text = before ++ later ∧ start = offset + before.length ∧
      Orderly registry (')' :: outer) later

namespace Group

variable {registry : Registry} {closing opening : Char} {inner outer : List Char}
  {text inside rest part : Text}

theorem prepend
    (group : Group registry closing opening inner outer text inside rest)
    (passes : PassesOver closing opening part)
    (bars : closing = ')' → ∀ offset start,
      start ∈ barOffsets inner.length offset (part ++ inside) →
      start ∈ barOffsets inner.length (offset + part.length) inside ∨
        ∃ before later, part ++ text = before ++ later ∧
        start = offset + before.length ∧
          Orderly registry (')' :: outer) later) :
    Group registry closing opening inner outer (part ++ text) (part ++ inside)
      rest where
  split := by rw [group.split, List.append_assoc]
  found := by
    rw [passes, group.found, Option.map_some, List.length_append, Nat.add_comm]
  behind := group.behind
  bars := by
    intro isRound offset start member
    rcases bars isRound offset start member with member | inPart
    · obtain ⟨before, later, rfl, rfl, orderly⟩ := group.bars isRound _ start member
      exact ⟨part ++ before, later, by simp, by simp; omega, orderly⟩
    · exact inPart

theorem prepend_nested {deep : Bool} (pair : IsPair closing opening)
    (group : Group registry closing opening inner outer text inside rest)
    (nested : Nested deep part)
    (within : closing = ')' → deep = true → inner ≠ []) :
    Group registry closing opening inner outer (part ++ text) (part ++ inside)
      rest := by
  apply group.prepend (nested.passesOver pair)
  intro isRound offset start member
  left
  rwa [nested.barOffsets_append (Int.natCast_nonneg _)] at member
  intro isDeep
  exact Int.natCast_pos.mpr (List.length_pos_iff.mpr (within isRound isDeep))

theorem prepend_clear {first last : Char} (pair : IsPair closing opening)
    (group : Group registry closing opening inner outer text inside rest)
    (noFirst : first ∉ ['(', ')', '[', ']', '|', '\\'])
    (noLast : last ∉ ['(', ')', '[', ']', '|', '\\'])
    (clear : Clear (inner ++ closing :: outer) part) :
    Group registry closing opening inner outer (first :: (part ++ last :: text))
      (first :: (part ++ last :: inside)) rest := by
  have between {deep : Bool} (nested : Nested deep part) :
      Nested deep (first :: (part ++ [last])) :=
    .plain noFirst (nested.append (.plain noLast .nil))
  rw [cons_append_cons, cons_append_cons first last part inside]
  cases inner with
  | nil =>
      apply group.prepend_nested pair (between (clear closing rfl))
      rintro rfl isDeep
      simp at isDeep
  | cons bracket inner =>
      apply group.prepend_nested pair (between (clear bracket rfl))
      intro _ _ isEmpty
      cases isEmpty

theorem opened {last first : Char} (pair : IsPair closing opening)
    (opens : IsPair last first)
    (group : Group registry closing opening (last :: inner) outer text
      inside rest) :
    Group registry closing opening inner outer (first :: text) (first :: inside)
      rest where
  split := by rw [group.split, List.cons_append]
  found := by
    have found := group.found
    rcases pair with ⟨rfl, rfl⟩ | ⟨rfl, rfl⟩ <;> rcases opens
      with ⟨rfl, rfl⟩ | ⟨rfl, rfl⟩ <;>
      rw [closingOffset_cons (by decide)] <;> simpa using found
  behind := group.behind
  bars := by
    intro isRound offset start member
    have seen : start ∈ barOffsets (last :: inner).length (offset + 1) inside := by
      rcases opens with ⟨rfl, rfl⟩ | ⟨rfl, rfl⟩ <;>
        rw [barOffsets_cons (by decide)] at member <;>
        simpa using member
    obtain ⟨before, later, rfl, rfl, orderly⟩ := group.bars isRound _ start seen
    exact ⟨first :: before, later, rfl, by simp; omega, orderly⟩

theorem closed {last first : Char} (pair : IsPair closing opening)
    (closes : IsPair last first)
    (group : Group registry closing opening inner outer text inside rest) :
    Group registry closing opening (last :: inner) outer (last :: text)
      (last :: inside) rest where
  split := by rw [group.split, List.cons_append]
  found := by
    have found := group.found
    rcases pair with ⟨rfl, rfl⟩ | ⟨rfl, rfl⟩ <;> rcases closes
      with ⟨rfl, rfl⟩ | ⟨rfl, rfl⟩ <;>
      rw [closingOffset_cons (by decide)] <;> simpa using found
  behind := group.behind
  bars := by
    intro isRound offset start member
    have seen : start ∈ barOffsets inner.length (offset + 1) inside := by
      rcases closes with ⟨rfl, rfl⟩ | ⟨rfl, rfl⟩ <;>
        rw [barOffsets_cons (by decide)] at member <;>
        simpa using member
    obtain ⟨before, later, rfl, rfl, orderly⟩ := group.bars isRound _ start seen
    exact ⟨last :: before, later, rfl, by simp; omega, orderly⟩

theorem here (pair : IsPair closing opening)
    (orderly : Orderly registry outer rest) :
    Group registry closing opening [] outer (closing :: rest) [] rest where
  split := rfl
  found := by
    have noEscape : closing ≠ '\\' := by
      rcases pair with ⟨rfl, rfl⟩ | ⟨rfl, rfl⟩ <;> decide
    rw [closingOffset_cons noEscape, if_pos rfl]
    rfl
  behind := orderly
  bars := by
    intro _ offset start member
    cases member

end Group

/-- Behind a bar of a nested text that a choice sees, the text is nested again. -/
theorem Nested.bar_cases {deep : Bool} {part : Text} (nested : Nested deep part)
    {offset start : Nat} {rest : Text}
    (member : start ∈ barOffsets 0 offset (part ++ rest)) :
    start ∈ barOffsets 0 (offset + part.length) rest ∨
      ∃ before behind, part = before ++ '|' :: behind ∧
      start = offset + (before.length + 1) ∧
        Nested deep behind := by
  induction nested generalizing offset with
  | nil => exact .inl member
  | @escaped _ char part nested induction =>
      rw [List.cons_append, List.cons_append, barOffsets_escaped] at member
      rcases induction member with later | ⟨before, behind, rfl, rfl, nested⟩
      · left
        rwa [Nat.add_assoc, Nat.add_comm 2] at later
      · exact .inr ⟨'\\' :: char :: before, behind, rfl, by simp; omega, nested⟩
  | @plain _ char part noMark nested induction =>
      rw [List.cons_append, barOffsets_plain noMark] at member
      rcases induction member with later | ⟨before, behind, rfl, rfl, nested⟩
      · left
        rwa [Nat.add_assoc, Nat.add_comm 1] at later
      · exact .inr ⟨char :: before, behind, rfl, by simp; omega, nested⟩
  | @bar part nested induction =>
      rw [List.cons_append, barOffsets_atBar] at member
      rcases List.mem_cons.mp member with rfl | member
      · exact .inr ⟨[], part, rfl, rfl, nested⟩
      · rcases induction member with later | ⟨before, behind, rfl, rfl, nested⟩
        · left
          rwa [Nat.add_assoc, Nat.add_comm 1] at later
        · exact .inr ⟨'|' :: before, behind, rfl, by simp; omega, nested⟩
  | @enclosed _ closing opening part later pair inside nested _ outer =>
      rw [List.cons_append, List.append_assoc, List.cons_append,
        barOffsets_enclosed pair
          (inside.barOffsets_append (by decide) fun _ => by decide)] at member
      rcases outer member with member | ⟨before, behind, rfl, rfl, nested⟩
      · left
        have total : offset + (part.length + 2) + later.length =
            offset + (opening :: (part ++ closing :: later)).length := by
          simp only [List.length_cons, List.length_append]
          omega
        rwa [total] at member
      · right
        refine ⟨opening :: (part ++ closing :: before), behind, by simp, ?_, nested⟩
        simp only [List.length_cons, List.length_append]
        omega

namespace Group

variable {registry : Registry} {closing opening : Char} {inner outer : List Char}
  {text inside rest part : Text}

theorem prepend_bar (pair : IsPair closing opening)
    (group : Group registry closing opening inner outer text inside rest)
    (orderly : Orderly registry (inner ++ closing :: outer) text) :
    Group registry closing opening inner outer ('|' :: text) ('|' :: inside)
      rest := by
  cases inner with
  | cons bracket inner =>
      have nested : Nested true ['|'] := .bar .nil
      apply group.prepend_nested pair nested
      intro _ _ isEmpty
      cases isEmpty
  | nil =>
      apply group.prepend ((Nested.bar .nil).passesOver pair)
      rintro rfl offset start member
      change start ∈ barOffsets 0 offset ('|' :: inside) at member
      rw [barOffsets_atBar] at member
      rcases List.mem_cons.mp member with rfl | member
      · exact .inr ⟨['|'], text, rfl, rfl, orderly⟩
      · exact .inl member

theorem prepend_slot (pair : IsPair closing opening)
    (group : Group registry closing opening inner outer text inside rest)
    (nested : Nested true part) (noPercent : '%' ∉ part) (noSlot : '<' ∉ part)
    (orderly : Orderly registry (inner ++ closing :: outer) text) :
    Group registry closing opening inner outer ('<' :: (part ++ '>' :: text))
      ('<' :: (part ++ '>' :: inside)) rest := by
  have between : Nested true ('<' :: (part ++ ['>'])) :=
    .plain (by decide) (nested.append (.plain (by decide) .nil))
  rw [cons_append_cons, cons_append_cons '<' '>' part inside]
  cases inner with
  | cons bracket inner =>
      apply group.prepend_nested pair between
      intro _ _ isEmpty
      cases isEmpty
  | nil =>
      apply group.prepend (between.passesOver pair)
      rintro rfl offset start member
      rcases between.bar_cases member
        with later | ⟨before, behind, split, rfl, nested⟩
      · exact .inl later
      right
      cases before with
      | nil => cases split
      | cons first before =>
          obtain ⟨rfl, isPart⟩ := List.cons.inj split
          have inPart : ∀ char ∈ behind, char ∈ part ++ ['>'] := by
            intro char member
            rw [isPart]
            exact List.mem_append_right before (List.mem_cons_of_mem '|' member)
          refine ⟨'<' :: (before ++ ['|']), behind ++ text, ?_, by simp, ?_⟩
          · rw [isPart]
            simp
          · apply orderly.prepend nested _ _ List.mem_cons_self
            · intro member
              simpa [noPercent] using inPart '%' member
            · intro member
              simpa [noSlot] using inPart '<' member

end Group

namespace Orderly

variable {registry : Registry} {owed : List Char} {text : Text}

/-- The scan for a closing bracket that is owed does not go astray. -/
theorem group {closing opening : Char} {inner outer : List Char}
    (pair : IsPair closing opening) (orderly : Orderly registry owed text)
    (isOwed : owed = inner ++ closing :: outer) :
    ∃ inside rest, Group registry closing opening inner outer text inside rest := by
  induction orderly generalizing inner with
  | done => cases inner <;> cases isOwed
  | escaped char _ induction =>
      obtain ⟨inside, rest, group⟩ := induction isOwed
      have nested : Nested false ['\\', char] := .escaped char .nil
      exact ⟨_, rest, group.prepend_nested pair nested (by simp)⟩
  | @plain _ char _ noMark _ induction =>
      obtain ⟨inside, rest, group⟩ := induction isOwed
      have nested : Nested false [char] := .plain (by simp_all) .nil
      exact ⟨_, rest, group.prepend_nested pair nested (by simp)⟩
  | @opening _ last _ _ opens _ induction =>
      obtain ⟨inside, rest, group⟩ :=
        @induction (last :: inner) (by rw [isOwed]; rfl)
      exact ⟨_, rest, group.opened pair opens⟩
  | closing closes orderly induction =>
      cases inner with
      | nil =>
          cases isOwed
          exact ⟨[], _, .here pair orderly⟩
      | cons bracket inner =>
          cases isOwed
          obtain ⟨inside, rest, group⟩ := induction rfl
          exact ⟨_, rest, group.closed pair closes⟩
  | bar inChoice orderly induction =>
      obtain ⟨inside, rest, group⟩ := induction isOwed
      subst isOwed
      exact ⟨_, rest, group.prepend_bar pair orderly⟩
  | placeholder segment clear named orderly induction =>
      obtain ⟨inside, rest, group⟩ := induction isOwed
      subst isOwed
      exact ⟨_, rest, group.prepend_clear pair (by decide) (by decide) clear⟩
  | slot noEnd clear reads orderly induction =>
      obtain ⟨inside, rest, group⟩ := induction isOwed
      subst isOwed
      rcases clear with clear | ⟨nested, noPercent, noSlot⟩
      · exact ⟨_, rest, group.prepend_clear pair (by decide) (by decide) clear⟩
      · exact ⟨_, rest, group.prepend_slot pair nested noPercent noSlot orderly⟩

end Orderly

/-! ## Orderly patterns from valid ones -/

/-- A token that does not lead scans astray where these closing brackets are
owed.  A slot has its unescaped percent signs in pairs, so that it does not
shift the placeholders that are listed. -/
def Token.Clear (owed : List Char) : Token → Prop
  | .placeholder written => Pattern.Clear owed written
  | .regex body => percentCount body % 2 = 0 ∧ ClearSlot owed body
  | .char _ | .escaped _ => True

def AllClear : List Char → List Token → Prop
  | _, [] => True
  | owed, token :: tokens =>
      token.Clear owed ∧ AllClear (owedBehind owed token) tokens

theorem percentCount_closed {last : Char} (noEscape : last ≠ '\\')
    (noPercent : last ≠ '%') (text : Text) :
    percentCount (text ++ [last]) = percentCount text := by
  fun_induction percentCount text with
  | case1 => simp [percentCount, noEscape, noPercent]
  | case2 => simp [percentCount]
  | case3 char rest induction => simpa [percentCount_escaped] using induction
  | case4 char rest lone escape induction =>
      rw [List.cons_append, percentCount_cons (noEscape_of_cases lone escape),
        induction]

/-- What is known of the rest of a pattern with these tokens, where so much
stands before it. -/
structure Vetted (registry : Registry) (owed : List Char) (before rest : Text)
    (tokens : List Token) : Prop where
  clear : AllClear owed tokens
  compiles : ∀ body, .regex body ∈ tokens →
    ∃ program, registry.regexes.compile body = .ok program
  segment : ∃ slot, Segment before (2 * slot)
  named : ∀ written ∈ placeholders (before ++ rest),
    registry.checkPlaceholder written = .ok ()

namespace Vetted

variable {registry : Registry} {owed : List Char} {before rest : Text}
  {token : Token} {tokens : List Token}

theorem behind (part : Text) (count : Nat)
    (vetted : Vetted registry owed before (part ++ rest) (token :: tokens))
    (whole : Segment part (2 * count)) :
    Vetted registry (owedBehind owed token) (before ++ part) rest tokens where
  clear := vetted.clear.2
  compiles := by
    intro body member
    exact vetted.compiles body (List.mem_cons_of_mem token member)
  segment := by
    obtain ⟨slot, segment⟩ := vetted.segment
    exact ⟨slot + count, Nat.mul_add 2 slot count ▸ segment.append whole⟩
  named := by
    rw [List.append_assoc]
    exact vetted.named

private theorem behind_single {char : Char}
    (vetted : Vetted registry owed before (char :: rest)
      (token :: tokens)) (noEscape : char ≠ '\\') (noPercent : char ≠ '%') :
    Vetted registry (owedBehind owed token) (before ++ [char]) rest tokens :=
  vetted.behind [char] 0 (.single noEscape noPercent)

private theorem placeholder_named {written : Text}
    (vetted : Vetted registry owed before ('%' :: (written ++ '%' :: rest)) tokens)
    (segment : Segment written 0) : registry.checkPlaceholder written = .ok () := by
  obtain ⟨slot, whole⟩ := vetted.segment
  exact vetted.named written (List.mem_of_getElem? (placeholders_at whole segment))

end Vetted

/-- A valid pattern without misleading tokens is orderly, if the placeholders
that are listed for it name registered types. -/
theorem Lexed.orderly {registry : Registry} {owed : List Char}
    {before text : Text} {tokens : List Token} (lexed : Lexed owed text tokens)
    (vetted : Vetted registry owed before text tokens) :
    Orderly registry owed text := by
  induction lexed generalizing before with
  | done => exact .done
  | escaped char _ induction =>
      exact .escaped char
        (induction (vetted.behind ['\\', char] 0 (.escaped char .nil)))
  | plain noMark _ induction =>
      have later := vetted.behind_single (by simp_all) (by simp_all)
      rw [owedBehind_plain noMark] at later
      exact .plain noMark (induction later)
  | opening pair _ induction =>
      apply Orderly.opening pair
      rcases pair with ⟨rfl, rfl⟩ | ⟨rfl, rfl⟩
      · exact induction (vetted.behind_single (by decide) (by decide))
      · exact induction (vetted.behind_single (by decide) (by decide))
  | closing pair _ induction =>
      apply Orderly.closing pair
      rcases pair with ⟨rfl, rfl⟩ | ⟨rfl, rfl⟩
      · exact induction (vetted.behind_single (by decide) (by decide))
      · exact induction (vetted.behind_single (by decide) (by decide))
  | bar inChoice _ induction =>
      exact .bar inChoice (induction (vetted.behind_single (by decide) (by decide)))
  | @placeholder _ written rest _ segment _ induction =>
      have named := vetted.placeholder_named segment
      have whole : Segment ('%' :: (written ++ ['%'])) (2 * 1) :=
        .percent (segment.append .single_percent)
      refine .placeholder segment vetted.clear.1 named ?_
      rw [cons_append_cons] at vetted
      exact induction (vetted.behind _ 1 whole)
  | @slot _ body rest _ noEnd _ induction =>
      obtain ⟨program, compiles⟩ := vetted.compiles body List.mem_cons_self
      obtain ⟨even, clear⟩ := vetted.clear.1
      obtain ⟨count, whole⟩ := segment_closed (show '>' ≠ '\\' by decide) body
      have counted : count = percentCount body := by
        rw [← percentCount_segment whole,
          percentCount_closed (by decide) (by decide)]
      have double : count = 2 * (count / 2) := by omega
      refine .slot noEnd clear compiles ?_
      rw [cons_append_cons] at vetted
      rw [double] at whole
      exact induction (vetted.behind _ _ (.plain (by decide) (by decide) whole))

end Phrasebook.Pattern
