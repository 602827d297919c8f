import Phrasebook.Proofs.Pattern.Answering
import Phrasebook.Proofs.Pattern.Lexing

/-!
# Anchors of a pattern

A pattern is anchored if a literal character stands in it outside of all
brackets, placeholders and regular expression slots.  As long as a walk has not
got past the anchor, every move leaves it ahead: what a scan finds in front of
it stands where the validity check sees it as well.
-/

namespace Phrasebook.Pattern

/-- The characters that brackets and bars are scanned for, and the backslash. -/
def scanned : Text := ['(', ')', '[', ']', '|', '\\']

namespace Token

/-- The token has no brackets, bars and backslashes inside. -/
def IsBare : Token → Prop
  | .placeholder written => ∀ char ∈ written, char ∉ scanned
  | .regex body => ∀ char ∈ body, char ∉ scanned
  | .char _ | .escaped _ => True

/-- The token is a literal character, and not an unescaped space. -/
def IsLiteral : Token → Prop
  | .char letter => letter ∉ Demand.marks
  | .escaped _ => True
  | .placeholder _ | .regex _ => False

instance : DecidablePred IsBare
  | .placeholder written => List.decidableBAll (fun char => char ∉ scanned) written
  | .regex body => List.decidableBAll (fun char => char ∉ scanned) body
  | .char _ | .escaped _ => .isTrue trivial

instance : DecidablePred IsLiteral
  | .char letter => inferInstanceAs (Decidable (letter ∉ Demand.marks))
  | .escaped _ => .isTrue trivial
  | .placeholder _ | .regex _ => .isFalse fun holds => holds

end Token

/-- The pattern is valid, its placeholders and slots are bare, and it has a literal
character where no brackets are open. -/
structure Anchored (pattern : Text) : Prop where
  valid : validate pattern = .ok ()
  bare : ∀ token ∈ tokens pattern, token.IsBare
  anchor : ∃ earlier anchor later, tokens pattern = earlier ++ anchor :: later ∧
    anchor.IsLiteral ∧ earlier.foldl owedBehind [] = []

/-! ## The part in front of the anchor -/

/-- The text starts with a literal character, which may be escaped. -/
def StartsLiteral (text : Text) : Prop :=
  ∃ first rest, text = first :: rest ∧ (first = '\\' ∨ first ∉ Demand.marks)

/-- An anchor lies ahead where these closing brackets are owed: in front of it
are whole tokens, which close them. -/
def AheadOwing (owed : List Char) (rest : Text) : Prop :=
  ∃ part tokens more, rest = part ++ more ∧ Lexed owed part tokens ∧
    (∀ token ∈ tokens, token.IsBare) ∧ StartsLiteral more

def Ahead (rest : Text) : Prop :=
  ∃ owed, AheadOwing owed rest

private theorem Lexed.front {owed : List Char} {text : Text}
    {earlier later : List Token} {anchor : Token}
    (lexed : Lexed owed text (earlier ++ anchor :: later))
    (isLiteral : anchor.IsLiteral)
    (closed : earlier.foldl owedBehind owed = []) :
    ∃ part more, text = part ++ more ∧ Lexed owed part earlier ∧
    StartsLiteral more := by
  induction earlier generalizing owed text with
  | nil =>
      obtain rfl : owed = [] := closed
      refine ⟨[], text, rfl, .done, ?_⟩
      cases lexed with
      | escaped char _ => exact ⟨'\\', _, rfl, .inl rfl⟩
      | plain _ _ => exact ⟨_, _, rfl, .inr isLiteral⟩
      | opening pair _ =>
          rcases pair with ⟨rfl, rfl⟩ | ⟨rfl, rfl⟩
          · exact absurd (by decide) isLiteral
          · exact absurd (by decide) isLiteral
      | bar _ _ => exact absurd (by decide) isLiteral
      | placeholder _ _ => exact isLiteral.elim
      | slot _ _ => exact isLiteral.elim
  | cons token earlier induction =>
      cases lexed with
      | escaped char lexed =>
          obtain ⟨part, more, rfl, front, starts⟩ := induction lexed closed
          exact ⟨'\\' :: char :: part, more, rfl, .escaped char front, starts⟩
      | plain noMark lexed =>
          rw [List.foldl_cons, owedBehind_plain noMark] at closed
          obtain ⟨part, more, rfl, front, starts⟩ := induction lexed closed
          exact ⟨_ :: part, more, rfl, .plain noMark front, starts⟩
      | opening pair lexed =>
          rw [List.foldl_cons, owedBehind_opening pair] at closed
          obtain ⟨part, more, rfl, front, starts⟩ := induction lexed closed
          exact ⟨_ :: part, more, rfl, .opening pair front, starts⟩
      | closing pair lexed =>
          rw [List.foldl_cons, owedBehind_closing pair] at closed
          obtain ⟨part, more, rfl, front, starts⟩ := induction lexed closed
          exact ⟨_ :: part, more, rfl, .closing pair front, starts⟩
      | bar inChoice lexed =>
          obtain ⟨part, more, rfl, front, starts⟩ := induction lexed closed
          exact ⟨'|' :: part, more, rfl, .bar inChoice front, starts⟩
      | @placeholder _ written _ _ segment lexed =>
          obtain ⟨part, more, rfl, front, starts⟩ := induction lexed closed
          refine ⟨'%' :: (written ++ '%' :: part), more, ?_,
            .placeholder segment front, starts⟩
          simp
      | @slot _ body _ _ noEnd lexed =>
          obtain ⟨part, more, rfl, front, starts⟩ := induction lexed closed
          refine ⟨'<' :: (body ++ '>' :: part), more, ?_, .slot noEnd front, starts⟩
          simp

theorem Anchored.ahead {pattern : Text} (anchored : Anchored pattern) :
    Ahead pattern := by
  obtain ⟨earlier, anchor, later, split, isLiteral, closed⟩ := anchored.anchor
  have lexed := lexed_of_validate anchored.valid
  rw [split] at lexed
  obtain ⟨part, more, rfl, front, starts⟩ := lexed.front isLiteral closed
  refine ⟨[], part, earlier, more, rfl, front, ?_, starts⟩
  intro token member
  apply anchored.bare
  rw [split]
  exact List.mem_append_left _ member

/-! ## What scans find in front of the anchor -/

theorem IsPair.passesOver_one {closing opening char : Char}
    (pair : IsPair closing opening)
    (noMark : char ∉ ['(', ')', '[', ']', '\\']) :
    PassesOver closing opening [char] := by
  simp only [List.mem_cons, List.not_mem_nil, or_false, not_or] at noMark
  obtain ⟨noRound, noRoundEnd, noSquare, noSquareEnd, noEscape⟩ := noMark
  rcases pair with ⟨rfl, rfl⟩ | ⟨rfl, rfl⟩
  · exact .single noEscape noRoundEnd noRound
  · exact .single noEscape noSquareEnd noSquare

theorem IsPair.passesOver_bare {closing opening : Char}
    (pair : IsPair closing opening) {inside : Text}
    (bare : ∀ char ∈ inside, char ∉ scanned) :
    PassesOver closing opening inside := by
  induction inside with
  | nil => exact .nil
  | cons char inside induction =>
      obtain ⟨here, behind⟩ := List.forall_mem_cons.mp bare
      have subset : ['(', ')', '[', ']', '\\'] ⊆ scanned := by decide
      exact (pair.passesOver_one fun member => here (subset member)).append
        (induction behind)

theorem IsPair.distinct {closing opening : Char} (pair : IsPair closing opening) :
    closing ≠ '\\' ∧ opening ≠ '\\' ∧ opening ≠ closing := by
  rcases pair with ⟨rfl, rfl⟩ | ⟨rfl, rfl⟩ <;> decide

theorem IsPair.chars {closing opening : Char} (pair : IsPair closing opening) :
    closing ∈ [')', ']'] ∧ opening ∈ ['(', '['] := by
  rcases pair with ⟨rfl, rfl⟩ | ⟨rfl, rfl⟩ <;> decide

section Kinds

variable {closing opening otherClosing otherOpening : Char}
  (scans : IsPair closing opening) (pair : IsPair otherClosing otherOpening)
include scans pair

theorem IsPair.opening_eq (same : otherClosing = closing) :
    otherOpening = opening := by
  rcases scans with ⟨rfl, rfl⟩ | ⟨rfl, rfl⟩ <;> rcases pair
    with ⟨rfl, rfl⟩ | ⟨rfl, rfl⟩
  · rfl
  · cases same
  · cases same
  · rfl

theorem IsPair.closing_eq (same : otherOpening = opening) :
    otherClosing = closing := by
  rcases scans with ⟨rfl, rfl⟩ | ⟨rfl, rfl⟩ <;> rcases pair
    with ⟨rfl, rfl⟩ | ⟨rfl, rfl⟩
  · rfl
  · cases same
  · cases same
  · rfl

private theorem IsPair.passesOver (other : otherClosing ≠ closing) :
    PassesOver closing opening [otherOpening] ∧
    PassesOver closing opening [otherClosing] := by
  rcases scans with ⟨rfl, rfl⟩ | ⟨rfl, rfl⟩ <;> rcases pair
    with ⟨rfl, rfl⟩ | ⟨rfl, rfl⟩
  · exact absurd rfl other
  · exact ⟨.single (by decide) (by decide) (by decide),
      .single (by decide) (by decide) (by decide)⟩
  · exact ⟨.single (by decide) (by decide) (by decide),
      .single (by decide) (by decide) (by decide)⟩
  · exact absurd rfl other

end Kinds

/-- The scan finds the closing bracket in this part of the text. -/
def Finds (closing opening : Char) (depth : Nat) (part more : Text) : Prop :=
  ∃ offset < part.length, closingOffset closing opening depth (part ++ more) =
    some offset

private theorem Finds.behind {closing opening : Char} {depth : Nat}
    {front part more : Text} (passes : PassesOver closing opening front)
    (finds : Finds closing opening depth part more) :
    Finds closing opening depth (front ++ part) more := by
  obtain ⟨offset, inside, found⟩ := finds
  refine ⟨offset + front.length, ?_, ?_⟩
  · rw [List.length_append]
    omega
  · rw [List.append_assoc, passes, found, Option.map_some]

/-- The closing bracket of a group that is open is found in front of the anchor. -/
theorem Lexed.closes {closing opening : Char} (scans : IsPair closing opening)
    {owed : List Char} {part : Text} {tokens : List Token}
    (lexed : Lexed owed part tokens) (bare : ∀ token ∈ tokens, token.IsBare)
    (more : Text) {depth : Nat} (open_ : depth < owed.count closing) :
    Finds closing opening depth part more := by
  obtain ⟨closes, opens, differ⟩ := scans.distinct
  induction lexed generalizing depth with
  | done => cases open_
  | escaped char _ induction =>
      exact .behind (.escaped char)
        (induction (List.forall_mem_cons.mp bare).2 open_)
  | plain noMark _ induction =>
      have later := induction (List.forall_mem_cons.mp bare).2 open_
      have subset : ['(', ')', '[', ']', '\\'] ⊆ ['[', '(', '%', '<', '|', ')',
          ']', '\\'] := by
        decide
      exact .behind (scans.passesOver_one fun member =>
        noMark (subset member)) later
  | @opening owed otherClosing otherOpening rest _ pair _ induction =>
      have behind := (List.forall_mem_cons.mp bare).2
      by_cases same : otherClosing = closing
      · obtain rfl := scans.opening_eq pair same
        have deeper : depth + 1 < (otherClosing :: owed).count closing := by
          rw [same, List.count_cons_self]
          omega
        obtain ⟨offset, inside, found⟩ := induction behind deeper
        refine ⟨offset + 1, Nat.succ_lt_succ inside, ?_⟩
        rw [List.cons_append, closingOffset_cons opens, if_neg differ,
          if_pos rfl, found, Option.map_some]
      · have count : (otherClosing :: owed).count closing = owed.count closing :=
          List.count_cons_of_ne same
        exact .behind (scans.passesOver pair same).1
          (induction behind (by rwa [count]))
  | @closing owed otherClosing otherOpening rest _ pair _ induction =>
      have behind := (List.forall_mem_cons.mp bare).2
      by_cases same : otherClosing = closing
      · subst same
        rw [List.count_cons_self] at open_
        cases depth with
        | zero =>
            refine ⟨0, Nat.succ_pos _, ?_⟩
            rw [List.cons_append, closingOffset_cons closes, if_pos rfl]
        | succ depth =>
            obtain ⟨offset, inside, found⟩ :=
              induction behind (Nat.lt_of_succ_lt_succ open_)
            refine ⟨offset + 1, Nat.succ_lt_succ inside, ?_⟩
            rw [List.cons_append, closingOffset_cons closes, if_pos rfl]
            dsimp only
            rw [found, Option.map_some]
      · rw [List.count_cons_of_ne same] at open_
        exact .behind (scans.passesOver pair same).2 (induction behind open_)
  | bar _ _ induction =>
      exact .behind (scans.passesOver_one (by decide))
        (induction (List.forall_mem_cons.mp bare).2 open_)
  | @placeholder _ written _ _ _ _ induction =>
      obtain ⟨here, behind⟩ := List.forall_mem_cons.mp bare
      have passes : PassesOver closing opening ('%' :: (written ++ ['%'])) :=
        .between (scans.passesOver_bare here) (scans.passesOver_one (by decide))
          (scans.passesOver_one (by decide))
      rw [cons_append_cons]
      exact .behind passes (induction behind open_)
  | @slot _ body _ _ _ _ induction =>
      obtain ⟨here, behind⟩ := List.forall_mem_cons.mp bare
      have passes : PassesOver closing opening ('<' :: (body ++ ['>'])) :=
        .between (scans.passesOver_bare here) (scans.passesOver_one (by decide))
          (scans.passesOver_one (by decide))
      rw [cons_append_cons]
      exact .behind passes (induction behind open_)

/-! ## Marks that scans find -/

theorem Segment.tail {char : Char} {rest : Text} {count : Nat}
    (noEscape : char ≠ '\\') (segment : Segment (char :: rest) count) :
    ∃ less, Segment rest less := by
  cases segment with
  | escaped _ _ => exact absurd rfl noEscape
  | percent segment => exact ⟨_, segment⟩
  | plain _ _ segment => exact ⟨_, segment⟩

private theorem Segment.behind {part rest : Text} {count : Nat}
    (noEscape : '\\' ∉ part) (segment : Segment (part ++ rest) count) :
    ∃ less, Segment rest less := by
  induction part generalizing count with
  | nil => exact ⟨count, segment⟩
  | cons char part induction =>
      obtain ⟨here, behind⟩ := not_or.mp (mt List.mem_cons.mpr noEscape)
      obtain ⟨less, segment⟩ := segment.tail (Ne.symm here)
      exact induction behind segment

private theorem Segment.split_one {char mark : Char} {text front rest : Text}
    {count : Nat} (noEscape : char ≠ '\\')
    (split : char :: text = front ++ mark :: rest)
    (segment : Segment front count) :
    text = rest ∨ ∃ later less, text = later ++ mark :: rest ∧
    Segment later less := by
  cases front with
  | nil =>
      cases split
      exact .inl rfl
  | cons first front =>
      obtain ⟨rfl, isText⟩ := List.cons.inj split
      obtain ⟨less, whole⟩ := segment.tail noEscape
      exact .inr ⟨front, less, isText, whole⟩

/-- A mark that a scan finds behind the part stands behind it as a whole. -/
theorem Segment.split_behind {part text front rest : Text} {mark : Char}
    {count : Nat} (noEscape : '\\' ∉ part) (noMark : mark ∉ part)
    (split : part ++ text = front ++ mark :: rest)
    (segment : Segment front count) :
    ∃ later less, text = later ++ mark :: rest ∧ Segment later less := by
  rcases List.append_eq_append_iff.mp split with
    ⟨later, rfl, isText⟩ | ⟨others, isPart, isMark⟩
  · obtain ⟨less, whole⟩ := segment.behind noEscape
    exact ⟨later, less, isText, whole⟩
  · cases others with
    | nil => exact ⟨[], 0, isMark.symm, .nil⟩
    | cons first others =>
        cases isMark
        rw [isPart] at noMark
        exact absurd (List.mem_append_right front List.mem_cons_self) noMark

/-- What stands behind a bracket or bar that a scan finds is lexed as well. -/
theorem Lexed.aligned {owed : List Char} {text : Text} {tokens : List Token}
    (lexed : Lexed owed text tokens) (bare : ∀ token ∈ tokens, token.IsBare)
    {mark : Char} (isMark : mark ∈ ['(', ')', '[', ']', '|'])
    {front rest : Text} {count : Nat} (split : text = front ++ mark :: rest)
    (segment : Segment front count) :
    ∃ inner later, Lexed inner rest later ∧ ∀ token ∈ later, token.IsBare := by
  have subset : ['(', ')', '[', ']', '|'] ⊆ scanned := by decide
  have outside {inside : Text} (bareInside : ∀ char ∈ inside, char ∉ scanned)
    {first last : Char}
      (isFirst : first ∉ scanned) (isLast : last ∉ scanned) {char : Char}
      (isScanned : char ∈ scanned) : char ∉ first :: (inside ++ [last]) := by
    simp only [List.mem_cons, List.mem_append, List.not_mem_nil, or_false, not_or]
    refine ⟨?_, fun member => bareInside char member isScanned, ?_⟩
    · rintro rfl
      exact isFirst isScanned
    · rintro rfl
      exact isLast isScanned
  induction lexed generalizing front count with
  | done => cases front <;> cases split
  | @escaped _ char _ _ _ induction =>
      cases front with
      | nil =>
          cases split
          exact absurd isMark (by decide)
      | cons first front =>
          obtain ⟨rfl, isText⟩ := List.cons.inj split
          cases segment with
          | escaped other segment =>
              obtain ⟨_, isRest⟩ := List.cons.inj isText
              exact induction (List.forall_mem_cons.mp bare).2 isRest segment
          | plain noEscape _ _ => exact absurd rfl noEscape
  | @plain _ char _ _ noMark lexed induction =>
      have behind := (List.forall_mem_cons.mp bare).2
      have noEscape : char ≠ '\\' := by
        rintro rfl
        exact noMark (by decide)
      rcases segment.split_one noEscape split
        with rfl | ⟨later, less, isRest, whole⟩
      · exact ⟨_, _, lexed, behind⟩
      · exact induction behind isRest whole
  | opening pair lexed induction =>
      have behind := (List.forall_mem_cons.mp bare).2
      rcases segment.split_one pair.distinct.2.1 split
        with rfl | ⟨later, less, isRest, whole⟩
      · exact ⟨_, _, lexed, behind⟩
      · exact induction behind isRest whole
  | closing pair lexed induction =>
      have behind := (List.forall_mem_cons.mp bare).2
      rcases segment.split_one pair.distinct.1 split
        with rfl | ⟨later, less, isRest, whole⟩
      · exact ⟨_, _, lexed, behind⟩
      · exact induction behind isRest whole
  | bar _ lexed induction =>
      have behind := (List.forall_mem_cons.mp bare).2
      rcases segment.split_one (by decide) split
        with rfl | ⟨later, less, isRest, whole⟩
      · exact ⟨_, _, lexed, behind⟩
      · exact induction behind isRest whole
  | @placeholder _ written _ _ _ _ induction =>
      obtain ⟨here, behind⟩ := List.forall_mem_cons.mp bare
      rw [cons_append_cons] at split
      obtain ⟨later, less, isRest, whole⟩ := segment.split_behind
        (outside here (by decide) (by decide) (by decide))
        (outside here (by decide) (by decide) (subset isMark)) split
      exact induction behind isRest whole
  | @slot _ body _ _ _ _ induction =>
      obtain ⟨here, behind⟩ := List.forall_mem_cons.mp bare
      rw [cons_append_cons] at split
      obtain ⟨later, less, isRest, whole⟩ := segment.split_behind
        (outside here (by decide) (by decide) (by decide))
        (outside here (by decide) (by decide) (subset isMark)) split
      exact induction behind isRest whole

/-! ## Moves -/

namespace AheadOwing

variable {owed : List Char} {rest : Text}

theorem here {mark : Char} (ahead : AheadOwing owed (mark :: rest))
    (isMark : mark ∈ Demand.marks) (noEscape : mark ≠ '\\') :
    ∃ part tokens more, rest = part ++ more ∧ Lexed owed (mark :: part) tokens ∧
      (∀ token ∈ tokens, token.IsBare) ∧ StartsLiteral more := by
  obtain ⟨part, tokens, more, split, lexed, bare, starts⟩ := ahead
  cases part with
  | nil =>
      obtain ⟨first, others, isMore, isLiteral⟩ := starts
      rw [isMore] at split
      cases split
      rcases isLiteral with isEscape | noMark
      · exact absurd isEscape noEscape
      · exact absurd isMark noMark
  | cons first part =>
      obtain ⟨rfl, isRest⟩ := List.cons.inj split
      exact ⟨part, tokens, more, isRest, lexed, bare, starts⟩

theorem opened {closing opening : Char} (pair : IsPair closing opening)
    (ahead : AheadOwing owed (opening :: rest)) :
    AheadOwing (closing :: owed) rest := by
  have isMark : opening ∈ Demand.marks := by
    rcases pair with ⟨_, rfl⟩ | ⟨_, rfl⟩ <;> decide
  obtain ⟨part, tokens, more, rfl, lexed, bare, starts⟩ :=
    ahead.here isMark pair.distinct.2.1
  cases lexed with
  | escaped _ _ => exact absurd pair.chars.2 (by decide)
  | plain noMark _ =>
      rcases pair with ⟨_, rfl⟩ | ⟨_, rfl⟩ <;> exact absurd (by decide) noMark
  | opening other lexed =>
      obtain rfl := pair.closing_eq other rfl
      exact ⟨part, _, more, rfl, lexed, (List.forall_mem_cons.mp bare).2, starts⟩
  | closing other _ =>
      rcases pair with ⟨_, rfl⟩ | ⟨_, rfl⟩ <;>
        exact absurd other.chars.1 (by decide)
  | bar _ _ => exact absurd pair.chars.2 (by decide)
  | placeholder _ _ => exact absurd pair.chars.2 (by decide)
  | slot _ _ => exact absurd pair.chars.2 (by decide)

theorem bar (ahead : AheadOwing owed ('|' :: rest)) :
    ')' ∈ owed ∧ AheadOwing owed rest := by
  obtain ⟨part, tokens, more, rfl, lexed, bare, starts⟩ :=
    ahead.here (by decide) (by decide)
  cases lexed with
  | plain noMark _ => exact absurd (by decide) noMark
  | opening pair _ => exact absurd pair.chars.2 (by decide)
  | closing pair _ => exact absurd pair.chars.1 (by decide)
  | bar inChoice lexed =>
      exact ⟨inChoice, part, _, more, rfl, lexed,
        (List.forall_mem_cons.mp bare).2, starts⟩

theorem space (ahead : AheadOwing owed (' ' :: rest)) : AheadOwing owed rest := by
  obtain ⟨part, tokens, more, rfl, lexed, bare, starts⟩ :=
    ahead.here (by decide) (by decide)
  cases lexed with
  | plain _ lexed =>
      exact ⟨part, _, more, rfl, lexed, (List.forall_mem_cons.mp bare).2,
        starts⟩
  | opening pair _ => exact absurd pair.chars.2 (by decide)
  | closing pair _ => exact absurd pair.chars.1 (by decide)

theorem placeholder {offset : Nat} (ahead : AheadOwing owed ('%' :: rest))
    (found : unescapedOffset '%' rest = some offset) :
    AheadOwing owed (rest.drop (offset + 1)) := by
  obtain ⟨part, tokens, more, rfl, lexed, bare, starts⟩ :=
    ahead.here (by decide) (by decide)
  cases lexed with
  | plain noMark _ => exact absurd (by decide) noMark
  | opening pair _ => exact absurd pair.chars.2 (by decide)
  | closing pair _ => exact absurd pair.chars.1 (by decide)
  | @placeholder _ written later _ segment lexed =>
      rw [List.append_assoc, List.cons_append] at found ⊢
      rw [unescapedOffset_eq segment rfl] at found
      cases found
      rw [List.drop_length_add_append]
      exact ⟨later, _, more, rfl, lexed, (List.forall_mem_cons.mp bare).2, starts⟩

theorem closing {closing : Char} (closes : closing = ')' ∨ closing = ']')
    (ahead : AheadOwing owed (closing :: rest)) : Ahead rest := by
  have isMark : closing ∈ ['(', ')', '[', ']', '|'] ∧ closing ∈ Demand.marks ∧
      closing ≠ '\\' := by
    rcases closes with rfl | rfl <;> decide
  obtain ⟨part, tokens, more, rfl, lexed, bare, starts⟩ :=
    ahead.here isMark.2.1 isMark.2.2
  obtain ⟨inner, later, lexed, bareLater⟩ := lexed.aligned bare isMark.1 rfl .nil
  exact ⟨inner, part, later, more, rfl, lexed, bareLater, starts⟩

/-- Up to the closing bracket of a group that is open, every mark that a scan
finds leaves the anchor ahead. -/
theorem behind_mark {closing opening mark : Char} {closingAt offset : Nat}
    (pair : IsPair closing opening) (ahead : AheadOwing owed rest)
    (owes : closing ∈ owed)
    (found : closingOffset closing opening 0 rest = some closingAt)
    (isMark : mark ∈ ['(', ')', '[', ']', '|'])
    (stands : StandsAt mark rest offset) (inside : offset ≤ closingAt) :
    Ahead (rest.drop (offset + 1)) := by
  obtain ⟨part, tokens, more, rfl, lexed, bare, starts⟩ := ahead
  obtain ⟨place, within, closes⟩ :=
    lexed.closes pair bare more (List.count_pos_iff.mpr owes)
  obtain rfl : place = closingAt := Option.some.inj (closes.symm.trans found)
  obtain ⟨front, behind, count, split, rfl, segment⟩ := stands
  have shorter : front.length < part.length := Nat.lt_of_le_of_lt inside within
  rcases List.append_eq_append_iff.mp split with
    ⟨others, isFront, _⟩ | ⟨others, isPart, isBehind⟩
  · rw [isFront, List.length_append] at shorter
    omega
  · cases others with
    | nil =>
        rw [isPart, List.append_nil] at shorter
        exact absurd shorter (Nat.lt_irrefl _)
    | cons first others =>
        obtain ⟨rfl, rfl⟩ := List.cons.inj isBehind
        obtain ⟨inner, later, lexed, bareLater⟩ :=
          lexed.aligned bare isMark isPart segment
        rw [split, List.drop_length_add_append]
        exact ⟨inner, others, later, more, rfl, lexed, bareLater, starts⟩

end AheadOwing

namespace Ahead

variable {inside : Text} {offset : Nat}

theorem present {rest : Text} (ahead : Ahead rest) : rest ≠ [] := by
  obtain ⟨_, part, _, more, rfl, _, _, first, others, rfl, _⟩ := ahead
  simp

theorem opened {closing opening : Char} (pair : IsPair closing opening)
    (ahead : Ahead (opening :: inside)) : Ahead inside := by
  obtain ⟨owed, ahead⟩ := ahead
  exact ⟨closing :: owed, ahead.opened pair⟩

/-- Behind the group that opens here the anchor is still ahead. -/
theorem closed {closing opening : Char} (pair : IsPair closing opening)
    (ahead : Ahead (opening :: inside))
    (found : closingOffset closing opening 0 inside = some offset) :
    Ahead (inside.drop (offset + 1)) := by
  obtain ⟨owed, ahead⟩ := ahead
  have isMark : closing ∈ ['(', ')', '[', ']', '|'] := by
    rcases pair with ⟨rfl, _⟩ | ⟨rfl, _⟩ <;> decide
  exact (ahead.opened pair).behind_mark pair List.mem_cons_self found isMark
    (closingOffset_stands found) (Nat.le_refl offset)

theorem alternative {start : Nat} (ahead : Ahead ('(' :: inside))
    (found : closingOffset ')' '(' 0 inside = some offset)
    (member : start ∈ alternativeStarts (inside.take offset)) : Ahead
    (inside.drop start) := by
  rcases List.mem_cons.mp member with rfl | member
  · exact ahead.opened .round
  · obtain ⟨place, stands, rfl⟩ := barOffsets_stands member
    obtain ⟨owed, ahead⟩ := ahead
    obtain ⟨front, rest, count, split, rfl, segment⟩ := stands
    have whole : inside = front ++ '|' :: (rest ++ inside.drop offset) := by
      rw [← List.cons_append, ← List.append_assoc, ← split, List.take_append_drop]
    have shorter : front.length ≤ offset := by
      have lengths := congrArg List.length split
      simp only [List.length_take, List.length_append, List.length_cons] at lengths
      omega
    rw [Nat.zero_add]
    exact (ahead.opened .round).behind_mark .round List.mem_cons_self
      found (by decide)
      ⟨front, _, count, whole, rfl, segment⟩ shorter

theorem bar (ahead : Ahead ('|' :: inside))
    (found : closingOffset ')' '(' 0 inside = some offset) :
    Ahead (inside.drop (offset + 1)) := by
  obtain ⟨owed, ahead⟩ := ahead
  obtain ⟨owes, ahead⟩ := ahead.bar
  exact ahead.behind_mark .round owes found (by decide) (closingOffset_stands found)
    (Nat.le_refl offset)

theorem closing {closing : Char} (closes : closing = ')' ∨ closing = ']')
    (ahead : Ahead (closing :: inside)) : Ahead inside := by
  obtain ⟨owed, ahead⟩ := ahead
  exact ahead.closing closes

theorem space (ahead : Ahead (' ' :: inside)) : Ahead inside := by
  obtain ⟨owed, ahead⟩ := ahead
  exact ⟨owed, ahead.space⟩

theorem spaced (ahead : Ahead ('[' :: inside))
    (found : closingOffset ']' '[' 0 inside = some offset)
    (isSpace : (inside.drop (offset + 1)).head? = some ' ') : Ahead
    (inside.drop (offset + 2)) := by
  obtain ⟨rest, isSpace⟩ := List.head?_eq_some_iff.mp isSpace
  have behind := ahead.closed .square found
  rw [isSpace] at behind
  rw [← List.tail_drop, isSpace]
  exact behind.space

theorem placeholder (ahead : Ahead ('%' :: inside))
    (found : unescapedOffset '%' inside = some offset) :
    Ahead (inside.drop (offset + 1)) := by
  obtain ⟨owed, ahead⟩ := ahead
  exact ⟨owed, ahead.placeholder found⟩

end Ahead

end Phrasebook.Pattern
