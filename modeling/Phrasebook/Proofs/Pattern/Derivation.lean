import Phrasebook.Proofs.Pattern.Lexing

/-!
# The grammar of valid patterns

The check of a pattern is a single walk with a stack of the closing brackets
that are owed.  The grammar of patterns knows no stack: brackets enclose what is
derived inside of them.  Both admit the same patterns, since what remains of a
pattern without faults is split by the brackets that are owed into parts that
the grammar derives.
-/

namespace Phrasebook.Pattern

/-- The texts that the grammar of patterns derives.  Bars may stand in them,
outside of the brackets of the text itself, if the text stands somewhere inside
of a choice. -/
inductive Derives : Bool → Text → Prop where
  | nil {inChoice : Bool} : Derives inChoice []
  | plain {inChoice : Bool} {char : Char} {rest : Text}
      (noMark : char ∉ ['[', '(', '%', '<', '|', ')', ']', '\\']) :
      Derives inChoice rest → Derives inChoice (char :: rest)
  | escaped {inChoice : Bool} (char : Char) {rest : Text} :
      Derives inChoice rest → Derives inChoice ('\\' :: char :: rest)
  | choice {inChoice : Bool} {inside rest : Text} :
      Derives true inside → Derives inChoice rest →
      Derives inChoice ('(' :: (inside ++ ')' :: rest))
  | optional {inChoice : Bool} {inside rest : Text} :
      Derives inChoice inside → Derives inChoice rest →
      Derives inChoice ('[' :: (inside ++ ']' :: rest))
  | bar {rest : Text} : Derives true rest → Derives true ('|' :: rest)
  /-- What stands between percent signs consists of escaped characters and of
  characters that neither escape nor are percent signs. -/
  | placeholder {inChoice : Bool} {written rest : Text}
      (segment : Segment written 0) (present : written ≠ []) :
      Derives inChoice rest → Derives inChoice ('%' :: (written ++ '%' :: rest))
  | slot {inChoice : Bool} {body rest : Text} (noEnd : '>' ∉ body) :
      Derives inChoice rest → Derives inChoice ('<' :: (body ++ '>' :: rest))

/-! ## Steps of the check -/

section Steps

variable {owed : List Char} {rest : Text}

theorem faultFrom_unmarked {char : Char}
    (noMark : char ∉ ['[', '(', '%', '<', '|', ')', ']', '\\']) :
    faultFrom (.plain owed) (char :: rest) = faultFrom (.plain owed) rest := by
  simp only [List.mem_cons, List.not_mem_nil, or_false, not_or] at noMark
  obtain ⟨noSquare, noRound, noPercent, noAngle, noBar, noRoundEnd, noSquareEnd,
      noEscape⟩ :=
    noMark
  rw [faultFrom_plain noEscape]
  simp [noSquare, noRound, noPercent, noAngle, noBar, noRoundEnd, noSquareEnd]

theorem faultFrom_opening {closing opening : Char} (pair : IsPair closing opening) :
    faultFrom (.plain owed) (opening :: rest) =
      faultFrom (.plain (closing :: owed)) rest := by
  rcases pair with ⟨rfl, rfl⟩ | ⟨rfl, rfl⟩ <;> simp [faultFrom_plain]

theorem faultFrom_closing {closing opening : Char} (pair : IsPair closing opening) :
    faultFrom (.plain (closing :: owed)) (closing :: rest) =
      faultFrom (.plain owed) rest := by
  rcases pair with ⟨rfl, rfl⟩ | ⟨rfl, rfl⟩ <;> simp [faultFrom_plain]

theorem faultFrom_bar (inChoice : ')' ∈ owed) :
    faultFrom (.plain owed) ('|' :: rest) = faultFrom (.plain owed) rest := by
  simp [faultFrom_plain, inChoice]

private theorem faultFrom_written {written : Text} {count : Nat}
    (segment : Segment written count) (none : count = 0) :
    faultFrom (.placeholder owed) (written ++ '%' :: rest) =
      faultFrom (.plain owed) rest := by
  induction segment with
  | nil => rw [List.nil_append, faultFrom_placeholder (by decide), if_pos rfl]
  | escaped char _ induction => exact induction none
  | percent _ _ => cases none
  | plain noEscape noPercent _ induction =>
      rw [List.cons_append, faultFrom_placeholder noEscape, if_neg noPercent,
        induction none]

/-- A placeholder is passed over, unless it is empty. -/
theorem faultFrom_enclosed {written : Text} (segment : Segment written 0) :
    faultFrom (.plain owed) ('%' :: (written ++ '%' :: rest)) =
      if written = [] then some .emptyPlaceholder
          else faultFrom (.plain owed) rest := by
  have opened : ∀ later, faultFrom (.plain owed) ('%' :: later) =
      faultFrom (.placeholderStart owed) later := by
    intro later
    simp [faultFrom_plain]
  rw [opened]
  cases segment with
  | nil => rfl
  | escaped char segment => exact faultFrom_written segment rfl
  | @plain char later _ noEscape noPercent segment =>
      have started :
        faultFrom (.placeholderStart owed) (char :: (later ++ '%' :: rest)) =
          faultFrom (.placeholder owed) (later ++ '%' :: rest) := by
        simp [faultFrom, noEscape, noPercent]
      rw [List.cons_append, started, faultFrom_written segment rfl,
        if_neg (List.cons_ne_nil _ _)]

theorem faultFrom_slot {body : Text} (noEnd : '>' ∉ body) :
    faultFrom (.plain owed) ('<' :: (body ++ '>' :: rest)) =
      faultFrom (.plain owed) rest := by
  have opened : ∀ later, faultFrom (.plain owed) ('<' :: later) =
      faultFrom (.regex owed) later := by
    intro later
    simp [faultFrom_plain]
  rw [opened]
  clear opened
  induction body with
  | nil => rw [List.nil_append, faultFrom_regex, if_pos rfl]
  | cons char body induction =>
      simp only [List.mem_cons, not_or] at noEnd
      rw [List.cons_append, faultFrom_regex, if_neg (Ne.symm noEnd.1),
        induction noEnd.2]

end Steps

/-! ## What is derived has no faults -/

/-- What the grammar derives is passed over, whatever brackets are owed there. -/
theorem Derives.faultFrom_append {inChoice : Bool} {part : Text}
    (derives : Derives inChoice part)
    {owed : List Char} (within : inChoice = true → ')' ∈ owed) (rest : Text) :
    faultFrom (.plain owed) (part ++ rest) = faultFrom (.plain owed) rest := by
  induction derives generalizing owed rest with
  | nil => rfl
  | plain noMark _ induction =>
      rw [List.cons_append, faultFrom_unmarked noMark, induction within]
  | escaped char _ induction =>
      rw [List.cons_append, List.cons_append, faultFrom_escaped, induction within]
  | choice _ _ inner outer =>
      rw [List.cons_append, List.append_assoc, List.cons_append,
        faultFrom_opening .round,
        inner fun _ => List.mem_cons_self, faultFrom_closing .round, outer within]
  | optional _ _ inner outer =>
      rw [List.cons_append, List.append_assoc, List.cons_append,
        faultFrom_opening .square,
        inner fun inChoice => List.mem_cons_of_mem ']' (within inChoice),
        faultFrom_closing .square, outer within]
  | bar _ induction =>
      rw [List.cons_append, faultFrom_bar (within rfl), induction within]
  | placeholder segment present _ induction =>
      rw [List.cons_append, List.append_assoc, List.cons_append,
        faultFrom_enclosed segment, if_neg present, induction within]
  | slot noEnd _ induction =>
      rw [List.cons_append, List.append_assoc, List.cons_append,
        faultFrom_slot noEnd, induction within]

/-! ## What has no faults is derived -/

/-- The brackets that are owed stand in the text one after the other, and the
parts between them are derived, each inside of those that are still owed. -/
inductive Settles : List Char → Text → Prop where
  | done {text : Text} : Derives false text → Settles [] text
  | owed {closing : Char} {outer : List Char} {part rest : Text} :
      Derives ((closing :: outer).contains ')') part → Settles outer rest →
      Settles (closing :: outer) (part ++ closing :: rest)

namespace Settles

variable {owed : List Char} {text : Text}

theorem prepend (settles : Settles owed text) (front : Text)
    (extends_ : ∀ part, Derives (owed.contains ')') part →
      Derives (owed.contains ')') (front ++ part)) :
    Settles owed (front ++ text) := by
  cases settles with
  | done derives => exact .done (extends_ text derives)
  | owed derives rest =>
      rw [← List.append_assoc]
      exact .owed (extends_ _ derives) rest

/-- With a bracket in front, the first part and its closing bracket become one
of the brackets' items. -/
theorem opened {closing opening : Char} (pair : IsPair closing opening)
    (settles : Settles (closing :: owed) text) :
    Settles owed (opening :: text) := by
  cases settles with
  | @owed _ _ part rest derives later =>
      have apart : opening :: (part ++ closing :: rest) =
          (opening :: (part ++ [closing])) ++ rest := by simp
      rw [apart]
      apply later.prepend
      intro behind derivesBehind
      rcases pair with ⟨rfl, rfl⟩ | ⟨rfl, rfl⟩
      · simpa using Derives.choice derives derivesBehind
      · simpa using Derives.optional derives derivesBehind

end Settles

/-- The rest of a pattern without faults settles what is owed. -/
theorem Lexed.settles {owed : List Char} {text : Text} {tokens : List Token}
    (lexed : Lexed owed text tokens)
    (faultless : faultFrom (.plain owed) text = none) :
    Settles owed text := by
  induction lexed with
  | done => exact .done .nil
  | escaped char _ induction =>
      rw [faultFrom_escaped] at faultless
      exact (induction faultless).prepend ['\\', char] fun _ => .escaped char
  | @plain _ char _ _ noMark _ induction =>
      rw [faultFrom_unmarked noMark] at faultless
      exact (induction faultless).prepend [char] fun _ => .plain noMark
  | opening pair _ induction =>
      rw [faultFrom_opening pair] at faultless
      exact (induction faultless).opened pair
  | @closing owed closing _ rest _ pair _ induction =>
      rw [faultFrom_closing pair] at faultless
      exact @Settles.owed closing owed [] rest .nil (induction faultless)
  | bar inChoice _ induction =>
      rw [faultFrom_bar inChoice] at faultless
      apply (induction faultless).prepend ['|']
      rw [List.contains_iff_mem.mpr inChoice]
      exact fun _ => .bar
  | @placeholder _ written rest _ segment _ induction =>
      rw [faultFrom_enclosed segment] at faultless
      split at faultless
      · cases faultless
      · rename_i present
        rw [cons_append_cons]
        apply (induction faultless).prepend
        intro part derives
        rw [← cons_append_cons]
        exact .placeholder segment present derives
  | slot noEnd _ induction =>
      rw [faultFrom_slot noEnd] at faultless
      rw [cons_append_cons]
      apply (induction faultless).prepend
      intro part derives
      rw [← cons_append_cons]
      exact .slot noEnd derives

theorem fault_eq_none_iff (pattern : Text) :
    fault? pattern = none ↔ Derives false pattern := by
  constructor
  · intro faultless
    cases (lexed_of_valid faultless).settles faultless with
    | done derives => exact derives
  · intro derives
    have passed : faultFrom (.plain []) (pattern ++ []) =
        faultFrom (.plain []) [] :=
      derives.faultFrom_append (fun inChoice => by cases inChoice) []
    rwa [List.append_nil] at passed

theorem Derives.validate_eq {pattern : Text} (derives : Derives false pattern) :
    validate pattern = .ok () := by
  rw [validate, (fault_eq_none_iff pattern).mpr derives]

/-- The check accepts exactly the patterns that the grammar derives, and fails
on all others with a fault of the pattern. -/
theorem validate_decides (pattern : Text) :
    (validate pattern = .ok () ↔ Derives false pattern) ∧
      (¬ Derives false pattern →
        ∃ fault, validate pattern = .error (.malformedPattern pattern fault)) := by
  rw [← fault_eq_none_iff]
  cases found : fault? pattern with
  | none => simp [validate, found]
  | some fault => simp [validate, found]

end Phrasebook.Pattern
