import Phrasebook.Proofs.Script.Shift

/-!
# Where the lines of a script end

A text is a row of lines, each with its end.  A newline behind a carriage return
belongs to the same end, so a text can be cut behind an end only if it does not
go on with a newline there.
-/

namespace Phrasebook

namespace Text

def Plain (text : Text) : Prop :=
  ∀ char ∈ text, endsLine char = false

/-- The text is not the second half of a pair of line ends. -/
def StartsFresh (text : Text) : Prop :=
  text.head? ≠ some '\n'

/-- What ends a line of a script in front of the rest of the text. -/
inductive LineEnd (rest : Text) : Text → Prop where
  | pair : LineEnd rest ['\r', '\n']
  | single {char : Char} (ends : endsLine char = true)
      (alone : char = '\r' → StartsFresh rest) : LineEnd rest [char]

/-- The text consists of these lines, each with its end. -/
inductive Broken : Text → List Text → Prop where
  | nil : Broken [] []
  | cons {line ending rest : Text} {lines : List Text} (plain : Plain line)
      (ends : LineEnd rest ending) (below : Broken rest lines) :
      Broken (line ++ ending ++ rest) (line :: lines)

/-! ## Texts without line ends -/

theorem Plain.nil : Plain [] :=
  fun _ member => nomatch member

theorem Plain.append_left {left right : Text} (plain : Plain (left ++ right)) :
    Plain left :=
  fun char member => plain char (List.mem_append_left _ member)

theorem Plain.startsFresh {text : Text} (plain : Plain text) :
    StartsFresh text := by
  intro newline
  have not_end := plain '\n' (List.mem_of_mem_head? newline)
  cases not_end

theorem Plain.startsFresh_append {text : Text} (plain : Plain text)
    (present : text ≠ []) (more : Text) : StartsFresh (text ++ more) := by
  obtain ⟨char, rest, rfl⟩ := List.exists_cons_of_ne_nil present
  exact plain.startsFresh

/-! ## The first line of a text -/

theorem foldr_consLine (line head : Text) (rest : List Text) :
    line.foldr consLine (head :: rest) = (line ++ head) :: rest := by
  induction line with
  | nil => rfl
  | cons char line induction =>
      rw [List.foldr_cons, induction]
      rfl

theorem not_pair_of_fresh {char : Char} {rest : Text}
    (alone : char = '\r' → StartsFresh rest) :
    ∀ behind, char = '\r' → rest = '\n' :: behind → False := by
  rintro behind isReturn rfl
  exact alone isReturn rfl

theorem not_pair_of_plain {char : Char} (plain : endsLine char = false)
    {rest : Text} :
    ∀ behind, char = '\r' → rest = '\n' :: behind → False := by
  rintro behind rfl _
  cases plain

/-- However a text is cut into lines, a line is put together from its characters
if they go on with the line. -/
theorem foldr_of_cons {cut : Text → List Text}
    (continues : ∀ char rest, endsLine char = false →
      cut (char :: rest) = consLine char (cut rest))
    {line : Text} (plain : Plain line) (rest : Text) :
    cut (line ++ rest) = line.foldr consLine (cut rest) := by
  induction line with
  | nil => rfl
  | cons char line induction =>
      obtain ⟨first, others⟩ := List.forall_mem_cons.mp plain
      rw [List.cons_append, continues char _ first, induction others,
        List.foldr_cons]

theorem lines_plain {line : Text} (plain : Plain line) (rest : Text) :
    lines (line ++ rest) = line.foldr consLine (lines rest) := by
  apply foldr_of_cons _ plain
  intro char rest continues
  rw [lines_cons (not_pair_of_plain continues),
    if_neg (ne_true_of_eq_false continues)]

theorem lines_single {line : Text} (plain : Plain line) (present : line ≠ []) :
    lines line = [line] := by
  have alone := lines_plain plain []
  rw [List.append_nil] at alone
  rw [alone]
  obtain ⟨start, last, rfl⟩ := List.eq_nil_or_concat line |>.resolve_left present
  rw [List.concat_eq_append, List.foldr_append]
  exact foldr_consLine start [last] []

private theorem LineEnd.lines_eq {rest ending : Text} (ends : LineEnd rest ending) :
    lines (ending ++ rest) = [] :: lines rest := by
  cases ends with
  | pair => rw [List.cons_append, List.cons_append, List.nil_append, lines]
  | single ends alone =>
      rw [List.cons_append, List.nil_append,
        lines_cons (not_pair_of_fresh alone), if_pos ends]

theorem LineEnd.lines_behind {line rest ending : Text} (plain : Plain line)
    (ends : LineEnd rest ending) :
    lines (line ++ ending ++ rest) = line :: lines rest := by
  rw [List.append_assoc, lines_plain plain, ends.lines_eq, foldr_consLine,
    List.append_nil]

private theorem exists_first_line (text : Text) :
    ∃ line, Plain line ∧ (text = line ∨
      ∃ ending rest, text = line ++ ending ++ rest ∧ LineEnd rest ending) := by
  induction text with
  | nil => exact ⟨[], .nil, .inl rfl⟩
  | cons char text induction =>
      by_cases ends : endsLine char = true
      · refine ⟨[], .nil, .inr ?_⟩
        by_cases fresh : char = '\r' → StartsFresh text
        · exact ⟨[char], text, rfl, .single ends fresh⟩
        · obtain ⟨rfl, newline⟩ := Classical.not_imp.mp fresh
          obtain ⟨rest, rfl⟩ :=
            List.head?_eq_some_iff.mp (Classical.not_not.mp newline)
          exact ⟨['\r', '\n'], rest, rfl, .pair⟩
      · obtain ⟨line, plain, split⟩ := induction
        refine ⟨char :: line, ?_, ?_⟩
        · intro other member
          rcases List.mem_cons.mp member with rfl | inner
          · exact Bool.eq_false_iff.mpr ends
          · exact plain other inner
        · rcases split with rfl | ⟨ending, rest, rfl, ended⟩
          · exact .inl rfl
          · exact .inr ⟨ending, rest, rfl, ended⟩

/-- The first line of a script is all of it, or the lines behind its end are the
others. -/
theorem lines_cases {text : Text} (present : lines text ≠ []) :
    ∃ line, Plain line ∧ ((text = line ∧ lines text = [line]) ∨
      ∃ ending rest, text = line ++ ending ++ rest ∧ LineEnd rest ending ∧
        lines text = line :: lines rest) := by
  obtain ⟨line, plain, rfl | ⟨ending, rest, rfl, ends⟩⟩ := exists_first_line text
  · have nonempty : text ≠ [] := by
      rintro rfl
      exact present rfl
    exact ⟨text, plain, .inl ⟨rfl, lines_single plain nonempty⟩⟩
  · exact ⟨line, plain, .inr ⟨ending, rest, rfl, ends, ends.lines_behind plain⟩⟩

/-! ## The lines above -/

theorem StartsFresh.of_append {text more : Text}
    (fresh : StartsFresh (text ++ more)) :
    StartsFresh text := by
  cases text with
  | nil => simp [StartsFresh]
  | cons char text => exact fresh

private theorem StartsFresh.append {text more : Text} (fresh : StartsFresh text)
    (behind : StartsFresh more) : StartsFresh (text ++ more) := by
  cases text with
  | nil => exact behind
  | cons char text => exact fresh

theorem LineEnd.imp {rest other ending : Text} (ends : LineEnd rest ending)
    (fresh : StartsFresh rest → StartsFresh other) : LineEnd other ending := by
  cases ends with
  | pair => exact .pair
  | single ends alone => exact .single ends fun isReturn => fresh (alone isReturn)

theorem LineEnd.append {rest more ending : Text} (ends : LineEnd rest ending)
    (fresh : StartsFresh more) : LineEnd (rest ++ more) ending :=
  ends.imp fun own => own.append fresh

theorem lines_split {text line : Text} {first later : List Text}
    (split : lines text = first ++ line :: later) :
    ∃ above below, text = above ++ line ++ below ∧ Broken above first ∧
    Plain line := by
  induction first generalizing text with
  | nil =>
      obtain ⟨start, plain, ⟨rfl, alone⟩ | ⟨ending, rest, rfl, _, behind⟩⟩ :=
        lines_cases (by rw [split]; simp)
      · obtain ⟨rfl, _⟩ := List.cons.inj (alone.symm.trans split)
        exact ⟨[], [], (List.append_nil _).symm, .nil, plain⟩
      · obtain ⟨rfl, _⟩ := List.cons.inj (behind.symm.trans split)
        exact ⟨[], ending ++ rest, List.append_assoc _ _ _, .nil, plain⟩
  | cons upper first induction =>
      obtain ⟨start, plain, ⟨rfl, alone⟩ | ⟨ending, rest, rfl, ends, behind⟩⟩ :=
        lines_cases (by rw [split]; simp)
      · obtain ⟨_, nothing⟩ := List.cons.inj (alone.symm.trans split)
        exact absurd nothing.symm (by simp)
      · obtain ⟨rfl, others⟩ := List.cons.inj (behind.symm.trans split)
        obtain ⟨above, below, rfl, broken, within⟩ := induction others
        rw [List.append_assoc above] at ends
        have whole := ends.imp StartsFresh.of_append
        exact ⟨start ++ ending ++ above,
          below, by simp, .cons plain whole broken, within⟩

/-- Behind lines with their ends, further lines begin. -/
theorem Broken.lines_append {above more : Text} {first : List Text}
    (broken : Broken above first) (fresh : StartsFresh more) :
    lines (above ++ more) = first ++ lines more := by
  induction broken with
  | nil => rfl
  | cons plain ends below induction =>
      rw [List.append_assoc, (ends.append fresh).lines_behind plain, induction]
      rfl

end Text

theorem NumberedLine.plain_of_mem {source : Text} {line : NumberedLine}
    (member : line ∈ all source) : Text.Plain line.1 := by
  have isLine : line.1 ∈ Text.lines source := by
    rw [← List.zipIdx_map_fst 1 (Text.lines source)]
    exact List.mem_map_of_mem member
  obtain ⟨first, later, split⟩ := List.append_of_mem isLine
  obtain ⟨above, below, _, _, plain⟩ := Text.lines_split split
  exact plain

end Phrasebook
