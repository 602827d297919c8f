import Phrasebook.Proofs.Script.Breaks

/-!
# Lines as an editor counts them

An editor ends a line at a newline, at a carriage return, or at the pair of
them, and nowhere else.  An analysis ends lines at further characters.  Each of
them in a document moves all that stands behind it one line further down for the
analysis, but not for the editor.
-/

namespace Phrasebook

namespace Editor

/-- The characters that end a line of a document. -/
def endsLine (char : Char) : Bool :=
  char == '\n' || char == '\r'

/-- The lines of a document.  Behind a line end there is always one more line. -/
def lines : Text → List Text
  | [] => [[]]
  | '\r' :: '\n' :: rest => [] :: lines rest
  | char :: rest => if endsLine char then [] :: lines rest
      else Text.consLine char (lines rest)

end Editor

namespace Text

/-- The character ends a line of a script, but not of a document in an editor. -/
def isForeignEnd (char : Char) : Bool :=
  endsLine char && !Editor.endsLine char

end Text

namespace Editor

theorem endsLine_eq_false {char : Char} (plain : Text.endsLine char = false) :
    endsLine char = false := by
  apply Bool.eq_false_iff.mpr
  intro ends
  have cases : char = '\n' ∨ char = '\r' := by simpa [endsLine] using ends
  rcases cases with rfl | rfl <;> cases plain

theorem lines_ne_nil (text : Text) : lines text ≠ [] := by
  fun_cases lines text with
  | case1 => simp
  | case2 rest => simp
  | case3 char rest notPair ends => simp
  | case4 char rest notPair continues =>
      exact Text.consLine_ne_nil char (lines rest)

theorem lines_cons {char : Char} {rest : Text}
    (notPair : ∀ behind, char = '\r' → rest = '\n' :: behind → False) :
    lines (char :: rest) =
      if endsLine char then [] :: lines rest
          else Text.consLine char (lines rest) := by
  rw [lines]
  exact notPair

theorem lines_plain {line : Text} (plain : Text.Plain line) (rest : Text) :
    lines (line ++ rest) = line.foldr Text.consLine (lines rest) := by
  apply Text.foldr_of_cons _ plain
  intro char rest continues
  rw [lines_cons (Text.not_pair_of_plain continues),
    if_neg (ne_true_of_eq_false (endsLine_eq_false continues))]

theorem lines_alone {line : Text} (plain : Text.Plain line) :
    lines line = [line] := by
  have alone := lines_plain plain []
  rwa [List.append_nil, lines, Text.foldr_consLine, List.append_nil] at alone

theorem lines_foreign {char : Char} {rest : Text}
    (foreign : Text.isForeignEnd char = true)
    (alone : char = '\r' → Text.StartsFresh rest) :
    lines (char :: rest) = Text.consLine char (lines rest) := by
  have continues : ¬endsLine char = true := by
    simpa using (Bool.and_eq_true_iff.mp foreign).2
  rw [lines_cons (Text.not_pair_of_fresh alone), if_neg continues]

theorem length_foldr_consLine (line : Text) {rest : List Text}
    (present : rest ≠ []) :
    (line.foldr Text.consLine rest).length = rest.length := by
  obtain ⟨head, others, rfl⟩ := List.exists_cons_of_ne_nil present
  rw [Text.foldr_consLine]
  rfl

end Editor

namespace Text

theorem LineEnd.editor_lines_eq {rest ending : Text} (ends : LineEnd rest ending)
    (known : ∀ char ∈ ending, isForeignEnd char = false) :
    Editor.lines (ending ++ rest) = [] :: Editor.lines rest := by
  cases ends with
  | pair => rw [List.cons_append, List.cons_append, List.nil_append, Editor.lines]
  | @single char ends alone =>
      have ended : Editor.endsLine char = true := by
        simpa [isForeignEnd, ends] using known char List.mem_cons_self
      rw [List.cons_append, List.nil_append,
        Editor.lines_cons (not_pair_of_fresh alone), if_pos ended]

/-- Behind one line end there is one more line, unless the line end is foreign
to an editor. -/
theorem LineEnd.length_editor_lines {rest ending : Text}
    (ends : LineEnd rest ending) :
    (Editor.lines (ending ++ rest)).length + ending.countP isForeignEnd =
      1 + (Editor.lines rest).length := by
  by_cases known : ∀ char ∈ ending, isForeignEnd char = false
  · have none : ending.countP isForeignEnd = 0 := by
      apply List.countP_eq_zero.mpr
      intro char member
      simp [known char member]
    rw [ends.editor_lines_eq known, none, List.length_cons]
    omega
  · cases ends with
    | pair =>
        refine absurd ?_ known
        rw [List.forall_mem_cons, List.forall_mem_singleton]
        exact ⟨rfl, rfl⟩
    | @single char ends alone =>
        have foreign : isForeignEnd char = true := by simpa using known
        have same := Editor.length_foldr_consLine [char] (Editor.lines_ne_nil rest)
        simp only [List.foldr_cons, List.foldr_nil] at same
        rw [List.cons_append, List.nil_append,
          Editor.lines_foreign foreign alone, same,
          List.countP_singleton, if_pos foreign]
        omega

theorem Plain.countP_isForeignEnd {text : Text} (plain : Plain text) :
    text.countP isForeignEnd = 0 := by
  apply List.countP_eq_zero.mpr
  intro char member
  simp [isForeignEnd, plain char member]

/-- An editor counts one line for each line above, but for the foreign line ends. -/
theorem Broken.length_editor_lines {above more : Text} {first : List Text}
    (broken : Broken above first) (fresh : StartsFresh more) :
    (Editor.lines (above ++ more)).length + above.countP isForeignEnd =
      first.length + (Editor.lines more).length := by
  induction broken with
  | nil => simp
  | @cons line ending rest lines plain ends below induction =>
      have ended := (ends.append fresh).length_editor_lines
      have same := Editor.length_foldr_consLine line
        (Editor.lines_ne_nil (ending ++ (rest ++ more)))
      have count : (line ++ ending ++ rest).countP isForeignEnd =
          ending.countP isForeignEnd + rest.countP isForeignEnd := by
        rw [List.countP_append, List.countP_append, plain.countP_isForeignEnd,
          Nat.zero_add]
      rw [count, List.append_assoc, List.append_assoc,
        Editor.lines_plain plain, same, List.length_cons]
      omega

theorem Broken.editor_lines_append {above more : Text} {first : List Text}
    (broken : Broken above first) (fresh : StartsFresh more)
    (known : ∀ char ∈ above, isForeignEnd char = false) :
    Editor.lines (above ++ more) = first ++ Editor.lines more := by
  induction broken with
  | nil => rfl
  | @cons line ending rest lines plain ends below induction =>
      have within (char : Char) (member : char ∈ ending ++ rest) :
          isForeignEnd char = false := by
        apply known
        rw [List.append_assoc]
        exact List.mem_append_right _ member
      have ended := (ends.append fresh).editor_lines_eq fun char member =>
        within char (List.mem_append_left _ member)
      have others := induction fun char member =>
        within char (List.mem_append_right _ member)
      rw [List.append_assoc, List.append_assoc, Editor.lines_plain plain, ended,
        foldr_consLine, List.append_nil, others]
      rfl

end Text

end Phrasebook
