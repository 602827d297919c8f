import Mathlib.Data.List.Basic
import Phrasebook.Proofs.Builtins

/-!
# Variables and braced runs

A text is a variable if what stands between its first opening brace and its last
character makes up a name.  The search for a boundary has another idea of where
a variable ends: its braced run is over at the next closing brace.  The two
agree on names that hold no closing brace, and on no others.
-/

namespace Phrasebook

namespace Text

/-- What a text is made of if it was divided at a character. -/
theorem partition_some {separator : Char} {text before rest : Text}
    (parted : partition separator text = (before, some rest)) :
    text = before ++ separator :: rest ∧ separator ∉ before := by
  induction text generalizing before with
  | nil => cases parted
  | cons char text induction =>
      rw [partition] at parted
      by_cases isSeparator : char = separator
      · rw [if_pos isSeparator] at parted
        cases parted
        subst isSeparator
        exact ⟨rfl, List.not_mem_nil⟩
      · rw [if_neg isSeparator] at parted
        cases later : partition separator text with
        | mk front behind =>
            rw [later] at parted
            cases parted
            obtain ⟨rfl, absent⟩ := induction later
            exact ⟨rfl, List.not_mem_cons_of_ne_of_not_mem
              (Ne.symm isSeparator) absent⟩

/-- The braced run that starts at the first opening brace of a text, with what
stands before it and behind it. -/
structure BracedRun (text : Text) where
  before : Text
  content : Text
  behind : Text
  whole : text = before ++ '{' :: (content ++ '}' :: behind)
  first : '{' ∉ before
  next : '}' ∉ content

private theorem closingBrace_eq {content : Text} (clean : '}' ∉ content)
    (behind : Text) :
    closingBrace (content ++ '}' :: behind) = some content.length := by
  induction content with
  | nil => rfl
  | cons char content induction =>
      obtain ⟨other, clean⟩ := not_or.mp (mt List.mem_cons.mpr clean)
      rw [List.cons_append, closingBrace, induction clean]
      · rfl
      · exact Ne.symm other

theorem BracedRun.length {text : Text} (run : BracedRun text) :
    runLength '{' (run.content ++ '}' :: run.behind) =
      some (run.content.length + 2) := by
  rw [runLength, if_neg (by decide), closingBrace_eq run.next]
  rfl

end Text

namespace Expr

/-- A text is read as a variable only if it ends with a brace behind a name, and
before the name stand the first of its opening braces and nothing but an
introduction. -/
theorem readVariable_some {text : Text} {type : TypeInfo} {expr : Expr}
    (read : readVariable? text type = some expr) :
    ∃ introduction name, text = introduction ++ '{' :: (name ++ ['}']) ∧
    '{' ∉ introduction ∧
      expr = .variable name type := by
  unfold readVariable? at read
  cases parted : Text.partition '{' text with
  | mk introduction rest =>
      rw [parted] at read
      cases rest with
      | none => cases read
      | some braced =>
          simp only [Bool.and_eq_true, beq_iff_eq,
            Option.ite_none_right_eq_some] at read
          obtain ⟨⟨⟨⟨_, isLast⟩, _⟩, _⟩, same⟩ := read
          obtain ⟨rfl, first⟩ := Text.partition_some parted
          refine ⟨introduction, braced.dropLast, ?_, first,
            (Option.some.inj same).symm⟩
          rw [List.dropLast_append_getLast? '}' isLast]

private theorem name_closes (name : Text) :
    ('}' ∉ name) ∨ ∃ content more, name = content ++ '}' :: more ∧
    '}' ∉ content := by
  by_cases inside : '}' ∈ name
  · obtain ⟨content, more, isName, clean⟩ := List.eq_append_cons_of_mem inside
    exact .inr ⟨content, more, isName, clean⟩
  · exact .inl inside

/-- A text that is read as a variable starts, at its first opening brace, a run
that the search for a boundary jumps over.  The run ends the text if and only if
the name holds no closing brace, and then the name is what the run holds.
Otherwise the name goes on where the run has ended, up to the last character of
the text. -/
theorem readVariable_run {text : Text} {type : TypeInfo} {expr : Expr}
    (read : readVariable? text type = some expr) :
    ∃ run : Text.BracedRun text,
      Text.runLength '{' (run.content ++ '}' :: run.behind) =
        some (run.content.length + 2) ∧
      (run.behind = [] ↔ '}' ∉ expr.sourceText) ∧
      (run.behind = [] → expr = .variable run.content type) ∧
      (run.behind ≠ [] → ∃ more, run.behind = more ++ ['}'] ∧
        expr = .variable (run.content ++ '}' :: more) type) := by
  obtain ⟨introduction, name, rfl, first, rfl⟩ := readVariable_some read
  obtain clean | ⟨content, more, rfl, next⟩ := name_closes name
  · let run : Text.BracedRun (introduction ++ '{' :: (name ++ ['}'])) :=
      ⟨introduction, name, [], rfl, first, clean⟩
    exact ⟨run, run.length, iff_of_true rfl clean, fun _ => rfl, fun goesOn =>
      absurd rfl goesOn⟩
  · have whole : introduction ++ '{' :: (content ++ '}' :: more ++ ['}']) =
        introduction ++ '{' :: (content ++ '}' :: (more ++ ['}'])) := by simp
    let run : Text.BracedRun
        (introduction ++ '{' :: (content ++ '}' :: more ++ ['}'])) :=
      ⟨introduction, content, more ++ ['}'], whole, first, next⟩
    have goesOn : run.behind ≠ [] :=
      List.append_ne_nil_of_right_ne_nil more (by simp)
    have closes : '}' ∈ content ++ '}' :: more :=
      List.mem_append_right content List.mem_cons_self
    exact ⟨run, run.length, iff_of_false goesOn (not_not_intro closes),
      fun ends => absurd ends goesOn, fun _ => ⟨more, rfl, rfl⟩⟩

theorem readVariable_run_of_score :
    ∃ (expr : Expr) (run : Text.BracedRun "the variable \x7btop score\x7d"),
      readVariable? "the variable \x7btop score\x7d" .object = some expr ∧
      run.behind = [] ∧ expr = .variable "top score" .object ∧
      run.content = "top score" := by
  have read : readVariable? "the variable \x7btop score\x7d" .object =
      some (.variable "top score" .object) := rfl
  obtain ⟨run, _, ends, holds, _⟩ := readVariable_run read
  have isEnd : run.behind = [] := ends.mpr (by decide)
  obtain ⟨isContent, _⟩ := Expr.variable.inj (holds isEnd)
  exact ⟨_, run, read, isEnd, rfl, isContent.symm⟩

/-- Two references are read as one variable, with a closing brace in its name. -/
theorem readVariable_beyond_run :
    readVariable? "\x7ba\x7d and \x7bb\x7d" .object =
        some (.variable "a\x7d and \x7bb" .object) ∧
      Text.runLength '{' "a\x7d and \x7bb\x7d" = some 3 ∧
      ("\x7ba\x7d and \x7bb\x7d" : Text).length = 11 :=
  ⟨rfl, rfl, rfl⟩

end Expr

end Phrasebook
