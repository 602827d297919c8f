import Phrasebook.Proofs.Script.Line

/-!
# Scripts further down

A source that stands below other lines has the same lines with higher numbers.
What a report says of it is the same up to the line numbers of its spans.
-/

namespace Phrasebook

/-! ## Line numbers moved down -/

/-- The span, this many lines further down. -/
def Span.below (lines : Nat) (span : Span) : Span :=
  { span with startLine := span.startLine + lines, endLine := span.endLine + lines }

def Label.below (lines : Nat) (label : Label) : Label :=
  { label with span := label.span.below lines }

def Diagnostic.below (lines : Nat) (diagnostic : Diagnostic) : Diagnostic :=
  { diagnostic with labels := diagnostic.labels.map (Label.below lines) }

def Statement.below (lines : Nat) (statement : Statement) : Statement :=
  { statement with span := statement.span.below lines }

def Trigger.below (lines : Nat) (trigger : Trigger) : Trigger :=
  { trigger with
    span := trigger.span.below lines
    statements := trigger.statements.map (Statement.below lines) }

def NumberedLine.below (lines : Nat) (line : NumberedLine) : NumberedLine :=
  (line.1, line.2 + lines)

theorem Span.ofLine_below (file : Text) (number lines : Nat) (line : Text) :
    Span.ofLine file (number + lines) line =
      (Span.ofLine file number line).below lines := by
  unfold Span.ofLine
  simp only
  split <;> simp [Span.below]

theorem Diagnostic.addLabel_below {diagnostic : Diagnostic}
    (unlabelled : diagnostic.labels = []) (lines : Nat) (span : Span) :
    diagnostic.addLabel (span.below lines) =
      (diagnostic.addLabel span).below lines := by
  simp [addLabel, below, Label.below, unlabelled]

theorem Trigger.addStatement_below (trigger : Trigger) (statement : Statement)
    (lines : Nat) :
    (trigger.addStatement statement).below lines =
      (trigger.below lines).addStatement (statement.below lines) := by
  simp [addStatement, below]

/-! ## The lines of joined sources -/

/-- The source is empty or ends with a newline, so that a source behind it
starts a line of its own. -/
def Text.Ended (source : Text) : Prop :=
  source = [] ∨ source.getLast? = some '\n'

theorem Text.Ended.tail {char : Char} {source : Text}
    (ended : Ended (char :: source)) :
    Ended source := by
  cases source with
  | nil => exact .inl rfl
  | cons next rest =>
      rcases ended with none | last
      · cases none
      · exact .inr (by simpa using last)

theorem Text.consLine_ne_nil (char : Char) (lines : List Text) :
    consLine char lines ≠ [] := by
  cases lines with
  | nil => simp [consLine]
  | cons line rest => simp [consLine]

theorem Text.lines_ne_nil {source : Text} (present : source ≠ []) :
    lines source ≠ [] := by
  fun_cases lines source with
  | case1 => exact absurd rfl present
  | case2 rest => simp
  | case3 char rest notPair ends => simp
  | case4 char rest notPair continues => exact consLine_ne_nil char (lines rest)

theorem Text.consLine_append (char : Char) {first : List Text}
    (present : first ≠ []) (second : List Text) :
    consLine char (first ++ second) = consLine char first ++ second := by
  cases first with
  | nil => exact absurd rfl present
  | cons line rest => rfl

theorem Text.lines_cons {char : Char} {rest : Text}
    (notPair : ∀ behind, char = '\r' → rest = '\n' :: behind → False) :
    lines (char :: rest) =
      if endsLine char then [] :: lines rest else consLine char (lines rest) := by
  rw [lines]
  exact notPair

private theorem Text.Ended.notPair {char : Char} {rest : Text}
    (ended : Ended (char :: rest))
    (notPair : ∀ behind, char = '\r' → rest = '\n' :: behind → False)
    (second : Text) :
    ∀ behind, char = '\r' → rest ++ second = '\n' :: behind → False := by
  intro behind isReturn joined
  cases rest with
  | nil =>
      rcases ended with none | last
      · cases none
      · simp [isReturn] at last
  | cons next rest =>
      simp only [List.cons_append, List.cons.injEq] at joined
      exact notPair rest isReturn (by rw [joined.1])

/-- The lines of a source that starts on a line of its own come behind those
before it. -/
theorem Text.lines_append {first : Text} (ended : Ended first) (second : Text) :
    lines (first ++ second) = lines first ++ lines second := by
  fun_induction lines first with
  | case1 => rfl
  | case2 rest induction =>
      simp only [List.cons_append, lines, induction ended.tail.tail]
  | case3 char rest notPair ends induction =>
      rw [List.cons_append, lines_cons (ended.notPair notPair second), if_pos ends,
        induction ended.tail, List.cons_append]
  | case4 char rest notPair continues induction =>
      have present : rest ≠ [] := by
        rintro rfl
        rcases ended with none | last
        · cases none
        · simp only [List.getLast?_singleton, Option.some.injEq] at last
          rw [last] at continues
          exact continues (by decide)
      rw [List.cons_append, lines_cons (ended.notPair notPair second),
        if_neg continues,
        induction ended.tail, consLine_append char (lines_ne_nil present)]

namespace NumberedLine

theorem all_append {first : Text} (ended : Text.Ended first) (second : Text) :
    all (first ++ second) =
      all first ++ (all second).map (below (Text.lines first).length) := by
  have numbered : (Text.lines second).zipIdx ((Text.lines first).length + 1) =
      (all second).map (below (Text.lines first).length) := by
    rw [all, ← List.map_snd_add_zipIdx_eq_zipIdx]
    rfl
  unfold all at numbered ⊢
  rw [Text.lines_append ended, List.zipIdx_append, Nat.add_comm 1, numbered]

end NumberedLine

end Phrasebook
