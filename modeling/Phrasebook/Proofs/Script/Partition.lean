import Mathlib.Logic.ExistsUnique
import Phrasebook.Proofs.Script.Findings

/-!
# Every line has one role

The lines of an analysed script fall into four classes.  A line is skipped, or
it is the header of a trigger, or it is a statement of the trigger above it, or
it has one error.  The report lists what it has found in the order of the lines.
-/

namespace Phrasebook

/-- The second diagnostic does not point above the first one. -/
def Diagnostic.InOrder (first second : Diagnostic) : Prop :=
  ∀ upper ∈ first.labels, ∀ lower ∈ second.labels, upper.span.startLine ≤
    lower.span.startLine

/-- The first diagnostic points above the second one. -/
def Diagnostic.Above (first second : Diagnostic) : Prop :=
  ∀ upper ∈ first.labels, ∀ lower ∈ second.labels, upper.span.startLine <
    lower.span.startLine

theorem Diagnostic.Above.inOrder {first second : Diagnostic}
    (above : first.Above second) :
    first.InOrder second :=
  fun upper isUpper lower isLower =>
    Int.le_of_lt (above upper isUpper lower isLower)

/-! ## What a run adds -/

/-- All of the findings come from these lines, in their order. -/
structure Findings.Within (file : Text) (lines : List NumberedLine)
    (found : Findings) : Prop where
  headers : found.headers.Sublist (lines.map (NumberedLine.span file))
  statements : (found.statements.map Prod.snd).Sublist
    (lines.map (NumberedLine.span file))
  pointed : ∀ diagnostic ∈ found.diagnostics, ∃ line ∈ lines, ¬line.Skipped ∧
    diagnostic.PointsAt (line.span file)
  ordered : found.diagnostics.Pairwise Diagnostic.InOrder
  errors : (found.diagnostics.filter Diagnostic.isError).Pairwise Diagnostic.Above

namespace Findings

variable {file : Text} {earlier lines : List NumberedLine} {line : NumberedLine}
  {found : Findings}

theorem within_empty (file : Text) (lines : List NumberedLine) :
    Within file lines .empty where
  headers := List.nil_sublist _
  statements := List.nil_sublist _
  pointed := fun _ member => nomatch member
  ordered := .nil
  errors := .nil

private theorem Within.above {first second : Findings}
    {upper lower : List NumberedLine} (before : first.Within file upper)
    (behind : second.Within file lower)
    (increasing : ∀ above ∈ upper, ∀ below ∈ lower, above.2 < below.2) :
    ∀ early ∈ first.diagnostics, ∀ late ∈ second.diagnostics, early.Above late := by
  intro early isEarly late isLate label isLabel other isOther
  obtain ⟨above, isAbove, _, pointsAbove⟩ := before.pointed early isEarly
  obtain ⟨below, isBelow, _, pointsBelow⟩ := behind.pointed late isLate
  rw [pointsAbove, List.mem_singleton] at isLabel
  rw [pointsBelow, List.mem_singleton] at isOther
  have less := increasing above isAbove below isBelow
  rw [isLabel, isOther]
  simp only [NumberedLine.span_startLine]
  omega

theorem Within.append {first second : Findings} {upper lower : List NumberedLine}
    (before : first.Within file upper) (behind : second.Within file lower)
    (increasing : ∀ above ∈ upper, ∀ below ∈ lower, above.2 < below.2) :
    (first ++ second).Within file (upper ++ lower) where
  headers := by
    rw [List.map_append]
    exact before.headers.append behind.headers
  statements := by
    rw [append_def, List.map_append, List.map_append]
    exact before.statements.append behind.statements
  pointed diagnostic member := by
    rcases List.mem_append.mp member with early | late
    · obtain ⟨line, among, pointed⟩ := before.pointed diagnostic early
      exact ⟨line, List.mem_append_left _ among, pointed⟩
    · obtain ⟨line, among, pointed⟩ := behind.pointed diagnostic late
      exact ⟨line, List.mem_append_right _ among, pointed⟩
  ordered := by
    refine List.pairwise_append.mpr ⟨before.ordered, behind.ordered, ?_⟩
    intro early isEarly late isLate
    exact (before.above behind increasing early isEarly late isLate).inOrder
  errors := by
    rw [append_def, List.filter_append]
    refine List.pairwise_append.mpr ⟨before.errors, behind.errors, ?_⟩
    intro early isEarly late isLate
    exact before.above behind increasing early (List.mem_filter.mp isEarly).1 late
      (List.mem_filter.mp isLate).1

/-- Lines with other numbers add nothing to a line. -/
theorem Within.onLine_elsewhere {number : Nat}
    (within : found.Within file lines)
    (elsewhere : ∀ other ∈ lines, other.2 ≠ number) :
    found.onLine number = .empty := by
  have off : ∀ span ∈ lines.map (NumberedLine.span file),
      span.startLine ≠ number := by
    rintro span member
    obtain ⟨other, among, rfl⟩ := List.mem_map.mp member
    have different := elsewhere other among
    rw [NumberedLine.span_startLine]
    omega
  have headers : found.headers.filter (·.startLine == (number : Int)) = [] := by
    apply List.filter_eq_nil_iff.mpr
    intro span member
    simpa using off span (within.headers.subset member)
  have statements : found.statements.filter (·.2.startLine == (number : Int)) =
      [] := by
    apply List.filter_eq_nil_iff.mpr
    intro held member
    simpa using off held.2 (within.statements.subset (List.mem_map_of_mem member))
  have diagnostics :
      found.diagnostics.filter (·.labels.any (·.span.startLine == number)) =
        [] := by
    apply List.filter_eq_nil_iff.mpr
    intro diagnostic member
    obtain ⟨other, among, _, pointed⟩ := within.pointed diagnostic member
    have different := off _ (List.mem_map_of_mem among)
    rw [pointed.any_startLine]
    simpa using different
  rw [onLine, headers, statements, diagnostics]
  rfl

end Findings

/-- All that a line adds is on this line. -/
theorem Contributes.onLine_self {file : Text} {earlier : List NumberedLine}
    {line : NumberedLine} {found : Findings}
    (contributes : Contributes file earlier line found) :
    found.onLine line.2 = found := by
  have all {remarks : List Diagnostic}
      (pointed : ∀ remark ∈ remarks, remark.PointsAt (line.span file)) :
      remarks.filter (·.labels.any (·.span.startLine == line.2)) = remarks := by
    apply List.filter_eq_self.mpr
    intro remark member
    rw [(pointed remark member).any_startLine]
    simp
  cases contributes with
  | nothing skipped => rfl
  | trigger atMargin added => simp [Findings.onLine, all added.pointed]
  | statement present indented nearest added =>
      simp [Findings.onLine, all added.pointed]
  | error present isError pointed => simp [Findings.onLine, pointed.any_startLine]

private theorem Diagnostic.AreRemarks.ordered {span : Span}
    {remarks : List Diagnostic} (areRemarks : AreRemarks span remarks) :
    remarks.Pairwise InOrder := by
  apply List.pairwise_of_forall_mem_list
  intro first isFirst second isSecond upper isUpper lower isLower
  rw [areRemarks.pointed first isFirst, List.mem_singleton] at isUpper
  rw [areRemarks.pointed second isSecond, List.mem_singleton] at isLower
  exact Int.le_of_eq (by rw [isUpper, isLower])

private theorem Diagnostic.AreRemarks.no_errors {span : Span}
    {remarks : List Diagnostic} (areRemarks : AreRemarks span remarks) :
    remarks.filter isError = [] := by
  simpa [List.filter_eq_nil_iff] using areRemarks.harmless

private theorem Contributes.within {file : Text} {earlier : List NumberedLine}
    {line : NumberedLine} {found : Findings}
    (contributes : Contributes file earlier line found) :
    found.Within file [line] := by
  cases contributes with
  | nothing skipped => exact Findings.within_empty file [line]
  | trigger atMargin added =>
      refine ⟨List.Sublist.refl _, List.nil_sublist _, ?_, added.ordered, ?_⟩
      · intro remark member
        exact ⟨line, List.mem_singleton_self _, atMargin.1,
          added.pointed remark member⟩
      · rw [added.no_errors]
        exact .nil
  | statement present indented nearest added =>
      refine ⟨List.nil_sublist _, List.Sublist.refl _, ?_, added.ordered, ?_⟩
      · intro remark member
        exact ⟨line, List.mem_singleton_self _, present,
          added.pointed remark member⟩
      · rw [added.no_errors]
        exact .nil
  | error present isError pointed =>
      refine ⟨List.nil_sublist _, List.nil_sublist _, ?_,
        List.pairwise_singleton _ _, ?_⟩
      · intro remark member
        rw [List.mem_singleton.mp member]
        exact ⟨line, List.mem_singleton_self _, present, pointed⟩
      · rw [List.filter_cons_of_pos isError]
        exact List.pairwise_singleton _ _

namespace Analysis

variable {parser : Parser} {file : Text} {earlier lines : List NumberedLine}
  {analysis after : Analysis}

theorem run_within (quiet : parser.registry.AcceptsQuietly)
    (ready : Ready file earlier analysis)
    (increasing : lines.Pairwise (·.2 < ·.2))
    (run : lines.foldlM (Analysis.step parser file) analysis = .ok after) :
    (∃ found, found.Within file lines ∧
      after.findings = analysis.findings ++ found) ∧
      Ready file (earlier ++ lines) after := by
  induction lines generalizing earlier analysis with
  | nil =>
      cases run
      rw [List.append_nil]
      exact ⟨⟨.empty, Findings.within_empty file [],
        (Findings.append_empty _).symm⟩, ready⟩
  | cons line lines induction =>
      obtain ⟨above, rest⟩ := List.pairwise_cons.mp increasing
      obtain ⟨next, stepped, run⟩ := except_bind_ok run
      obtain ⟨⟨first, contributes, step⟩, ready⟩ := step_leads quiet ready stepped
      obtain ⟨⟨found, within, later⟩, ready⟩ := induction ready rest run
      refine ⟨⟨first ++ found, ?_, ?_⟩, ?_⟩
      · apply contributes.within.append within
        rintro upper isUpper lower isLower
        rw [List.mem_singleton.mp isUpper]
        exact above lower isLower
      · rw [later, step, Findings.append_assoc]
      · rwa [List.append_assoc] at ready

/-- What a run finds on one of its lines is what this line adds. -/
theorem run_onLine (quiet : parser.registry.AcceptsQuietly)
    {before behind : List NumberedLine} {line : NumberedLine}
    (increasing : (before ++ line :: behind).Pairwise (·.2 < ·.2))
    (run : (before ++ line :: behind).foldlM (Analysis.step parser file)
      .start = .ok after) :
    Contributes file before line (after.findings.onLine line.2) := by
  obtain ⟨upper, lower, above⟩ := List.pairwise_append.mp increasing
  obtain ⟨below, lower⟩ := List.pairwise_cons.mp lower
  rw [List.foldlM_append] at run
  obtain ⟨reached, first, run⟩ := except_bind_ok run
  obtain ⟨next, stepped, run⟩ := except_bind_ok run
  obtain ⟨⟨early, isEarly, beginning⟩, ready⟩ :=
    run_within quiet (.start file) upper first
  obtain ⟨⟨found, contributes, step⟩, ready⟩ := step_leads quiet ready stepped
  obtain ⟨⟨late, isLate, rest⟩, _⟩ := run_within quiet ready lower run
  have noneAbove : early.onLine line.2 = .empty := by
    apply isEarly.onLine_elsewhere
    intro other member
    exact Nat.ne_of_lt (above other member line List.mem_cons_self)
  have noneBelow : late.onLine line.2 = .empty := by
    apply isLate.onLine_elsewhere
    intro other member
    exact Nat.ne_of_gt (below other member)
  have nothing : start.findings = .empty := rfl
  have onLine : after.findings.onLine line.2 = found := by
    calc
      after.findings.onLine line.2 = (early ++ found ++ late).onLine line.2 := by
        rw [rest, step, beginning, nothing, Findings.empty_append]
      _ = early.onLine line.2 ++ found.onLine line.2 ++ late.onLine line.2 := by
        rw [Findings.onLine_append, Findings.onLine_append]
      _ = found := by
        rw [noneAbove, noneBelow, contributes.onLine_self, Findings.empty_append,
          Findings.append_empty]
  rw [onLine]
  exact contributes

end Analysis

/-! ## The roles of lines -/

/-- What becomes of a line of a script. -/
inductive LineRole where
  | skipped
  | trigger
  | statement
  | error

namespace ScriptReport

/-- The triggers that have the line with this number for their header. -/
def triggersAt (report : ScriptReport) (number : Nat) : List Trigger :=
  report.triggers.filter (·.span.startLine == number)

/-- The statements on the line with this number, each with the trigger that
holds it. -/
def statementsAt (report : ScriptReport) (number : Nat) :
    List (Trigger × Statement) :=
  (report.triggers.flatMap fun trigger =>
    trigger.statements.map (trigger, ·)).filter
    (·.2.span.startLine == number)

/-- The diagnostics that point at the line with this number. -/
def diagnosticsAt (report : ScriptReport) (number : Nat) : List Diagnostic :=
  report.diagnostics.filter (·.labels.any (·.span.startLine == number))

/-- The line has this role in the report, where these lines come before it. -/
def Assigns (report : ScriptReport) (earlier : List NumberedLine)
    (line : NumberedLine) :
    LineRole → Prop
  | .skipped =>
      line.Skipped ∧ report.triggersAt line.2 = [] ∧
      report.statementsAt line.2 = [] ∧
        report.diagnosticsAt line.2 = []
  | .trigger =>
      line.AtMargin ∧
        (∃ trigger, report.triggersAt line.2 = [trigger] ∧
          trigger.span = line.span report.file) ∧
        report.statementsAt line.2 = [] ∧
        ∀ diagnostic ∈ report.diagnosticsAt line.2, diagnostic.isError = false
  | .statement =>
      ¬line.Skipped ∧ line.Indented ∧ report.triggersAt line.2 = [] ∧
        (∃ trigger statement header, report.statementsAt line.2 =
          [(trigger, statement)] ∧
          statement.span = line.span report.file ∧
          NumberedLine.Nearest earlier header ∧
            trigger.span = header.span report.file) ∧
        ∀ diagnostic ∈ report.diagnosticsAt line.2, diagnostic.isError = false
  | .error =>
      ¬line.Skipped ∧ report.triggersAt line.2 = [] ∧
      report.statementsAt line.2 = [] ∧
        ∃ error, report.diagnosticsAt line.2 = [error] ∧ error.isError = true

/-- The report lists everything in the order of the lines of its source, and
each diagnostic points exactly at the text of one of these lines. -/
structure FollowsLines (report : ScriptReport) (source : Text) : Prop where
  triggers : report.triggers.Pairwise (·.span.startLine < ·.span.startLine)
  statements : ∀ trigger ∈ report.triggers,
    trigger.statements.Pairwise (·.span.startLine < ·.span.startLine)
  diagnostics : report.diagnostics.Pairwise Diagnostic.InOrder
  errors : report.errors.Pairwise Diagnostic.Above
  pointed : ∀ diagnostic ∈ report.diagnostics, ∃ line ∈ NumberedLine.all source,
    ∃ label, diagnostic.labels = [label] ∧ label.span.startLine = line.2 ∧
      label.span.endLine = line.2 ∧
      label.span.excerpt ⟨source⟩ = Text.strip line.1

def findings (report : ScriptReport) : Findings :=
  .of report.triggers report.diagnostics

variable {report : ScriptReport} {earlier : List NumberedLine} {line : NumberedLine}

private theorem findings_onLine (report : ScriptReport) (number : Nat) :
    report.findings.onLine number =
      ⟨(report.triggersAt number).map (·.span),
        (report.statementsAt number).map fun held => (held.1.span, held.2.span),
        report.diagnosticsAt number⟩ := by
  have held : (report.triggers.flatMap fun trigger =>
      trigger.statements.map fun held => (trigger.span, held.span)) =
        (report.triggers.flatMap fun trigger =>
          trigger.statements.map (trigger, ·)).map
          fun held => (held.1.span, held.2.span) := by
    simp [List.map_flatMap, Function.comp_def]
  simp only [findings, Findings.of, Findings.onLine, held, List.filter_map,
    triggersAt, statementsAt, diagnosticsAt, Function.comp_def]

/-- A line that adds something has the role that goes with it. -/
theorem assigns_of_contributes (report : ScriptReport)
    (contributes : Contributes report.file earlier line
      (report.findings.onLine line.2)) :
    ∃ role, report.Assigns earlier line role := by
  rw [findings_onLine] at contributes
  generalize isFound : (⟨(report.triggersAt line.2).map (·.span),
    (report.statementsAt line.2).map fun held => (held.1.span, held.2.span),
    report.diagnosticsAt line.2⟩ : Findings) = found at contributes
  cases contributes with
  | nothing skipped =>
      obtain ⟨headers, statements, diagnostics⟩ := Findings.mk.inj isFound
      exact ⟨.skipped, skipped, List.map_eq_nil_iff.mp headers,
        List.map_eq_nil_iff.mp statements, diagnostics⟩
  | trigger atMargin added =>
      obtain ⟨headers, statements, diagnostics⟩ := Findings.mk.inj isFound
      obtain ⟨trigger, isTrigger, isSpan⟩ := List.map_eq_singleton_iff.mp headers
      refine ⟨.trigger, atMargin, ⟨trigger, isTrigger, isSpan⟩,
        List.map_eq_nil_iff.mp statements, ?_⟩
      rw [diagnostics]
      exact added.harmless
  | statement present indented nearest added =>
      obtain ⟨headers, statements, diagnostics⟩ := Findings.mk.inj isFound
      obtain ⟨⟨trigger, statement⟩, isStatement, spans⟩ :=
        List.map_eq_singleton_iff.mp statements
      obtain ⟨headerSpan, isSpan⟩ := Prod.mk.inj spans
      refine ⟨.statement, present, indented, List.map_eq_nil_iff.mp headers,
        ⟨trigger, statement, _, isStatement, isSpan, nearest, headerSpan⟩, ?_⟩
      rw [diagnostics]
      exact added.harmless
  | error present isError pointed =>
      obtain ⟨headers, statements, diagnostics⟩ := Findings.mk.inj isFound
      exact ⟨.error, present, List.map_eq_nil_iff.mp headers,
        List.map_eq_nil_iff.mp statements, _, diagnostics, isError⟩

/-- The role of a line, going by what the report has on it. -/
def roleAt (report : ScriptReport) (number : Nat) : LineRole :=
  match report.triggersAt number, report.statementsAt number,
      report.diagnosticsAt number with
  | _ :: _, _, _ => .trigger
  | [], _ :: _, _ => .statement
  | [], [], _ :: _ => .error
  | [], [], [] => .skipped

private theorem Assigns.eq_roleAt {role : LineRole}
    (assigned : report.Assigns earlier line role) :
    role = report.roleAt line.2 := by
  cases role with
  | skipped =>
      obtain ⟨_, triggers, statements, diagnostics⟩ := assigned
      simp only [roleAt, triggers, statements, diagnostics]
  | trigger =>
      obtain ⟨_, ⟨trigger, triggers, _⟩, _⟩ := assigned
      simp only [roleAt, triggers]
  | statement =>
      obtain ⟨_, _, triggers, ⟨trigger, statement, _, statements, _⟩, _⟩ := assigned
      simp only [roleAt, triggers, statements]
  | error =>
      obtain ⟨_, triggers, statements, error, diagnostics, _⟩ := assigned
      simp only [roleAt, triggers, statements, diagnostics]

/-- A report within the lines of a source lists everything in their order. -/
theorem followsLines_of_within {source : Text}
    (within : report.findings.Within report.file (NumberedLine.all source)) :
    report.FollowsLines source := by
  have spans := NumberedLine.spans_increasing source report.file
  refine ⟨?_, ?_, within.ordered, within.errors, ?_⟩
  · have headers :
        (report.triggers.map (·.span)).Pairwise (·.startLine < ·.startLine) :=
      spans.sublist within.headers
    have ordered := List.pairwise_map.mp headers
    exact ordered
  · intro trigger member
    have statements := List.pairwise_map.mp (spans.sublist within.statements)
    obtain ⟨each, _⟩ := List.pairwise_flatMap.mp statements
    have ordered := List.pairwise_map.mp (each trigger member)
    exact ordered
  · intro diagnostic member
    obtain ⟨line, among, present, pointed⟩ := within.pointed diagnostic member
    exact ⟨line, among, _, pointed, NumberedLine.excerpt_span among present⟩

end ScriptReport

/-- The analysis of a script partitions its lines, and its report follows them,
if no provider logs an error when it accepts. -/
theorem Parser.analyzeScript_partitions {parser : Parser} {source file : Text}
    {report : ScriptReport} (quiet : parser.registry.AcceptsQuietly)
    (returned : parser.analyzeScript source file = .ok report) :
    report.file = file ∧
      (∀ before line behind, NumberedLine.all source = before ++ line :: behind →
        ∃! role, report.Assigns before line role) ∧
      report.FollowsLines source := by
  obtain ⟨analysis, run, returned⟩ := except_bind_ok returned
  cases returned
  have increasing := NumberedLine.all_increasing source
  refine ⟨rfl, ?_, ?_⟩
  · intro before line behind split
    rw [← NumberedLine.all, split] at run
    rw [split] at increasing
    have contributes := Analysis.run_onLine quiet increasing run
    obtain ⟨role, assigned⟩ := ScriptReport.assigns_of_contributes
      ⟨file, analysis.triggers, analysis.diagnostics⟩ contributes
    refine ⟨role, assigned, ?_⟩
    intro other isOther
    exact isOther.eq_roleAt.trans assigned.eq_roleAt.symm
  · obtain ⟨⟨found, within, all⟩, _⟩ :=
      Analysis.run_within quiet (.start file) increasing run
    apply ScriptReport.followsLines_of_within
    have same : analysis.findings = found := all
    rwa [← same] at within

def BlockGame.respawnScript : Text :=
  "on death:\n\tforce the player to respawn\n# twice\n\tdance\nstray"

def BlockGame.analyzeRespawn : Except SetupError ScriptReport := do
  let game ← BlockGame.registry
  (⟨game, .standard⟩ : Parser).analyzeScript respawnScript "death"

theorem BlockGame.respawnScript_partitions :
    ∃ game report, BlockGame.registry = .ok game ∧ game.AcceptsQuietly ∧
      (⟨game, .standard⟩ : Parser).analyzeScript respawnScript "death" =
        .ok report ∧
        report.file = "death" ∧
        (∀ before line behind, NumberedLine.all respawnScript =
          before ++ line :: behind →
          ∃! role, report.Assigns before line role) ∧
        report.FollowsLines respawnScript := by
  have returns : analyzeRespawn.isOk = true := by decide +kernel
  cases returned : analyzeRespawn with
  | error error =>
      rw [returned] at returns
      cases returns
  | ok report =>
      obtain ⟨game, registered, analyzed⟩ := except_bind_ok returned
      have quiet := registry_acceptsQuietly registered
      exact ⟨game, report, registered, quiet, analyzed,
        Parser.analyzeScript_partitions quiet analyzed⟩

end Phrasebook
