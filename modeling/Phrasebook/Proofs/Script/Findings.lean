import Phrasebook.Proofs.Accounting
import Phrasebook.Proofs.Script.Line
import Phrasebook.Proofs.Script.Quiet

/-!
# What the analysis finds

The analysis takes a script line by line.  A line adds the header of a trigger,
or a statement to the trigger above it, or one error, or nothing, and everything
that it adds points at this line.  What a whole run adds is put together from
what its lines add.
-/

namespace Phrasebook

/-! ## Findings -/

/-- What lines of a script add to its report: the spans of headers, the spans of
statements, each behind the span of the header that it belongs to, and
diagnostics. -/
structure Findings where
  headers : List Span
  statements : List (Span × Span)
  diagnostics : List Diagnostic

namespace Findings

def empty : Findings := ⟨[], [], []⟩

instance : Append Findings where
  append first second :=
  ⟨first.headers ++ second.headers, first.statements ++ second.statements,
    first.diagnostics ++ second.diagnostics⟩

theorem append_def (first second : Findings) :
    first ++ second = ⟨first.headers ++ second.headers,
      first.statements ++ second.statements,
      first.diagnostics ++ second.diagnostics⟩ := rfl

@[simp] theorem append_empty (found : Findings) : found ++ empty = found := by
  simp [append_def, empty]

@[simp] theorem empty_append (found : Findings) : empty ++ found = found := rfl

theorem append_assoc (first second third : Findings) :
    first ++ second ++ third = first ++ (second ++ third) := by
  simp [append_def]

def of (triggers : List Trigger) (diagnostics : List Diagnostic) : Findings :=
  ⟨triggers.map (·.span),
    triggers.flatMap fun trigger => trigger.statements.map fun held =>
      (trigger.span, held.span),
    diagnostics⟩

/-- The findings that belong to the line with this number. -/
def onLine (number : Nat) (found : Findings) : Findings :=
  ⟨found.headers.filter (·.startLine == number),
    found.statements.filter (·.2.startLine == number),
    found.diagnostics.filter (·.labels.any (·.span.startLine == number))⟩

theorem onLine_append (number : Nat) (first second : Findings) :
    (first ++ second).onLine number = first.onLine number ++
      second.onLine number := by
  simp [onLine, append_def]

end Findings

/-- The diagnostic points at this span, and nowhere else. -/
def Diagnostic.PointsAt (span : Span) (diagnostic : Diagnostic) : Prop :=
  diagnostic.labels = [⟨span, []⟩]

theorem Diagnostic.PointsAt.any_startLine {span : Span} {diagnostic : Diagnostic}
    (pointed : diagnostic.PointsAt span) (number : Nat) :
    diagnostic.labels.any (·.span.startLine == number) =
      (span.startLine == number) := by
  rw [PointsAt] at pointed
  simp [pointed]

/-- Diagnostics that are no errors and point at this span. -/
structure Diagnostic.AreRemarks (span : Span) (remarks : List Diagnostic) :
    Prop where
  harmless : ∀ remark ∈ remarks, remark.isError = false
  pointed : ∀ remark ∈ remarks, remark.PointsAt span

/-- What a line adds to a report, given the lines before it. -/
inductive Contributes (file : Text) (earlier : List NumberedLine)
    (line : NumberedLine) :
    Findings → Prop where
  | nothing (skipped : line.Skipped) : Contributes file earlier line .empty
  | trigger {remarks : List Diagnostic} (atMargin : line.AtMargin)
      (added : Diagnostic.AreRemarks (line.span file) remarks) :
      Contributes file earlier line ⟨[line.span file], [], remarks⟩
  | statement {header : NumberedLine} {remarks : List Diagnostic}
      (present : ¬line.Skipped)
      (indented : line.Indented) (nearest : NumberedLine.Nearest earlier header)
      (added : Diagnostic.AreRemarks (line.span file) remarks) :
      Contributes file earlier line ⟨[], [(header.span file, line.span file)],
        remarks⟩
  | error {diagnostic : Diagnostic} (present : ¬line.Skipped)
      (isError : diagnostic.isError = true)
      (pointed : diagnostic.PointsAt (line.span file)) :
      Contributes file earlier line ⟨[], [], [diagnostic]⟩

/-! ## What a parsed line leaves in the log -/

namespace ParseLog

/-- Outside of all scopes, the log has one error and no other diagnostics. -/
def HoldsError (log : ParseLog) : Prop :=
  log.scopes = [] ∧ ∃ error : Diagnostic,
    log.diagnostics = [error] ∧ error.isError = true ∧ error.labels = []

/-- Outside of all scopes, the log has no errors, but may have other diagnostics. -/
def HoldsRemarks (log : ParseLog) : Prop :=
  log.scopes = [] ∧ ∀ remark ∈ log.diagnostics, remark.isError = false ∧
  remark.labels = []

variable {log : ParseLog}

theorem holdsError_addAll (root : log.scopes = [])
    (taken : log.diagnostics = []) {entry : LogEntry}
    (isError : entry.isError = true) : (log.addAll [entry]).HoldsError := by
  obtain ⟨scopes, diagnostics⟩ := log.addAll_of_root [entry] root
  obtain ⟨severity, message, code⟩ := entry
  cases severity with
  | error =>
      refine ⟨scopes, ⟨.error, code, message, [], []⟩, ?_, rfl, rfl⟩
      rw [diagnostics, taken]
      rfl
  | warning => cases isError
  | note => cases isError

private theorem holdsRemarks_addAll (root : log.scopes = [])
    (taken : log.diagnostics = []) {entries : List LogEntry}
    (harmless : ∀ entry ∈ entries, entry.isError = false) :
    (log.addAll entries).HoldsRemarks := by
  obtain ⟨scopes, diagnostics⟩ := log.addAll_of_root entries root
  refine ⟨scopes, ?_⟩
  rw [diagnostics, taken, List.nil_append]
  intro remark member
  obtain ⟨⟨severity, message, code⟩, among, gives⟩ := List.mem_filterMap.mp member
  have noError := harmless _ among
  cases severity with
  | error => cases noError
  | warning =>
      cases gives
      exact ⟨rfl, rfl⟩
  | note => cases gives

end ParseLog

namespace Call

variable {parser : Parser} {log after : ParseLog} {call : Call}

/-- A call that fails leaves one error, if it has a default error to fall back
on. -/
theorem holdsError_of_failure (root : log.scopes = [])
    (taken : log.diagnostics = []) {fallback : Text}
    (default : call.defaultError parser = some fallback)
    (failed : call.perform parser log = (.ok none, after)) :
    after.HoldsError := by
  obtain ⟨opened, traced⟩ := perform_traced parser log call
  have atRoot : (log.withOpened opened).scopes = [] := root
  have nothingHeld : (log.withOpened opened).diagnostics = [] := taken
  rw [answer_traced failed] at traced
  have same : after = _ := congrArg Prod.snd (failed.symm.trans traced.2)
  rw [same, default, BestError.reported]
  cases (BestError.ofRecords (call.records parser)).record? with
  | none =>
      have isError : (LogEntry.byDefault fallback).isError = true := rfl
      exact ParseLog.holdsError_addAll atRoot nothingHeld isError
  | some record =>
      have isError : (ErrorRecord.entry record).isError = true := rfl
      exact ParseLog.holdsError_addAll atRoot nothingHeld isError

theorem holdsRemarks_of_success (root : log.scopes = [])
    (taken : log.diagnostics = [])
    {found : call.Answer} (harmless : ∀ entries, call.Emits parser found entries →
      ∀ entry ∈ entries, entry.isError = false)
    (succeeded : call.perform parser log = (.ok (some found), after)) :
    after.HoldsRemarks := by
  obtain ⟨opened, traced⟩ := perform_traced parser log call
  have atRoot : (log.withOpened opened).scopes = [] := root
  have nothingHeld : (log.withOpened opened).diagnostics = [] := taken
  have answered := answer_traced succeeded
  rw [answered] at traced
  have same : after = _ := congrArg Prod.snd (succeeded.symm.trans traced)
  rw [same]
  exact ParseLog.holdsRemarks_addAll atRoot nothingHeld
    (harmless _ (emits_told answered))

end Call

/-! ## One line -/

namespace Analysis

variable {parser : Parser} {file : Text} {earlier : List NumberedLine}
  {line : NumberedLine} {analysis after : Analysis}

def findings (analysis : Analysis) : Findings :=
  .of analysis.triggers analysis.diagnostics

/-- Statements go to the trigger of which the header is the nearest line above
at the margin. -/
def CurrentNearest (file : Text) (earlier : List NumberedLine)
    (analysis : Analysis) : Prop :=
  ∀ trigger, analysis.current = some trigger →
    ∃ header, NumberedLine.Nearest earlier header ∧ trigger.span = header.span file

/-- Between two lines nothing is left in the log. -/
structure Ready (file : Text) (earlier : List NumberedLine)
    (analysis : Analysis) : Prop where
  root : analysis.log.scopes = []
  taken : analysis.log.diagnostics = []
  current : CurrentNearest file earlier analysis

theorem Ready.start (file : Text) : Ready file [] .start :=
  ⟨rfl, rfl, fun _ isCurrent => nomatch isCurrent⟩

theorem Ready.skip (ready : Ready file earlier analysis) (within : ¬line.AtMargin) :
    Ready file (earlier ++ [line]) analysis where
  root := ready.root
  taken := ready.taken
  current trigger isCurrent := by
    obtain ⟨header, nearest, isSpan⟩ := ready.current trigger isCurrent
    exact ⟨header, nearest.skip within, isSpan⟩

theorem triggers_close (analysis : Analysis) :
    analysis.close.triggers = analysis.triggers := by
  simp [close, triggers]

theorem findings_close (analysis : Analysis) :
    analysis.close.findings = analysis.findings := by
  rw [findings, triggers_close]
  rfl

theorem findings_collect (analysis : Analysis) (span : Span) :
    (analysis.collect span).findings = analysis.findings ++
      ⟨[], [], analysis.log.diagnostics.map (Diagnostic.addLabel span)⟩ := by
  simp [findings, collect, Findings.of, Findings.append_def, triggers,
    ParseLog.takeDiagnostics]

theorem collect_ready (root : analysis.log.scopes = [])
    (current : CurrentNearest file earlier analysis) (span : Span) :
    Ready file earlier (analysis.collect span) where
  root := root
  taken := rfl
  current := current

theorem collect_error (present : ¬line.Skipped) (held : analysis.log.HoldsError) :
    ∃ found, Contributes file earlier line found ∧
      (analysis.collect (line.span file)).findings =
        analysis.findings ++ found := by
  obtain ⟨_, error, diagnostics, isError, noLabels⟩ := held
  have labelled : (error.addLabel (line.span file)).isError = true := isError
  have pointed : (error.addLabel (line.span file)).PointsAt (line.span file) := by
    simp [Diagnostic.PointsAt, Diagnostic.addLabel, noLabels]
  refine ⟨_, .error present labelled pointed, ?_⟩
  rw [findings_collect, diagnostics]
  rfl

theorem collect_remarks (held : analysis.log.HoldsRemarks) (span : Span) :
    ∃ remarks, Diagnostic.AreRemarks span remarks ∧
      (analysis.collect span).findings = analysis.findings ++
        ⟨[], [], remarks⟩ := by
  refine ⟨_, ⟨?_, ?_⟩, findings_collect analysis span⟩
  · intro remark member
    obtain ⟨logged, among, rfl⟩ := List.mem_map.mp member
    exact (held.2 logged among).1
  · intro remark member
    obtain ⟨logged, among, rfl⟩ := List.mem_map.mp member
    simp [Diagnostic.PointsAt, Diagnostic.addLabel, (held.2 logged among).2]

theorem holdsError_complain (analysis : Analysis) (root : analysis.log.scopes = [])
    (taken : analysis.log.diagnostics = []) (message : Text) :
    (analysis.complain message).log.HoldsError := by
  have isError : (LogEntry.byDefault message).isError = true := rfl
  exact ParseLog.holdsError_addAll root taken isError

/-- What a line leads to that comes after these lines. -/
def Leads (file : Text) (earlier : List NumberedLine) (line : NumberedLine)
    (analysis after : Analysis) : Prop :=
  (∃ found, Contributes file earlier line found ∧
    after.findings = analysis.findings ++ found) ∧
    Ready file (earlier ++ [line]) after

theorem leads_error (present : ¬line.Skipped) (held : after.log.HoldsError)
    (same : after.findings = analysis.findings)
    (current : CurrentNearest file (earlier ++ [line]) after) :
    Leads file earlier line analysis (after.collect (line.span file)) := by
  rw [Leads, ← same]
  exact ⟨collect_error present held, collect_ready held.1 current _⟩

theorem leads_remarks {headers : List Span} {statements : List (Span × Span)}
    (contributes : ∀ remarks, Diagnostic.AreRemarks (line.span file) remarks →
      Contributes file earlier line ⟨headers, statements, remarks⟩)
    (held : after.log.HoldsRemarks)
    (added : after.findings = analysis.findings ++ ⟨headers, statements, []⟩)
    (current : CurrentNearest file (earlier ++ [line]) after) :
    Leads file earlier line analysis (after.collect (line.span file)) := by
  obtain ⟨remarks, areRemarks, collected⟩ := collect_remarks held (line.span file)
  refine ⟨⟨_, contributes remarks areRemarks, ?_⟩, collect_ready held.1 current _⟩
  rw [collected, added, Findings.append_assoc]
  simp [Findings.append_def]

private theorem openTrigger_leads (quiet : parser.registry.AcceptsQuietly)
    (ready : Ready file earlier analysis) (atMargin : line.AtMargin)
    {header : Text}
    (opened : analysis.close.openTrigger parser (line.span file) header =
      .ok after) :
    Leads file earlier line analysis (after.collect (line.span file)) := by
  unfold openTrigger at opened
  generalize isFallback :
    ("can't understand this event: '" ++ header ++ "'" : Text) = fallback
    at opened
  have default : (Call.parseEvent header (some fallback)).defaultError parser =
      some fallback := rfl
  have harmless : ∀ accepted entries,
      (Call.parseEvent header (some fallback)).Emits parser accepted entries →
        ∀ entry ∈ entries, entry.isError = false := by
    rintro accepted entries ⟨member, result, _, verdict⟩
    exact quiet _ (List.mem_append_left _ member) _ _ _ _ verdict
  simp only at opened
  split at opened
  · cases opened
  · rename_i log performed
    cases opened
    have held := Call.holdsError_of_failure ready.root ready.taken default performed
    exact leads_error atMargin.1 held (findings_close analysis)
      fun _ isCurrent => nomatch isCurrent
  · rename_i accepted log performed
    cases opened
    have held := Call.holdsRemarks_of_success ready.root ready.taken
      (harmless accepted) performed
    refine leads_remarks (fun _ => .trigger atMargin) held ?_ ?_
    · simp [findings, triggers, close, Findings.of, Findings.append_def]
    · rintro trigger isCurrent
      cases isCurrent
      exact ⟨line, .self earlier atMargin, rfl⟩

private theorem addStatement_leads (quiet : parser.registry.AcceptsQuietly)
    (ready : Ready file earlier analysis) (present : ¬line.Skipped)
    (indented : line.Indented) {trigger : Trigger}
    (isCurrent : analysis.current = some trigger) {text : Text}
    (added : analysis.addStatement parser trigger (line.span file) text =
      .ok after) :
    Leads file earlier line analysis (after.collect (line.span file)) := by
  have within : ¬line.AtMargin := fun atMargin => atMargin.2 indented
  have default : (Call.parseStatement text none).defaultError parser =
      some parser.options.defaultError := rfl
  have harmless : ∀ accepted entries,
      (Call.parseStatement text none).Emits parser accepted entries →
        ∀ entry ∈ entries, entry.isError = false := by
    rintro accepted entries ⟨member, result, _, verdict⟩
    exact quiet _ (List.mem_append_right _ member) _ _ _ _ verdict
  unfold addStatement at added
  split at added
  · cases added
  · rename_i log performed
    cases added
    have held := Call.holdsError_of_failure ready.root ready.taken default performed
    exact leads_error present held rfl (ready.skip within).current
  · rename_i accepted log performed
    cases added
    have held := Call.holdsRemarks_of_success ready.root ready.taken
      (harmless accepted) performed
    obtain ⟨header, nearest, isSpan⟩ := ready.current trigger isCurrent
    refine leads_remarks (fun _ => .statement present indented nearest) held ?_ ?_
    · simp [findings, triggers, isCurrent, Trigger.addStatement, Findings.of,
        Findings.append_def, isSpan]
    · rintro extended isExtended
      cases isExtended
      exact ⟨header, nearest.skip within, isSpan⟩

/-- What one step of the analysis adds, whatever the line is. -/
theorem step_leads (quiet : parser.registry.AcceptsQuietly)
    (ready : Ready file earlier analysis)
    (stepped : analysis.step parser file line = .ok after) :
    Leads file earlier line analysis after := by
  have isClass := line.class_cases
  unfold step at stepped
  simp only at stepped
  split at stepped
  next same =>
    rw [same] at isClass
    cases stepped
    have within : ¬line.AtMargin := fun atMargin => atMargin.1 isClass
    exact ⟨⟨.empty, .nothing isClass, (Findings.append_empty _).symm⟩,
      ready.skip within⟩
  next header same =>
    rw [same] at isClass
    obtain ⟨_, opened, stepped⟩ := except_bind_ok stepped
    cases stepped
    exact openTrigger_leads quiet ready isClass opened
  next text same =>
    rw [same] at isClass
    cases stepped
    have held := analysis.close.holdsError_complain ready.root ready.taken
    apply leads_error isClass.1 (held _) (findings_close analysis)
    intro trigger isCurrent
    cases isCurrent
  next text same =>
    rw [same] at isClass
    have within : ¬line.AtMargin := fun atMargin => atMargin.2 isClass.2
    split at stepped
    next noCurrent =>
      cases stepped
      have held := analysis.holdsError_complain ready.root ready.taken
      exact leads_error isClass.1 (held _) rfl (ready.skip within).current
    next trigger isCurrent =>
      obtain ⟨_, added, stepped⟩ := except_bind_ok stepped
      cases stepped
      exact addStatement_leads quiet ready isClass.1 isClass.2 isCurrent added

end Analysis

end Phrasebook
