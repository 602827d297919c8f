import Mathlib.Data.List.Induction
import Phrasebook.Proofs.Script.Composition
import Phrasebook.Proofs.Script.Findings

/-!
# What stands where in a report

Whatever the providers log, the analysis grows line by line: a line adds at most
its own span to the triggers, in reading order, and all diagnostics that it adds
point at it.
-/

namespace Phrasebook

/-- The spans of a trigger in reading order: that of the header, then those of
the statements. -/
def Trigger.spans (trigger : Trigger) : List Span :=
  trigger.span :: trigger.statements.map (·.span)

/-- The spans of all that was parsed, in reading order. -/
def ScriptReport.spans (report : ScriptReport) : List Span :=
  report.triggers.flatMap Trigger.spans

namespace Analysis

variable {parser : Parser} {file : Text} {above lines : List NumberedLine}
  {line : NumberedLine} {span : Span} {analysis after : Analysis}

def spans (analysis : Analysis) : List Span :=
  analysis.triggers.flatMap Trigger.spans

theorem spans_close (analysis : Analysis) :
    analysis.close.spans = analysis.spans := by
  rw [spans, triggers_close]
  rfl

/-! ## One line -/

/-- Until its diagnostics are collected, a line has added its span to what was
parsed or nothing, and what it has left in the log points nowhere yet. -/
structure Parses (span : Span) (analysis after : Analysis) : Prop where
  log : after.log.Alike after.log
  added : ∃ items, items.Sublist [span] ∧ after.spans = analysis.spans ++ items
  diagnostics : after.diagnostics = analysis.diagnostics

theorem Parses.nothing (log : after.log.Alike after.log)
    (same : after.spans = analysis.spans)
    (diagnostics : after.diagnostics = analysis.diagnostics) :
    Parses span analysis after where
  log := log
  added := ⟨[], List.nil_sublist _, by rw [same, List.append_nil]⟩
  diagnostics := diagnostics

theorem Parses.item (log : after.log.Alike after.log)
    (added : after.spans = analysis.spans ++ [span])
    (diagnostics : after.diagnostics = analysis.diagnostics) :
    Parses span analysis after where
  log := log
  added := ⟨[span], List.Sublist.refl _, added⟩
  diagnostics := diagnostics

theorem complain_parses (log : after.log.Alike after.log)
    (same : after.spans = analysis.spans)
    (diagnostics : after.diagnostics = analysis.diagnostics) (message : Text) :
    Parses span analysis (after.complain message) :=
  .nothing (log.addAll [⟨.error, message, "E100"⟩]) same diagnostics

theorem openTrigger_parses (log : analysis.log.Alike analysis.log) {header : Text}
    (opened : analysis.close.openTrigger parser span header = .ok after) :
    Parses span analysis after := by
  unfold openTrigger at opened
  generalize ("can't understand this event: '" ++ header ++ "'" : Text) =
    fallback at opened
  have left : (parser.parseEvent analysis.close.log header (some fallback)).2.Alike
      (parser.parseEvent analysis.close.log header (some fallback)).2 :=
    (Call.perform_alike parser (.parseEvent header (some fallback)) log).2
  simp only at opened
  split at opened
  next => cases opened
  next performed =>
    cases opened
    rw [performed] at left
    exact .nothing left (spans_close analysis) rfl
  next accepted _ performed =>
    cases opened
    rw [performed] at left
    refine .item left ?_ rfl
    simp [spans, triggers, close, Trigger.spans]

private theorem addStatement_parses (log : analysis.log.Alike analysis.log)
    {trigger : Trigger} (isCurrent : analysis.current = some trigger)
    {text : Text}
    (added : analysis.addStatement parser trigger span text = .ok after) :
    Parses span analysis after := by
  unfold addStatement at added
  have left : (parser.parseStatement analysis.log text none).2.Alike
      (parser.parseStatement analysis.log text none).2 :=
    (Call.perform_alike parser (.parseStatement text none) log).2
  split at added
  next => cases added
  next performed =>
    cases added
    rw [performed] at left
    exact .nothing left rfl rfl
  next accepted _ performed =>
    cases added
    rw [performed] at left
    refine .item left ?_ rfl
    simp [spans, triggers, isCurrent, Trigger.spans, Trigger.addStatement]

/-- The line adds these spans and these diagnostics to the analysis. -/
structure Reads (file : Text) (line : NumberedLine) (analysis after : Analysis)
    (items : List Span) (found : List Diagnostic) : Prop where
  spans : after.spans = analysis.spans ++ items
  diagnostics : after.diagnostics = analysis.diagnostics ++ found
  own : items.Sublist [line.span file]
  pointed : ∀ diagnostic ∈ found, diagnostic.PointsAt (line.span file)
  present : line.Skipped → items = [] ∧ found = []

private theorem Parses.collect (parses : Parses (line.span file) analysis after)
    (present : ¬line.Skipped) :
    ∃ items found, Reads file line analysis (after.collect (line.span file))
      items found := by
  obtain ⟨items, own, added⟩ := parses.added
  refine ⟨items,
    after.log.diagnostics.map (Diagnostic.addLabel (line.span file)),
    added, ?_, own, ?_, fun skipped => absurd skipped present⟩
  · rw [← parses.diagnostics]
    rfl
  · intro diagnostic member
    obtain ⟨logged, among, rfl⟩ := List.mem_map.mp member
    simp [Diagnostic.PointsAt, Diagnostic.addLabel,
      parses.log.unlabelled logged among]

private theorem step_reads (root : analysis.log.scopes = [])
    (taken : analysis.log.diagnostics = [])
    (stepped : analysis.step parser file line = .ok after) :
    ∃ items found, Reads file line analysis after items found := by
  have log : analysis.log.Alike analysis.log :=
    ⟨root, root, rfl, fun _ member => by rw [taken] at member; cases member⟩
  have isClass := line.class_cases
  unfold step at stepped
  simp only at stepped
  split at stepped
  next same =>
    rw [same] at isClass
    cases stepped
    exact ⟨[], [], (List.append_nil _).symm, (List.append_nil _).symm,
      List.nil_sublist _, fun _ member => (nomatch member), fun _ => ⟨rfl, rfl⟩⟩
  next header same =>
    rw [same] at isClass
    obtain ⟨opened, parsed, stepped⟩ := except_bind_ok stepped
    cases stepped
    exact (openTrigger_parses log parsed).collect isClass.1
  next text same =>
    rw [same] at isClass
    cases stepped
    have closed : analysis.close.log.Alike analysis.close.log := log
    exact (complain_parses closed (spans_close analysis) rfl _).collect isClass.1
  next text same =>
    rw [same] at isClass
    split at stepped
    next noCurrent =>
      cases stepped
      exact (complain_parses log rfl rfl _).collect isClass.1
    next trigger isCurrent =>
      obtain ⟨added, parsed, stepped⟩ := except_bind_ok stepped
      cases stepped
      exact (addStatement_parses log isCurrent parsed).collect isClass.1

/-! ## All lines -/

/-- The analysis adds these spans and these diagnostics when it comes to the
line, after the lines above it. -/
def Adds (parser : Parser) (file : Text) (above : List NumberedLine)
    (line : NumberedLine) (items : List Span) (found : List Diagnostic) :
    Prop :=
  ∃ reached after, above.foldlM (Analysis.step parser file) .start = .ok reached ∧
    reached.step parser file line = .ok after ∧
    Reads file line reached after items found

/-- Everything in the analysis was added by one of the lines, and in their order. -/
structure Covers (parser : Parser) (file : Text) (lines : List NumberedLine)
    (analysis : Analysis) : Prop where
  ordered : analysis.spans.Sublist (lines.map (NumberedLine.span file))
  spans : ∀ span ∈ analysis.spans, ∃ above line below items found,
    lines = above ++ line :: below ∧ Adds parser file above line items found ∧
    span ∈ items
  diagnostics : ∀ diagnostic ∈ analysis.diagnostics, ∃ above line below items found,
    lines = above ++ line :: below ∧ Adds parser file above line items found ∧
    diagnostic ∈ found

theorem Covers.step (covers : Covers parser file lines analysis)
    (run : lines.foldlM (Analysis.step parser file) .start = .ok analysis)
    (stepped : analysis.step parser file line = .ok after) :
    Covers parser file (lines ++ [line]) after := by
  obtain ⟨root, taken⟩ := rests_of_run run
  obtain ⟨items, found, reads⟩ := step_reads root taken stepped
  have adds : Adds parser file lines line items found :=
    ⟨analysis, after, run, stepped, reads⟩
  refine ⟨?_, ?_, ?_⟩
  · rw [reads.spans, List.map_append]
    exact covers.ordered.append reads.own
  · intro span member
    rw [reads.spans] at member
    rcases List.mem_append.mp member with earlier | new
    · obtain ⟨above, other, below, others, remarks, split, added, among⟩ :=
        covers.spans span earlier
      exact ⟨above, other, below ++ [line], others,
        remarks, by simp [split], added, among⟩
    · exact ⟨lines, line, [], items, found, rfl, adds, new⟩
  · intro diagnostic member
    rw [reads.diagnostics] at member
    rcases List.mem_append.mp member with earlier | new
    · obtain ⟨above, other, below, others, remarks, split, added, among⟩ :=
        covers.diagnostics diagnostic earlier
      exact ⟨above, other, below ++ [line], others,
        remarks, by simp [split], added, among⟩
    · exact ⟨lines, line, [], items, found, rfl, adds, new⟩

/-- A run over lines covers what it has found by these lines. -/
theorem run_covers
    (run : lines.foldlM (Analysis.step parser file) .start = .ok analysis) :
    Covers parser file lines analysis := by
  induction lines using List.reverseRecOn generalizing analysis with
  | nil =>
      cases run
      exact ⟨List.Sublist.refl _, fun _ member => (nomatch member),
        fun _ member => (nomatch member)⟩
  | append_singleton lines line induction =>
      rw [List.foldlM_append] at run
      obtain ⟨reached, first, last⟩ := except_bind_ok run
      rw [List.foldlM_cons] at last
      obtain ⟨stepped, step, ended⟩ := except_bind_ok last
      cases ended
      exact (induction first).step first step

end Analysis

/-- What a report lists was added by the lines of its source, and in their order. -/
theorem Parser.analyzeScript_covers {parser : Parser} {source file : Text}
    {report : ScriptReport}
    (returned : parser.analyzeScript source file = .ok report) :
    ∃ analysis : Analysis,
      report = ⟨file, analysis.triggers, analysis.diagnostics⟩ ∧
      analysis.Covers parser file (NumberedLine.all source) := by
  obtain ⟨analysis, run, returned⟩ := except_bind_ok returned
  cases returned
  exact ⟨analysis, rfl, Analysis.run_covers run⟩

end Phrasebook
