import Phrasebook.BlockGame.Syntax
import Phrasebook.Proofs.Accounting
import Phrasebook.Proofs.Script.Shift

/-!
# Scripts one below the other

The analysis of a source goes through the same steps when other lines stand
above it, as long as its first line that counts stands at the margin.  Such a
line ends whatever trigger is open, and nothing that lies in the log between two
lines has any influence: the log is empty then but for what it has already
emitted.
-/

namespace Phrasebook

/-! ## Calls that start from different logs -/

namespace ParseLog

/-- Outside of all scopes, two logs hold the same diagnostics, none of which
points anywhere yet.  What they have emitted before may differ. -/
structure Alike (first second : ParseLog) : Prop where
  firstRoot : first.scopes = []
  secondRoot : second.scopes = []
  same : second.diagnostics = first.diagnostics
  unlabelled : ∀ diagnostic ∈ first.diagnostics, diagnostic.labels = []

namespace Alike

variable {first second : ParseLog}

theorem withOpened (alike : Alike first second) (firstOpened secondOpened : Nat) :
    Alike (first.withOpened firstOpened) (second.withOpened secondOpened) :=
  ⟨alike.firstRoot, alike.secondRoot, alike.same, alike.unlabelled⟩

theorem addAll (alike : Alike first second) (entries : List LogEntry) :
    Alike (first.addAll entries) (second.addAll entries) := by
  obtain ⟨firstRoot, firstHolds⟩ := first.addAll_of_root entries alike.firstRoot
  obtain ⟨secondRoot, secondHolds⟩ := second.addAll_of_root entries alike.secondRoot
  refine ⟨firstRoot, secondRoot, by rw [firstHolds, secondHolds, alike.same], ?_⟩
  intro diagnostic member
  rw [firstHolds] at member
  rcases List.mem_append.mp member with earlier | added
  · exact alike.unlabelled diagnostic earlier
  · obtain ⟨⟨severity, message, code⟩, _, gives⟩ := List.mem_filterMap.mp added
    cases severity with
    | note => cases gives
    | error | warning =>
        cases gives
        rfl

end Alike

end ParseLog

/-- Calls from logs that are alike answer alike and leave logs that are alike. -/
theorem Call.perform_alike (parser : Parser) (call : Call) {first second : ParseLog}
    (alike : first.Alike second) :
    (call.perform parser second).1 = (call.perform parser first).1 ∧
      (call.perform parser first).2.Alike (call.perform parser second).2 := by
  obtain ⟨firstOpened, firstTraced⟩ := perform_traced parser first call
  obtain ⟨secondOpened, secondTraced⟩ := perform_traced parser second call
  have opened := alike.withOpened firstOpened secondOpened
  rcases answered : (call.search Traced parser).answer with error | (none | found)
  · rw [answered] at firstTraced secondTraced
    simp only at firstTraced secondTraced
    rw [firstTraced, secondTraced]
    exact ⟨rfl, opened⟩
  · rw [answered] at firstTraced secondTraced
    rw [firstTraced.2, secondTraced.2]
    exact ⟨rfl, opened.addAll _⟩
  · rw [answered] at firstTraced secondTraced
    simp only at firstTraced secondTraced
    rw [firstTraced, secondTraced]
    exact ⟨rfl, opened.addAll _⟩

/-! ## Analyses one below the other -/

/-- Two computations end in the same error, or in results that are related. -/
inductive Except.Alike {ε α β : Type} (related : α → β → Prop) :
    Except ε α → Except ε β → Prop
  | ok {first : α} {second : β} : related first second →
      Alike related (.ok first) (.ok second)
  | error (error : ε) : Alike related (.error error) (.error error)

theorem Except.Alike.mono {ε α β : Type} {weaker related : α → β → Prop}
    {first : Except ε α} {second : Except ε β}
    (alike : Except.Alike related first second)
    (weaken : ∀ found other, related found other → weaker found other) :
    Except.Alike weaker first second := by
  cases alike with
  | ok holds => exact .ok (weaken _ _ holds)
  | error error => exact .error error

theorem Except.Alike.bind {ε α β γ δ : Type} {related : α → β → Prop}
    {results : γ → δ → Prop}
    {first : Except ε α} {second : Except ε β} {firstNext : α → Except ε γ}
    {secondNext : β → Except ε δ} (alike : Except.Alike related first second)
    (next : ∀ found other, related found other →
      Except.Alike results (firstNext found) (secondNext other)) :
    Except.Alike results (first >>= firstNext) (second >>= secondNext) := by
  cases alike with
  | ok holds => exact next _ _ holds
  | error error => exact .error error

namespace Analysis

variable {parser : Parser} {file : Text} {upper alone joined : Analysis}
  {lines : Nat}

/-- The second analysis is what the first one would be this many lines further
down, behind an analysis of the lines above. -/
structure Continues (upper : Analysis) (lines : Nat) (alone joined : Analysis) :
    Prop where
  log : alone.log.Alike joined.log
  finished : joined.finished = upper.finished ++
    alone.finished.map (Trigger.below lines)
  current : joined.current = alone.current.map (Trigger.below lines)
  diagnostics : joined.diagnostics =
    upper.diagnostics ++ alone.diagnostics.map (Diagnostic.below lines)

/-- Between two lines the diagnostics have been taken from the log as well. -/
structure Resumes (upper : Analysis) (lines : Nat) (alone joined : Analysis) : Prop
    extends Continues upper lines alone joined where
  taken : alone.log.diagnostics = []

theorem Continues.triggers (continues : Continues upper lines alone joined) :
    joined.triggers = upper.finished ++
      alone.triggers.map (Trigger.below lines) := by
  unfold Analysis.triggers
  rw [continues.finished, continues.current]
  cases alone.current with
  | none => simp
  | some trigger => simp

theorem Continues.close (continues : Continues upper lines alone joined) :
    Continues upper lines alone.close joined.close where
  log := continues.log
  finished := continues.triggers
  current := rfl
  diagnostics := continues.diagnostics

theorem Continues.complain (continues : Continues upper lines alone joined)
    (message : Text) :
    Continues upper lines (alone.complain message) (joined.complain message) where
  log := continues.log.addAll [⟨.error, message, "E100"⟩]
  finished := continues.finished
  current := continues.current
  diagnostics := continues.diagnostics

theorem Continues.collect (continues : Continues upper lines alone joined)
    (span : Span) :
    Resumes upper lines (alone.collect span)
      (joined.collect (span.below lines)) where
  log := by
    refine ⟨continues.log.firstRoot, continues.log.secondRoot, rfl, ?_⟩
    intro diagnostic member
    cases member
  finished := continues.finished
  current := continues.current
  diagnostics := by
    have labelled :
      alone.log.diagnostics.map (Diagnostic.addLabel (span.below lines)) =
        (alone.log.diagnostics.map (Diagnostic.addLabel span)).map
          (Diagnostic.below lines) := by
      rw [List.map_map]
      apply List.map_congr_left
      intro diagnostic member
      exact Diagnostic.addLabel_below
        (continues.log.unlabelled diagnostic member) lines span
    simp only [Analysis.collect, ParseLog.takeDiagnostics]
    rw [continues.log.same, continues.diagnostics, labelled, List.map_append,
      List.append_assoc]
  taken := rfl

theorem Continues.openTrigger (continues : Continues upper lines alone joined)
    (span : Span) (header : Text) :
    Except.Alike (Continues upper lines) (alone.openTrigger parser span header)
      (joined.openTrigger parser (span.below lines) header) := by
  unfold Analysis.openTrigger
  simp only
  generalize ("can't understand this event: '" ++ header ++ "'" : Text) = fallback
  obtain ⟨answer, log⟩ :=
    Call.perform_alike parser (.parseEvent header (some fallback)) continues.log
  simp only [Call.perform] at answer log
  generalize parser.parseEvent alone.log header (some fallback) = first
    at answer log ⊢
  generalize parser.parseEvent joined.log header (some fallback) = second
    at answer log ⊢
  obtain ⟨firstAnswer, firstLog⟩ := first
  obtain ⟨secondAnswer, secondLog⟩ := second
  obtain rfl : secondAnswer = firstAnswer := answer
  rcases secondAnswer with error | (none | accepted)
  · exact .error error
  · exact .ok ⟨log, continues.finished, continues.current, continues.diagnostics⟩
  · exact .ok ⟨log, continues.finished, rfl, continues.diagnostics⟩

theorem Continues.addStatement (continues : Continues upper lines alone joined)
    (trigger : Trigger) (span : Span) (text : Text) :
    Except.Alike (Continues upper lines)
      (alone.addStatement parser trigger span text)
      (joined.addStatement parser (trigger.below lines) (span.below lines)
        text) := by
  unfold Analysis.addStatement
  obtain ⟨answer, log⟩ :=
    Call.perform_alike parser (.parseStatement text none) continues.log
  simp only [Call.perform] at answer log
  generalize parser.parseStatement alone.log text none = first at answer log ⊢
  generalize parser.parseStatement joined.log text none = second at answer log ⊢
  obtain ⟨firstAnswer, firstLog⟩ := first
  obtain ⟨secondAnswer, secondLog⟩ := second
  obtain rfl : secondAnswer = firstAnswer := answer
  rcases secondAnswer with error | (none | accepted)
  · exact .error error
  · exact .ok ⟨log, continues.finished, continues.current, continues.diagnostics⟩
  · refine .ok ⟨log, continues.finished, ?_, continues.diagnostics⟩
    have added := trigger.addStatement_below ⟨accepted.element, span⟩ lines
    exact congrArg some added.symm

/-- A line is taken into account in the same way further down. -/
theorem Resumes.step (resumes : Resumes upper lines alone joined)
    (parser : Parser) (file : Text) (line : NumberedLine) :
    Except.Alike (Resumes upper lines) (alone.step parser file line)
      (joined.step parser file (line.below lines)) := by
  have span : Span.ofLine file (line.below lines).2 (line.below lines).1 =
      (Span.ofLine file line.2 line.1).below lines :=
    Span.ofLine_below file line.2 lines line.1
  have continues := resumes.toContinues
  unfold Analysis.step
  simp only [span]
  have sameClass : LineClass.ofLine (line.below lines).1 =
      LineClass.ofLine line.1 := rfl
  rw [sameClass]
  cases LineClass.ofLine line.1 with
  | skipped => exact .ok resumes
  | header header =>
      exact (continues.close.openTrigger _ header).bind fun _ _ opened =>
        .ok (opened.collect _)
  | strayText text => exact .ok ((continues.close.complain _).collect _)
  | indented text =>
      simp only
      rw [continues.current]
      cases alone.current with
      | none => exact .ok ((continues.complain _).collect _)
      | some trigger =>
          exact (continues.addStatement trigger _ text).bind fun _ _ added =>
            .ok (added.collect _)

theorem Resumes.run (resumes : Resumes upper lines alone joined)
    (parser : Parser) (file : Text) (source : List NumberedLine) :
    Except.Alike (Resumes upper lines)
      (source.foldlM (Analysis.step parser file) alone)
      ((source.map (NumberedLine.below lines)).foldlM
        (Analysis.step parser file) joined) := by
  induction source generalizing alone joined with
  | nil => exact .ok resumes
  | cons line source induction =>
      rw [List.map_cons, List.foldlM_cons, List.foldlM_cons]
      exact (resumes.step parser file line).bind fun _ _ further =>
        induction further

theorem rests_of_run {source : List NumberedLine} {analysis : Analysis}
    (run : source.foldlM (Analysis.step parser file) .start = .ok analysis) :
    analysis.log.scopes = [] ∧ analysis.log.diagnostics = [] := by
  have start : Resumes .start 0 .start .start :=
    ⟨⟨⟨rfl, rfl, rfl, fun _ member => nomatch member⟩, rfl, rfl, rfl⟩, rfl⟩
  have same : source.map (NumberedLine.below 0) = source := List.map_id source
  have ended := start.run parser file source
  rw [same, run] at ended
  cases ended with
  | ok resumes => exact ⟨resumes.log.firstRoot, resumes.taken⟩

theorem Resumes.start (lines : Nat) (root : upper.log.scopes = [])
    (taken : upper.log.diagnostics = []) :
    Resumes upper.close lines .start upper.close where
  log := ⟨rfl, root, taken, fun _ member => nomatch member⟩
  finished := by simp [Analysis.start]
  current := rfl
  diagnostics := by simp [Analysis.start]
  taken := rfl

private theorem step_skipped {line : NumberedLine} (skipped : line.Skipped)
    (analysis : Analysis) :
    analysis.step parser file line = .ok analysis := by
  have isClass := line.class_cases
  unfold step
  simp only
  cases classified : LineClass.ofLine line.1 with
  | skipped => rfl
  | header _ | strayText _ | indented _ =>
      rw [classified] at isClass
      exact absurd skipped isClass.1

/-- At the margin it does not matter which trigger was open. -/
theorem step_close {line : NumberedLine} (atMargin : line.AtMargin)
    (analysis : Analysis) :
    analysis.close.step parser file line = analysis.step parser file line := by
  have isClass := line.class_cases
  have closed : analysis.close.close = analysis.close := by
    simp [close, triggers]
  unfold step
  simp only
  cases classified : LineClass.ofLine line.1 with
  | skipped =>
      rw [classified] at isClass
      exact absurd isClass atMargin.1
  | header header => rw [closed]
  | strayText text => rw [closed]
  | indented text =>
      rw [classified] at isClass
      exact absurd isClass.2 atMargin.2

end Analysis

namespace NumberedLine

instance (line : NumberedLine) : Decidable line.Skipped :=
  inferInstanceAs (Decidable (_ ∨ _))

instance (line : NumberedLine) : Decidable line.Indented :=
  inferInstanceAs (Decidable (_ ∨ _))

/-- The first line that is not skipped, if there is one, is not indented. -/
def StartAtMargin (lines : List NumberedLine) : Prop :=
  ∀ line ∈ lines.find? fun line => ¬line.Skipped, ¬line.Indented

instance (lines : List NumberedLine) : Decidable (StartAtMargin lines) :=
  inferInstanceAs (Decidable (∀ line ∈ lines.find? fun line => ¬line.Skipped,
    ¬line.Indented))

end NumberedLine

namespace Analysis

/-- Lines that start at the margin add the same to the analysis of the lines
above as they make up on their own. -/
theorem run_below (parser : Parser) (file : Text) {upper : Analysis}
    (lines : Nat) (root : upper.log.scopes = [])
    (taken : upper.log.diagnostics = []) {source : List NumberedLine}
    (starts : NumberedLine.StartAtMargin source) :
    Except.Alike
      (fun alone joined => joined.triggers = upper.triggers ++
        alone.triggers.map (.below lines) ∧
        joined.diagnostics = upper.diagnostics ++
          alone.diagnostics.map (.below lines))
      (source.foldlM (Analysis.step parser file) .start)
      ((source.map (NumberedLine.below lines)).foldlM
        (Analysis.step parser file) upper) := by
  induction source with
  | nil => exact .ok ⟨by simp [start, triggers], by simp [start]⟩
  | cons line source induction =>
      rw [List.map_cons]
      by_cases skipped : line.Skipped
      · have skippedBelow : (line.below lines).Skipped := skipped
        have later : NumberedLine.StartAtMargin source := by
          simpa [NumberedLine.StartAtMargin, skipped] using starts
        rw [List.foldlM_cons, List.foldlM_cons, step_skipped skipped,
          step_skipped skippedBelow]
        exact induction later
      · have notIndented : ¬line.Indented := by
          simpa [NumberedLine.StartAtMargin, skipped] using starts
        have atMargin : (line.below lines).AtMargin := ⟨skipped, notIndented⟩
        have closed : (line.below lines :: source.map (.below lines)).foldlM
          (step parser file)
            upper.close =
              (line.below lines :: source.map (.below lines)).foldlM
              (step parser file) upper := by
          rw [List.foldlM_cons, List.foldlM_cons, step_close atMargin]
        rw [← closed]
        refine ((Resumes.start lines root taken).run parser file
          (line :: source)).mono ?_
        intro alone joined resumes
        exact ⟨resumes.triggers, resumes.diagnostics⟩

end Analysis

/-- The report with the findings of another one, this many lines further down,
behind its own. -/
def ScriptReport.above (upper : ScriptReport) (lines : Nat) (lower : ScriptReport) :
    ScriptReport :=
  ⟨upper.file, upper.triggers ++ lower.triggers.map (Trigger.below lines),
    upper.diagnostics ++ lower.diagnostics.map (Diagnostic.below lines)⟩

/-- The analysis of two sources, one below the other, is the analysis of the
first and then that of the second, moved down by the lines of the first. -/
theorem Parser.analyzeScript_append (parser : Parser) (file : Text)
    {first second : Text} (ended : Text.Ended first)
    (starts : NumberedLine.StartAtMargin (NumberedLine.all second)) :
    parser.analyzeScript (first ++ second) file = (do
      let upper ← parser.analyzeScript first file
      let lower ← parser.analyzeScript second file
      pure (upper.above (Text.lines first).length lower)) := by
  have analyze (source : Text) : parser.analyzeScript source file = (do
      let analysis ← (NumberedLine.all source).foldlM
        (Analysis.step parser file) .start
      pure ⟨file, analysis.triggers, analysis.diagnostics⟩) := rfl
  rw [analyze, analyze first, analyze second, NumberedLine.all_append ended,
    List.foldlM_append]
  cases run : (NumberedLine.all first).foldlM (Analysis.step parser file) .start
      with
  | error error => rfl
  | ok upper =>
      obtain ⟨root, taken⟩ := Analysis.rests_of_run run
      have below := Analysis.run_below parser file (Text.lines first).length
        root taken starts
      generalize (NumberedLine.all second).foldlM (Analysis.step parser file)
        .start = alone
        at below ⊢
      generalize isJoined : ((NumberedLine.all second).map
        (NumberedLine.below (Text.lines first).length)).foldlM (Analysis.step
          parser file) upper =
          joined at below
      simp only [bind, Except.bind, pure, Except.pure, isJoined]
      cases below with
      | error error => rfl
      | ok found =>
          simp only [ScriptReport.above, found.1, found.2]

def BlockGame.wakingScript : Text :=
  "on death:\n\tforce the player to respawn\nstray\non death:\n"

def BlockGame.dancingScript : Text :=
  "\t# later\n\non death:\n\tdance\n\tforce the player to respawn"

/-- Where the triggers, the statements and the diagnostics of a report start. -/
def ScriptReport.startLines (report : ScriptReport) :
    List Int × List Int × List Int :=
  (report.triggers.map (·.span.startLine),
    report.triggers.flatMap fun trigger =>
      trigger.statements.map (·.span.startLine),
    report.diagnostics.flatMap fun diagnostic =>
      diagnostic.labels.map (·.span.startLine))

theorem BlockGame.wakingScript_above :
    ∃ game, BlockGame.registry = .ok game ∧ Text.Ended wakingScript ∧
      NumberedLine.StartAtMargin (NumberedLine.all dancingScript) ∧
      (⟨game, .standard⟩ : Parser).analyzeScript
      (wakingScript ++ dancingScript) "game" = (do
        let upper ← (⟨game, .standard⟩ : Parser).analyzeScript wakingScript "game"
        let lower ← (⟨game, .standard⟩ : Parser).analyzeScript dancingScript "game"
        pure (upper.above 4 lower)) ∧
      ((⟨game, .standard⟩ : Parser).analyzeScript
        (wakingScript ++ dancingScript) "game").toOption.map
        ScriptReport.startLines = some ([1, 4, 7], [2, 9], [3, 8]) := by
  have computed : (do
      let game ← BlockGame.registry
      (⟨game, .standard⟩ : Parser).analyzeScript
        (wakingScript ++ dancingScript) "game"
      : Except SetupError ScriptReport).toOption.map ScriptReport.startLines =
        some ([1, 4, 7], [2, 9], [3, 8]) := by decide +kernel
  have ended : Text.Ended wakingScript := .inr (by decide)
  have starts : NumberedLine.StartAtMargin
      (NumberedLine.all dancingScript) := by decide +kernel
  cases registered : BlockGame.registry with
  | error error =>
      rw [registered] at computed
      cases computed
  | ok game =>
      rw [registered] at computed
      have four : (Text.lines wakingScript).length = 4 := by decide +kernel
      have appended :=
        Parser.analyzeScript_append ⟨game, .standard⟩ "game" ended starts
      rw [four] at appended
      exact ⟨game, rfl, ended, starts, appended, computed⟩

end Phrasebook
