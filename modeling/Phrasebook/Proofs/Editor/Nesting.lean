import Phrasebook.BlockGame.Syntax
import Phrasebook.Builtin
import Phrasebook.Editor.Workspace
import Phrasebook.Proofs.Script.Spans

/-!
# Outlines are well nested

The range of a trigger is put together from the spans of its header and of its
last statement.  Since a report lists what was parsed in the order of the lines,
each line at most once, this range holds the statements and nothing of other
triggers.
-/

namespace Phrasebook

/-! ## Spans one below the other -/

/-- The span lies within one line and does not end before it starts. -/
structure Span.Upright (span : Span) : Prop where
  oneLine : span.endLine = span.startLine
  forward : span.startColumn ≤ span.endColumn

/-- The spans lie within lines of their own, one below the other. -/
structure Span.Stacked (spans : List Span) : Prop where
  upright : ∀ span ∈ spans, span.Upright
  ordered : spans.Pairwise (·.startLine < ·.startLine)

private theorem NumberedLine.span_upright (file : Text) (line : NumberedLine) :
    (line.span file).Upright := by
  unfold NumberedLine.span Span.ofLine
  simp only
  split
  next => exact ⟨rfl, Int.le_refl 1⟩
  next present =>
    have positive : 0 < (Text.strip line.1).length := by
      apply List.length_pos_iff.mpr
      simpa using present
    constructor
    · rfl
    · simp only
      omega

theorem Parser.analyzeScript_stacked {parser : Parser} {source file : Text}
    {report : ScriptReport}
    (returned : parser.analyzeScript source file = .ok report) :
    Span.Stacked report.spans := by
  obtain ⟨analysis, rfl, covers⟩ := analyzeScript_covers returned
  constructor
  · intro span member
    obtain ⟨line, _, rfl⟩ := List.mem_map.mp (covers.ordered.subset member)
    exact line.span_upright file
  · exact (NumberedLine.spans_increasing source file).sublist covers.ordered

namespace Trigger

def lastSpan (trigger : Trigger) : Span :=
  (trigger.statements.getLast?.map (·.span)).getD trigger.span

theorem exists_spans_eq (trigger : Trigger) :
    ∃ earlier, trigger.spans = earlier ++ [trigger.lastSpan] := by
  rcases List.eq_nil_or_concat trigger.statements
    with none | ⟨statements, last, split⟩
  · exact ⟨[], by simp [spans, lastSpan, none]⟩
  · exact ⟨trigger.span :: statements.map (·.span), by simp [spans,
      lastSpan, split]⟩

theorem lastSpan_mem (trigger : Trigger) : trigger.lastSpan ∈ trigger.spans := by
  obtain ⟨earlier, split⟩ := trigger.exists_spans_eq
  rw [split]
  exact List.mem_append_right _ (List.mem_singleton_self _)

variable {trigger : Trigger}

theorem header_first (stacked : Span.Stacked trigger.spans) {span : Span}
    (member : span ∈ trigger.spans) :
    span = trigger.span ∨ trigger.span.startLine < span.startLine := by
  rcases List.mem_cons.mp member with same | statement
  · exact .inl same
  · exact .inr ((List.pairwise_cons.mp stacked.ordered).1 span statement)

theorem lastSpan_last (stacked : Span.Stacked trigger.spans) {span : Span}
    (member : span ∈ trigger.spans) :
    span = trigger.lastSpan ∨ span.startLine < trigger.lastSpan.startLine := by
  obtain ⟨earlier, split⟩ := trigger.exists_spans_eq
  have ordered := stacked.ordered
  rw [split] at ordered member
  rcases List.mem_append.mp member with before | last
  · exact .inr ((List.pairwise_append.mp ordered).2.2 span before _
      (List.mem_singleton_self _))
  · exact .inl (List.mem_singleton.mp last)

end Trigger

/-! ## Ranges one behind the other -/

namespace Editor

theorem Position.notAfter.trans {first second third : Position}
    (upper : first.notAfter second) (lower : second.notAfter third) :
    first.notAfter third := by
  unfold Position.notAfter at upper lower ⊢
  omega

/-- The first range starts before the second one, and no position belongs to
both. -/
structure Range.Precedes (first second : Range) : Prop where
  order : first.start.before second.start
  disjoint : ∀ position, ¬(first.contains position ∧ second.contains position)

theorem Range.precedes_of_above {first second : Range}
    (forward : first.start.notAfter first.stop)
    (above : first.stop.line < second.start.line) : first.Precedes second := by
  unfold Position.notAfter at forward
  constructor
  · unfold Position.before
    omega
  · rintro position ⟨⟨_, before⟩, behind, _⟩
    unfold Position.before at before
    unfold Position.notAfter at behind
    omega

theorem Range.ofSpan_forward {span : Span} (upright : span.Upright) :
    (Range.ofSpan span).start.notAfter (Range.ofSpan span).stop := by
  obtain ⟨oneLine, forward⟩ := upright
  simp only [Position.notAfter, Range.ofSpan]
  omega

/-! ## Triggers -/

namespace TriggerSymbol

/-- The selections lie inside of the ranges that they belong to, and the
statements inside of the trigger, one behind the other. -/
structure WellNested (symbol : TriggerSymbol) : Prop where
  selection : symbol.selection.inside symbol.range
  selections : ∀ child ∈ symbol.children, child.selection.inside child.range
  children : ∀ child ∈ symbol.children, child.range.inside symbol.range
  ordered : symbol.children.Pairwise (·.range.Precedes ·.range)

variable {trigger : Trigger}

private theorem range_ofTrigger (trigger : Trigger) :
    (ofTrigger trigger).range =
      ⟨(Range.ofSpan trigger.span).start,
        (Range.ofSpan trigger.lastSpan).stop⟩ := rfl

theorem inside_ofTrigger (stacked : Span.Stacked trigger.spans) {span : Span}
    (member : span ∈ trigger.spans) :
    (Range.ofSpan span).inside (ofTrigger trigger).range := by
  have last := (stacked.upright trigger.lastSpan trigger.lastSpan_mem).oneLine
  have own := (stacked.upright span member).oneLine
  rw [range_ofTrigger]
  constructor
  · rcases Trigger.header_first stacked member with rfl | below
    · simp [Position.notAfter]
    · simp only [Position.notAfter, Range.ofSpan]
      omega
  · rcases Trigger.lastSpan_last stacked member with rfl | above
    · simp [Position.notAfter]
    · simp only [Position.notAfter, Range.ofSpan]
      omega

private theorem ofTrigger_forward (stacked : Span.Stacked trigger.spans) :
    (ofTrigger trigger).range.start.notAfter (ofTrigger trigger).range.stop := by
  have header : trigger.span ∈ trigger.spans := List.mem_cons_self
  obtain ⟨before, behind⟩ := inside_ofTrigger stacked header
  exact (before.trans (Range.ofSpan_forward (stacked.upright _ header))).trans
    behind

private theorem wellNested_ofTrigger (stacked : Span.Stacked trigger.spans) :
    (ofTrigger trigger).WellNested := by
  have statement {held : Statement} (among : held ∈ trigger.statements) :
      held.span ∈ trigger.spans :=
    List.mem_cons_of_mem _ (List.mem_map_of_mem among)
  constructor
  case selection => exact inside_ofTrigger stacked List.mem_cons_self
  case selections =>
    intro child member
    obtain ⟨held, _, rfl⟩ := List.mem_map.mp member
    simp [Range.inside, StatementSymbol.ofStatement, Position.notAfter]
  case children =>
    intro child member
    obtain ⟨held, among, rfl⟩ := List.mem_map.mp member
    exact inside_ofTrigger stacked (statement among)
  case ordered =>
    have ordered := List.pairwise_map.mp (List.pairwise_cons.mp stacked.ordered).2
    apply List.pairwise_map.mpr
    apply ordered.imp_of_mem
    intro upper lower isUpper _ above
    have upright := stacked.upright upper.span (statement isUpper)
    apply Range.precedes_of_above (Range.ofSpan_forward upright)
    simp only [StatementSymbol.ofStatement, Range.ofSpan, upright.oneLine]
    omega

private theorem ofTrigger_precedes {upper lower : Trigger}
    (stacked : Span.Stacked upper.spans)
    (above : ∀ span ∈ upper.spans, ∀ other ∈ lower.spans,
      span.startLine < other.startLine) :
    (ofTrigger upper).range.Precedes (ofTrigger lower).range := by
  have oneLine := (stacked.upright upper.lastSpan upper.lastSpan_mem).oneLine
  have ended := above upper.lastSpan upper.lastSpan_mem lower.span
    List.mem_cons_self
  apply Range.precedes_of_above (ofTrigger_forward stacked)
  simp only [range_ofTrigger, Range.ofSpan]
  omega

end TriggerSymbol

/-! ## Whole outlines -/

/-- The symbols are well nested, each in itself, and come one behind the other. -/
structure WellNested (symbols : List TriggerSymbol) : Prop where
  each : ∀ symbol ∈ symbols, symbol.WellNested
  ordered : symbols.Pairwise (·.range.Precedes ·.range)

private theorem wellNested_of_stacked {triggers : List Trigger}
    (stacked : Span.Stacked (triggers.flatMap Trigger.spans)) :
    WellNested (triggers.map .ofTrigger) := by
  obtain ⟨each, apart⟩ := List.pairwise_flatMap.mp stacked.ordered
  have within {trigger : Trigger} (member : trigger ∈ triggers) :
      Span.Stacked trigger.spans :=
    ⟨fun span inner =>
      stacked.upright span (List.mem_flatMap.mpr ⟨trigger, member, inner⟩),
      each trigger member⟩
  constructor
  · intro symbol member
    obtain ⟨trigger, among, rfl⟩ := List.mem_map.mp member
    exact TriggerSymbol.wellNested_ofTrigger (within among)
  · apply List.pairwise_map.mpr
    apply apart.imp_of_mem
    intro upper lower isUpper _ above
    exact TriggerSymbol.ofTrigger_precedes (within isUpper) above

/-- An analysed document has one symbol for each trigger of its report, and they
are well nested. -/
theorem Document.symbols_wellNested {parser : Parser} {name text : Text}
    {report : ScriptReport}
    (returned : parser.analyzeScript text name = .ok report) :
    (Document.analyze parser name text).symbols = report.triggers.map .ofTrigger ∧
      WellNested (Document.analyze parser name text).symbols := by
  have symbols : (Document.analyze parser name text).symbols =
      report.triggers.map .ofTrigger := by
    rw [Document.analyze, returned]
    rfl
  refine ⟨symbols, ?_⟩
  rw [symbols]
  exact wellNested_of_stacked (Parser.analyzeScript_stacked returned)

def outlinedScript : Text :=
  "on death:\n\tforce the player to respawn\n\tdance\n  message \"hi\"\n" ++
    "stray\n\torphan\non respawn:"

/-- The ranges in the outline of the script, read with the syntax of the block
game. -/
def outlinedRanges : Except SetupError (List (Range × List Range)) := do
  let game ← BlockGame.registry
  let report ← (⟨game, .standard⟩ : Parser).analyzeScript outlinedScript "game"
  pure ((report.triggers.map TriggerSymbol.ofTrigger).map fun symbol =>
    (symbol.range, symbol.children.map (·.range)))

theorem Document.outlinedScript_wellNested :
    ∃ game report, BlockGame.registry = .ok game ∧
      (⟨game, .standard⟩ : Parser).analyzeScript outlinedScript "game" =
        .ok report ∧
      ((report.triggers.map TriggerSymbol.ofTrigger).map fun symbol =>
        (symbol.range, symbol.children.map (·.range))) =
          [(⟨⟨0, 0⟩, ⟨3, 14⟩⟩, [⟨⟨1, 1⟩, ⟨1, 28⟩⟩, ⟨⟨3, 2⟩, ⟨3, 14⟩⟩]),
            (⟨⟨6, 0⟩, ⟨6, 11⟩⟩, [])] ∧
      (Document.analyze ⟨game, .standard⟩ "game" outlinedScript).symbols =
        report.triggers.map .ofTrigger ∧
      WellNested (Document.analyze ⟨game, .standard⟩ "game"
        outlinedScript).symbols := by
  have computed : outlinedRanges.toOption =
      some [(⟨⟨0, 0⟩, ⟨3, 14⟩⟩, [⟨⟨1, 1⟩, ⟨1, 28⟩⟩, ⟨⟨3, 2⟩, ⟨3, 14⟩⟩]),
        (⟨⟨6, 0⟩, ⟨6, 11⟩⟩, [])] := by
    decide +kernel
  cases returned : outlinedRanges with
  | error error =>
      rw [returned] at computed
      cases computed
  | ok ranges =>
      rw [returned] at computed
      cases computed
      obtain ⟨game, registered, analyzed⟩ := except_bind_ok returned
      obtain ⟨report, analyzed, listed⟩ := except_bind_ok analyzed
      have ranges := Except.ok.inj listed
      exact ⟨game, report, registered, analyzed, ranges,
        symbols_wellNested analyzed⟩

end Editor

end Phrasebook
