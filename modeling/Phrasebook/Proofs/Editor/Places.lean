import Phrasebook.Editor.Workspace
import Phrasebook.Proofs.Editor.Lines
import Phrasebook.Proofs.Script.Spans

/-!
# Where an editor shows what was found

A mark or a description is about the text of one line, and its range is given in
the lines of the analysis.  So it is as many lines too low as there are line
ends above that an editor does not know, and it selects the text that was parsed
exactly if there are none.
-/

namespace Phrasebook

namespace Editor

/-- Where an editor stands behind a text. -/
def Position.behind (before : Text) : Position :=
  ⟨(lines before).length - 1, ((lines before).getLast (lines_ne_nil before)).length⟩

namespace Range

/-- The characters that a range within one line has in a document. -/
def excerpt (document : Text) (range : Range) : Text :=
  (((lines document)[range.start.line.toNat]?.getD []).take
    range.stop.character.toNat).drop
    range.start.character.toNat

/-- The range stands behind a part of the document, within one line, and has
exactly these characters. -/
structure Selects (document before text : Text) (range : Range) : Prop where
  start : range.start = .behind before
  oneLine : range.stop.line = range.start.line
  excerpt : range.excerpt document = text

/-- The range of a text that stands behind a part of the document is as many
lines too low as foreign line ends stand before the text.  It selects the text
if there are none. -/
structure Drifts (document before text : Text) (range : Range) : Prop where
  line : range.start.line = (Position.behind before).line +
    before.countP Text.isForeignEnd
  exact : range.Selects document before text ↔ ∀ char ∈ before,
    Text.isForeignEnd char = false

end Range

end Editor

/-! ## The text of a line -/

namespace NumberedLine

/-- The line stands in the source behind `above`, which holds the earlier lines,
and its text behind its blanks. -/
structure Stands (source above blanks : Text) (earlier : List NumberedLine)
    (line : NumberedLine) : Prop where
  within : ∃ below, source = above ++ line.1 ++ below
  listed : all above = earlier
  ended : Text.Broken above (earlier.map (·.1))
  plain : Text.Plain line.1
  number : line.2 = earlier.length + 1
  text : ∃ trail, line.1 = blanks ++ Text.strip line.1 ++ trail
  blank : ∀ char ∈ blanks, Text.isBlank char = true
  span : ∀ file, line.span file =
    ⟨file, line.2, blanks.length + 1, line.2,
      blanks.length + (Text.strip line.1).length⟩

variable {source above blanks : Text} {earlier later : List NumberedLine}
  {line : NumberedLine}

theorem exists_stands (split : all source = earlier ++ line :: later)
    (present : Text.strip line.1 ≠ []) :
    ∃ above blanks, Stands source above blanks earlier line := by
  obtain ⟨blanks, trail, text, blank, span⟩ := span_eq present
  obtain ⟨first, others, cut, rfl, numbered⟩ := List.zipIdx_eq_append_iff.mp split
  obtain ⟨_, rest, rfl, rfl, rfl⟩ := List.zipIdx_eq_cons_iff.mp numbered.symm
  obtain ⟨above, below, within, ended, plain⟩ := Text.lines_split cut
  have listed : Text.lines above = first := by
    have fresh : Text.StartsFresh [] := by simp [Text.StartsFresh]
    have whole := ended.lines_append fresh
    rwa [List.append_nil, Text.lines, List.append_nil] at whole
  have texts : (first.zipIdx 1).map (·.1) = first := List.zipIdx_map_fst 1 first
  refine ⟨above, blanks, ⟨below, within⟩, ?_, ?_, plain, ?_, ⟨trail, text⟩,
    blank, span⟩
  · rw [all, listed]
  · rwa [texts]
  · rw [List.length_zipIdx, Nat.add_comm]

theorem Stands.plain_blanks (stands : Stands source above blanks earlier line) :
    Text.Plain blanks := by
  obtain ⟨trail, text⟩ := stands.text
  have plain := stands.plain
  rw [text, List.append_assoc] at plain
  exact plain.append_left

theorem Stands.range_eq (stands : Stands source above blanks earlier line)
    (file : Text) :
    Editor.Range.ofSpan (line.span file) = ⟨⟨earlier.length, blanks.length⟩,
      ⟨earlier.length, (blanks ++ Text.strip line.1).length⟩⟩ := by
  rw [stands.span, stands.number]
  simp [Editor.Range.ofSpan]

theorem Stands.drift (stands : Stands source above blanks earlier line)
    (file : Text) :
    (Editor.Range.ofSpan (line.span file)).start.line =
      (Editor.Position.behind (above ++ blanks)).line +
        (above ++ blanks).countP Text.isForeignEnd := by
  have lengths := stands.ended.length_editor_lines stands.plain_blanks.startsFresh
  rw [Editor.lines_alone stands.plain_blanks, List.length_map,
    List.length_singleton] at lengths
  rw [stands.range_eq, List.countP_append, stands.plain_blanks.countP_isForeignEnd]
  simp only [Editor.Position.behind]
  omega

theorem Stands.selects (stands : Stands source above blanks earlier line)
    (file : Text) (present : Text.strip line.1 ≠ [])
    (known : ∀ char ∈ above, Text.isForeignEnd char = false) :
    (Editor.Range.ofSpan (line.span file)).Selects source (above ++ blanks)
      (Text.strip line.1) := by
  obtain ⟨below, rfl⟩ := stands.within
  obtain ⟨trail, text⟩ := stands.text
  have nonempty : line.1 ≠ [] := by
    intro empty
    rw [empty] at present
    exact present rfl
  have ahead : Editor.lines (above ++ blanks) = earlier.map (·.1) ++ [blanks] := by
    rw [stands.ended.editor_lines_append stands.plain_blanks.startsFresh known,
      Editor.lines_alone stands.plain_blanks]
  obtain ⟨head, others, behind⟩ :=
    List.exists_cons_of_ne_nil (Editor.lines_ne_nil below)
  have found : (Editor.lines (above ++ line.1 ++ below))[earlier.length]? =
      some (line.1 ++ head) := by
    rw [List.append_assoc, stands.ended.editor_lines_append
      (stands.plain.startsFresh_append nonempty below) known,
      Editor.lines_plain stands.plain, behind, Text.foldr_consLine]
    simp
  have parts : line.1 ++ head = blanks ++ Text.strip line.1 ++ (trail ++ head) := by
    rw [← List.append_assoc, ← text]
  rw [stands.range_eq]
  constructor
  case start => simp [Editor.Position.behind, ahead]
  case oneLine => rfl
  case excerpt =>
    simp only [Editor.Range.excerpt, Int.toNat_natCast, found, Option.getD_some]
    exact Text.take_drop_of_split parts

theorem Stands.drifts (stands : Stands source above blanks earlier line)
    (file : Text) (present : Text.strip line.1 ≠ []) :
    (Editor.Range.ofSpan (line.span file)).Drifts source (above ++ blanks)
      (Text.strip line.1) := by
  refine ⟨stands.drift file, ?_⟩
  constructor
  · intro selects
    have none : (above ++ blanks).countP Text.isForeignEnd = 0 := by
      have drift := stands.drift file
      rw [selects.start] at drift
      omega
    intro char member
    exact Bool.eq_false_iff.mpr (List.countP_eq_zero.mp none char member)
  · intro known
    exact stands.selects file present fun char member =>
      known char (List.mem_append_left _ member)

end NumberedLine

theorem ScriptReport.lineAt?_span {report : ScriptReport} {number : Int}
    {parsed : ParsedLine} (found : report.lineAt? number = some parsed) :
    parsed.span ∈ report.spans ∧ parsed.span.startLine = number := by
  obtain ⟨trigger, among, chosen⟩ := List.exists_of_findSome?_eq_some found
  have spans {span : Span} (member : span ∈ trigger.spans) : span ∈ report.spans :=
    List.mem_flatMap.mpr ⟨trigger, among, member⟩
  split at chosen
  next header =>
    cases chosen
    exact ⟨spans List.mem_cons_self, eq_of_beq header⟩
  next =>
    obtain ⟨statement, isStatement, rfl⟩ := Option.map_eq_some_iff.mp chosen
    have member := List.mem_of_find?_eq_some isStatement
    have line := List.find?_some isStatement
    exact ⟨spans (List.mem_cons_of_mem _ (List.mem_map_of_mem member)),
      eq_of_beq line⟩

namespace Editor

/-! ## Documents of a workspace -/

inductive Change where
  | put (name text : Text)
  | close (name : Text)

def Change.name : Change → Text
  | put name _ => name
  | close name => name

namespace Workspace

variable {workspace after : Workspace} {name : Text}

def change (workspace : Workspace) : Change → Except ProvisionFault Workspace
  | .put name text => do
      let (_, after) ← workspace.put name text
      pure after
  | .close name => pure (workspace.close name)

theorem put_eq {text : Text} {marks : List Mark}
    (taken : workspace.put name text = .ok (marks, after)) :
    ∃ parser, workspace.parser = .ok parser ∧
    marks = (Document.analyze parser name text).marks ∧
      after.documents =
        (name, Document.analyze parser name text) ::
          (workspace.close name).documents := by
  obtain ⟨parser, isParser, taken⟩ := except_bind_ok taken
  cases taken
  exact ⟨parser, isParser, rfl, rfl⟩

private theorem document?_close {other : Text} (different : other ≠ name) :
    (workspace.close other).document? name = workspace.document? name := by
  unfold document? close
  generalize workspace.documents = documents
  induction documents with
  | nil => rfl
  | cons document documents induction =>
      by_cases dropped : document.1 = other
      · have otherKey : (name == document.1) = false := by
          rw [dropped]
          exact beq_false_of_ne different.symm
        rw [List.filter_cons_of_neg (by simp [dropped]), List.lookup_cons, otherKey]
        exact induction
      · rw [List.filter_cons_of_pos (by simpa using dropped), List.lookup_cons,
          List.lookup_cons, induction]

private theorem document?_change {change : Change} (different : change.name ≠ name)
    (changed : workspace.change change = .ok after) :
    after.document? name = workspace.document? name := by
  cases change with
  | put other text =>
      obtain ⟨⟨marks, left⟩, taken, changed⟩ := except_bind_ok changed
      cases changed
      obtain ⟨parser, _, _, documents⟩ := put_eq taken
      have otherKey : (name == other) = false := beq_false_of_ne different.symm
      rw [document?, documents, List.lookup_cons, otherKey]
      exact document?_close different
  | close other =>
      cases changed
      exact document?_close different

theorem document?_changes {changes : List Change}
    (different : ∀ change ∈ changes, change.name ≠ name)
    (changed : changes.foldlM change workspace = .ok after) :
    after.document? name = workspace.document? name := by
  induction changes generalizing workspace with
  | nil =>
      cases changed
      rfl
  | cons first changes induction =>
      rw [List.foldlM_cons] at changed
      obtain ⟨next, changed, others⟩ := except_bind_ok changed
      rw [induction (fun change member =>
        different change (List.mem_cons_of_mem _ member)) others]
      exact document?_change (different first List.mem_cons_self) changed

end Workspace

/-! ## Marks and descriptions -/

/-- The range is that of the text of a line, at which the analysis has added
these spans and these diagnostics. -/
def Range.Shows (parser : Parser) (name text : Text) (items : List Span)
    (found : List Diagnostic) (range : Range) : Prop :=
  ∃ earlier line later above blanks, NumberedLine.all text =
    earlier ++ line :: later ∧
    Analysis.Adds parser name earlier line items found ∧
      NumberedLine.Stands text above blanks earlier line ∧
        range.Drifts text (above ++ blanks) (Text.strip line.1)

namespace Document

variable {parser : Parser} {name text : Text} {report : ScriptReport}

theorem shows_of_adds {earlier later : List NumberedLine} {line : NumberedLine}
    {items : List Span} {found : List Diagnostic}
    (split : NumberedLine.all text = earlier ++ line :: later)
    (adds : Analysis.Adds parser name earlier line items found)
    (some : ¬(items = [] ∧ found = [])) :
    (Range.ofSpan (line.span name)).Shows parser name text items found := by
  obtain ⟨_, _, _, _, reads⟩ := id adds
  have present : Text.strip line.1 ≠ [] := fun blank =>
    some (reads.present (.inl blank))
  obtain ⟨above, blanks, stands⟩ := NumberedLine.exists_stands split present
  exact ⟨earlier, line, later, above, blanks, split, adds, stands,
    stands.drifts name present⟩

private theorem mark_shows
    (returned : parser.analyzeScript text name = .ok report) {mark : Mark}
    (member : mark ∈ (analyze parser name text).marks) :
    ∃ items found, mark.range.Shows parser name text items found ∧
      ∃ diagnostic ∈ found, mark = .ofDiagnostic diagnostic := by
  rw [analyze, returned] at member
  obtain ⟨diagnostic, among, rfl⟩ := List.mem_map.mp member
  obtain ⟨analysis, rfl, covers⟩ := Parser.analyzeScript_covers returned
  obtain ⟨earlier, line, later, items, found, split, adds, isFound⟩ :=
    covers.diagnostics diagnostic among
  have shows := shows_of_adds split adds fun none => by
    rw [none.2] at isFound
    cases isFound
  obtain ⟨_, _, _, _, reads⟩ := adds
  have range : (Mark.ofDiagnostic diagnostic).range =
      Range.ofSpan (line.span name) := by
    simp [Mark.ofDiagnostic, show diagnostic.labels =
      _ from reads.pointed diagnostic isFound]
  exact ⟨items, found, range ▸ shows, diagnostic, isFound, rfl⟩

private theorem hover_shows
    (returned : parser.analyzeScript text name = .ok report) {number : Int}
    {hover : Hover}
    (answered : (analyze parser name text).hover number = some hover) :
    ∃ items found, hover.range.Shows parser name text items found ∧
      (∃ span ∈ items, hover.range = .ofSpan span) ∧
      hover.range.start.line = number := by
  rw [analyze, returned] at answered
  obtain ⟨parsed, found, rfl⟩ := Option.map_eq_some_iff.mp answered
  obtain ⟨isSpan, startLine⟩ := ScriptReport.lineAt?_span found
  obtain ⟨analysis, rfl, covers⟩ := Parser.analyzeScript_covers returned
  obtain ⟨earlier, line, later, items, found, split, adds, isItem⟩ :=
    covers.spans parsed.span isSpan
  have shows := shows_of_adds split adds fun none => by
    rw [none.1] at isItem
    cases isItem
  obtain ⟨_, _, _, _, reads⟩ := adds
  have own : parsed.span = line.span name :=
    List.mem_singleton.mp (reads.own.subset isItem)
  refine ⟨items, found, ?_, ⟨parsed.span, isItem, rfl⟩, ?_⟩
  · rw [Hover.ofLine, own]
    exact shows
  · simp only [Hover.ofLine, Range.ofSpan]
    omega

/-- The marks and the descriptions of the document show what the analysis of the
text has found, each in its line. -/
structure Places (parser : Parser) (name text : Text) (document : Document) :
    Prop where
  marks : ∀ mark ∈ document.marks, ∃ items found,
    mark.range.Shows parser name text items found ∧
    ∃ diagnostic ∈ found, mark = .ofDiagnostic diagnostic
  hovers : ∀ number hover, document.hover number = some hover →
    ∃ items found, hover.range.Shows parser name text items found ∧
      (∃ span ∈ items, hover.range = .ofSpan span) ∧ hover.range.start.line = number

end Document

/-- The marks that are answered for a text, and all later descriptions as long
as only other documents change, show what was found in it.  They are placed
exactly where no foreign line ends stand above.  If a setup error prevents the
analysis, then one mark at the start of the document says so, and nothing is
described. -/
theorem Workspace.put_places {workspace opened later : Workspace} {name text : Text}
    {marks : List Mark} {changes : List Change}
    (taken : workspace.put name text = .ok (marks, opened))
    (changed : changes.foldlM change opened = .ok later)
    (different : ∀ change ∈ changes, change.name ≠ name) :
    ∃ parser document, workspace.parser = .ok parser ∧
      later.document? name = some document ∧ marks = document.marks ∧
      match parser.analyzeScript text name with
      | .error error =>
          marks = [.ofSetupError error] ∧ ∀ number, document.hover number = none
      | .ok _ => document.Places parser name text := by
  obtain ⟨parser, isParser, rfl, documents⟩ := put_eq taken
  refine ⟨parser, Document.analyze parser name text, isParser, ?_, rfl, ?_⟩
  · rw [document?_changes different changed, document?, documents,
      List.lookup_cons_self]
  · split
    next error failed =>
      rw [Document.analyze, failed]
      exact ⟨rfl, fun _ => rfl⟩
    next report returned =>
      exact ⟨fun _ => Document.mark_shows returned, fun _ _ =>
        Document.hover_shows returned⟩

def driftingScript : Text :=
  "on death:\n\tdance\u2028stray"

/-- The ranges of the marks for the script, and that of the description of its
first line while another document is opened and closed. -/
def driftingRanges : Except ProvisionFault (List Range × Option Range) := do
  let (marks, opened) ← (Workspace.start ⟨[], []⟩ []).put "drifting" driftingScript
  let later ← [Change.put "other" "stray", Change.close "other"].foldlM
    Workspace.change opened
  let hover := (later.document? "drifting").bind (·.hover 0)
  pure (marks.map (·.range), hover.map (·.range))

theorem Workspace.driftingScript_places :
    ∃ marks opened later,
      (Workspace.start ⟨[], []⟩ []).put "drifting" driftingScript =
        .ok (marks, opened) ∧
      [Change.put "other" "stray", Change.close "other"].foldlM
        Workspace.change opened =
        .ok later ∧
      marks.map (·.range) = [⟨⟨1, 1⟩, ⟨1, 6⟩⟩, ⟨⟨2, 0⟩, ⟨2, 5⟩⟩] ∧
      ((later.document? "drifting").bind (·.hover 0)).map (·.range) =
        some ⟨⟨0, 0⟩, ⟨0, 9⟩⟩ ∧
      ∃ parser document, (Workspace.start ⟨[], []⟩ []).parser = .ok parser ∧
        later.document? "drifting" = some document ∧ marks = document.marks ∧
        match parser.analyzeScript driftingScript "drifting" with
        | .error error => marks = [.ofSetupError error] ∧ ∀ number,
            document.hover number = none
        | .ok _ => document.Places parser "drifting" driftingScript := by
  have computed : driftingRanges.toOption =
      some ([⟨⟨1, 1⟩, ⟨1, 6⟩⟩, ⟨⟨2, 0⟩, ⟨2, 5⟩⟩], some ⟨⟨0, 0⟩, ⟨0, 9⟩⟩) := by
    decide +kernel
  cases returned : driftingRanges with
  | error error =>
      rw [returned] at computed
      cases computed
  | ok ranges =>
      rw [returned] at computed
      cases computed
      obtain ⟨⟨marks, opened⟩, taken, answered⟩ := except_bind_ok returned
      obtain ⟨later, changed, answered⟩ := except_bind_ok answered
      obtain ⟨ofMarks, ofHover⟩ := Prod.mk.inj (Except.ok.inj answered)
      exact ⟨marks, opened, later, taken, changed, ofMarks, ofHover,
        put_places taken changed (by decide)⟩

def lowScript : Text :=
  "#\u2028\nstray"

/-- The mark for the last line of the script stands below the end of the
document. -/
theorem Workspace.put_misplaces :
    ∃ marks after, (Workspace.start ⟨[], []⟩ []).put "low" lowScript =
      .ok (marks, after) ∧
      marks.map (·.message) = [("[E100] 'stray' is not a trigger header" : Text)] ∧
      marks.map (·.range) = [⟨⟨2, 0⟩, ⟨2, 5⟩⟩] ∧
      lines lowScript = [("#\u2028" : Text), ("stray" : Text)] ∧
      ∀ mark ∈ marks, ∀ before, ¬mark.range.Selects lowScript before "stray" := by
  have computed :
      (((Workspace.start ⟨[], []⟩ []).put "low" lowScript).map fun answer =>
      answer.1.map fun mark => (mark.message, mark.range)).toOption =
        some [(("[E100] 'stray' is not a trigger header" : Text),
          ⟨⟨2, 0⟩, ⟨2, 5⟩⟩)] := by
    decide +kernel
  cases taken : (Workspace.start ⟨[], []⟩ []).put "low" lowScript with
  | error fault =>
      rw [taken] at computed
      cases computed
  | ok answer =>
      obtain ⟨marks, after⟩ := answer
      rw [taken] at computed
      have described := Option.some.inj computed
      obtain ⟨mark, rfl, same⟩ := List.map_eq_singleton_iff.mp described
      obtain ⟨message, range⟩ := Prod.mk.inj same
      refine ⟨[mark], after, rfl, congrArg (fun text => [text]) message,
        congrArg (fun range => [range]) range, by decide, ?_⟩
      intro other member before selects
      have excerpt := selects.excerpt
      rw [List.mem_singleton.mp member, range] at excerpt
      cases excerpt

end Editor

end Phrasebook
