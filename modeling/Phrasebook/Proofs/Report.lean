import Phrasebook.Proofs.Script.Breaks
import Phrasebook.Report

/-!
# Where the carets of a report stand

A report shows the line that a label points into, and carets in the row below.
In front of the line stands its number, at least four columns wide, with a blank
behind it.  In front of the carets stand three blanks.  So the carets are at
least two columns too far to the left.
-/

namespace Phrasebook

namespace Report

/-- The row has carets exactly below a text that stands behind `front` in the
row above it, but moved to the left by some columns. -/
def Underlines (moved : Nat) (front text row : Text) : Prop :=
  ∀ column, row[column]? = some '^' ↔
    front.length ≤ column + moved ∧ column + moved < front.length + text.length

/-- The columns by which the carets for a line with this number are moved. -/
def lag (number : Nat) : Nat :=
  max numberWidth (Text.ofNat number).length - 2

/-! ## The row with the line -/

/-- What stands in front of a line with this number. -/
def gutter (number : Nat) : Text :=
  "  " ++ (Text.padLeft numberWidth (Text.ofNat number) ++ " |") ++ " "

theorem sourceRow_eq (number : Nat) (line : Text) :
    sourceRow false number line = gutter number ++ line := rfl

theorem length_gutter (number : Nat) : (gutter number).length = lag number + 7 := by
  simp only [gutter, lag, Text.padLeft, numberWidth, List.length_append,
    List.length_replicate]
  simp
  omega

theorem newline_not_mem_sourceRow (number : Nat) {line : Text}
    (plain : Text.Plain line) :
    '\n' ∉ gutter number ++ line := by
  have digits : '\n' ∉ Text.ofNat number := by
    intro member
    have isDigit := Nat.isDigit_of_mem_toDigits (by decide) (by decide) member
    cases isDigit
  have within : '\n' ∉ line := by
    intro member
    have not_end := plain '\n' member
    cases not_end
  simp [gutter, Text.padLeft, digits, within]

theorem line?_of_mem {content : Text} {line : NumberedLine}
    (member : line ∈ NumberedLine.all content) :
    line? (some ⟨content⟩) line.2 = some line.1 := by
  obtain ⟨low, found⟩ := List.mk_mem_zipIdx_iff_le_and_getElem?_sub.mp member
  have high := (List.getElem?_eq_some_iff.mp found).1
  have inside : (1 : Int) ≤ line.2 ∧
      (line.2 : Int) ≤ (⟨content⟩ : SourceFile).lines.length := by
    simp only [SourceFile.lines]
    omega
  rw [line?, Option.bind_some, if_pos inside, NumberedLine.lineAt_of_mem member]

/-! ## The row with the carets -/

/-- What stands in front of the carets for a text behind blanks. -/
def caretFront (indent : Nat) : Text :=
  bar false ++ " " ++ List.replicate indent ' '

theorem length_caretFront (indent : Nat) :
    (caretFront indent).length = 7 + indent := by
  rw [caretFront, List.length_append, List.length_replicate]
  rfl

theorem caret_not_mem_caretFront (indent : Nat) : '^' ∉ caretFront indent := by
  simp [caretFront, bar, paint]

theorem caretRow_eq (rendition : Text) {span : Span} {indent width : Nat}
    (start : span.startColumn = indent + 1) (stop : span.endColumn = indent + width)
    (present : 0 < width) :
    caretRow false rendition span = caretFront indent ++
      List.replicate width '^' := by
  have blanks : (span.startColumn - 1).toNat = indent := by omega
  have carets : (max 1 (span.endColumn - span.startColumn + 1)).toNat =
      width := by omega
  rw [caretRow, blanks, carets]
  rfl

theorem newline_not_mem_caretRow (indent width : Nat) :
    '\n' ∉ caretFront indent ++ List.replicate width '^' := by
  simp [caretFront, bar, paint]

/-! ## One row below the other -/

private theorem underlines_of_length {front bare text : Text} {moved : Nat}
    (lengths : front.length = bare.length + moved) (none : '^' ∉ bare) :
    Underlines moved front text (bare ++ List.replicate text.length '^') := by
  intro column
  by_cases before : column < bare.length
  · rw [List.getElem?_append_left before]
    constructor
    · intro caret
      exact absurd (List.mem_of_getElem? caret) none
    · omega
  · rw [List.getElem?_append_right (Nat.le_of_not_lt before),
      List.getElem?_replicate]
    constructor
    · intro caret
      split at caret
      next within => omega
      next => cases caret
    · intro below
      rw [if_pos (by omega)]

private theorem Underlines.moved_eq {front text row : Text} {moved other : Nat}
    (first : Underlines moved front text row)
    (second : Underlines other front text row) (present : text ≠ [])
    (room : moved ≤ front.length) : other = moved := by
  have positive := List.length_pos_iff.mpr present
  have start := (second (front.length - moved)).mp ((first _).mpr (by omega))
  have stop := (second (front.length - moved + (text.length - 1))).mp
    ((first _).mpr (by omega))
  omega

/-! ## The rows of a label -/

/-- The row is that of the line, and the row below it has carets exactly below
the text of the line, but moved by the lag of the line and by no other number of
columns. -/
structure ShowsLine (line : NumberedLine) (row carets : Text) : Prop where
  numbered : row = gutter line.2 ++ line.1
  unbroken : '\n' ∉ row ∧ '\n' ∉ carets
  moved : ∃ blanks trail, line.1 = blanks ++ Text.strip line.1 ++ trail ∧
    (∀ char ∈ blanks, Text.isBlank char = true) ∧
      ∀ moved, Underlines moved (gutter line.2 ++ blanks)
        (Text.strip line.1) carets ↔
        moved = lag line.2

variable {content file : Text} {line : NumberedLine}

private theorem showsLine_caretRow (rendition : Text) (file : Text)
    (member : line ∈ NumberedLine.all content) (present : Text.strip line.1 ≠ []) :
    ShowsLine line (gutter line.2 ++ line.1)
      (caretRow false rendition (line.span file)) := by
  obtain ⟨blanks, trail, text, blank, span⟩ := NumberedLine.span_eq present
  have carets : caretRow false rendition (line.span file) =
      caretFront blanks.length ++
        List.replicate (Text.strip line.1).length '^' := by
    apply caretRow_eq
    case start => rw [span]
    case stop => rw [span]
    case present => exact List.length_pos_iff.mpr present
  have lengths : (gutter line.2 ++ blanks).length =
      (caretFront blanks.length).length + lag line.2 := by
    rw [List.length_append, length_gutter, length_caretFront]
    omega
  have under : Underlines (lag line.2) (gutter line.2 ++ blanks) (Text.strip line.1)
      (caretFront blanks.length ++ List.replicate (Text.strip line.1).length '^') :=
    underlines_of_length lengths (caret_not_mem_caretFront blanks.length)
  rw [carets]
  constructor
  case numbered => rfl
  case unbroken =>
    exact ⟨newline_not_mem_sourceRow line.2 (NumberedLine.plain_of_mem member),
      newline_not_mem_caretRow blanks.length (Text.strip line.1).length⟩
  case moved =>
    refine ⟨blanks, trail, text, blank, fun moved => ⟨fun other => ?_, ?_⟩⟩
    · exact under.moved_eq other present (by omega)
    · rintro rfl
      exact under

private theorem labelRows_showsLine (rendition file : Text)
    (member : line ∈ NumberedLine.all content)
    (present : Text.strip line.1 ≠ []) (message : Text) :
    ∃ upper row carets lower,
      labelRows false rendition (some ⟨content⟩) ⟨line.span file, message⟩ =
      upper ++ row :: carets :: lower ∧ ShowsLine line row carets := by
  have shows := showsLine_caretRow rendition file member present
  let remark := if message.isEmpty then [] else
    [bar false ++ "   " ++ paint false rendition message]
  refine ⟨[placeRow false (line.span file), bar false], _, _, remark, ?_, shows⟩
  simp only [labelRows, NumberedLine.span_startLine, line?_of_mem member,
    sourceRow_eq]
  rfl

theorem render_showsLine {sources : Text → Option SourceFile}
    {diagnostic : Diagnostic} {message : Text}
    (readable : sources file = some ⟨content⟩)
    (member : line ∈ NumberedLine.all content)
    (present : Text.strip line.1 ≠ [])
    (labelled : ⟨line.span file, message⟩ ∈ diagnostic.labels) :
    ∃ upper row carets lower, render false sources diagnostic =
      Text.join "\n" (upper ++ row :: carets :: lower) ∧
      ShowsLine line row carets := by
  obtain ⟨before, after, labels⟩ := List.append_of_mem labelled
  obtain ⟨upper, row, carets, lower, rows, shows⟩ :=
    labelRows_showsLine diagnostic.severity.rendition file member present message
  let rowsOf (label : Label) : List Text :=
    labelRows false diagnostic.severity.rendition (sources label.span.file) label
  have own : rowsOf ⟨line.span file, message⟩ =
      upper ++ row :: carets :: lower := by
    simp only [rowsOf, NumberedLine.span_file, readable, rows]
  refine ⟨headRow false diagnostic :: (before.flatMap rowsOf ++ upper), row, carets,
    lower ++ after.flatMap rowsOf ++ diagnostic.notes.map (noteRow false),
    ?_, shows⟩
  have all : diagnostic.labels.flatMap rowsOf =
      before.flatMap rowsOf ++
        ((upper ++ row :: carets :: lower) ++ after.flatMap rowsOf) := by
    rw [labels, List.flatMap_append, List.flatMap_cons, own]
  change Text.join "\n" (headRow false diagnostic ::
    (diagnostic.labels.flatMap rowsOf ++ diagnostic.notes.map (noteRow false))) = _
  rw [all]
  simp

end Report

/-! ## Looking files up -/

namespace Reporter

variable {tree : FileTree} {file other : Text}

/-- The file as the reporter has looked it up, or would look it up now. -/
def found (tree : FileTree) (reporter : Reporter) (file : Text) :
    Option SourceFile :=
  match reporter.sources.lookup file with
  | some source => source
  | none =>
      match tree.read (FilePath.normalized file) with
      | .ok content => some ⟨content⟩
      | .error _ => none

private theorem consult_colored (reporter : Reporter) :
    (consult tree reporter file).colored = reporter.colored := by
  unfold consult
  split <;> rfl

theorem foldl_consult_colored (tree : FileTree) (files : List Text)
    (reporter : Reporter) :
    (files.foldl (consult tree) reporter).colored = reporter.colored := by
  induction files generalizing reporter with
  | nil => rfl
  | cons file files induction => rw [List.foldl_cons, induction, consult_colored]

theorem lookup_consult_self (reporter : Reporter) :
    (consult tree reporter file).sources.lookup file =
      some (reporter.found tree file) := by
  unfold consult found
  cases known : reporter.sources.lookup file with
  | some source => exact known
  | none => exact List.lookup_cons_self

theorem lookup_consult_ne (different : file ≠ other) (reporter : Reporter) :
    (consult tree reporter other).sources.lookup file =
      reporter.sources.lookup file := by
  unfold consult
  split
  next => rfl
  next => rw [List.lookup_cons, beq_false_of_ne different]

private theorem lookup_consult_of_some {reporter : Reporter}
    {source : Option SourceFile}
    (known : reporter.sources.lookup file = some source) :
    (consult tree reporter other).sources.lookup file = some source := by
  by_cases same : file = other
  · rw [← same, lookup_consult_self, found, known]
  · rw [lookup_consult_ne same, known]

private theorem lookup_foldl_of_some {reporter : Reporter}
    {source : Option SourceFile} (files : List Text)
    (known : reporter.sources.lookup file = some source) :
    (files.foldl (consult tree) reporter).sources.lookup file = some source := by
  induction files generalizing reporter with
  | nil => exact known
  | cons first files induction => exact induction (lookup_consult_of_some known)

private theorem lookup_foldl_consult {files : List Text} (member : file ∈ files)
    (tree : FileTree) (reporter : Reporter) :
    (files.foldl (consult tree) reporter).sources.lookup file =
      some (reporter.found tree file) := by
  induction files generalizing reporter with
  | nil => cases member
  | cons first files induction =>
      by_cases same : file = first
      · rw [← same]
        exact lookup_foldl_of_some files (lookup_consult_self reporter)
      · have inside : file ∈ files := (List.mem_cons.mp member).resolve_left same
        rw [List.foldl_cons, induction inside, found, found, lookup_consult_ne same]

/-- In a report without colours the text of a line has carets, but not below it. -/
theorem report_showsLine {reporter : Reporter} {content message : Text}
    {diagnostic : Diagnostic} {line : NumberedLine}
    (uncoloured : reporter.colored = false)
    (readable : reporter.found tree file = some ⟨content⟩)
    (member : line ∈ NumberedLine.all content)
    (present : Text.strip line.1 ≠ [])
    (labelled : ⟨line.span file, message⟩ ∈ diagnostic.labels) :
    ∃ upper row carets lower, (reporter.report tree diagnostic).1 =
      Text.join "\n" (upper ++ row :: carets :: lower) ∧
      Report.ShowsLine line row carets := by
  have isFile : file ∈ diagnostic.labels.map (·.span.file) :=
    List.mem_map.mpr ⟨_, labelled, NumberedLine.span_file file line⟩
  have looked := lookup_foldl_consult isFile tree reporter
  rw [readable] at looked
  have colored :=
    foldl_consult_colored tree (diagnostic.labels.map (·.span.file)) reporter
  rw [uncoloured] at colored
  simp only [report]
  rw [colored]
  exact Report.render_showsLine (by rw [looked]; rfl) member present labelled

def indentedScript : Text :=
  "on death:\n    dance wildly\n"

def indentedTree : FileTree :=
  (⟨[], []⟩ : FileTree).putFiles [("a.sk", indentedScript)]

def indentedDiagnostic : Diagnostic where
  severity := .error
  code := "E100"
  message := "can't understand this line"
  labels := [⟨⟨"a.sk", 1, 1, 1, 9⟩, "below"⟩, ⟨⟨"a.sk", 2, 5, 2, 16⟩, []⟩]
  notes := []

theorem indentedScript_showsLine :
    (start false).colored = false ∧
      (start false).found indentedTree "a.sk" = some ⟨indentedScript⟩ ∧
      (("    dance wildly", 2) : NumberedLine) ∈ NumberedLine.all indentedScript ∧
      Text.strip "    dance wildly" ≠ [] ∧
      ⟨NumberedLine.span "a.sk" ("    dance wildly", 2), []⟩ ∈
        indentedDiagnostic.labels ∧
      ∃ upper row carets lower,
        ((start false).report indentedTree indentedDiagnostic).1 =
        Text.join "\n" (upper ++ row :: carets :: lower) ∧
          Report.ShowsLine ("    dance wildly", 2) row carets := by
  have read : indentedTree.read (FilePath.normalized "a.sk") =
      .ok indentedScript := rfl
  have readable : (start false).found indentedTree "a.sk" =
      some ⟨indentedScript⟩ := by
    simp only [found, start, List.lookup_nil, read]
  have member : (("    dance wildly", 2) : NumberedLine) ∈
      NumberedLine.all indentedScript := by
    decide
  have present : Text.strip "    dance wildly" ≠ [] := by decide
  have labelled : ⟨NumberedLine.span "a.sk" ("    dance wildly", 2), []⟩ ∈
      indentedDiagnostic.labels := by decide
  exact ⟨rfl, readable, member, present, labelled,
    report_showsLine rfl readable member present labelled⟩

/-- The carets for the second line of the script start two columns in front of
its text. -/
theorem indentedScript_missed :
    ((start false).report indentedTree { indentedDiagnostic with
        labels := [⟨NumberedLine.span "a.sk" ("    dance wildly", 2), []⟩] }).1 =
      Text.join "\n" [
        "error[E100]: can't understand this line",
        "  --> a.sk:2:5",
        "     |",
        "     2 |     dance wildly",
        "     |     ^^^^^^^^^^^^"] ∧
      ¬Report.Underlines 0 "     2 |     " "dance wildly"
        "     |     ^^^^^^^^^^^^" := by
  refine ⟨by decide +kernel, ?_⟩
  intro under
  have start := ((under 11).mp rfl).1
  revert start
  decide

end Reporter

end Phrasebook
