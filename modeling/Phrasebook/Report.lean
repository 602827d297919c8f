import Phrasebook.Diagnostic
import Phrasebook.FileTree
import Phrasebook.Text.Rendition

/-!
# Reports

A report shows a diagnostic as a block of text.  Below the message stand the
labels, each with its place, the line of the script that it points at and a row of
carets for the labelled columns.
-/

namespace Phrasebook

/-- Writes reports, with or without colours.  The files that labels point into are
looked up once; what was not there stays missing. -/
structure Reporter where
  colored : Bool
  sources : List (Text × Option SourceFile)

/-- The rendition in which messages of a severity are shown. -/
def Severity.rendition : Severity → Text
  | .error => "1;31"
  | .warning => "1;33"
  | .note => "1;36"

namespace Report

/-- The rendition of messages. -/
def boldRendition : Text := "1"

/-- The rendition of the frame around a line of a script. -/
def frameRendition : Text := "1;34"

/-- The text in a rendition, if there are colours. -/
def paint (colored : Bool) (rendition text : Text) : Text :=
  if colored then Text.rendition rendition ++ text ++ Text.rendition "0" else text

/-- The width of line numbers. -/
def numberWidth : Nat := 4

/-- The bar in front of a row without a line number. -/
def bar (colored : Bool) : Text :=
  "  " ++ paint colored frameRendition "   |"

def placeRow (colored : Bool) (span : Span) : Text :=
  "  " ++ paint colored frameRendition "-->" ++ " " ++ span.place

def sourceRow (colored : Bool) (number : Int) (line : Text) : Text :=
  "  " ++ paint colored frameRendition
    (Text.padLeft numberWidth (Text.ofInt number) ++ " |") ++
    " " ++ line

/-- The row with carets for the columns of a span; there is at least one. -/
def caretRow (colored : Bool) (rendition : Text) (span : Span) : Text :=
  let indent := List.replicate (span.startColumn - 1).toNat ' '
  let width := (max 1 (span.endColumn - span.startColumn + 1)).toNat
  bar colored ++ " " ++ indent ++ paint colored rendition (List.replicate width '^')

/-- The line of a file that a span starts in, if the file has it. -/
def line? (source : Option SourceFile) (number : Int) : Option Text :=
  source.bind fun file =>
    if 1 ≤ number ∧ number ≤ file.lines.length then some (file.lineAt number)
      else none

/-- The rows about a label, given the file that it points into. -/
def labelRows (colored : Bool) (rendition : Text) (source : Option SourceFile)
    (label : Label) :
    List Text :=
  let shown := match line? source label.span.startLine with
    | some line =>
        [sourceRow colored label.span.startLine line,
          caretRow colored rendition label.span]
    | none => []
  let remark :=
    if label.message.isEmpty then []
    else [bar colored ++ "   " ++ paint colored rendition label.message]
  placeRow colored label.span :: bar colored :: (shown ++ remark)

def headRow (colored : Bool) (diagnostic : Diagnostic) : Text :=
  paint colored diagnostic.severity.rendition
      (diagnostic.severity.name ++ "[" ++ diagnostic.code ++ "]") ++
    paint colored boldRendition (": " ++ diagnostic.message)

def noteRow (colored : Bool) (note : Text) : Text :=
  "  " ++ paint colored frameRendition "=" ++ " note: " ++ note

/-- The report of a diagnostic, given the files that its labels point into. -/
def render (colored : Bool) (source : Text → Option SourceFile)
    (diagnostic : Diagnostic) : Text :=
  let labels := diagnostic.labels.flatMap fun label =>
    labelRows colored diagnostic.severity.rendition (source label.span.file) label
  let notes := diagnostic.notes.map (noteRow colored)
  Text.join "\n" (headRow colored diagnostic :: (labels ++ notes))

end Report

namespace Reporter

/-- A reporter that has not looked at any file. -/
def start (colored : Bool) : Reporter := ⟨colored, []⟩

/-- Looks a file up, unless it has been looked up before. -/
def consult (tree : FileTree) (reporter : Reporter) (file : Text) : Reporter :=
  match reporter.sources.lookup file with
  | some _ => reporter
  | none =>
      let source := match tree.read (FilePath.normalized file) with
        | .ok content => some ⟨content⟩
        | .error _ => none
      { reporter with sources := (file, source) :: reporter.sources }

/-- The report of a diagnostic, and the reporter that has looked its files up. -/
def report (reporter : Reporter) (tree : FileTree) (diagnostic : Diagnostic) :
    Text × Reporter :=
  let next := (diagnostic.labels.map (·.span.file)).foldl (consult tree) reporter
  (Report.render next.colored (fun file => (next.sources.lookup file).join)
    diagnostic, next)

end Reporter

end Phrasebook
