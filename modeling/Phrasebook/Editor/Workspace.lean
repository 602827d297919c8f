import Phrasebook.Editor.Answer
import Phrasebook.Provision

/-!
# The workspace of an editor

An editor opens documents, changes and closes them.  The workspace keeps the last
analysis of every open document and answers from it.
-/

namespace Phrasebook.Editor

/-- An open document: its analysis, unless a setup error prevented it, and its
marks. -/
structure Document where
  report : Option ScriptReport
  marks : List Mark

/-- The parser for all documents, and the open documents by name. -/
structure Workspace where
  /-- The registry can be impossible to build; then no document can be opened. -/
  parser : Except ProvisionFault Parser
  documents : List (Text × Document)

namespace Document

/-- The analysis of a document. -/
def analyze (parser : Parser) (name text : Text) : Document :=
  match parser.analyzeScript text name with
  | .ok report => ⟨some report, report.diagnostics.map .ofDiagnostic⟩
  | .error error => ⟨none, [.ofSetupError error]⟩

/-- The description of a line, counted from 0, if something was parsed from it. -/
def hover (document : Document) (line : Int) : Option Hover :=
  document.report.bind fun report => (report.lineAt? (line + 1)).map .ofLine

/-- The outline of a document. -/
def symbols (document : Document) : List TriggerSymbol :=
  (document.report.map fun report => report.triggers.map .ofTrigger).getD []

end Document

namespace Workspace

/-- A workspace without documents, with the parser that the configuration for the
current directory describes. -/
def start (tree : FileTree) (modules : List ProviderModule) : Workspace :=
  ⟨(tree.configOf ['.']).parser modules, []⟩

def names (workspace : Workspace) : List Text :=
  workspace.documents.map (·.1)

def document? (workspace : Workspace) (name : Text) : Option Document :=
  workspace.documents.lookup name

def close (workspace : Workspace) (name : Text) : Workspace :=
  { workspace with documents := workspace.documents.filter (·.1 != name) }

/-- Takes the whole text of a document, new or changed, and answers with its
marks. -/
def put (workspace : Workspace) (name text : Text) :
    Except ProvisionFault (List Mark × Workspace) := do
  let parser ← workspace.parser
  let document := Document.analyze parser name text
  let others := (workspace.close name).documents
  pure (document.marks, { workspace with documents := (name, document) :: others })

end Workspace

end Phrasebook.Editor
