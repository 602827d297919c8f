import Phrasebook.Editor.Range
import Phrasebook.Script

/-!
# Answers to an editor

What an editor shows of a script: marks for its diagnostics, a description of the
line under the pointer, and an outline of its triggers.
-/

namespace Phrasebook.Editor

/-- A diagnostic as an editor marks it. -/
structure Mark where
  range : Range
  severity : Severity
  code : Option Text
  message : Text
  deriving DecidableEq

/-- The description of a line. -/
structure Hover where
  /-- The description, in Markdown. -/
  value : Text
  range : Range
  deriving DecidableEq

/-- One statement in an outline. -/
structure StatementSymbol where
  name : Text
  range : Range
  /-- The statement, which is all of the range. -/
  selection : Range
  deriving DecidableEq

/-- One trigger in an outline, with its statements. -/
structure TriggerSymbol where
  name : Text
  /-- From the header to the end of the last statement. -/
  range : Range
  /-- The header. -/
  selection : Range
  children : List StatementSymbol
  deriving DecidableEq

namespace Mark

def source : Text := "syntaxmatch"

/-- The number of a severity in the protocol of editors. -/
def severityNumber : Severity → Nat
  | .error => 1
  | .warning => 2
  | .note => 3

/-- The mark of a diagnostic, at its first label. -/
def ofDiagnostic (diagnostic : Diagnostic) : Mark where
  range := (diagnostic.labels.head?.map fun label => Range.ofSpan label.span).getD
    Range.documentStart
  severity := diagnostic.severity
  code := some diagnostic.code
  message := "[" ++ diagnostic.code ++ "] " ++ diagnostic.message

/-- The mark of a script that cannot be analysed because of a setup error. -/
def ofSetupError (error : SetupError) : Mark :=
  ⟨Range.documentStart, .error, none, "[internal] " ++ error.kind ++ ": " ++
    error.message⟩

end Mark

namespace Hover

/-- The description of a parsed line. -/
def ofLine (line : ParsedLine) : Hover :=
  ⟨line.description, Range.ofSpan line.span⟩

end Hover

namespace StatementSymbol

def kindNumber : Nat := 12

def ofStatement (statement : Statement) : StatementSymbol :=
  ⟨statement.element.display, Range.ofSpan statement.span,
    Range.ofSpan statement.span⟩

end StatementSymbol

namespace TriggerSymbol

def kindNumber : Nat := 24

/-- The entry of a trigger.  It reaches from the header to the last statement. -/
def ofTrigger (trigger : Trigger) : TriggerSymbol where
  name := "on " ++ trigger.name
  range :=
    let last := (trigger.statements.getLast?.map (·.span)).getD trigger.span
    ⟨(Range.ofSpan trigger.span).start, (Range.ofSpan last).stop⟩
  selection := Range.ofSpan trigger.span
  children := trigger.statements.map .ofStatement

end TriggerSymbol

end Phrasebook.Editor
