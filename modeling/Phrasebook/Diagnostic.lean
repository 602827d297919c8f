import Phrasebook.Span

/-!
# Diagnostics

A diagnostic is one message to the author of a script, with the places in the
script that it is about.
-/

namespace Phrasebook

/-- How serious a message is. -/
inductive Severity where
  | error
  | warning
  | note
  deriving DecidableEq

/-- A place that a diagnostic points to. -/
structure Label where
  span : Span
  message : Text
  deriving DecidableEq

/-- A message with its code, the places it is about and further notes. -/
structure Diagnostic where
  severity : Severity
  code : Text
  message : Text
  labels : List Label
  notes : List Text
  deriving DecidableEq

namespace Severity

def name : Severity → Text
  | .error => "error"
  | .warning => "warning"
  | .note => "note"

end Severity

namespace Diagnostic

def isError (diagnostic : Diagnostic) : Bool :=
  diagnostic.severity == .error

def addLabel (span : Span) (diagnostic : Diagnostic) : Diagnostic :=
  { diagnostic with labels := diagnostic.labels ++ [⟨span, []⟩] }

/-- How many errors there are, and what they say. -/
def summary (errors : List Diagnostic) : Text :=
  Text.ofNat errors.length ++ " error(s): " ++
    Text.join "; " (errors.map (·.message))

end Diagnostic

end Phrasebook
