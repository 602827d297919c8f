import Phrasebook.Diagnostic

/-!
# Parse logs

Every parse attempt runs inside a capture scope, which holds back what is logged
while it is open.  When the attempt ends, its owner forwards the whole buffer, or
one error of it, or nothing.  What reaches the bottom of the stack is emitted,
and errors and warnings become diagnostics there.
-/

namespace Phrasebook

/-- One logged message. -/
structure LogEntry where
  severity : Severity
  message : Text
  code : Text
  deriving DecidableEq

/-- An open capture scope: its serial number and what it holds back, in order. -/
structure Scope where
  serial : Nat
  entries : List LogEntry
  deriving DecidableEq

/-- A stack of capture scopes, innermost first, above a root that emits. -/
structure ParseLog where
  scopes : List Scope
  /-- The number of scopes opened so far. -/
  opened : Nat
  diagnostics : List Diagnostic
  /-- Everything the root has emitted. -/
  emitted : List LogEntry
  deriving DecidableEq

namespace LogEntry

/-- An entry with the code that entries of its severity have by default. -/
def ofSeverity (severity : Severity) (message : Text) : LogEntry :=
  match severity with
  | .error => ⟨.error, message, "E103"⟩
  | .warning => ⟨.warning, message, "W200"⟩
  | .note => ⟨.note, message, "N300"⟩

def isError (entry : LogEntry) : Bool :=
  entry.severity == .error

/-- The diagnostic that an emitted entry gives rise to.  Notes give none. -/
def diagnostic? (entry : LogEntry) : Option Diagnostic :=
  match entry.severity with
  | .note => none
  | severity => some ⟨severity, entry.code, entry.message, [], []⟩

def level (entry : LogEntry) : Text :=
  match entry.severity with
  | .error => "ERROR"
  | .warning => "WARNING"
  | .note => "INFO"

def line (entry : LogEntry) : Text :=
  "[" ++ entry.code ++ "] " ++ entry.message

def lastError? (entries : List LogEntry) : Option LogEntry :=
  entries.reverse.find? isError

end LogEntry

namespace ParseLog

/-- A log with no open scope and nothing in it. -/
def empty : ParseLog := ⟨[], 0, [], []⟩

def depth (log : ParseLog) : Nat :=
  log.scopes.length

/-- Emits an entry from the root. -/
def emit (log : ParseLog) (entry : LogEntry) : ParseLog :=
  { log with
    emitted := log.emitted ++ [entry]
    diagnostics := log.diagnostics ++ entry.diagnostic?.toList }

/-- Logs an entry: the innermost open scope holds it back, and without one it is
emitted. -/
def add (log : ParseLog) (entry : LogEntry) : ParseLog :=
  match log.scopes with
  | [] => log.emit entry
  | scope :: outer =>
      { log with scopes :=
          { scope with entries := scope.entries ++ [entry] } :: outer }

def addAll (log : ParseLog) (entries : List LogEntry) : ParseLog :=
  entries.foldl add log

def openScope (log : ParseLog) : ParseLog :=
  { log with scopes := ⟨log.opened, []⟩ :: log.scopes, opened := log.opened + 1 }

/-- Closes the innermost scope and hands its entries over. -/
def closeScope (log : ParseLog) : List LogEntry × ParseLog :=
  match log.scopes with
  | [] => ([], log)
  | scope :: outer => (scope.entries, { log with scopes := outer })

/-- Closes the innermost scope for the owner of the scope with this serial
number.  If it is not the owner's scope, scopes are closed out of order, and
nothing is handed over. -/
def exitScope (log : ParseLog) (serial : Nat) : Option (List LogEntry) × ParseLog :=
  let (entries, closed) := log.closeScope
  (if log.scopes.head?.map (·.serial) = some serial then some entries
    else none, closed)

/-- Forwards every entry of a closed scope. -/
def forward (log : ParseLog) (entries : List LogEntry) : ParseLog :=
  log.addAll entries

/-- Forwards only the last error of a closed scope.  If there is none, the default
error is logged, when there is one. -/
def forwardError (log : ParseLog) (entries : List LogEntry)
    (defaultError : Option Text) :
    ParseLog :=
  match LogEntry.lastError? entries with
  | some entry => log.add entry
  | none =>
      match defaultError with
      | some message => log.add ⟨.error, message, "E100"⟩
      | none => log

/-- The diagnostics so far, and the log without them. -/
def takeDiagnostics (log : ParseLog) : List Diagnostic × ParseLog :=
  (log.diagnostics, { log with diagnostics := [] })

end ParseLog

end Phrasebook
