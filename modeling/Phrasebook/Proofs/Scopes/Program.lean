import Phrasebook.Proofs.Call
import Phrasebook.Proofs.Scopes

/-!
# Programs of capture scopes

Entries move between buffers only when their scope is closed.  All the same, a
program of nested scopes leaves the log as if there were no scopes at all: what
the owner of a scope forwards takes the place of the scope.
-/

namespace Phrasebook

/-- What the owner of a scope does with what it has held back, right after
closing it. -/
inductive Closing where
  /-- Everything is forwarded. -/
  | flush
  /-- Only the last error is forwarded, or else the default error if there is
  one. -/
  | reduce (defaultError : Option Text)
  /-- Nothing is forwarded. -/
  | ignore
  deriving DecidableEq

/-- A program that logs entries and opens capture scopes, one inside of the
other or one behind the other. -/
inductive LogProgram where
  | done
  | entry (logged : LogEntry) (rest : LogProgram)
  | scope (body : LogProgram) (closing : Closing) (rest : LogProgram)
  deriving DecidableEq

namespace LogEntry

private theorem lastError?_eq (entries : List LogEntry) :
    lastError? entries = (entries.filter isError).getLast? := by
  rw [lastError?, ← List.head?_filter, List.filter_reverse, List.head?_reverse]

end LogEntry

namespace Closing

/-- Carries out on a log what the owner of a closed scope does. -/
def settle (closing : Closing) (held : List LogEntry) (log : ParseLog) : ParseLog :=
  match closing with
  | .flush => log.forward held
  | .reduce defaultError => log.forwardError held defaultError
  | .ignore => log

def remains (closing : Closing) (held : List LogEntry) : List LogEntry :=
  match closing with
  | .flush => held
  | .reduce defaultError =>
      ((held.filter LogEntry.isError).getLast?.or
        (defaultError.map LogEntry.byDefault)).toList
  | .ignore => []

theorem settle_eq_addAll (closing : Closing) (held : List LogEntry)
    (log : ParseLog) :
    closing.settle held log = log.addAll (closing.remains held) := by
  cases closing with
  | flush => rfl
  | ignore => rfl
  | reduce defaultError =>
      simp only [settle, remains, ParseLog.forwardError, LogEntry.lastError?_eq]
      cases (held.filter LogEntry.isError).getLast? with
      | some entry => rfl
      | none => cases defaultError <;> rfl

end Closing

namespace ParseLog

private theorem addAll_opened (log : ParseLog) (entries : List LogEntry) :
    (log.addAll entries).opened = log.opened := by
  calc
    (log.addAll entries).opened =
      ((log.withOpened log.opened).addAll entries).opened := rfl
    _ = log.opened := by rw [addAll_withOpened]; rfl

private theorem exitScope_addAll_openScope (log : ParseLog) (opened : Nat)
    (entries : List LogEntry) :
    ((log.openScope.withOpened opened).addAll entries).exitScope log.opened =
      (some entries, log.withOpened opened) := by
  have innermost : ((log.openScope.withOpened opened).addAll entries).scopes =
      ⟨log.opened, entries⟩ :: log.scopes := by
    rw [addAll_of_scope _ ⟨log.opened, []⟩ log.scopes entries rfl]
    rfl
  simp [exitScope, closeScope_addAll_openScope, innermost]

end ParseLog

namespace LogProgram

/-- The log after a program, unless a scope is closed out of order. -/
def run : LogProgram → ParseLog → Option ParseLog
  | .done, log => some log
  | .entry logged rest, log => rest.run (log.add logged)
  | .scope body closing rest, log => do
      let inside ← body.run log.openScope
      let held ← (inside.exitScope log.opened).1
      rest.run (closing.settle held (inside.exitScope log.opened).2)

/-- The program without scopes: each scope is replaced by what its owner
forwards. -/
def flattened : LogProgram → List LogEntry
  | .done => []
  | .entry logged rest => logged :: rest.flattened
  | .scope body closing rest => closing.remains body.flattened ++ rest.flattened

def scopes : LogProgram → Nat
  | .done => 0
  | .entry _ rest => rest.scopes
  | .scope body _ rest => 1 + body.scopes + rest.scopes

/-- A program leaves the log as its flattened form does, up to the number of
scopes that were ever opened. -/
theorem run_eq (program : LogProgram) (log : ParseLog) :
    program.run log =
      some ((log.addAll program.flattened).withOpened
        (log.opened + program.scopes)) := by
  induction program generalizing log with
  | done =>
      have same : (log.addAll []).withOpened log.opened = log := log.withOpened_self
      exact congrArg some same.symm
  | entry logged rest induction =>
      have opened : (log.add logged).opened = log.opened :=
        log.addAll_opened [logged]
      rw [run, induction, opened]
      rfl
  | scope body closing rest bodyRuns restRuns =>
      have inside : body.run log.openScope =
          some ((log.openScope.withOpened (log.opened + 1 + body.scopes)).addAll
            body.flattened) := by
        rw [bodyRuns, ParseLog.addAll_withOpened]
        rfl
      have counted : log.opened + 1 + body.scopes + rest.scopes =
          log.opened + (1 + body.scopes + rest.scopes) := by omega
      rw [run, inside]
      simp only [Option.bind_eq_bind, Option.bind_some,
        ParseLog.exitScope_addAll_openScope,
        Closing.settle_eq_addAll, restRuns, ParseLog.addAll_opened]
      rw [← ParseLog.addAll_append, ParseLog.addAll_withOpened,
        ParseLog.withOpened_withOpened]
      exact congrArg (fun opened => some ((log.addAll _).withOpened opened)) counted

/-- Scopes are transparent when they are flushed and invisible when they are
ignored: the program runs to its end, and the log has the diagnostics and the
depth that it gets from the flattened program, without any scope. -/
theorem run_flattens (program : LogProgram) (log : ParseLog) :
    ∃ after, program.run log = some after ∧
      after.diagnostics = (log.addAll program.flattened).diagnostics ∧
      after.depth = (log.addAll program.flattened).depth ∧
      after.emitted = (log.addAll program.flattened).emitted :=
  ⟨_, run_eq program log, rfl, rfl, rfl⟩

/-- Of an inner scope that is reduced, its last error stays in place when the
outer scope is flushed. -/
example :
    let inner : LogProgram :=
      .entry (.ofSeverity .error "first") (.entry (.ofSeverity .error "last") .done)
    let outer : LogProgram :=
      .scope inner (.reduce none) (.entry (.ofSeverity .warning "odd") .done)
    (scope outer .flush .done).flattened =
      [.ofSeverity .error "last", .ofSeverity .warning "odd"] := rfl

end LogProgram

end Phrasebook
