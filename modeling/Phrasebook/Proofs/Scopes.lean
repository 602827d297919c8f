import Phrasebook.Tracking

/-!
# Capture scopes

What is logged inside a scope stays there until the scope is closed.  After a
scope was opened and closed, the log is what it was before, up to the number of
scopes that were ever opened.
-/

namespace Phrasebook

namespace ParseLog

def withOpened (log : ParseLog) (opened : Nat) : ParseLog :=
  { log with opened := opened }

@[simp] theorem withOpened_scopes (log : ParseLog) (opened : Nat) :
    (log.withOpened opened).scopes = log.scopes := rfl

@[simp] theorem withOpened_diagnostics (log : ParseLog) (opened : Nat) :
    (log.withOpened opened).diagnostics = log.diagnostics := rfl

@[simp] theorem withOpened_self (log : ParseLog) :
    log.withOpened log.opened = log := rfl

@[simp] theorem withOpened_withOpened (log : ParseLog) (first second : Nat) :
    (log.withOpened first).withOpened second = log.withOpened second := rfl

@[simp] theorem addAll_nil (log : ParseLog) : log.addAll [] = log := rfl

theorem addAll_append (log : ParseLog) (first second : List LogEntry) :
    log.addAll (first ++ second) = (log.addAll first).addAll second :=
  List.foldl_append

/-- How many scopes were opened does not matter for what is logged. -/
theorem addAll_withOpened (log : ParseLog) (opened : Nat)
    (entries : List LogEntry) :
    (log.withOpened opened).addAll entries =
      (log.addAll entries).withOpened opened := by
  induction entries generalizing log with
  | nil => rfl
  | cons entry entries induction =>
      have first : (log.withOpened opened).add entry =
          (log.add entry).withOpened opened := by
        unfold add
        rw [withOpened_scopes]
        cases log.scopes with
        | nil => rfl
        | cons scope outer => rfl
      calc
        (log.withOpened opened).addAll (entry :: entries)
            = ((log.add entry).withOpened opened).addAll entries := by
              rw [← first]; rfl
        _ = (log.addAll (entry :: entries)).withOpened opened :=
      induction (log.add entry)

theorem addAll_of_scope (log : ParseLog) (scope : Scope) (outer : List Scope)
    (entries : List LogEntry) (open_ : log.scopes = scope :: outer) :
    log.addAll entries =
      { log with scopes := { scope with entries := scope.entries ++ entries } ::
        outer } := by
  induction entries generalizing log scope with
  | nil =>
      obtain ⟨scopes, opened, diagnostics, emitted⟩ := log
      cases open_
      simp
  | cons entry entries induction =>
      have first : log.add entry =
          { log with scopes :=
              { scope with entries := scope.entries ++ [entry] } ::
                outer } := by
        simp [add, open_]
      calc
        log.addAll (entry :: entries) = (log.add entry).addAll entries := rfl
        _ = _ := by rw [first,
          induction _ { scope with entries := scope.entries ++ [entry] } rfl]
        _ = { log with scopes :=
              { scope with entries := scope.entries ++ entry :: entries } ::
                outer } := by
          simp

theorem addAll_of_root (log : ParseLog) (entries : List LogEntry)
    (root : log.scopes = []) :
    (log.addAll entries).scopes = [] ∧
      (log.addAll entries).diagnostics =
        log.diagnostics ++ entries.filterMap LogEntry.diagnostic? := by
  induction entries generalizing log with
  | nil => simp [root]
  | cons entry entries induction =>
      have first : log.add entry = log.emit entry := by simp [add, root]
      have emitted : (log.emit entry).scopes = [] := root
      obtain ⟨scopes, diagnostics⟩ := induction (log.emit entry) emitted
      have step : log.addAll (entry :: entries) =
          (log.emit entry).addAll entries := by
        rw [← first]
        rfl
      rw [step]
      refine ⟨scopes, ?_⟩
      rw [diagnostics]
      cases result : entry.diagnostic? <;> simp [emit, result]

/-- Closing a scope hands over what was logged since it was opened, and leaves
the log as it was. -/
theorem closeScope_addAll_openScope (log : ParseLog) (opened : Nat)
    (entries : List LogEntry) :
    ((log.openScope.withOpened opened).addAll entries).closeScope =
      (entries, log.withOpened opened) := by
  rw [addAll_of_scope _ ⟨log.opened, []⟩ log.scopes entries rfl]
  rfl

end ParseLog

end Phrasebook
