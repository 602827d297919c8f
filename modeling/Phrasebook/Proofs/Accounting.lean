import Phrasebook.Proofs.Call
import Phrasebook.Provider.Recording

/-!
# The diagnostics of a call

Every entry point of a parser accounts for its diagnostics in the same way.  A
call that hits a setup error leaves none, a call that fails leaves at most one
error, and a call that succeeds leaves what the provider of the winning element
has logged.  The error of a failure is the first of the best of all error records
that the call has made.
-/

namespace Phrasebook

def ErrorRecord.diagnostic (record : ErrorRecord) : Diagnostic :=
  ⟨.error, record.quality.code, record.message, [], []⟩

def Diagnostic.byDefault (message : Text) : Diagnostic :=
  ⟨.error, "E100", message, [], []⟩

/-- Which diagnostics a call with this answer may append.  A setup error appends
none, a failure its best error, or else the default error if there is one, and a
success the errors and warnings that the provider of the winning element has
logged. -/
def Call.Accounts (parser : Parser) (call : Call)
    (answer : Except SetupError (Option call.Answer))
    (appended : List Diagnostic) : Prop :=
  match answer with
  | .error _ => appended = []
  | .ok none =>
      (∃ record ∈ call.records parser,
        (BestError.ofRecords (call.records parser)).record? = some record ∧
          appended = [record.diagnostic]) ∨
      call.records parser = [] ∧
        appended = ((call.defaultError parser).map Diagnostic.byDefault).toList
  | .ok (some found) =>
      ∃ entries, call.Emits parser found entries ∧
        appended = entries.filterMap LogEntry.diagnostic?

def Parser.bare : Parser :=
  ⟨{ Registry.empty with types := [⟨.object, .none, none⟩] }, .standard⟩

/-- A descriptor whose provider warns about every match before it accepts or
rejects. -/
def Descriptor.grumbling (accepts : Bool) : Descriptor :=
  let recording : Recording := { Recording.plain ⟨"Grumbling", 0⟩ with
    accepts := accepts
    entries := [.ofSeverity .note "seen", .ofSeverity .warning "odd",
      .ofSeverity .error "bad"] }
  recording.descriptor ["%object%"] []

namespace Call

section Outcome

variable {parser : Parser} {log after : ParseLog} {call : Call}
  {answer : Except SetupError (Option call.Answer)}

theorem answer_traced (performed : call.perform parser log = (answer, after)) :
    (call.search Traced parser).answer = answer := by
  obtain ⟨opened, traced⟩ := perform_traced parser log call
  rcases answered : (call.search Traced parser).answer with error | (none | found)
  · rw [answered] at traced
    cases traced.symm.trans performed
    rfl
  · rw [answered] at traced
    cases traced.2.symm.trans performed
    rfl
  · rw [answered] at traced
    cases traced.symm.trans performed
    rfl

/-- A call that fails reports the first of its best error records, and the
default error if and only if it has no records. -/
theorem failure_reports_foremost
    (failed : call.perform parser log = (.ok none, after)) :
    ∃ opened,
      (call.records parser = [] ∧
        after = (log.withOpened opened).addAll
          ((call.defaultError parser).map LogEntry.byDefault).toList) ∨
      ∃ record : ErrorRecord, record.Foremost (call.records parser) ∧
        after = (log.withOpened opened).add record.entry := by
  obtain ⟨opened, traced⟩ := perform_traced parser log call
  rw [answer_traced failed] at traced
  obtain ⟨ranked, traced⟩ := traced
  have same : after = _ := congrArg Prod.snd (failed.symm.trans traced)
  refine ⟨opened, ?_⟩
  rcases BestError.ofRecords_cases ranked with ⟨nothing, best⟩
    | ⟨record, foremost, best⟩
  · left
    refine ⟨nothing, ?_⟩
    rw [same]
    simp [BestError.reported, best]
  · right
    refine ⟨record, foremost, ?_⟩
    rw [same]
    simp [BestError.reported, best]
    rfl

theorem failure_of_grumbling :
    let call : Call := .parse "9" [.grumbling false] (some "unknown")
    ∃ after opened, call.perform .bare .empty = (.ok none, after) ∧
      ((call.records .bare = [] ∧
          after = (ParseLog.empty.withOpened opened).addAll
            [LogEntry.byDefault "unknown"]) ∨
        ∃ record : ErrorRecord, record.Foremost (call.records .bare) ∧
          after = (ParseLog.empty.withOpened opened).add record.entry) := by
  intro call
  have failed : call.perform .bare .empty =
      (.ok none, (call.perform .bare .empty).2) := rfl
  obtain ⟨opened, reported⟩ := failure_reports_foremost failed
  exact ⟨_, opened, failed, reported⟩

/-- A call outside of all scopes leaves no scope open, and every diagnostic that it
appends is accounted for. -/
theorem perform_accounts (root : log.scopes = [])
    (performed : call.perform parser log = (answer, after)) :
    after.depth = 0 ∧
      ∃ appended, after.diagnostics = log.diagnostics ++ appended ∧
        call.Accounts parser answer appended := by
  obtain ⟨opened, traced⟩ := perform_traced parser log call
  have answered := answer_traced performed
  rw [answered] at traced
  have logged (entries : List LogEntry) :=
    (log.withOpened opened).addAll_of_root entries root
  have closed (entries : List LogEntry) :
      ((log.withOpened opened).addAll entries).depth = 0 :=
    congrArg List.length (logged entries).1
  rcases answer with error | (none | found)
  · have same : after = log.withOpened opened :=
      congrArg Prod.snd (performed.symm.trans traced)
    rw [same]
    exact ⟨closed [], [], by simp, rfl⟩
  · obtain ⟨ranked, traced⟩ := traced
    have same : after = _ := congrArg Prod.snd (performed.symm.trans traced)
    rw [same]
    refine ⟨closed _, _, (logged _).2, ?_⟩
    rcases BestError.ofRecords_cases ranked with ⟨nothing, best⟩
      | ⟨record, foremost, best⟩
    · right
      refine ⟨nothing, ?_⟩
      rw [BestError.reported, best]
      cases call.defaultError parser <;> rfl
    · left
      refine ⟨record, foremost.mem, best, ?_⟩
      rw [BestError.reported, best]
      rfl
  · have same : after = _ := congrArg Prod.snd (performed.symm.trans traced)
    rw [same]
    exact ⟨closed _, _, (logged _).2, call.told found, emits_told answered, rfl⟩

theorem accounts_of_grumbling :
    let call : Call := .parse "9" [.grumbling true] none
    ∃ accepted after, call.perform .bare .empty = (.ok (some accepted), after) ∧
      after.depth = 0 ∧
        ∃ appended, after.diagnostics = [] ++ appended ∧
          call.Accounts .bare (.ok (some accepted)) appended := by
  intro call
  have succeeded : ∃ accepted, call.perform .bare .empty =
      (.ok (some accepted), (call.perform .bare .empty).2) := ⟨_, rfl⟩
  obtain ⟨accepted, performed⟩ := succeeded
  exact ⟨accepted, _, performed, perform_accounts rfl performed⟩

end Outcome

end Call

end Phrasebook
