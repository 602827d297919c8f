import Phrasebook.Proofs.BestError
import Phrasebook.Proofs.Scopes
import Phrasebook.Proofs.Search.Simulation

/-!
# Tracked searches and listed records

A search that is tracked and the same search with its error records listed say
the same.  The best error is the one that the list leads to, and the log is as
it was, except for what an accepted element has told.
-/

namespace Phrasebook

def BestError.reported (best : BestError) : Option LogEntry :=
  best.record?.map fun record => ⟨.error, record.message, record.quality.code⟩

theorem ParseLog.report_eq (log : ParseLog) (best : BestError) :
    log.report best = log.addAll best.reported.toList := by
  unfold ParseLog.report BestError.reported
  cases best.record? <;> rfl

namespace Tracked

/-- A tracked search that was started with the tracker has come out as the other one
says: it answers alike, has taken the listed records into account, and has logged
what `told` says of its answer. -/
def Reflects {α : Type} (told : α → List LogEntry) (tracker : Tracker)
    (outcome : Except SetupError α × Tracker) (search : Search α) : Prop :=
  ∃ opened : Nat,
    match search with
    | .error error =>
        ∃ best, outcome = (.error error, ⟨best, tracker.log.withOpened opened⟩)
    | .ok (records, answer) =>
        (∀ record ∈ records, record.Ranked) ∧
          outcome = (.ok answer,
            ⟨records.foldl BestError.record tracker.best,
              (tracker.log.withOpened opened).addAll (told answer)⟩)

/-- The tracked search does what the other one says, whatever the tracker is. -/
def Follows {α : Type} (told : α → List LogEntry) (tracked : Tracked α)
    (search : Search α) :
    Prop :=
  ∀ tracker : Tracker, Reflects told tracker (tracked tracker) search

def silent {α : Type} (_ : α) : List LogEntry := []

theorem Follows.answered {α : Type} {told : α → List LogEntry}
    {tracked : Tracked α} {search : Search α}
    (follows : Follows told tracked search) {before after : Tracker}
    {answer : α} (ran : tracked before = (.ok answer, after)) :
    ∃ records, search = .ok (records, answer) := by
  obtain ⟨opened, reflects⟩ := follows before
  cases search with
  | error error =>
      obtain ⟨best, failed⟩ := reflects
      cases ran.symm.trans failed
  | ok outcome =>
      obtain ⟨records, found⟩ := outcome
      cases ran.symm.trans reflects.2
      exact ⟨records, rfl⟩

theorem pure_follows {α : Type} {told : α → List LogEntry} {answer : α}
    (quiet : told answer = []) :
    Follows told (pure answer : Tracked α) (pure answer : Search α) := by
  intro tracker
  refine ⟨tracker.log.opened, by simp, ?_⟩
  rw [quiet]
  rfl

theorem fail_follows {α : Type} (told : α → List LogEntry) (error : SetupError) :
    Follows told (Searching.fail error : Tracked α)
      (Searching.fail error : Search α) :=
  fun tracker => ⟨tracker.log.opened, tracker.best, rfl⟩

theorem Reflects.of_eq {α : Type} {told : α → List LogEntry} {tracker : Tracker}
    {outcome other : Except SetupError α × Tracker} {search : Search α}
    (same : outcome = other) (reflects : Reflects told tracker other search) :
    Reflects told tracker outcome search :=
  same ▸ reflects

/-- A search that goes on after records were listed. -/
theorem Reflects.resume {α β : Type} {told : β → List LogEntry}
    {tracker : Tracker} {opened : Nat}
    {records : List ErrorRecord} {answer : α} {listed : α → Search β}
    {outcome : Except SetupError β × Tracker}
    (ranked : ∀ record ∈ records, record.Ranked) (later : Reflects told
      ⟨records.foldl BestError.record tracker.best,
        tracker.log.withOpened opened⟩ outcome
      (listed answer)) :
    Reflects told tracker outcome ((.ok (records, answer) : Search α) >>=
      listed) := by
  obtain ⟨reopened, later⟩ := later
  refine ⟨reopened, ?_⟩
  cases listing : listed answer with
  | error error =>
      simp only [listing, ParseLog.withOpened_withOpened] at later
      simpa only [bind, Search.bind, listing] using later
  | ok result =>
      obtain ⟨more, result⟩ := result
      simp only [listing] at later
      obtain ⟨moreRanked, later⟩ := later
      simp only [bind, Search.bind, listing]
      constructor
      · intro record member
        rcases List.mem_append.mp member with earlier | later
        · exact ranked record earlier
        · exact moreRanked record later
      · rw [later, List.foldl_append, ParseLog.withOpened_withOpened]

theorem bind_of_ok {α β : Type} {tracked : Tracked α} {next : α → Tracked β}
    {tracker middle : Tracker} {answer : α}
    (run : tracked tracker = (.ok answer, middle)) :
    (tracked >>= next) tracker = next answer middle := by
  simp [bind, Tracked.bind, run]

theorem bind_of_error {α β : Type} {tracked : Tracked α} {next : α → Tracked β}
    {tracker after : Tracker} {error : SetupError}
    (run : tracked tracker = (.error error, after)) :
    (tracked >>= next) tracker = (.error error, after) := by
  simp [bind, Tracked.bind, run]

theorem bind_follows {α β : Type} {told : β → List LogEntry}
    {tracked : Tracked α} {search : Search α} {next : α → Tracked β}
    {listed : α → Search β} (first : Follows silent tracked search)
    (second : ∀ answer, Follows told (next answer) (listed answer)) :
    Follows told (tracked >>= next) (search >>= listed) := by
  intro tracker
  obtain ⟨opened, first⟩ := first tracker
  cases search with
  | error error =>
      obtain ⟨best, first⟩ := first
      exact ⟨opened, best, bind_of_error first⟩
  | ok outcome =>
      obtain ⟨records, answer⟩ := outcome
      obtain ⟨ranked, first⟩ := first
      exact .of_eq (bind_of_ok first) (.resume ranked (second answer _))

theorem record_follows {quality : ErrorQuality} (ranked : 0 < quality.rank)
    (message : Text) :
    Follows silent (Searching.record quality message : Tracked Unit)
      (Searching.record quality message : Search Unit) := by
  intro tracker
  refine ⟨tracker.log.opened, ?_, rfl⟩
  intro record member
  cases List.mem_singleton.mp member
  exact ranked

/-- The steps of a matcher tell nothing. -/
def simulation : Searching.Simulation Tracked Search where
  Related := Follows silent
  pure_related _ := pure_follows rfl
  bind_related := bind_follows
  fail_related := fail_follows silent
  record_related := record_follows

/-- How an attempt ends: its scope holds back what was told of an answer, or the
best error of a failure, and nothing else. -/
theorem attempt_follows {α : Type} {told : Option α → List LogEntry}
    {tracked : Tracked (Option α)} {search : Search (Option α)}
    (follows : Follows told tracked search) (log : ParseLog) :
    ∃ opened, match search with
      | .error error =>
          ∃ best held, tracked.attempt log =
            ⟨.error error, best, held, log.withOpened opened⟩
      | .ok (records, some answer) =>
          (∀ record ∈ records, record.Ranked) ∧
            tracked.attempt log =
              ⟨.ok (some answer), .ofRecords records, told (some answer),
                log.withOpened opened⟩
      | .ok (records, none) =>
          (∀ record ∈ records, record.Ranked) ∧
            tracked.attempt log =
              ⟨.ok none, .ofRecords records,
                told none ++ (BestError.ofRecords records).reported.toList,
                log.withOpened opened⟩ := by
  obtain ⟨opened, follows⟩ := follows ⟨.empty, log.openScope⟩
  refine ⟨opened, ?_⟩
  cases search with
  | error error =>
      obtain ⟨best, follows⟩ := follows
      refine ⟨best, [], ?_⟩
      have closed := ParseLog.closeScope_addAll_openScope log opened []
      simp only [ParseLog.addAll_nil] at closed
      simp only [attempt, follows, closed]
  | ok outcome =>
      obtain ⟨records, answer⟩ := outcome
      obtain ⟨ranked, follows⟩ := follows
      cases answer with
      | some answer =>
          refine ⟨ranked, ?_⟩
          simp only [attempt, follows, ParseLog.closeScope_addAll_openScope]
          rfl
      | none =>
          refine ⟨ranked, ?_⟩
          simp only [attempt, follows, ParseLog.report_eq, ← ParseLog.addAll_append,
            ParseLog.closeScope_addAll_openScope]
          rfl

/-- What was told to the scope of a nested attempt is dropped with the scope,
and of the listed records those of a failure remain. -/
theorem nested_follows {α : Type} {told : Option α → List LogEntry}
    {tracked : Tracked (Option α)} {search : Search (Option α)}
    (follows : Follows told tracked search) :
    Follows silent (Searching.nested tracked : Tracked (Option α))
      (Searching.nested search : Search (Option α)) := by
  change Follows silent tracked.nested search.settled
  intro tracker
  obtain ⟨opened, follows⟩ := attempt_follows follows tracker.log
  refine ⟨opened, ?_⟩
  cases search with
  | error error =>
      obtain ⟨best, held, ending⟩ := follows
      exact ⟨tracker.best, by rw [Tracked.nested, ending]⟩
  | ok outcome =>
      obtain ⟨records, answer⟩ := outcome
      cases answer with
      | some answer =>
          obtain ⟨_, ending⟩ := follows
          exact ⟨by simp, by rw [Tracked.nested, ending]; rfl⟩
      | none =>
          obtain ⟨ranked, ending⟩ := follows
          refine ⟨ranked, ?_⟩
          rw [Tracked.nested, ending, ← BestError.merge_ofRecords]
          rfl

theorem firstSome_follows {α β : Type} {told : Option β → List LogEntry}
    (quiet : told none = []) {tracked : α → Tracked (Option β)}
    {search : α → Search (Option β)} (items : List α)
    (follows : ∀ item, item ∈ items → Follows told (tracked item) (search item)) :
    Follows told (Searching.firstSome tracked items)
      (Searching.firstSome search items) := by
  induction items with
  | nil => exact pure_follows quiet
  | cons item items induction =>
      have later := induction fun other member =>
        follows other (List.mem_cons_of_mem item member)
      intro tracker
      obtain ⟨opened, first⟩ := follows item List.mem_cons_self tracker
      simp only [Searching.firstSome]
      cases attempt : search item with
      | error error =>
          rw [attempt] at first
          obtain ⟨best, first⟩ := first
          exact ⟨opened, best, bind_of_error first⟩
      | ok outcome =>
          obtain ⟨records, answer⟩ := outcome
          rw [attempt] at first
          obtain ⟨ranked, first⟩ := first
          cases answer with
          | some answer =>
              refine .of_eq (bind_of_ok first) ⟨opened, ?_⟩
              simp only [bind, Search.bind]
              exact ⟨by simpa using ranked, by simp [pure, Tracked.pure]⟩
          | none =>
              rw [quiet] at first
              exact .of_eq (bind_of_ok first) (.resume ranked (later _))

/-- What the acceptance of an element tells. -/
def told : Option Accepted → List LogEntry
  | some accepted => accepted.entries
  | none => []

/-- A provider is heard inside a scope, which is closed again. -/
theorem ask_eq (descriptor : Descriptor) (index : Nat) (result : MatchResult)
    (tracker : Tracker) :
    (Searching.ask descriptor index result : Tracked Verdict) tracker =
      (.ok (descriptor.init index result),
        { tracker with log :=
            tracker.log.withOpened (tracker.log.opened + 1) }) := by
  change Tracked.ask descriptor index result tracker = _
  have closed :=
    ParseLog.closeScope_addAll_openScope tracker.log (tracker.log.opened + 1)
    (descriptor.init index result).entries
  have fresh : tracker.log.openScope.withOpened (tracker.log.opened + 1) =
      tracker.log.openScope := rfl
  rw [fresh] at closed
  simp only [Tracked.ask, closed]

private theorem ask_follows (descriptor : Descriptor) (index : Nat)
    (result : MatchResult) :
    Follows silent (Searching.ask descriptor index result : Tracked Verdict)
      (Searching.ask descriptor index result : Search Verdict) :=
  fun tracker =>
    ⟨tracker.log.opened + 1, by simp, ask_eq descriptor index result tracker⟩

/-- Consulting a provider tells what it logged if it accepts, and nothing else. -/
theorem consult_follows (descriptor : Descriptor) (index : Nat)
    (result : MatchResult) :
    Follows told (Matcher.consult descriptor index result :
      Tracked (Option Accepted))
      (Matcher.consult descriptor index result : Search (Option Accepted)) := by
  unfold Matcher.consult
  apply bind_follows (ask_follows descriptor index result)
  intro verdict
  cases verdict.element with
  | some element =>
      intro tracker
      exact ⟨tracker.log.opened, by simp, rfl⟩
  | none =>
      cases LogEntry.lastError? verdict.entries with
      | some entry =>
          exact bind_follows (record_follows (by decide) entry.message)
            fun _ => pure_follows rfl
      | none => exact pure_follows rfl

/-- The selection of candidates tells what the provider of the accepted element has
logged. -/
def selection : Searching.Selection Tracked Search where
  toSimulation := simulation
  Found := Follows told
  none_found := pure_follows rfl
  fail_found := fail_follows told
  bind_found := bind_follows
  firstSome_found := firstSome_follows rfl
  consult_found := consult_follows
  nested_related := nested_follows

end Tracked

end Phrasebook
