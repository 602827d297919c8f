import Phrasebook.Proofs.Search.Simulation

/-!
# Traced searches

A trace keeps everything that happens in a search, in the order in which it
happens: the error records, the questions to providers, and the attempts made on
the way with everything that happens inside of them.  The records that a search
lists are those of its trace.
-/

namespace Phrasebook

/-- What happens in the course of a search. -/
inductive Event where
  | recorded (record : ErrorRecord)
  | asked (descriptor : Descriptor) (index : Nat) (result : MatchResult)
  /-- An attempt of its own, whether it has failed, and what happened in it. -/
  | nested (failed : Bool) (events : List Event)

namespace Event

mutual

/-- The error records that an event leaves behind.  An attempt of its own leaves
those made in it if it has failed, and otherwise none. -/
def records : Event → List ErrorRecord
  | .recorded record => [record]
  | .asked _ _ _ => []
  | .nested failed events => if failed then recordsOfAll events else []

def recordsOfAll : List Event → List ErrorRecord
  | [] => []
  | event :: events => event.records ++ recordsOfAll events

end

@[simp] theorem recordsOfAll_append (first second : List Event) :
    recordsOfAll (first ++ second) = recordsOfAll first ++ recordsOfAll second := by
  induction first with
  | nil => rfl
  | cons event events induction =>
      simp only [List.cons_append, recordsOfAll, induction, List.append_assoc]

/-- Somewhere among the events, or inside of the attempts among them, a provider is
asked for its verdict on a match. -/
inductive Asks (descriptor : Descriptor) (index : Nat) (result : MatchResult) :
    List Event → Prop where
  | here {events : List Event} :
      Event.asked descriptor index result ∈ events →
      Asks descriptor index result events
  | inside {events inner : List Event} {failed : Bool} :
      Event.nested failed inner ∈ events → Asks descriptor index result inner →
        Asks descriptor index result events

theorem asks_append {descriptor : Descriptor} {index : Nat}
    {result : MatchResult} {first second : List Event}
    (asks : Asks descriptor index result (first ++ second)) :
    Asks descriptor index result first ∨ Asks descriptor index result second := by
  cases asks with
  | here member =>
      rcases List.mem_append.mp member with member | member
      · exact .inl (.here member)
      · exact .inr (.here member)
  | inside member inner =>
      rcases List.mem_append.mp member with member | member
      · exact .inl (.inside member inner)
      · exact .inr (.inside member inner)

end Event

/-- A computation that keeps what happens, and may hit a setup error. -/
structure Traced (α : Type) where
  events : List Event
  answer : Except SetupError α

namespace Traced

protected def bind {α β : Type} (traced : Traced α) (next : α → Traced β) :
    Traced β :=
  match traced.answer with
  | .error error => ⟨traced.events, .error error⟩
  | .ok answer => ⟨traced.events ++ (next answer).events, (next answer).answer⟩

/-- Whether an answer is that of a failure. -/
def isFailure {α : Type} : Except SetupError (Option α) → Bool
  | .ok none => true
  | _ => false

instance : Monad Traced where
  pure answer := ⟨[], .ok answer⟩
  bind := Traced.bind

instance : Searching Traced where
  fail error := ⟨[], .error error⟩
  record quality message := ⟨[.recorded ⟨quality, message⟩], .ok ()⟩
  ask descriptor index result :=
    ⟨[.asked descriptor index result], .ok (descriptor.init index result)⟩
  forward _ := ⟨[], .ok ()⟩
  nested attempt := ⟨[.nested (isFailure attempt.answer) attempt.events],
    attempt.answer⟩

def listed {α : Type} (traced : Traced α) : Search α :=
  match traced.answer with
  | .error error => .error error
  | .ok answer => .ok (Event.recordsOfAll traced.events, answer)

theorem listed_bind {α β : Type} (traced : Traced α) (next : α → Traced β) :
    (traced >>= next).listed = traced.listed >>= fun answer =>
      (next answer).listed := by
  obtain ⟨events, answer⟩ := traced
  cases answer with
  | error error => rfl
  | ok answer =>
      simp only [bind, Traced.bind, Search.bind, listed, Event.recordsOfAll_append]
      cases (next answer).answer <;> rfl

theorem listed_nested {α : Type} (traced : Traced (Option α)) :
    (Searching.nested traced : Traced (Option α)).listed =
      Searching.nested traced.listed := by
  obtain ⟨events, answer⟩ := traced
  rcases answer with error | (none | answer)
  · rfl
  · have kept : Event.recordsOfAll [.nested true events] =
        Event.recordsOfAll events := by
      simp [Event.recordsOfAll, Event.records]
    exact congrArg (fun records => (.ok (records, none) : Search (Option α))) kept
  · rfl

/-- The steps of a matcher list what their trace leaves behind. -/
def simulation : Searching.Simulation Traced Search where
  Related traced search := traced.listed = search
  pure_related _ := rfl
  bind_related := by
    intro _ _ left right leftNext rightNext first second
    rw [listed_bind, first, funext second]
  fail_related _ := rfl
  record_related _ _ := rfl

theorem consult_listed (descriptor : Descriptor) (index : Nat)
    (result : MatchResult) :
    (Matcher.consult descriptor index result : Traced (Option Accepted)).listed =
      (Matcher.consult descriptor index result : Search (Option Accepted)) := by
  unfold Matcher.consult
  apply simulation.bind_related rfl
  intro verdict
  cases verdict.element with
  | some element => rfl
  | none => cases LogEntry.lastError? verdict.entries <;> rfl

/-- So does the selection of candidates. -/
def selection : Searching.Selection Traced Search where
  toSimulation := simulation
  Found traced search := traced.listed = search
  none_found := rfl
  fail_found _ := rfl
  bind_found := simulation.bind_related
  firstSome_found := simulation.firstSome_related
  consult_found := consult_listed
  nested_related := by
    intro left right found
    exact (listed_nested left).trans (congrArg Searching.nested found)

end Traced

/-! ## The winning element -/

/-- The element of a descriptor from the source has won: the last thing that
happened is that its provider was asked, and it accepted and logged the
entries. -/
def Accepted.Won (accepted : Accepted) (source : List Descriptor)
    (events : List Event) (entries : List LogEntry) : Prop :=
  accepted.descriptor ∈ source ∧
    ∃ result, events.getLast? =
      some (.asked accepted.descriptor accepted.pattern result) ∧
      accepted.descriptor.init accepted.pattern result =
        ⟨entries, some accepted.element⟩

theorem Accepted.won_append {accepted : Accepted} {source : List Descriptor}
    {events : List Event} {entries : List LogEntry} (earlier : List Event)
    (won : accepted.Won source events entries) :
    accepted.Won source (earlier ++ events) entries := by
  obtain ⟨member, result, last, verdict⟩ := won
  refine ⟨member, result, ?_, verdict⟩
  rw [List.getLast?_append, last]
  rfl

namespace Traced

theorem bind_answer {α β : Type} {traced : Traced α} {next : α → Traced β}
    {result : β} (answered : (traced >>= next).answer = .ok result) :
    ∃ answer, traced.answer = .ok answer ∧ (next answer).answer = .ok result ∧
      (traced >>= next).events = traced.events ++ (next answer).events := by
  obtain ⟨events, answer⟩ := traced
  cases answer with
  | error error => cases answered
  | ok answer => exact ⟨answer, rfl, answered, rfl⟩

/-- An answer is that of one of the items, and what happens there comes last. -/
theorem firstSome_answer {α β : Type} {attempt : α → Traced (Option β)}
    {items : List α} {answer : β}
    (answered : (Searching.firstSome attempt items).answer = .ok (some answer)) :
    ∃ item ∈ items, (attempt item).answer = .ok (some answer) ∧
      ∃ earlier, (Searching.firstSome attempt items).events =
        earlier ++ (attempt item).events := by
  induction items with
  | nil => cases answered
  | cons item items induction =>
      obtain ⟨found, first, second, events⟩ := bind_answer answered
      cases found with
      | some found =>
          cases second
          exact ⟨item, List.mem_cons_self, first, [],
            events.trans (List.append_nil _)⟩
      | none =>
          obtain ⟨later, member, last, earlier, rest⟩ := induction second
          refine ⟨later, List.mem_cons_of_mem item member, last,
            (attempt item).events ++ earlier, ?_⟩
          rw [List.append_assoc, ← rest]
          exact events

private theorem consult_won {descriptor : Descriptor} {index : Nat}
    {result : MatchResult}
    {accepted : Accepted} {source : List Descriptor} (member : descriptor ∈ source)
    (answered : (Matcher.consult descriptor index result : Traced _).answer =
      .ok (some accepted)) :
    accepted.Won source (Matcher.consult descriptor index result : Traced _).events
      accepted.entries := by
  obtain ⟨verdict, asked, answered, events⟩ := bind_answer answered
  cases asked
  rw [Matcher.consult, events]
  cases accepts : (descriptor.init index result).element with
  | none =>
      rw [accepts] at answered
      cases rejected :
          LogEntry.lastError? (descriptor.init index result).entries with
      | none =>
          rw [rejected] at answered
          cases answered
      | some entry =>
          rw [rejected] at answered
          cases answered
  | some element =>
      rw [accepts] at answered
      cases answered
      refine ⟨member, result, rfl, ?_⟩
      rw [← accepts]

/-- An element that is selected has won. -/
theorem trySource_won {matcher : Matcher Traced} {fill : Bool} {text : Text}
    {source : List Descriptor} {accepted : Accepted}
    (answered : (matcher.trySource fill text source).answer = .ok (some accepted)) :
    accepted.Won source (matcher.trySource fill text source).events
      accepted.entries := by
  obtain ⟨descriptor, member, answered, earlier, events⟩ :=
    firstSome_answer answered
  rw [Matcher.trySource, events]
  apply Accepted.won_append
  obtain ⟨pattern, _, answered, earlier, events⟩ := firstSome_answer answered
  rw [Matcher.tryDescriptor, events]
  apply Accepted.won_append
  obtain ⟨found, _, answered, events⟩ := bind_answer answered
  rw [Matcher.tryPattern, events]
  apply Accepted.won_append
  cases found with
  | none => cases answered
  | some result =>
      obtain ⟨filled, _, answered, events⟩ := bind_answer answered
      rw [events]
      apply Accepted.won_append
      exact consult_won member answered

end Traced

end Phrasebook
