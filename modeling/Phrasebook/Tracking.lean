import Phrasebook.Search

/-!
# Tracked searches

A parser does not list the error records of a search.  It keeps the best of them
as it goes along, and it logs into the parse log that it was given.  Every
attempt starts with nothing seen and works inside a capture scope; however it
ends, the scope is closed.
-/

namespace Phrasebook

/-- What a parser keeps while it searches. -/
structure Tracker where
  best : BestError
  log : ParseLog

/-- A computation that keeps track of the best error and of the parse log, and
may hit a setup error. -/
def Tracked (α : Type) : Type :=
  Tracker → Except SetupError α × Tracker

/-- How an attempt inside a capture scope has ended. -/
structure Ending (α : Type) where
  answer : Except SetupError (Option α)
  best : BestError
  /-- What the scope has held back. -/
  held : List LogEntry
  /-- The log after the scope was closed. -/
  log : ParseLog

namespace ParseLog

def report (log : ParseLog) (best : BestError) : ParseLog :=
  match best.record? with
  | some record => log.add ⟨.error, record.message, record.quality.code⟩
  | none => log

end ParseLog

namespace Tracked

protected def pure {α : Type} (answer : α) : Tracked α :=
  fun tracker => (.ok answer, tracker)

protected def bind {α β : Type} (search : Tracked α) (next : α → Tracked β) :
    Tracked β :=
  fun tracker =>
    match search tracker with
    | (.error error, after) => (.error error, after)
    | (.ok answer, after) => next answer after

instance : Monad Tracked where
  pure := Tracked.pure
  bind := Tracked.bind

/-- Makes an attempt inside a capture scope.  A failure logs its best error
there. -/
def attempt {α : Type} (search : Tracked (Option α)) (log : ParseLog) : Ending α :=
  let (answer, tracker) := search ⟨.empty, log.openScope⟩
  let reported :=
    match answer with
    | .ok none => tracker.log.report tracker.best
    | _ => tracker.log
  let (held, closed) := reported.closeScope
  ⟨answer, tracker.best, held, closed⟩

def fail {α : Type} (error : SetupError) : Tracked α :=
  fun tracker => (.error error, tracker)

def record (quality : ErrorQuality) (message : Text) : Tracked Unit :=
  fun tracker =>
    (.ok (), { tracker with best := tracker.best.record ⟨quality, message⟩ })

/-- Lets a provider log inside a capture scope. -/
def ask (descriptor : Descriptor) (index : Nat) (result : MatchResult) :
    Tracked Verdict :=
  fun tracker =>
    let verdict := descriptor.init index result
    let (held, log) := (tracker.log.openScope.addAll verdict.entries).closeScope
    (.ok ⟨held, verdict.element⟩, { tracker with log := log })

def forward (entries : List LogEntry) : Tracked Unit :=
  fun tracker => (.ok (), { tracker with log := tracker.log.forward entries })

/-- Makes an attempt of its own.  What its scope has held back is dropped, and
the best error of a failure is taken into account. -/
def nested {α : Type} (search : Tracked (Option α)) : Tracked (Option α) :=
  fun tracker =>
    let ending := search.attempt tracker.log
    match ending.answer with
    | .ok none => (.ok none, ⟨tracker.best.merge ending.best, ending.log⟩)
    | answer => (answer, ⟨tracker.best, ending.log⟩)

instance : Searching Tracked where
  fail := fail
  record := record
  ask := ask
  forward := forward
  nested := nested

end Tracked

end Phrasebook
