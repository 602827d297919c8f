import Phrasebook.Descriptor
import Phrasebook.ErrorRecord
import Phrasebook.SetupError

/-!
# Searches

A search tries things out.  On the way it leaves error records, asks providers
for their verdicts, and parses parts of the text as attempts of their own; a
setup error ends it at once.  What becomes of all this is left to the way in
which the search is carried out.  The plainest way only lists the error records.
-/

namespace Phrasebook

/-- A way to carry out searches. -/
class Searching (m : Type → Type) extends Monad m where
  /-- Hits a setup error. -/
  fail {α : Type} (error : SetupError) : m α
  /-- Leaves an error record. -/
  record (quality : ErrorQuality) (message : Text) : m Unit
  /-- Asks a provider for its verdict on a match, inside a capture scope.  The
  entries of the answer are those that the scope has held back. -/
  ask (descriptor : Descriptor) (index : Nat) (result : MatchResult) : m Verdict
  /-- Forwards the entries of a closed scope. -/
  forward (entries : List LogEntry) : m Unit
  /-- Carries out an attempt of its own, inside a capture scope.  Nothing that
  it logs gets out, and its error records count only if it fails. -/
  nested {α : Type} (attempt : m (Option α)) : m (Option α)

namespace Searching

variable {m : Type → Type} [Searching m]

/-- A step that makes no records. -/
def lift {α : Type} (step : Except SetupError α) : m α :=
  match step with
  | .error error => fail error
  | .ok answer => pure answer

/-- Tries the items in order until one of them gives an answer. -/
def firstSome {α β : Type} (attempt : α → m (Option β)) : List α → m (Option β)
  | [] => pure none
  | item :: items => do
      match ← attempt item with
      | some answer => pure (some answer)
      | none => firstSome attempt items

end Searching

/-- A computation that answers, leaves error records in the order they were
made, and may hit a setup error. -/
def Search (α : Type) : Type :=
  Except SetupError (List ErrorRecord × α)

namespace Search

protected def pure {α : Type} (answer : α) : Search α :=
  .ok ([], answer)

/-- Goes on with the answer; the records of both parts follow one another. -/
protected def bind {α β : Type} (search : Search α) (next : α → Search β) :
    Search β :=
  match search with
  | .error error => .error error
  | .ok (records, answer) =>
      match next answer with
      | .error error => .error error
      | .ok (later, result) => .ok (records ++ later, result)

/-- Drops the records of an attempt that succeeds. -/
def settled {α : Type} (search : Search (Option α)) : Search (Option α) :=
  match search with
  | .error error => .error error
  | .ok (_, some answer) => .ok ([], some answer)
  | .ok (records, none) => .ok (records, none)

instance : Monad Search where
  pure := Search.pure
  bind := Search.bind

instance : Searching Search where
  fail error := .error error
  record quality message := .ok ([⟨quality, message⟩], ())
  ask descriptor index result := .ok ([], descriptor.init index result)
  forward _ := .ok ([], ())
  nested := settled

end Search

end Phrasebook
