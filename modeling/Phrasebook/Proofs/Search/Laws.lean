import Phrasebook.Search
import Phrasebook.Tracking

/-!
# Laws of searches

Searches that list their error records follow the laws of sequences of steps,
since the lists of both parts are joined.  Those that a parser tracks follow them
as well, since each step starts from what the one before has left.
-/

namespace Phrasebook

namespace Search

theorem bind_ok {α β : Type} (records : List ErrorRecord) (answer : α)
    (next : α → Search β) :
    bind (m := Search) (.ok (records, answer)) next =
      match next answer with
      | .error error => .error error
      | .ok (later, result) => .ok (records ++ later, result) := rfl

theorem bind_ok_nil {α β : Type} (answer : α) (next : α → Search β) :
    bind (m := Search) (.ok ([], answer)) next = next answer := by
  rw [bind_ok]
  cases next answer with
  | error error => rfl
  | ok outcome => rfl

theorem bind_found {α β : Type} {search : Search α} {next : α → Search β}
    {records : List ErrorRecord} {result : β}
    (found : search >>= next = .ok (records, result)) :
    ∃ earlier answer later, search = .ok (earlier, answer) ∧
    next answer = .ok (later, result) ∧
      records = earlier ++ later := by
  cases search with
  | error error => cases found
  | ok outcome =>
      obtain ⟨earlier, answer⟩ := outcome
      rw [bind_ok] at found
      cases second : next answer with
      | error error =>
          rw [second] at found
          cases found
      | ok outcome =>
          obtain ⟨later, other⟩ := outcome
          rw [second] at found
          cases found
          exact ⟨earlier, answer, later, rfl, second, rfl⟩

instance : LawfulMonad Search := LawfulMonad.mk' Search
  (by
    intro α search
    cases search with
    | error error => rfl
    | ok outcome =>
        change Except.ok (outcome.1 ++ [], outcome.2) = Except.ok outcome
        rw [List.append_nil])
  bind_ok_nil
  (by
    intro α β γ search first second
    cases search with
    | error error => rfl
    | ok outcome =>
        obtain ⟨records, answer⟩ := outcome
        rw [bind_ok, bind_ok]
        cases first answer with
        | error error => rfl
        | ok middle =>
            obtain ⟨later, result⟩ := middle
            simp only [bind_ok]
            cases second result with
            | error error => rfl
            | ok last =>
                change Except.ok (records ++ later ++ last.1, last.2) =
                  Except.ok (records ++ (later ++ last.1), last.2)
                rw [List.append_assoc])

end Search

namespace Tracked

instance : LawfulMonad Tracked := LawfulMonad.mk' Tracked
  (by
    intro α search
    funext tracker
    change Tracked.bind search (fun answer => Tracked.pure answer) tracker =
      search tracker
    rw [Tracked.bind]
    split
    · rename_i error after found
      exact found.symm
    · rename_i answer after found
      exact found.symm)
  (fun _ _ => rfl)
  (by
    intro α β γ search first second
    funext tracker
    change Tracked.bind (Tracked.bind search first) second tracker =
      Tracked.bind search (fun answer => Tracked.bind (first answer) second) tracker
    simp only [Tracked.bind]
    cases search tracker with
    | mk outcome after =>
        cases outcome with
        | error error => rfl
        | ok answer => rfl)

end Tracked

end Phrasebook
