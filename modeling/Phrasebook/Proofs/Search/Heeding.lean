import Phrasebook.Proofs.Search.Tracing

/-!
# What a search heeds

A search heeds a condition on the questions to providers if it asks none that
breaks it, neither itself nor in an attempt on the way.  Together with what is
known of its answer this is kept by all steps, so it can be shown of a whole
search by going through the steps.
-/

namespace Phrasebook

namespace Traced

/-- All questions to providers are good ones, and an answer is as it should be. -/
def Heeds {α : Type} (good : Descriptor → Nat → MatchResult → Prop)
    (post : α → Prop) (traced : Traced α) : Prop :=
  (∀ descriptor index result, Event.Asks descriptor index result traced.events →
      good descriptor index result) ∧
    ∀ answer, traced.answer = .ok answer → post answer

variable {good : Descriptor → Nat → MatchResult → Prop}

theorem asks_nil {descriptor : Descriptor} {index : Nat} {result : MatchResult}
    (asks : Event.Asks descriptor index result []) :
    good descriptor index result := by
  cases asks with
  | here member => cases member
  | inside member _ => cases member

namespace Heeds

section Steps

variable {α β : Type} {post : α → Prop}

theorem pure {answer : α} (holds : post answer) :
    Heeds good post (Pure.pure answer : Traced α) := by
  refine ⟨fun _ _ _ => asks_nil, ?_⟩
  intro other same
  cases same
  exact holds

theorem fail (error : SetupError) :
    Heeds good post (Searching.fail error : Traced α) := by
  refine ⟨fun _ _ _ => asks_nil, ?_⟩
  intro other same
  cases same

theorem lift {step : Except SetupError α}
    (holds : ∀ answer, step = .ok answer → post answer) :
    Heeds good post (Searching.lift step : Traced α) := by
  cases step with
  | error error => exact fail error
  | ok answer => exact pure (holds answer rfl)

theorem record (quality : ErrorQuality) (message : Text) :
    Heeds good (fun _ => True) (Searching.record quality message :
      Traced Unit) := by
  refine ⟨?_, fun _ _ => trivial⟩
  intro descriptor index result asks
  cases asks with
  | here member => cases List.mem_singleton.mp member
  | inside member _ => cases List.mem_singleton.mp member

theorem forward (entries : List LogEntry) :
    Heeds good (fun _ => True) (Searching.forward entries : Traced Unit) :=
  ⟨fun _ _ _ => asks_nil, fun _ _ => trivial⟩

theorem ask {descriptor : Descriptor} {index : Nat} {result : MatchResult}
    (holds : good descriptor index result) :
    Heeds good (fun _ => True) (Searching.ask descriptor index result :
      Traced Verdict) := by
  refine ⟨?_, fun _ _ => trivial⟩
  intro other position match_ asks
  cases asks with
  | here member =>
      cases List.mem_singleton.mp member
      exact holds
  | inside member _ => cases List.mem_singleton.mp member

theorem bind {first : Traced α} {next : α → Traced β} {last : β → Prop}
    (heeds : Heeds good post first)
    (later : ∀ answer, post answer → Heeds good last (next answer)) :
    Heeds good last (first >>= next) := by
  obtain ⟨asked, answered⟩ := heeds
  obtain ⟨events, answer⟩ := first
  cases answer with
  | error error =>
      refine ⟨asked, ?_⟩
      intro answer same
      cases same
  | ok answer =>
      obtain ⟨moreAsked, result⟩ := later answer (answered answer rfl)
      refine ⟨?_, result⟩
      intro descriptor index result asks
      rcases Event.asks_append asks with before | behind
      · exact asked descriptor index result before
      · exact moreAsked descriptor index result behind

theorem mono {weaker : α → Prop} {traced : Traced α}
    (heeds : Heeds good post traced)
    (implies : ∀ answer, post answer → weaker answer) :
    Heeds good weaker traced :=
  ⟨heeds.1, fun answer same => implies answer (heeds.2 answer same)⟩

theorem nested {post : Option α → Prop} {attempt : Traced (Option α)}
    (heeds : Heeds good post attempt) :
    Heeds good post (Searching.nested attempt : Traced (Option α)) := by
  refine ⟨?_, heeds.2⟩
  intro descriptor index result asks
  cases asks with
  | here member => cases List.mem_singleton.mp member
  | inside member inner =>
      cases List.mem_singleton.mp member
      exact heeds.1 descriptor index result inner

theorem firstSome {attempt : α → Traced (Option β)} {items : List α}
    {last : β → Prop}
    (heeds : ∀ item ∈ items, Heeds good (fun found => ∀ answer ∈ found, last answer)
      (attempt item)) :
    Heeds good (fun found => ∀ answer ∈ found, last answer)
      (Searching.firstSome attempt items) := by
  induction items with
  | nil => exact pure (by simp)
  | cons item items induction =>
      apply bind (heeds item List.mem_cons_self)
      intro found holds
      cases found with
      | some answer => exact pure holds
      | none =>
          exact induction fun later member =>
            heeds later (List.mem_cons_of_mem item member)

theorem map_found {search : Traced (Option α)} {before : α → Prop}
    {after : β → Prop} {change : α → β}
    (heeds : Heeds good (fun found => ∀ answer ∈ found, before answer) search)
    (keeps : ∀ answer, before answer → after (change answer)) :
    Heeds good (fun found => ∀ answer ∈ found, after answer)
      (do let found ← search; Pure.pure (found.map change)) := by
  apply bind heeds
  intro found holds
  apply pure
  intro changed same
  obtain ⟨answer, isFound, rfl⟩ := Option.map_eq_some_iff.mp same
  exact keeps answer (holds answer isFound)

end Steps

end Heeds

end Traced

end Phrasebook
