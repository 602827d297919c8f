import Phrasebook.Tracking

/-!
# What a search ensures

A search that leaves records, asks providers and logs may end with an answer or
with a setup error.  Whatever way it is carried out in, all that can be said of
its answer follows from the answers of its steps.
-/

namespace Phrasebook

/-- Which answers the searches of one kind may give. -/
structure Searching.Yielding (m : Type → Type) [Searching m] where
  Yields {α : Type} : m α → α → Prop
  of_pure {α : Type} {answer given : α} : Yields (pure answer) given →
    given = answer
  of_bind {α β : Type} {search : m α} {next : α → m β} {given : β} :
    Yields (search >>= next) given → ∃ answer, Yields search answer ∧
    Yields (next answer) given
  not_fail {α : Type} {error : SetupError} {given : α} :
    ¬ Yields (Searching.fail error) given

def Tracked.yielding : Searching.Yielding Tracked where
  Yields search answer := ∃ before after, search before = (.ok answer, after)
  of_pure := by
    intro _ _ _ ⟨_, _, same⟩
    cases same
    rfl
  of_bind := by
    intro _ _ search next given ⟨before, after, same⟩
    change Tracked.bind search next before = (.ok given, after) at same
    rw [Tracked.bind] at same
    split at same
    · cases same
    · rename_i answer middle run
      exact ⟨answer, ⟨before, middle, run⟩, middle, after, same⟩
  not_fail := by
    intro _ _ _ ⟨_, _, same⟩
    cases same

theorem Tracked.yields_of_answer {α : Type} {search : Tracked α}
    {before : Tracker} {answer : α}
    (answered : (search before).1 = .ok answer) :
    Tracked.yielding.Yields search answer :=
  ⟨before, (search before).2, Prod.ext answered rfl⟩

/-- Besides, an element comes from the provider that was asked, and what an
attempt of its own finds is an answer of the attempt. -/
structure Searching.Asking (m : Type → Type)
    [Searching m] extends Searching.Yielding m where
  of_ask {descriptor : Descriptor} {index : Nat} {result : MatchResult}
    {verdict : Verdict} :
    Yields (Searching.ask descriptor index result) verdict →
      verdict.element = (descriptor.init index result).element
  of_nested {α : Type} {attempt : m (Option α)} {answer : α} :
    Yields (Searching.nested attempt) (some answer) → Yields attempt (some answer)

def Tracked.asking : Searching.Asking Tracked where
  toYielding := Tracked.yielding
  of_ask := by
    intro _ _ _ _ ⟨_, _, same⟩
    cases same
    rfl
  of_nested := by
    intro _ attempt answer ⟨before, after, same⟩
    change Tracked.nested attempt before = (.ok (some answer), after) at same
    unfold Tracked.nested at same
    simp only at same
    split at same
    · cases same
    · exact Tracked.yields_of_answer (congrArg Prod.fst same)

namespace Searching.Yielding

variable {m : Type → Type} [Searching m] (yielding : Searching.Yielding m)
  {α β : Type}

/-- Every answer of the search is as it should be. -/
structure Ensures (post : α → Prop) (search : m α) : Prop where
  holds : ∀ answer, yielding.Yields search answer → post answer

namespace Ensures

variable {yielding} {post : α → Prop}

theorem pure {answer : α} (holds : post answer) :
    yielding.Ensures post (Pure.pure answer : m α) := by
  constructor
  intro given yields
  rw [yielding.of_pure yields]
  exact holds

theorem fail (error : SetupError) :
    yielding.Ensures post (Searching.fail error : m α) := by
  constructor
  intro given yields
  exact absurd yields yielding.not_fail

theorem lift {step : Except SetupError α}
    (holds : ∀ answer, step = .ok answer → post answer) :
    yielding.Ensures post (Searching.lift step : m α) := by
  cases step with
  | error error => exact fail error
  | ok answer => exact pure (holds answer rfl)

theorem bind {search : m α} {next : α → m β} {last : β → Prop}
    (ensures : yielding.Ensures post search)
    (later : ∀ answer, post answer → yielding.Ensures last (next answer)) :
    yielding.Ensures last (search >>= next) := by
  constructor
  intro given yields
  obtain ⟨answer, first, second⟩ := yielding.of_bind yields
  exact (later answer (ensures.holds answer first)).holds given second

theorem bind_self {search : m α} {next : α → m β} {last : β → Prop}
    (later : ∀ answer, yielding.Yields search answer →
      yielding.Ensures last (next answer)) :
    yielding.Ensures last (search >>= next) :=
  bind ⟨fun _ yields => yields⟩ later

theorem mono {weaker : α → Prop} {search : m α}
    (ensures : yielding.Ensures post search)
    (implies : ∀ answer, post answer → weaker answer) :
    yielding.Ensures weaker search where
  holds answer yields := implies answer (ensures.holds answer yields)

theorem firstSome {attempt : α → m (Option β)} {items : List α} (last : β → Prop)
    (ensures : ∀ item ∈ items,
      yielding.Ensures (fun found => ∀ answer ∈ found, last answer)
        (attempt item)) :
    yielding.Ensures (fun found => ∀ answer ∈ found, last answer)
      (Searching.firstSome attempt items) := by
  induction items with
  | nil =>
      apply pure
      intro answer member
      cases member
  | cons item items induction =>
      apply bind (ensures item List.mem_cons_self)
      intro found holds
      cases found with
      | some answer => exact pure holds
      | none =>
          apply induction
          intro later member
          exact ensures later (List.mem_cons_of_mem item member)

theorem map_found {search : m (Option α)} {before : α → Prop} {after : β → Prop}
    {change : α → β}
    (ensures : yielding.Ensures (fun found => ∀ answer ∈ found,
      before answer) search)
    (keeps : ∀ answer, before answer → after (change answer)) :
    yielding.Ensures (fun found => ∀ answer ∈ found, after answer)
      (do let found ← search; Pure.pure (found.map change)) := by
  apply bind ensures
  intro found holds
  apply pure
  intro changed same
  obtain ⟨answer, isFound, rfl⟩ := Option.map_eq_some_iff.mp same
  exact keeps answer (holds answer isFound)

end Ensures

end Searching.Yielding

end Phrasebook
