import Mathlib.Data.List.Nodup
import Mathlib.Logic.Relation
import Phrasebook.Proofs.Registration

/-!
# The hierarchy of types

Types declare supertypes, which may have several subtypes and supertypes
themselves.  In a registry that knows all of them, and in which no type lies
above itself, a type is a subtype of another one exactly if declared steps lead
there, or if the other one is the type of everything.
-/

namespace Phrasebook

theorem anyM_answers {α ε : Type} {check : α → Except ε Bool} {holds : α → Prop}
    {items : List α}
    (answers : ∀ item ∈ items, ∃ answer, check item = .ok answer ∧
      (answer = true ↔ holds item)) :
    ∃ answer, items.anyM check = .ok answer ∧
    (answer = true ↔ ∃ item ∈ items, holds item) := by
  induction items with
  | nil => exact ⟨false, rfl, by simp⟩
  | cons item items induction =>
      obtain ⟨here, behind⟩ := List.forall_mem_cons.mp answers
      obtain ⟨first, checked, means⟩ := here
      obtain ⟨later, checkedLater, meansLater⟩ := induction behind
      rw [List.anyM_cons, checked]
      cases first with
      | true => exact ⟨true, rfl, by simp [means.mp rfl]⟩
      | false =>
          have fails : ¬ holds item := fun held =>
            Bool.false_ne_true (means.mpr held)
          exact ⟨later, checkedLater, by simpa [fails] using meansLater⟩

namespace Registry

/-- The type of the first name declares the second one as a supertype. -/
def Extends (registry : Registry) (lower upper : Text) : Prop :=
  ∃ type, registry.findType? lower = some type ∧ upper ∈ type.supertypes

/-- All supertypes that are declared are registered, and no type lies above
itself. -/
structure Hierarchical (registry : Registry) : Prop where
  closed : ∀ lower upper, registry.Extends lower upper →
    ∃ type, registry.findType? upper = some type
  acyclic : ∀ name, ¬ Relation.TransGen registry.Extends name name

/-- The second type is that of everything, or declared steps lead to it from the
first one. -/
def Below (registry : Registry) (lower upper : Text) : Prop :=
  upper = TypeInfo.universalName ∨
  Relation.ReflTransGen registry.Extends lower upper

variable {registry : Registry}

theorem name_of_findType? {name : Text} {type : RegisteredType}
    (found : registry.findType? name = some type) : type.name = name := by
  simpa using List.find?_some found

theorem getType_of_findType? {name : Text} {type : RegisteredType}
    (found : registry.findType? name = some type) :
    registry.getType name = .ok type := by
  simp only [getType, found]

theorem Below.refl (name : Text) : registry.Below name name :=
  .inr .refl

/-- A type lies below another one if the other one is universal, if both are the
same, or if one of its supertypes lies below. -/
theorem below_iff {lower : RegisteredType} {upper : Text}
    (known : registry.findType? lower.name = some lower) :
    registry.Below lower.name upper ↔
      (upper = TypeInfo.universalName ∨ lower.name = upper) ∨
        ∃ parent ∈ lower.supertypes, registry.Below parent upper := by
  have step (parent : Text) : registry.Extends lower.name parent ↔
      parent ∈ lower.supertypes := by
    simp [Extends, known]
  unfold Below
  rw [Relation.ReflTransGen.cases_head_iff, or_assoc]
  constructor
  · rintro (universal | same | ⟨parent, declared, leads⟩)
    · exact .inl universal
    · exact .inr (.inl same)
    · exact .inr (.inr ⟨parent, (step parent).mp declared, .inr leads⟩)
  · rintro (universal | same | ⟨parent, declared, universal | leads⟩)
    · exact .inl universal
    · exact .inr (.inl same)
    · exact .inl universal
    · exact .inr (.inr ⟨parent, (step parent).mpr declared, leads⟩)

/-- The names that a search for a supertype has passed on its way to this one:
each was passed once, and steps lead on from it. -/
structure Passed (registry : Registry) (seen : List Text) (name : Text) : Prop where
  distinct : seen.Nodup
  leads : ∀ earlier ∈ seen, Relation.TransGen registry.Extends earlier name

theorem Passed.step (hierarchical : registry.Hierarchical) {seen : List Text}
    {name parent : Text} (passed : registry.Passed seen name)
    (declared : registry.Extends name parent) :
    registry.Passed (name :: seen) parent where
  distinct := List.nodup_cons.mpr
    ⟨fun member => hierarchical.acyclic name (passed.leads name member),
      passed.distinct⟩
  leads := by
    intro earlier member
    rcases List.mem_cons.mp member with rfl | member
    · exact .single declared
    · exact (passed.leads earlier member).tail declared

private theorem Passed.length_le {seen : List Text} {name : Text}
    (passed : registry.Passed seen name) :
    seen.length ≤ registry.types.length := by
  have known : seen ⊆ registry.types.map (·.name) := by
    intro earlier member
    obtain ⟨next, ⟨type, found, _⟩, _⟩ :=
      Relation.TransGen.head'_iff.mp (passed.leads earlier member)
    exact List.mem_map.mpr ⟨type, List.mem_of_find?_eq_some found,
      name_of_findType? found⟩
  simpa using passed.distinct.length_le_of_subset known

/-- The search for a supertype answers, and rightly, as long as there is fuel
for all types that it has not passed yet. -/
theorem isSubtypeWithin_answers (hierarchical : registry.Hierarchical)
    (upper : TypeInfo) {fuel : Nat} {seen : List Text} {lower : RegisteredType}
    (known : registry.findType? lower.name = some lower)
    (passed : registry.Passed seen lower.name)
    (enough : registry.types.length < fuel + seen.length) :
    ∃ answer, registry.isSubtypeWithin fuel lower.toTypeInfo upper = .ok answer ∧
      (answer = true ↔ registry.Below lower.name upper.name) := by
  induction fuel generalizing seen lower with
  | zero =>
      have short := passed.length_le
      omega
  | succ fuel induction =>
      rw [below_iff known, isSubtypeWithin]
      by_cases here : (upper.isUniversal || lower.name == upper.name) = true
      · rw [if_pos here]
        refine ⟨true, rfl, ?_⟩
        have reached : upper.name = TypeInfo.universalName ∨
            lower.name = upper.name := by
          simpa [TypeInfo.isUniversal] using here
        simp [reached]
      · rw [if_neg here]
        have notHere :
            ¬ (upper.name = TypeInfo.universalName ∨
              lower.name = upper.name) := by
          simpa [TypeInfo.isUniversal] using here
        rw [or_iff_right notHere]
        apply anyM_answers
        intro parent declared
        have above : registry.Extends lower.name parent := ⟨lower, known, declared⟩
        obtain ⟨type, found⟩ := hierarchical.closed _ _ above
        obtain rfl := name_of_findType? found
        rw [getType_of_findType? found]
        apply induction found (passed.step hierarchical above)
        rw [List.length_cons]
        omega

theorem isSubtype_answers (hierarchical : registry.Hierarchical)
    {lower : RegisteredType}
    (known : registry.findType? lower.name = some lower) (upper : TypeInfo) :
    ∃ answer, registry.isSubtype lower.toTypeInfo upper = .ok answer ∧
      (answer = true ↔ registry.Below lower.name upper.name) := by
  have passed : registry.Passed [] lower.name := ⟨List.nodup_nil, by simp⟩
  exact isSubtypeWithin_answers hierarchical upper known passed (by simp)

/-! ## Registries in order -/

def position (registry : Registry) (name : Text) : Nat :=
  registry.types.findIdx (·.name == name)

/-- Types whose supertypes were all registered before them form a hierarchy. -/
theorem hierarchical_of_earlier
    (earlier : ∀ type ∈ registry.types, ∀ parent ∈ type.supertypes,
      registry.position parent < registry.position type.name) :
      registry.Hierarchical := by
  have descends {lower upper : Text} (declared : registry.Extends lower upper) :
      registry.position upper < registry.position lower := by
    obtain ⟨type, found, member⟩ := declared
    have before := earlier type (List.mem_of_find?_eq_some found) upper member
    rwa [name_of_findType? found] at before
  constructor
  · intro lower upper declared
    have inside : registry.position upper < registry.types.length :=
      Nat.lt_of_lt_of_le (descends declared) List.findIdx_le_length
    apply Option.isSome_iff_exists.mp
    rw [findType?, List.find?_isSome]
    exact List.findIdx_lt_length.mp inside
  · intro name cycle
    have below {upper : Text}
      (leads : Relation.TransGen registry.Extends name upper) :
        registry.position upper < registry.position name := by
      induction leads with
      | single declared => exact descends declared
      | tail _ declared induction =>
          exact Nat.lt_trans (descends declared) induction
    exact Nat.lt_irrefl _ (below cycle)

end Registry

end Phrasebook
