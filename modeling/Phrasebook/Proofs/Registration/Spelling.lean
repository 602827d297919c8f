import Mathlib.Data.List.Nodup
import Phrasebook.Proofs.Registration.History

/-!
# Spellings of types

Patterns write a type by its name or by its plural.  A name is taken once, and
names go before plurals.  A plural may be that of several types, or the name of
another one: then it means the type of that name, or else the one of them that
was registered last.
-/

namespace Phrasebook

namespace Registry

variable {registry : Registry} {type : RegisteredType} {written : Text}

/-- Of the types with this plural the one that was registered last. -/
def lastOfPlural? (registry : Registry) (written : Text) : Option RegisteredType :=
  registry.types.reverse.find? (·.plural == written)

/-- No type that was registered behind this one has its plural. -/
def LastOfPlural (registry : Registry) (type : RegisteredType) : Prop :=
  ∃ front behind, registry.types = front ++ type :: behind ∧
    ∀ other ∈ behind, other.plural ≠ type.plural

theorem lastOfPlural?_eq_some_iff :
    registry.lastOfPlural? written = some type ↔
      type.plural = written ∧ registry.LastOfPlural type := by
  rw [lastOfPlural?, List.find?_eq_some_iff_append, beq_iff_eq]
  apply and_congr_right
  rintro rfl
  constructor
  · rintro ⟨behind, front, split, unlike⟩
    refine ⟨front.reverse, behind.reverse, ?_, ?_⟩
    · have types := congrArg List.reverse split
      simpa using types
    · intro other member
      simpa using unlike other (List.mem_reverse.mp member)
  · rintro ⟨front, behind, split, unlike⟩
    refine ⟨behind.reverse, front.reverse, by simp [split], ?_⟩
    intro other member
    simpa using unlike other (List.mem_reverse.mp member)

theorem mem_of_lastOfPlural (last : registry.LastOfPlural type) :
    type ∈ registry.types := by
  obtain ⟨front, behind, split, _⟩ := last
  simp [split]

theorem lastOfPlural?_of_mem (member : type ∈ registry.types) :
    ∃ last, registry.lastOfPlural? type.plural = some last := by
  apply Option.isSome_iff_exists.mp
  rw [lastOfPlural?, List.find?_isSome]
  exact ⟨type, List.mem_reverse.mpr member, beq_self_eq_true _⟩

/-! ## Plurals that are on record -/

private theorem Built.plurals_eq (built : registry.Built) :
    registry.plurals =
      (registry.types.map fun type => (type.plural, type.name)).reverse := by
  apply built.induct
  case blank => exact fun _ => rfl
  case type =>
    intro registry type same _
    simp [addType, same]
  case converter =>
    intro registry conversion same _ _
    exact same
  case syntaxes =>
    intro registry kind descriptor same _
    exact same
  case freeze =>
    intro registry same
    exact same

private theorem lookup_plural (types : List RegisteredType) (written : Text) :
    (types.map fun type => (type.plural, type.name)).lookup written =
      (types.find? (·.plural == written)).map (·.name) := by
  induction types with
  | nil => rfl
  | cons type types induction =>
      rw [List.map_cons, List.lookup_cons, List.find?_cons, induction,
        Bool.beq_comm]
      cases type.plural == written <;> rfl

/-- Names go before plurals, later plurals before earlier ones, and both before
the rules of English. -/
theorem Built.normalize_eq (built : registry.Built) (written : Text) :
    registry.normalize written =
      if (registry.findType? written).isSome then (written, false)
      else
        match registry.lastOfPlural? written with
        | some type => (type.name, true)
        | none => Noun.singular written := by
  unfold normalize lastOfPlural?
  rw [built.plurals_eq, ← List.map_reverse, lookup_plural]
  cases registry.types.reverse.find? (·.plural == written) <;> rfl

theorem findType?_isSome_iff :
    (registry.findType? written).isSome = true ↔
      ∃ other ∈ registry.types, other.name = written := by
  simp [findType?, List.find?_isSome]

theorem Built.normalize_name (built : registry.Built)
    (member : type ∈ registry.types) :
    registry.normalize type.name = (type.name, false) := by
  rw [built.normalize_eq, if_pos (findType?_isSome_iff.mpr ⟨type, member, rfl⟩)]

/-- A plural that is also a name is read as the name. -/
theorem Built.normalize_named (built : registry.Built)
    (named : ∃ other ∈ registry.types, other.name = type.plural) :
    registry.normalize type.plural = (type.plural, false) := by
  rw [built.normalize_eq, if_pos (findType?_isSome_iff.mpr named)]

/-- Any other plural is read as that of the last type that has it. -/
theorem Built.normalize_plural (built : registry.Built)
    (member : type ∈ registry.types)
    (unnamed : ∀ other ∈ registry.types, other.name ≠ type.plural) :
    ∃ last, last.plural = type.plural ∧ registry.LastOfPlural last ∧
      registry.normalize type.plural = (last.name, true) := by
  obtain ⟨last, found⟩ := lastOfPlural?_of_mem member
  obtain ⟨same, isLast⟩ := lastOfPlural?_eq_some_iff.mp found
  have noName : ¬ (registry.findType? type.plural).isSome = true := by
    rw [findType?_isSome_iff]
    rintro ⟨other, listed, named⟩
    exact unnamed other listed named
  refine ⟨last, same, isLast, ?_⟩
  rw [built.normalize_eq, if_neg noName, found]

private theorem Built.eq_of_name_eq (built : registry.Built)
    {other : RegisteredType} (member : type ∈ registry.types)
    (listed : other ∈ registry.types) (same : other.name = type.name) :
    other = type :=
  List.inj_on_of_nodup_map built.names_distinct listed member same

/-- At any time the name of a type means the type.  Its plural means it exactly
as long as no type goes by the plural as its name and no type registered later
has the same plural.  Otherwise the plural is read as the name that it is, or as
the plural of the last type that has it. -/
theorem Fresh.after_spells (fresh : registry.Fresh) (calls more : List Registration)
    (member : type ∈ (registry.after calls).types) :
    let later := registry.after (calls ++ more)
    later.normalize type.name = (type.name, false) ∧
      (later.normalize type.plural = (type.name, true) ↔
        (∀ other ∈ later.types, other.name ≠ type.plural) ∧
        later.LastOfPlural type) ∧
      ((∃ other ∈ later.types, other.name = type.plural) →
        later.normalize type.plural = (type.plural, false)) ∧
      ((∀ other ∈ later.types, other.name ≠ type.plural) →
        ∃ last, last.plural = type.plural ∧ later.LastOfPlural last ∧
          later.normalize type.plural = (last.name, true)) := by
  intro later
  have built : later.Built := fresh.built.after (calls ++ more)
  have stays : type ∈ later.types := by
    have kept := types_after (registry.after calls) more
    rw [← after_append] at kept
    exact kept.subset member
  refine ⟨built.normalize_name stays, ⟨?_, ?_⟩, built.normalize_named,
    built.normalize_plural stays⟩
  · intro means
    have unnamed : ∀ other ∈ later.types, other.name ≠ type.plural := by
      intro other listed named
      rw [built.normalize_named ⟨other, listed, named⟩] at means
      exact Bool.false_ne_true (congrArg Prod.snd means)
    obtain ⟨last, _, isLast, reads⟩ := built.normalize_plural stays unnamed
    have sameName : last.name = type.name :=
      congrArg Prod.fst (reads.symm.trans means)
    obtain rfl := built.eq_of_name_eq stays (mem_of_lastOfPlural isLast) sameName
    exact ⟨unnamed, isLast⟩
  · rintro ⟨unnamed, isLast⟩
    obtain ⟨last, same, alsoLast, reads⟩ := built.normalize_plural stays unnamed
    have found := lastOfPlural?_eq_some_iff.mpr ⟨same, alsoLast⟩
    cases found.symm.trans (lastOfPlural?_eq_some_iff.mpr ⟨rfl, isLast⟩)
    exact reads

end Registry

def RegisteredType.spelled (name plural : Text) : RegisteredType :=
  .ofReader { TypeInfo.named name .text with plural := plural } Literal.string

namespace Registry

/-- A crate takes the plural of a box, fish have no plural of their own, and
blades go by the plural of a knife. -/
def stocking : List Registration :=
  [.type (.spelled "box" "boxes"), .type (.spelled "fish" "fish"),
    .type (.spelled "knife" "knives"), .type (.spelled "crate" "boxes"),
    .type (.spelled "knives" "blades")]

/-- The crate keeps the plural that it has taken from the box, whatever comes
later. -/
theorem spells_of_stocking :
    let crate : RegisteredType := .spelled "crate" "boxes"
    let later := builtins.after (stocking.take 4 ++ stocking.drop 4)
    crate ∈ (builtins.after (stocking.take 4)).types ∧
      later.normalize crate.name = (crate.name, false) ∧
      (∀ other ∈ later.types, other.name ≠ crate.plural) ∧
      later.LastOfPlural crate ∧
      later.normalize crate.plural = (crate.name, true) := by
  intro crate later
  have member : crate ∈ (builtins.after (stocking.take 4)).types :=
    List.mem_of_getLast? rfl
  have unnamed : ∀ other ∈ later.types, other.name ≠ crate.plural := by
    decide +kernel
  have found : later.lastOfPlural? crate.plural = some crate := rfl
  have isLast : later.LastOfPlural crate := (lastOfPlural?_eq_some_iff.mp found).2
  obtain ⟨name, plural, _, _⟩ :=
    Fresh.after_spells (.builtins withBuiltins_eq) (stocking.take 4)
      (stocking.drop 4) member
  exact ⟨member, name, unnamed, isLast, plural.mpr ⟨unnamed, isLast⟩⟩

/-- All types are registered, and three of them cannot be written in the plural
any more. -/
theorem plurals_lost :
    let later := builtins.after stocking
    (Registration.accepted builtins stocking).length = 5 ∧
      RegisteredType.spelled "box" "boxes" ∈ later.types ∧
      later.normalize "boxes" = (("crate" : Text), true) ∧
      RegisteredType.spelled "fish" "fish" ∈ later.types ∧
      later.normalize "fish" = (("fish" : Text), false) ∧
      RegisteredType.spelled "knife" "knives" ∈ later.types ∧
      later.normalize "knives" = (("knives" : Text), false) ∧
      ¬ ∀ type ∈ later.types, later.normalize type.name = (type.name, false) ∧
        later.normalize type.plural = (type.name, true) := by
  intro later
  have listed : later.types = RegisteredType.builtins ++
      [.spelled "box" "boxes", .spelled "fish" "fish", .spelled "knife" "knives",
        .spelled "crate" "boxes", .spelled "knives" "blades"] := rfl
  have boxes : later.normalize "boxes" = (("crate" : Text), true) := by
    decide +kernel
  have box : RegisteredType.spelled "box" "boxes" ∈ later.types := by simp [listed]
  refine ⟨by decide +kernel, box, boxes, by simp [listed], by decide +kernel,
    by simp [listed], by decide +kernel, ?_⟩
  intro kept
  cases boxes.symm.trans (kept _ box).2

end Registry

end Phrasebook
