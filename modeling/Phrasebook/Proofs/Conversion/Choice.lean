import Phrasebook.Proofs.Conversion
import Phrasebook.Proofs.Conversion.Hierarchy
import Phrasebook.Proofs.Registration.Conversions

/-!
# Which conversion is taken

What a computed expression computes can be had as values of another type if that
type lies above its own, or if a conversion starts above its own type and ends
below the other one.  The conversion between exactly these two types goes before
all others; among the others the first one counts.
-/

namespace Phrasebook

namespace Conversion

/-- The conversion leads from exactly the one type to exactly the other one. -/
def Joins (source target : Text) (conversion : Conversion) : Prop :=
  conversion.source = source ∧ conversion.target = target

/-- The conversion starts at the one type or above it, and ends at the other one
or below it. -/
def Bridges (registry : Registry) (source target : Text)
    (conversion : Conversion) : Prop :=
  registry.Below source conversion.source ∧ registry.Below conversion.target target

theorem Joins.bridges {registry : Registry} {source target : Text}
    {conversion : Conversion} (joins : conversion.Joins source target) :
    conversion.Bridges registry source target := by
  obtain ⟨rfl, rfl⟩ := joins
  exact ⟨.refl _, .refl _⟩

end Conversion

/-- The first of the items that has the property, or nothing if none of them has
it. -/
inductive FirstWith {α : Type} (holds : α → Prop) (items : List α) : Option α → Prop
  | none : (∀ item ∈ items, ¬ holds item) → FirstWith holds items none
  | some {front behind : List α} {item : α} : items = front ++ item :: behind →
      (∀ earlier ∈ front, ¬ holds earlier) → holds item →
      FirstWith holds items (some item)

namespace FirstWith

variable {α : Type} {holds : α → Prop} {items : List α} {found : Option α}
  {item : α}

theorem here (held : holds item) :
    FirstWith holds (item :: items) (Option.some item) := by
  have split : item :: items = [] ++ item :: items := rfl
  exact .some split (by simp) held

theorem behind (fails : ¬ holds item) (first : FirstWith holds items found) :
    FirstWith holds (item :: items) found := by
  cases first with
  | none never => exact .none (List.forall_mem_cons.mpr ⟨fails, never⟩)
  | @some front behind later split before held =>
      have splitHere : item :: items = (item :: front) ++ later :: behind :=
        congrArg (item :: ·) split
      exact .some splitHere (List.forall_mem_cons.mpr ⟨fails, before⟩) held

theorem isSome_iff (first : FirstWith holds items found) :
    found.isSome = true ↔ ∃ item ∈ items, holds item := by
  cases first with
  | none never => simpa using never
  | @some front behind item split _ held =>
      simp only [Option.isSome_some, true_iff]
      exact ⟨item, by simp [split], held⟩

end FirstWith

namespace Registry

open Conversion

variable {registry : Registry}

/-- The conversion that is taken from one type to another. -/
inductive Takes (registry : Registry) (source target : Text) :
    Option Conversion → Prop
  | direct {conversion : Conversion} : conversion ∈ registry.conversions →
      conversion.Joins source target →
      Takes registry source target (some conversion)
  | first {found : Option Conversion} :
      (∀ conversion ∈ registry.conversions, ¬ conversion.Joins source target) →
        FirstWith (Bridges registry source target) registry.conversions found →
          Takes registry source target found

theorem Takes.isSome_iff {source target : Text} {found : Option Conversion}
    (takes : registry.Takes source target found) :
    found.isSome = true ↔
      ∃ conversion ∈ registry.conversions,
        conversion.Bridges registry source target := by
  cases takes with
  | @direct conversion member joins =>
      simp only [Option.isSome_some, true_iff]
      exact ⟨conversion, member, joins.bridges⟩
  | first _ first => exact first.isSome_iff

/-- The search for a conversion that fits answers with the first one. -/
theorem firstConversion?_answers (hierarchical : registry.Hierarchical)
    {source : RegisteredType} (known : registry.findType? source.name = some source)
    (target : TypeInfo) {conversions : List Conversion}
    (connected : ∀ conversion ∈ conversions, registry.Connects conversion) :
    ∃ found, registry.firstConversion? source.toTypeInfo target conversions =
      .ok found ∧
      FirstWith (Bridges registry source.name target.name) conversions found := by
  induction conversions with
  | nil => exact ⟨none, rfl, .none (by simp)⟩
  | cons conversion conversions induction =>
      obtain ⟨⟨⟨above, aboveKnown⟩, below, belowKnown⟩, connectedLater⟩ :=
        List.forall_mem_cons.mp connected
      obtain ⟨later, foundLater, first⟩ := induction connectedLater
      obtain ⟨starts, startsAbove, startsMeans⟩ :=
        isSubtype_answers hierarchical known above.toTypeInfo
      have belowNamed := name_of_findType? belowKnown
      obtain ⟨ends, endsBelow, endsMeans⟩ :=
        isSubtype_answers hierarchical (belowNamed ▸ belowKnown) target
      rw [name_of_findType? aboveKnown] at startsMeans
      rw [belowNamed] at endsMeans
      simp only [firstConversion?, getType_of_findType? aboveKnown,
        getType_of_findType? belowKnown, startsAbove, endsBelow, foundLater,
        bind, Except.bind]
      by_cases bridges : conversion.Bridges registry source.name target.name
      · rw [if_pos (startsMeans.mpr bridges.1), if_pos (endsMeans.mpr bridges.2)]
        exact ⟨some conversion, rfl, .here bridges⟩
      · refine ⟨later, ?_, first.behind bridges⟩
        split
        · rename_i started
          rw [if_neg fun ended =>
            bridges ⟨startsMeans.mp started, endsMeans.mp ended⟩]
        · rfl

private theorem conversion?_answers (hierarchical : registry.Hierarchical)
    (connected : ∀ conversion ∈ registry.conversions, registry.Connects conversion)
    {source : RegisteredType} (known : registry.findType? source.name = some source)
    (target : TypeInfo) :
    ∃ found, registry.conversion? source.toTypeInfo target = .ok found ∧
      registry.Takes source.name target.name found := by
  unfold conversion?
  cases direct : registry.conversions.find? fun conversion =>
      conversion.source == source.name && conversion.target == target.name with
  | some conversion =>
      have joins : conversion.Joins source.name target.name := by
        simpa [Joins] using List.find?_some direct
      exact ⟨some conversion, rfl, .direct (List.mem_of_find?_eq_some direct) joins⟩
  | none =>
      obtain ⟨found, answered, first⟩ :=
        firstConversion?_answers hierarchical known target connected
      refine ⟨found, answered, .first ?_ first⟩
      intro conversion member
      simpa [Joins] using List.find?_eq_none.mp direct conversion member

end Registry

namespace Expr

variable {registry : Registry} {source target : RegisteredType} {element : Element}
  {converted : Option (Int → World → List Value)} {read : LiteralReading}
  {context : ParseContext}

/-- A computed expression of a type below the target takes the target's type.
Any other is converted by the conversion that is taken, if there is one. -/
theorem convert_computed_answers (hierarchical : registry.Hierarchical)
    (connected : ∀ conversion ∈ registry.conversions, registry.Connects conversion)
    (known : registry.findType? source.name = some source) :
    let expr := Expr.computed element source.toTypeInfo converted
    ∃ result, expr.convert registry read target context = .ok result ∧
      (registry.Below source.name target.name → result.isSome = true) ∧
      (¬ registry.Below source.name target.name → ∃ taken,
        registry.Takes source.name target.name taken ∧
          result = taken.bind fun conversion =>
            expr.applyConverter conversion.convert target.toTypeInfo) := by
  intro expr
  by_cases universal : target.isUniversal = true
  · have below : registry.Below source.name target.name :=
      .inl (by simpa [TypeInfo.isUniversal] using universal)
    refine ⟨some expr, ?_, fun _ => rfl, fun notBelow => absurd below notBelow⟩
    simp only [expr, convert, universal, if_true]
  obtain ⟨isSubtype, answered, means⟩ :=
    Registry.isSubtype_answers hierarchical known target.toTypeInfo
  obtain ⟨taken, found, takes⟩ :=
    Registry.conversion?_answers hierarchical connected known target.toTypeInfo
  simp only [expr, convert, universal, adapt, type, answered, found,
    bind, Except.bind]
  by_cases below : registry.Below source.name target.name
  · rw [means.mpr below]
    exact ⟨_, rfl, fun _ => rfl, fun notBelow => absurd below notBelow⟩
  · rw [Bool.eq_false_iff.mpr (mt means.mp below)]
    refine ⟨_, ?_, fun isBelow => absurd isBelow below, fun _ =>
      ⟨taken, takes, rfl⟩⟩
    cases taken <;> rfl

end Expr

namespace Registry

open Registration Conversion

variable {registry : Registry} {source : RegisteredType}

/-- In a hierarchy of types, however the registry was filled: a type is a
subtype of those that it lies below; a computed expression can be converted to
these, and to those that some conversion bridges the gap to; and the conversion
that is taken is the one between exactly the two types, or else the first that
bridges, in the order in which their pairs of types were first registered. -/
theorem Fresh.conversion_reaches (fresh : registry.Fresh)
    (calls : List Registration)
    (hierarchical : (registry.after calls).Hierarchical)
    (known : (registry.after calls).findType? source.name = some source)
    (target : RegisteredType) :
    let reached := registry.after calls
    (∃ answer, reached.isSubtype source.toTypeInfo target.toTypeInfo = .ok answer ∧
      (answer = true ↔ reached.Below source.name target.name)) ∧
    Kept (conversionsOf (accepted registry calls)) reached.conversions ∧
    ∀ element converted context,
      let expr := Expr.computed element source.toTypeInfo converted
      ∃ result, expr.convert reached reached.read target context = .ok result ∧
        (result.isSome = true ↔ reached.Below source.name target.name ∨
          ∃ conversion ∈ reached.conversions,
            conversion.Bridges reached source.name target.name) ∧
        (¬ reached.Below source.name target.name → ∃ taken,
          reached.Takes source.name target.name taken ∧
            result = taken.bind fun conversion =>
              expr.applyConverter conversion.convert target.toTypeInfo) := by
  intro reached
  have connected : ∀ conversion ∈ reached.conversions,
      reached.Connects conversion :=
    (fresh.built.after calls).connects
  refine ⟨isSubtype_answers hierarchical known _, fresh.kept calls, ?_⟩
  intro element converted context expr
  obtain ⟨result, answered, succeeds, takes⟩ :=
    Expr.convert_computed_answers hierarchical connected known
  refine ⟨result, answered, ?_, takes⟩
  by_cases below : reached.Below source.name target.name
  · simp [succeeds below, below]
  · obtain ⟨taken, isTaken, rfl⟩ := takes below
    rw [or_iff_right below, ← isTaken.isSome_iff]
    cases taken <;> rfl

end Registry

/-- A type of anything that declares these supertypes. -/
def RegisteredType.under (name : Text) (supertypes : List Text) : RegisteredType :=
  ⟨{ TypeInfo.named name .anything with supertypes := supertypes }, .none, none⟩

namespace Registry

/-- A cat is an animal in two ways.  That of animals to integers was registered
anew behind that of pets to numbers, and keeps its place. -/
def breeding : List Registration :=
  [.type (.under "animal" []), .type (.under "pet" ["animal"]),
    .type (.under "hunter" ["animal"]), .type (.under "cat" ["pet", "hunter"]),
    .converter ⟨"hunter", "string", "str", Converter.plainText⟩,
    .converter ⟨"animal", "integer", "length", Converter.length⟩,
    .converter ⟨"pet", "number", "positive", Converter.positive⟩,
    .converter ⟨"animal", "integer", "negate", Converter.negate⟩]

/-- No cat is a number.  As one it counts by the conversion of animals that was
registered last. -/
theorem reaches_of_breeding :
    let reached := builtins.after breeding
    let cat : RegisteredType := .under "cat" ["pet", "hunter"]
    reached.Hierarchical ∧ reached.findType? cat.name = some cat ∧
      ¬ reached.Below cat.name RegisteredType.number.name ∧
      ∃ taken converted,
        reached.Takes cat.name RegisteredType.number.name (some taken) ∧
        (Expr.five.withType cat.toTypeInfo).applyConverter taken.convert
          RegisteredType.number.toTypeInfo = some converted ∧
        (Expr.five.withType cat.toTypeInfo).convert reached reached.read
          .number .script =
          .ok (some converted) ∧
        converted.values .empty = [.datum (.int (-5))] := by
  intro reached cat
  have hierarchical : reached.Hierarchical :=
    hierarchical_of_earlier (by decide +kernel)
  have known : reached.findType? cat.name = some cat := rfl
  obtain ⟨⟨answer, answered, means⟩, _, converts⟩ :=
    Fresh.conversion_reaches (.builtins withBuiltins_eq) breeding hierarchical
      known .number
  have notBelow : ¬ reached.Below cat.name RegisteredType.number.name := by
    cases answered
    exact mt means.mpr Bool.false_ne_true
  obtain ⟨result, given, _, takes⟩ := converts _ none .script
  obtain ⟨taken, isTaken, same⟩ := takes notBelow
  obtain ⟨converted, computed, values⟩ : ∃ converted,
      (Expr.five.withType cat.toTypeInfo).convert reached reached.read
        .number .script =
        .ok (some converted) ∧
      converted.values .empty = [.datum (.int (-5))] := ⟨_, rfl, rfl⟩
  obtain rfl : result = some converted := Except.ok.inj (given.symm.trans computed)
  cases taken with
  | none => cases same
  | some taken =>
      exact ⟨hierarchical, known, notBelow, taken, converted, isTaken,
        same.symm, computed, values⟩

end Registry

end Phrasebook
