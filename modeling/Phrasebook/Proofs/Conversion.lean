import Mathlib.Data.List.Basic
import Phrasebook.Builtin
import Phrasebook.Candidate
import Phrasebook.Conversion
import Phrasebook.Proofs.Registration
import Phrasebook.Provider.Converters
import Phrasebook.Provider.Recording

/-!
# Conversions one after the other

A literal is converted at once, a computed expression whenever it is evaluated.
Both may be converted again.  A second converter works on what the first one has
made of the values of a literal; with a computed expression it takes the place
of the first one and works on the element's own values.
-/

namespace Phrasebook

theorem mapM_some_filterMap {α β : Type} {step : α → Option β} {items : List α}
    {results : List β} (success : items.mapM step = some results) :
    items.filterMap step = results := by
  induction items generalizing results with
  | nil =>
      cases success
      rfl
  | cons item items induction =>
      rw [List.mapM_cons] at success
      obtain ⟨result, found, success⟩ := Option.bind_eq_some_iff.mp success
      obtain ⟨others, foundLater, success⟩ := Option.bind_eq_some_iff.mp success
      cases success
      rw [List.filterMap_cons_some found, induction foundLater]

namespace Expr

/-- The expression takes the type by way of the registered converter. -/
def ConvertsBy (registry : Registry) (target : RegisteredType)
    (conversion : Conversion) :
    Expr → Prop
  | .unparsed _ | .variable _ _ => False
  | expr => target.isUniversal = false ∧
      registry.isSubtype expr.type target.toTypeInfo = .ok false ∧
      registry.conversion? expr.type target.toTypeInfo = .ok (some conversion)

/-- The values of the second expression are the results of the converter for
those of the first one. -/
def ResultsOf (convert : Converter) (world : World) (first second : Expr) : Prop :=
  second.values world = (first.values world).filterMap (convert.result? world)

variable {registry : Registry} {read : LiteralReading} {expr first second : Expr}
  {between target : RegisteredType} {context later : ParseContext}
  {conversion : Conversion} {world : World}

theorem convert_of_convertsBy
    (byConverter : expr.ConvertsBy registry target conversion) :
    expr.convert registry read target context =
      .ok (expr.applyConverter conversion.convert target.toTypeInfo) := by
  cases expr with
  | unparsed text => cases byConverter
  | «variable» name type => cases byConverter
  | literal values type andList =>
      obtain ⟨narrow, apart, registered⟩ := byConverter
      simp only [Expr.convert, narrow, adapt, apart, registered]
      rfl
  | computed element type converted =>
      obtain ⟨narrow, apart, registered⟩ := byConverter
      simp only [Expr.convert, narrow, adapt, apart, registered]
      rfl

/-! ## The element stays -/

private theorem element_withType (type : TypeInfo) (expr : Expr) :
    (expr.withType type).element? = expr.element? := by
  cases expr <;> rfl

private theorem element_applyConverter {convert : Converter} {type : TypeInfo}
    (success : expr.applyConverter convert type = some first) :
    first.element? = expr.element? := by
  cases expr with
  | unparsed text | «variable» name own | computed element own converted =>
      cases success
      rfl
  | literal values own andList =>
      obtain ⟨results, _, rfl⟩ := Option.map_eq_some_iff.mp success
      rfl

private theorem element_adapt {type : TypeInfo}
    (success : expr.adapt registry type = .ok (some first)) :
    first.element? = expr.element? := by
  obtain ⟨isSubtype, _, success⟩ := except_bind_ok success
  split at success
  · cases success
    exact element_withType type expr
  · obtain ⟨conversion, _, success⟩ := except_bind_ok success
    cases conversion with
    | none => cases success
    | some conversion => exact element_applyConverter (Except.ok.inj success)

private theorem element_convertText {text : Text}
    (success : convertText read target context text = .ok (some first)) :
    first.element? = none := by
  unfold convertText at success
  split at success
  · cases success
    rfl
  · obtain ⟨value, _, success⟩ := except_bind_ok success
    cases value with
    | some value =>
        cases success
        rfl
    | none =>
        simp only at success
        split at success
        · cases success
        · obtain ⟨values, _, success⟩ := except_bind_ok success
          obtain ⟨values, _, rfl⟩ :=
            Option.map_eq_some_iff.mp (Except.ok.inj success)
          rfl

theorem element_convert
    (success : expr.convert registry read between context = .ok (some first)) :
    first.element? = expr.element? := by
  cases expr with
  | unparsed text => exact element_convertText success
  | «variable» name own =>
      simp only [Expr.convert] at success
      split at success <;> cases success <;> rfl
  | literal values own andList | computed element own converted =>
      simp only [Expr.convert] at success
      split at success
      · cases success
        rfl
      · exact element_adapt success

/-! ## What the last converter works on -/

/-- With a computed expression the converter works on what the element computes,
nothing at all included. -/
theorem values_of_computed {element : Element} {convert : Converter}
    {type : TypeInfo} (isComputed : first.element? = some element)
    (success : first.applyConverter convert type = some second) :
    second.values world =
      (element.get world).filterMap (convert.result? world) := by
  cases first with
  | unparsed text | «variable» name own | literal values own andList =>
      cases isComputed
  | computed element own converted =>
      cases isComputed
      cases success
      apply List.filter_eq_self.mpr
      intro result member
      obtain ⟨value, _, found⟩ := List.mem_filterMap.mp member
      exact (Option.filter_eq_some_iff.mp found).2

private theorem values_of_literal (notComputed : first.element? = none)
    (byConverter : first.ConvertsBy registry target conversion) {type : TypeInfo}
    (success : first.applyConverter conversion.convert type = some second)
    (steady : ∀ value ∈ first.literalValues,
      conversion.convert.result? world value =
        conversion.convert.result? World.empty value) :
    first.ResultsOf conversion.convert world second := by
  cases first with
  | unparsed text | «variable» name own => cases byConverter
  | computed element own converted => cases notComputed
  | literal values own andList =>
      obtain ⟨results, found, rfl⟩ := Option.map_eq_some_iff.mp success
      calc
        results = values.filterMap (conversion.convert.result? World.empty) :=
          (mapM_some_filterMap found).symm
        _ = values.filterMap (conversion.convert.result? world) :=
          List.filterMap_congr fun value member => (steady value member).symm

/-- Values that a computed expression leaves out make no difference if they have
no results. -/
theorem resultsOf_of_unconverted {element : Element} {convert : Converter}
    (isComputed : first.element? = some element)
    (unconverted : first.isConverted = false)
    (absent : ∀ value ∈ element.get world, value.isNull = true →
      convert.result? world value = none) :
    (first.values world).filterMap (convert.result? world) =
      (element.get world).filterMap (convert.result? world) := by
  cases first with
  | unparsed text | «variable» name own | literal values own andList =>
      cases isComputed
  | computed element own converted =>
      cases isComputed
      cases converted with
      | some earlier => cases unconverted
      | none =>
          change ((element.get world).filter fun value =>
            !value.isNull).filterMap _ = _
          rw [List.filterMap_filter]
          apply List.filterMap_congr
          intro value member
          cases isNull : value.isNull with
          | false => rfl
          | true => exact (absent value member isNull).symm

/-- Conversions of literals and texts compose.  The last converter of a computed
expression works on what the element computes, so its conversions compose as
long as no converter has been stored before and what is nothing at all has no
result. -/
theorem convert_composes
    (toFirst : expr.convert registry read between context = .ok (some first))
    (toSecond : first.convert registry read target later = .ok (some second))
    (byConverter : first.ConvertsBy registry target conversion)
    (steady : ∀ value ∈ first.literalValues,
      conversion.convert.result? world value =
        conversion.convert.result? World.empty value) :
    (expr.element? = none → first.ResultsOf conversion.convert world second) ∧
      ∀ element, expr.element? = some element →
        second.values world =
            (element.get world).filterMap (conversion.convert.result? world) ∧
          (first.isConverted = false →
            (∀ value ∈ element.get world, value.isNull = true →
              conversion.convert.result? world value = none) →
            first.ResultsOf conversion.convert world second) := by
  have kept := element_convert toFirst
  rw [convert_of_convertsBy byConverter] at toSecond
  have success := Except.ok.inj toSecond
  constructor
  · intro notComputed
    exact values_of_literal (kept.trans notComputed) byConverter success steady
  · intro element isComputed
    have last : second.values world = _ :=
      values_of_computed (kept.trans isComputed) success
    refine ⟨last, ?_⟩
    intro unconverted absent
    exact last.trans
      (resultsOf_of_unconverted (kept.trans isComputed) unconverted absent).symm

def five : Expr :=
  let recording : Recording :=
    { Recording.plain ⟨"Five", 0⟩ with values := [.datum (.int 5)] }
  .computed (recording.element 0 (.unbound [] 0 0))
    RegisteredType.integer.toTypeInfo none

end Expr

/-- The type of what is owed, which has no literals. -/
def RegisteredType.debt : RegisteredType :=
  ⟨.named "debt" .anything, .none, none⟩

/-- A registry in which an integer leads to the debt of so much, and any debt or
number to its text. -/
def Registry.lending : Registry :=
  { Registry.empty with
    types := [.number, .integer, .string, .debt]
    conversions :=
      [⟨"integer", "debt", "negate", Converter.negate⟩,
        ⟨"debt", "string", "str", Converter.plainText⟩,
        ⟨"number", "string", "str", Converter.plainText⟩] }

namespace Expr

/-- As a number, which it is, the expression is converted once. -/
theorem five_composes :
    ∃ first second, five.convert .lending Registry.lending.read .number .script =
        .ok (some first) ∧
      first.convert .lending Registry.lending.read .string .script =
        .ok (some second) ∧
      first.ResultsOf Converter.plainText .empty second ∧
      second.values .empty = [.datum (.text "5")] := by
  let first := five.withType RegisteredType.number.toTypeInfo
  have toFirst : five.convert .lending Registry.lending.read .number .script =
      .ok (some first) := rfl
  have byConverter : first.ConvertsBy .lending .string
      ⟨"number", "string", "str", Converter.plainText⟩ :=
    And.intro rfl (And.intro rfl rfl)
  have toSecond : first.convert .lending Registry.lending.read .string .script =
      .ok (first.applyConverter Converter.plainText
        RegisteredType.string.toTypeInfo) := rfl
  refine ⟨first, _, toFirst, toSecond, ?_, rfl⟩
  refine ((convert_composes toFirst toSecond byConverter ?_).2 _ rfl).2 rfl ?_
  · intro value member
    cases member
  · intro value member isNull
    obtain rfl := List.mem_singleton.mp member
    cases isNull

/-- As a debt it is converted twice, and the text does not show what is owed. -/
theorem five_forgets_debt :
    ∃ first second, five.convert .lending Registry.lending.read .debt .script =
        .ok (some first) ∧
      first.convert .lending Registry.lending.read .string .script =
        .ok (some second) ∧
      first.values .empty = [.datum (.int (-5))] ∧
      second.values .empty = [.datum (.text "5")] ∧
      ¬ first.ResultsOf Converter.plainText .empty second := by
  refine ⟨_, _, rfl, rfl, rfl, rfl, ?_⟩
  intro same
  cases same

end Expr

end Phrasebook
