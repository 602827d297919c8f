import Phrasebook.Proofs.Boundary.Braces
import Phrasebook.Proofs.LiteralOnly

/-!
# One value for a single placeholder

Whether an expression may be bound to a single placeholder is decided by its
shape, before there is a world in which it has values.  A literal and a text of
unknown type keep what this promises in every world, and a computed expression
does if its element keeps to what it says of itself.  A variable is taken at its
name, and it may turn out to hold a list.
-/

namespace Phrasebook

/-- If the element says that it computes a single value, then in the world it
never computes several, whatever time state it is bound to. -/
def Element.Singly (world : World) (element : Element) : Prop :=
  element.single = true → ∀ time, (element.getAt time world).length ≤ 1

theorem Datum.length_items {datum : Datum} (noList : ∀ items, datum ≠ .list items) :
    datum.items.length = 1 := by
  cases datum with
  | list items => exact absurd rfl (noList items)
  | _ => rfl

/-- All elements that the providers of registered expressions build keep to what
they say. -/
def Registry.AnswersSingly (registry : Registry) (world : World) : Prop :=
  ∀ descriptor ∈ registry.expressions, ∀ index result element,
    (descriptor.init index result).element = some element → element.Singly world

namespace Expr

/-- The element that computes the expression keeps to what it says, and so do
the values that a converter has made of its own. -/
def Singly (world : World) : Expr → Prop
  | .computed element _ converted => element.Singly world ∧
      ∀ values ∈ converted, element.single = true →
      ∀ time, (values time world).length ≤ 1
  | .literal _ _ _ | .unparsed _ | .variable _ _ => True

theorem IsLiteral.singly {expr : Expr} (isLiteral : expr.IsLiteral)
    (world : World) :
    expr.Singly world := by
  cases expr with
  | literal values type andList => trivial
  | unparsed text => trivial
  | «variable» name type => cases isLiteral
  | computed element type converted => cases isLiteral

/-- A literal that may be bound to a single placeholder has one value. -/
theorem IsLiteral.one_value {expr : Expr} (isLiteral : expr.IsLiteral)
    (single : expr.isUnparsed = true ∨ expr.isSingle = true) (world : World) :
    ∃ value, expr.values world = [value] := by
  cases expr with
  | literal values type andList =>
      rcases single with unparsed | single
      · cases unparsed
      · exact List.length_eq_one_iff.mp (beq_iff_eq.mp single)
  | unparsed text => exact ⟨_, rfl⟩
  | «variable» name type => cases isLiteral
  | computed element type converted => cases isLiteral

variable {registry : Registry} {world : World} {expr converted : Expr}

theorem Singly.withType (singly : expr.Singly world) (type : TypeInfo) :
    (expr.withType type).Singly world := by
  cases expr <;> exact singly

theorem Singly.applyConverter {convert : Converter} {type : TypeInfo}
    (singly : expr.Singly world)
    (success : expr.applyConverter convert type = some converted) :
    converted.Singly world := by
  cases expr with
  | literal values own andList =>
      obtain ⟨results, _, rfl⟩ := Option.map_eq_some_iff.mp success
      trivial
  | unparsed text =>
      cases success
      trivial
  | «variable» name own =>
      cases success
      trivial
  | computed element own earlier =>
      cases success
      refine ⟨singly.1, ?_⟩
      intro values isConverted single time
      cases isConverted
      exact Nat.le_trans (List.length_filterMap_le _ _) (singly.1 single time)

theorem Singly.adapt {type : TypeInfo} (singly : expr.Singly world)
    (success : expr.adapt registry type = .ok (some converted)) :
    converted.Singly world := by
  obtain ⟨isSubtype, _, success⟩ := except_bind_ok success
  split at success
  · cases success
    exact singly.withType type
  · obtain ⟨conversion, _, success⟩ := except_bind_ok success
    cases conversion with
    | none => cases success
    | some conversion => exact singly.applyConverter (Except.ok.inj success)

theorem Singly.convert_computed {read : LiteralReading} {target : RegisteredType}
    {context : ParseContext} {element : Element} {own : TypeInfo}
    (singly : element.Singly world)
    (success : (Expr.computed element own none).convert registry read
      target context =
      .ok (some converted)) : converted.Singly world := by
  have unconverted : (Expr.computed element own none).Singly world :=
    ⟨singly, by simp⟩
  rw [convert] at success
  split at success
  · cases success
    exact unconverted
  · exact unconverted.adapt success

theorem Singly.setTime {time : Int} (singly : expr.Singly world)
    (success : expr.setTime time = some converted) : converted.Singly world := by
  obtain rfl | ⟨element, type, earlier, rfl, rfl⟩ := setTime_cases success
  · exact singly
  · exact singly

theorem single_of_setTime {time : Int}
    (success : expr.setTime time = some converted)
    (single : expr.isUnparsed = true ∨ expr.isSingle = true) :
    converted.isUnparsed = true ∨ converted.isSingle = true := by
  obtain rfl | ⟨element, type, earlier, rfl, rfl⟩ := setTime_cases success
  · exact single
  · exact single

/-- Reading a variable as one of a type only leaves values out. -/
theorem length_values_variable {name : Text} (type : TypeInfo)
    (noList : ∀ items, world.variableValue? name ≠ some (.list items)) :
    ((Expr.variable name type).values world).length ≤ 1 := by
  have few :
      (((world.variableValue? name).map Datum.items).getD []).length ≤ 1 := by
    cases stored : world.variableValue? name with
    | none => exact Nat.zero_le 1
    | some datum =>
        refine Nat.le_of_eq (Datum.length_items ?_)
        rintro items rfl
        exact noList items stored
  rw [Expr.values, List.length_map]
  by_cases universal : type.isUniversal = true
  · simpa only [universal, if_true] using few
  · simp only [universal, Bool.false_eq_true, if_false]
    exact Nat.le_trans (List.length_filter_le _ _) few

/-- An expression that may be bound to a single placeholder has at most one
value, unless it is a variable that holds a list. -/
theorem Singly.values_le_one (singly : expr.Singly world)
    (single : expr.isUnparsed = true ∨ expr.isSingle = true) :
    (expr.values world).length ≤ 1 ∨ ∃ name type items, expr = .variable name type ∧
      ("::*" : Text).isSuffixOf name = false ∧ world.variableValue? name = some
      (.list items) := by
  cases expr with
  | literal values type andList =>
      left
      have isLiteral : (Expr.literal values type andList).IsLiteral := trivial
      obtain ⟨value, one⟩ := isLiteral.one_value single world
      simp [one]
  | unparsed text => exact .inl (Nat.le_refl 1)
  | computed element type converted =>
      left
      rcases single with unparsed | single
      · cases unparsed
      refine Nat.le_trans (List.length_filter_le _ _) ?_
      cases converted with
      | none => exact singly.1 single element.time
      | some values => exact singly.2 values rfl single element.time
  | «variable» name type =>
      have plain : ("::*" : Text).isSuffixOf name = false := by
        rcases single with unparsed | single
        · cases unparsed
        · simpa [isSingle] using single
      by_cases holdsList : ∃ items, world.variableValue? name = some (.list items)
      · obtain ⟨items, stored⟩ := holdsList
        exact .inr ⟨name, type, items, rfl, plain, stored⟩
      · exact .inl (length_values_variable type fun items stored =>
          holdsList ⟨items, stored⟩)

end Expr

/-! ## What texts resolve to -/

section Resolving

open Searching.Yielding (Ensures)

variable {m : Type → Type} [Searching m] (asking : Searching.Asking m)
  {world : World}

private theorem consult_ensures (descriptor : Descriptor) (index : Nat)
    (result : MatchResult) :
    asking.Ensures
      (fun found => ∀ accepted ∈ found,
        (descriptor.init index result).element = some accepted.element)
      (Matcher.consult descriptor index result) := by
  apply Ensures.bind_self
  intro verdict yields
  have built := asking.of_ask yields
  cases isElement : verdict.element with
  | some element =>
      apply Ensures.bind_self
      intro _ _
      apply Ensures.pure
      intro accepted same
      cases same
      exact built.symm.trans isElement
  | none =>
      dsimp only
      split
      · exact Ensures.bind_self fun _ _ => Ensures.pure (by simp)
      · exact Ensures.pure (by simp)

private theorem trySource_ensures (matcher : Matcher m) (fill : Bool) (text : Text)
    (source : List Descriptor) :
    asking.Ensures
      (fun found => ∀ accepted ∈ found, ∃ descriptor ∈ source, ∃ index result,
        (descriptor.init index result).element = some accepted.element)
      (matcher.trySource fill text source) := by
  apply Ensures.firstSome
  intro descriptor member
  apply Ensures.firstSome
  intro pattern _
  apply Ensures.bind_self
  intro found _
  cases found with
  | none => exact Ensures.pure (by simp)
  | some result =>
      apply Ensures.bind_self
      intro filled _
      apply (consult_ensures asking descriptor pattern.2 filled).mono
      intro found built accepted isFound
      exact ⟨descriptor, member, pattern.2, filled, built accepted isFound⟩

private theorem parseNested_singly {registry : Registry}
    (honest : registry.AnswersSingly world) (minErrorChars : Int)
    (text : Text) :
    asking.Ensures (fun found => ∀ computed ∈ found, computed.element.Singly world)
      (registry.parseNested minErrorChars text) := by
  apply Ensures.bind_self
  intro found yields
  apply Ensures.pure
  intro computed same
  obtain ⟨accepted, rfl, rfl⟩ := Option.map_eq_some_iff.mp same
  obtain ⟨descriptor, member, index, result, built⟩ :=
    (trySource_ensures asking _ true text registry.expressions).holds _
      (asking.of_nested yields)
      accepted rfl
  exact honest descriptor member index result accepted.element built

private theorem Resolver.resolve_singly (resolver : Resolver m)
    (nested : ∀ text,
      asking.Ensures (fun found => ∀ computed ∈ found,
        computed.element.Singly world)
      (resolver.parseNested text)) (type : RegisteredType) (text : Text) :
    asking.Ensures (fun found => ∀ expr ∈ found, expr.Singly world)
      (resolver.resolve type text) := by
  have literals : asking.Ensures (fun found => ∀ expr ∈ found, expr.Singly world)
      (resolver.resolveLiteral type text) :=
    (resolver.resolveLiteral_isLiteral asking.toYielding type text).mono
      fun _ literal expr isFound => (literal expr isFound).singly world
  unfold Resolver.resolve
  split
  · exact literals
  split
  · rename_i reference isVariable
    apply Ensures.pure
    intro expr same
    cases same
    obtain ⟨_, name, _, _, rfl⟩ := Expr.readVariable_some isVariable
    trivial
  apply Ensures.bind (nested text)
  intro found singly
  cases found with
  | none => exact literals
  | some computed =>
      apply Ensures.bind (Ensures.lift fun _ => id)
      intro own _
      apply Ensures.bind (Ensures.lift fun _ => id)
      intro converted success
      cases converted with
      | none => exact Ensures.bind_self fun _ _ => Ensures.pure (by simp)
      | some expr =>
          apply Ensures.pure
          intro other same
          cases same
          exact Expr.Singly.convert_computed (singly computed rfl) success

private theorem Attempt.resolve_singly (attempt : Attempt)
    (honest : attempt.registry.AnswersSingly world) (type : RegisteredType)
    (text : Text) :
    asking.Ensures (fun found => ∀ expr ∈ found, expr.Singly world)
      ((attempt.matcherIn m).resolve type text) :=
  Resolver.resolve_singly asking
    ⟨attempt.registry, attempt.context, attempt.literalOnly,
      attempt.registry.parseNested attempt.minErrorChars, attempt.registry.read⟩
    (parseNested_singly asking honest attempt.minErrorChars) type text

end Resolving

/-- How many values there are is sound at run time as far as the shape of an
expression decides it.  In every world in which the elements of registered
expressions keep to what they say of themselves, whatever a match has bound by a
single placeholder has at most one value, unless it is a variable that holds a
list under a name which is not one for lists. -/
theorem Attempt.run_keepsArity {m : Type → Type} [Searching m]
    (asking : Searching.Asking m) (attempt : Attempt) {world : World}
    (honest : attempt.registry.AnswersSingly world) {pattern text : Text}
    {result : MatchResult}
    (yields : asking.Yields ((attempt.matcherIn m).run pattern text)
      (some result)) :
    ∃ pieces,
      Account asking.toYielding (attempt.matcherIn m) pattern text result pieces ∧
      ∀ part taken expr, .bound part taken expr ∈ pieces → ∃ name placeholder,
        part.written = '%' :: (name ++ ['%']) ∧
        (Pattern.Sheltered pattern →
          (Pattern.placeholders pattern)[part.slot]? = some name) ∧
        Placeholder.read attempt.registry.normalize name = .ok placeholder ∧
        (placeholder.plural = false →
          (expr.values world).length ≤ 1 ∨ ∃ name type items,
            expr = .variable name type ∧
            ("::*" : Text).isSuffixOf name = false ∧
            world.variableValue? name = some (.list items)) := by
  obtain ⟨pieces, covers, seated⟩ := Matcher.run_seated yields
  refine ⟨pieces, covers.account, ?_⟩
  intro part taken expr member
  obtain ⟨name, placeholder, type, found, written, listed, read, _, resolved,
      fits, timed⟩ :=
    seated _ member
  refine ⟨name, placeholder, written, listed, read, ?_⟩
  intro singular
  have singly : found.Singly world :=
    (attempt.resolve_singly asking honest type taken).holds _ resolved found rfl
  exact (singly.setTime timed).values_le_one
    (Expr.single_of_setTime timed (fits singular))

/-- An expression for numbers, which says how many they are. -/
def Descriptor.scores (pattern : Text) (values : List Value) : Descriptor :=
  let recording : Recording := { Recording.plain ⟨"Scores", 0⟩ with
    single := values.length == 1, values := values }
  { recording.descriptor [pattern] [] with role := .expression "number" }

def Registry.scoring : Registry :=
  { builtins with
    syntaxes := [(conditionKind, []), (effectKind, []),
      (expressionKind, [.scores "the score" [.datum (.int 3)],
        .scores "the scores" [.datum (.int 3), .datum (.int 4)]]),
      (eventKind, [])] }

private theorem Registry.scoring_answersSingly (world : World) :
    Registry.scoring.AnswersSingly world := by
  intro descriptor member index result element built single time
  have listed : descriptor ∈ [Descriptor.scores "the score" [.datum (.int 3)],
    Descriptor.scores "the scores" [.datum (.int 3), .datum (.int 4)]] := member
  simp only [List.mem_cons, List.not_mem_nil, or_false] at listed
  rcases listed with rfl | rfl
  · cases built
    exact Nat.le_refl 1
  · cases built
    cases single

theorem Attempt.keepsArity_of_scoring :
    let attempt : Attempt := ⟨.scoring, .script, false, 5⟩
    ∃ result pieces,
      attempt.registry.AnswersSingly .empty ∧
      (attempt.tracked.run "%number%" "the score" ⟨.empty, .empty⟩).1 =
        .ok (some result) ∧
      Account Tracked.yielding attempt.tracked "%number%" "the score"
        result pieces ∧
      result.exprs.map (·.map (Expr.values .empty)) = [some [.datum (.int 3)]] := by
  intro attempt
  obtain ⟨result, answered, values⟩ : ∃ result,
      (attempt.tracked.run "%number%" "the score" ⟨.empty, .empty⟩).1 =
        .ok (some result) ∧
        result.exprs.map (·.map (Expr.values .empty)) = [some [.datum (.int 3)]] :=
    ⟨_, rfl, rfl⟩
  have honest : attempt.registry.AnswersSingly .empty :=
    Registry.scoring_answersSingly .empty
  obtain ⟨pieces, account, _⟩ :=
    attempt.run_keepsArity Tracked.asking honest (Tracked.yields_of_answer answered)
  exact ⟨result, pieces, honest, answered, account, values⟩

/-- A variable with the name of a single value is bound where one value is
wanted, and it holds two. -/
theorem Attempt.variable_of_list :
    let attempt : Attempt := ⟨.builtins, .script, false, 5⟩
    let world : World :=
      { World.empty with bindings := [("x", .list [.int 1, .int 2])] }
    ∃ result expr,
      attempt.registry.AnswersSingly world ∧
      (attempt.tracked.run "%integer%" "\x7bx\x7d" ⟨.empty, .empty⟩).1 =
        .ok (some result) ∧
      result.exprs = [some expr] ∧
      Placeholder.read attempt.registry.normalize "integer" =
        .ok ⟨"integer", false, 0, false⟩ ∧
      (expr.values world).length = 2 := by
  intro attempt world
  have honest : attempt.registry.AnswersSingly world := by
    intro descriptor member
    cases member
  exact ⟨_, _, honest, rfl, rfl, rfl, rfl⟩

end Phrasebook
