import Phrasebook.Proofs.Binding.Asking
import Phrasebook.Proofs.Call
import Phrasebook.Proofs.Coverage.Walk
import Phrasebook.Provider.Converters

/-!
# Literals alone

An attempt that allows literals only looks at the types of its registry and at
nothing else of it.  Whatever expressions, conditions, effects, events and
converters there are besides, it finds the same matches and the same errors, and
no variable and no computed value gets into what it binds.  The header of a
trigger is parsed in this way.
-/

namespace Phrasebook

/-! ## Registries with the same types -/

namespace Registry

/-- The registries have the same types, their literals are read alike, and so
are the regular expressions of their patterns. -/
structure SameTypes (registry other : Registry) : Prop where
  types : registry.types = other.types
  plurals : registry.plurals = other.plurals
  regexes : registry.regexes = other.regexes
  literals : ∀ type ∈ registry.types, registry.read type = other.read type

section Types

variable {registry other : Registry} (types : registry.types = other.types)
include types

theorem findType?_of_types (name : Text) :
    registry.findType? name = other.findType? name := by
  unfold findType?
  rw [types]

theorem getType_of_types : registry.getType = other.getType := by
  funext name
  unfold getType
  rw [findType?_of_types types]

private theorem default?_of_types (name : Text) :
    registry.default? name = other.default? name := by
  unfold default?
  rw [findType?_of_types types]

private theorem bindDefault_of_types (placeholder : Placeholder) :
    registry.bindDefault placeholder = other.bindDefault placeholder := by
  unfold bindDefault
  rw [default?_of_types types, getType_of_types types]

variable (plurals : registry.plurals = other.plurals)
include plurals

theorem normalize_of_types : registry.normalize = other.normalize := by
  funext written
  unfold normalize
  rw [findType?_of_types types, plurals]

theorem fillSlots_of_types (written : List Text) (exprs : List (Option Expr)) :
    registry.fillSlots written exprs = other.fillSlots written exprs := by
  induction written generalizing exprs with
  | nil => cases exprs <;> rfl
  | cons name written induction =>
      rcases exprs with _ | ⟨expr | expr, exprs⟩
      · rfl
      · simp only [fillSlots, induction, normalize_of_types types plurals,
          bindDefault_of_types types]
      · simp only [fillSlots, induction]

end Types

end Registry

/-! ## Matching alike -/

variable {m : Type → Type} [Searching m]

theorem Resolver.resolve_of_literals {registry other : Registry}
    {context : ParseContext}
    {nested otherNested : Text → m (Option ComputedElement)}
    {read otherRead : LiteralReading} {type : RegisteredType}
    (literals : read type = otherRead type) (text : Text) :
    Resolver.resolve ⟨registry, context, true, nested, read⟩ type text =
      Resolver.resolve ⟨other, context, true, otherNested, otherRead⟩
        type text := by
  have convert : Expr.convertText read type context =
      Expr.convertText otherRead type context := by
    funext text
    unfold Expr.convertText
    rw [literals]
  simp only [Resolver.resolve, if_true, Resolver.resolveLiteral,
    Resolver.literal?, Expr.convert, convert]

/-- What is tried at a cut depends on the matcher only as far as these parts go. -/
theorem Matcher.tryCut_of_resolve {left right : Matcher m}
    {type : RegisteredType} {cut : Cut}
    {remainder otherRemainder : Cut → m (Option MatchResult)}
    (context : left.context = right.context)
    (minErrorChars : left.minErrorChars = right.minErrorChars)
    (resolve : left.resolve type cut.taken = right.resolve type cut.taken)
    (remains : remainder cut = otherRemainder cut) (slot : Nat)
    (placeholder : Placeholder) (matched : Nat) :
    left.tryCut slot placeholder type matched remainder cut =
      right.tryCut slot placeholder type matched otherRemainder cut := by
  unfold Matcher.tryCut Matcher.fit Matcher.complain
  rw [context, minErrorChars, resolve, remains]

/-- A kind of searches in which nothing comes after a setup error. -/
def Searching.Stops (m : Type → Type) [Searching m] : Prop :=
  ∀ {α β : Type} (error : SetupError) (next : α → m β),
    (Searching.fail error : m α) >>= next = Searching.fail error

theorem Search.stops : Searching.Stops Search :=
  fun _ _ => rfl

theorem Tracked.stops : Searching.Stops Tracked :=
  fun _ _ => rfl

/-- Matchers that know the same types and resolve texts to them alike concur. -/
theorem Matcher.concur_of_types [LawfulMonad m] (stops : Searching.Stops m)
    {left right : Matcher m}
    (types : left.registry.types = right.registry.types)
    (plurals : left.registry.plurals = right.registry.plurals)
    (regexes : left.registry.regexes = right.registry.regexes)
    (context : left.context = right.context)
    (minErrorChars : left.minErrorChars = right.minErrorChars)
    (resolve : ∀ type ∈ left.registry.types, left.resolve type =
      right.resolve type) :
    Matcher.Concur (Searching.Selection.identity m).toSimulation left right where
  normalize := Registry.normalize_of_types types plurals
  regexes := regexes
  tryCuts := by
    intro slot placeholder matched cuts remainder otherRemainder same
    obtain rfl : remainder = otherRemainder := funext same
    change left.tryCuts slot placeholder matched cuts remainder =
      right.tryCuts slot placeholder matched cuts remainder
    unfold Matcher.tryCuts
    rw [← Registry.getType_of_types types]
    cases known : left.registry.getType placeholder.name with
    | error error => exact (stops error _).trans (stops error _).symm
    | ok type =>
        have tried : left.tryCut slot placeholder type matched remainder =
            right.tryCut slot placeholder type matched remainder := by
          funext cut
          have resolves := resolve type (Registry.mem_of_getType known)
          exact Matcher.tryCut_of_resolve context minErrorChars
            (congrFun resolves cut.taken) rfl
            slot placeholder matched
        simp only [Searching.lift, pure_bind, tried]

theorem Attempt.concur_of_types [LawfulMonad m] (stops : Searching.Stops m)
    {registry other : Registry} (types : registry.types = other.types)
    (plurals : registry.plurals = other.plurals)
    (regexes : registry.regexes = other.regexes) {read otherRead : LiteralReading}
    (literals : ∀ type ∈ registry.types, read type = otherRead type)
    (context : ParseContext) (minErrorChars : Int)
    (nested otherNested : Text → m (Option ComputedElement)) :
    Matcher.Concur (Searching.Selection.identity m).toSimulation
      (Attempt.matcher ⟨registry, context, true, minErrorChars⟩ nested read)
      (Attempt.matcher ⟨other, context, true, minErrorChars⟩ otherNested
        otherRead) := by
  refine Matcher.concur_of_types stops types plurals regexes rfl rfl ?_
  intro type member
  funext text
  exact Resolver.resolve_of_literals (literals type member) text

omit [Searching m] in
private theorem Matcher.complete_of_types {left right : Matcher m}
    (types : left.registry.types = right.registry.types)
    (plurals : left.registry.plurals = right.registry.plurals) :
    left.complete = right.complete := by
  funext fill pattern result
  simp only [Matcher.complete, Registry.fillDefaults,
    Registry.fillSlots_of_types types plurals]

namespace Registry

section Literals

variable {registry other : Registry} (types : registry.types = other.types)
  (plurals : registry.plurals = other.plurals)
  (regexes : registry.regexes = other.regexes)
  (kinds : ∀ type ∈ registry.types, ∀ kind, type.reader = .syntaxes kind →
    registry.syntaxesOf kind = other.syntaxesOf kind)

include types plurals regexes kinds

private theorem readWithin_of_kinds (fuel : Nat) :
    ∀ type ∈ registry.types, registry.readWithin fuel type =
      other.readWithin fuel type := by
  induction fuel with
  | zero => exact fun _ _ => rfl
  | succ fuel induction =>
      intro type member
      funext text context
      unfold readWithin
      cases reader : type.reader with
      | none => rfl
      | function read => rfl
      | syntaxes kind =>
          have concur :=
            Attempt.concur_of_types Search.stops types plurals regexes induction
            .script 5 (fun _ => pure none) (fun _ => pure none)
          have found := (Searching.Selection.identity Search).trySource_found concur
            (Matcher.complete_of_types types plurals) true text
              (registry.syntaxesOf kind)
          have same : _ = _ := found
          simp only [← kinds type member kind reader]
          rw [same]

/-- Literals are read alike if the types are the same, and so are the syntaxes
that their literals are made of. -/
theorem SameTypes.of_kinds : registry.SameTypes other where
  types := types
  plurals := plurals
  regexes := regexes
  literals := by
    intro type member
    funext text context
    unfold read
    rw [readWithin_of_kinds types plurals regexes kinds _ type member, types]

end Literals

end Registry

/-! ## What is bound -/

/-- The expression is a literal, of a type or of a type yet unknown. -/
def Expr.IsLiteral : Expr → Prop
  | .literal _ _ _ | .unparsed _ => True
  | .variable _ _ | .computed _ _ _ => False

/-- All expressions bound by the match are literals. -/
def MatchResult.BindsLiterals (result : MatchResult) : Prop :=
  ∀ expr, some expr ∈ result.exprs → expr.IsLiteral

namespace Expr

theorem convertText_isLiteral {read : LiteralReading} {target : RegisteredType}
    {context : ParseContext} {text : Text} {expr : Expr}
    (success : convertText read target context text = .ok (some expr)) :
    expr.IsLiteral := by
  unfold convertText at success
  split at success
  · cases success
    exact trivial
  · obtain ⟨value, _, success⟩ := except_bind_ok success
    cases value with
    | some value =>
        cases success
        exact trivial
    | none =>
        simp only at success
        split at success
        · cases success
        · obtain ⟨values, _, success⟩ := except_bind_ok success
          cases values with
          | none => cases success
          | some values =>
              cases success
              exact trivial

theorem setTime_isLiteral {expr timed : Expr} {time : Int}
    (isLiteral : expr.IsLiteral) (success : expr.setTime time = some timed) :
    timed.IsLiteral := by
  obtain rfl | ⟨element, type, converted, rfl, _⟩ := setTime_cases success
  · exact isLiteral
  · cases isLiteral

end Expr

section Binding

open Searching.Yielding (Ensures)

variable (yielding : Searching.Yielding m)

theorem Resolver.resolveLiteral_isLiteral (resolver : Resolver m)
    (type : RegisteredType) (text : Text) :
    yielding.Ensures (fun found => ∀ expr ∈ found, expr.IsLiteral)
      (resolver.resolveLiteral type text) := by
  apply Ensures.bind (Ensures.lift fun _ => id)
  intro literal success
  cases literal with
  | none =>
      apply Ensures.bind_self
      intro _ _
      exact Ensures.pure (by simp)
  | some expr =>
      apply Ensures.pure
      intro other same
      cases same
      unfold Resolver.literal? at success
      simp only at success
      split at success
      · cases success
        exact trivial
      split at success
      · cases success
      · exact Expr.convertText_isLiteral success

private theorem Resolver.resolve_isLiteral (resolver : Resolver m)
    (literalOnly : resolver.literalOnly = true) (type : RegisteredType)
    (text : Text) :
    yielding.Ensures (fun found => ∀ expr ∈ found, expr.IsLiteral)
      (resolver.resolve type text) := by
  unfold Resolver.resolve
  rw [if_pos literalOnly]
  exact resolver.resolveLiteral_isLiteral yielding type text

/-- A match in which every text resolves to a literal binds literals. -/
theorem Matcher.run_bindsLiterals {matcher : Matcher m} {pattern text : Text}
    (resolves : ∀ type text,
      yielding.Ensures (fun found => ∀ expr ∈ found, expr.IsLiteral)
      (matcher.resolve type text)) :
    yielding.Ensures (fun found => ∀ result ∈ found, result.BindsLiterals)
      (matcher.run pattern text) := by
  constructor
  intro found yields result isFound
  obtain rfl : found = some result := isFound
  obtain ⟨pieces, covers⟩ := run_covered yields
  intro expr member
  obtain ⟨slot, holds⟩ := List.getElem?_of_mem member
  obtain ⟨part, taken, _, inside⟩ := covers.bound_iff.mp holds
  obtain ⟨earlier, later, rfl⟩ := List.append_of_mem inside
  obtain ⟨name, placeholder, type, found, _, _, _, _, _, _, resolved, timed⟩ :=
    (covers.sound _ later (List.suffix_append earlier _)).takes
  exact Expr.setTime_isLiteral
    ((resolves type taken).holds _ resolved found rfl) timed

theorem Attempt.run_bindsLiterals (registry : Registry) (context : ParseContext)
    (minErrorChars : Int) (nested : Text → m (Option ComputedElement))
    (read : LiteralReading) (pattern text : Text) :
    yielding.Ensures (fun found => ∀ result ∈ found, result.BindsLiterals)
      ((Attempt.matcher ⟨registry, context, true, minErrorChars⟩ nested
        read).run pattern text) := by
  apply Matcher.run_bindsLiterals
  exact Resolver.resolve_isLiteral yielding ⟨registry, context, true,
    nested, read⟩ rfl

end Binding

/-! ## Headers of triggers -/

section Headers

open Traced

def Traced.yielding : Searching.Yielding Traced where
  Yields search answer := search.answer = .ok answer
  of_pure same := (Except.ok.inj same).symm
  of_bind yields := by
    obtain ⟨answer, first, second, _⟩ := bind_answer yields
    exact ⟨answer, first, second⟩
  not_fail := by
    intro _ _ _ same
    cases same

/-- The match that a provider is asked about binds literals alone. -/
def AsksLiterals (_descriptor : Descriptor) (_index : Nat)
    (result : MatchResult) : Prop :=
  result.BindsLiterals

variable (registry : Registry) (context : ParseContext) (minErrorChars : Int)
  (nested : Text → Traced (Option ComputedElement)) (read : LiteralReading)

private theorem Attempt.run_asksLiterals (pattern text : Text) :
    Heeds AsksLiterals (fun found => ∀ result ∈ found, result.BindsLiterals)
      ((Attempt.matcher ⟨registry, context, true, minErrorChars⟩ nested
        read).run pattern text) := by
  have resolves (type : RegisteredType) (text : Text) :
      Heeds AsksLiterals (fun found => ∀ expr ∈ found, expr.OfType type.toTypeInfo)
        ((Attempt.matcher ⟨registry, context, true, minErrorChars⟩ nested
          read).resolve type text) :=
    resolveLiteral_heeds registry context true read type text
  have binds := Attempt.run_bindsLiterals Traced.yielding registry context
    minErrorChars nested
    read pattern text
  exact ⟨(walk_heeds resolves pattern text _ 0 _ _).1, binds.holds⟩

private theorem Attempt.trySource_asksLiterals (text : Text)
    (source : List Descriptor) :
    Heeds AsksLiterals (fun _ => True)
      ((Attempt.matcher ⟨registry, context, true, minErrorChars⟩ nested
        read).trySource false text
        source) := by
  have found : Heeds AsksLiterals (fun found => ∀ accepted ∈ found, True)
      ((Attempt.matcher ⟨registry, context, true, minErrorChars⟩ nested
        read).trySource false text
        source) := by
    apply Heeds.firstSome
    intro descriptor _
    apply Heeds.firstSome
    intro pattern _
    apply Heeds.bind
      (Attempt.run_asksLiterals registry context minErrorChars nested read
        pattern.1 text)
    intro found binds
    cases found with
    | none => exact Heeds.pure fun _ _ => trivial
    | some result =>
        apply Heeds.bind (Heeds.lift fun _ => id)
        intro filled success
        obtain rfl : result = filled := Except.ok.inj success
        exact (consult_heeds (binds result rfl)).mono fun _ _ _ _ => trivial
  exact found.mono fun _ _ => trivial

end Headers

/-- Parsing with literals only sees nothing of a registry but its types:
whatever else two registries with the same types hold, a match with literals
only comes out the same, its best error included.  What it binds are literals,
so these, or nothing, are all that the provider of an event ever gets. -/
theorem literalOnly_sees_types {registry other : Registry}
    (same : registry.SameTypes other) (context : ParseContext)
    (minErrorChars : Int) (pattern text : Text) :
    (⟨registry, context, true, minErrorChars⟩ : Attempt).tracked.run pattern text =
        (⟨other, context, true, minErrorChars⟩ : Attempt).tracked.run pattern text ∧
      (∀ before after result,
        (⟨registry, context, true, minErrorChars⟩ : Attempt).tracked.run pattern
          text before =
            (.ok (some result), after) →
          result.BindsLiterals) ∧
      ∀ (parser : Parser) (defaultError : Option Text)
        (descriptor : Descriptor) (index : Nat) (result : MatchResult),
        Event.Asks descriptor index result
            ((Call.parseEvent text defaultError).events parser) →
          result.BindsLiterals := by
  refine ⟨?_, ?_, ?_⟩
  · exact (Attempt.concur_of_types Tracked.stops same.types same.plurals
      same.regexes
      same.literals context minErrorChars _ _).run_related pattern text
  · intro before after result matched
    have binds := Attempt.run_bindsLiterals Tracked.yielding registry context
      minErrorChars
      (registry.parseNested minErrorChars) registry.read pattern text
    exact binds.holds (some result) ⟨before, after, matched⟩ result rfl
  · intro parser defaultError descriptor index result asks
    exact (Attempt.trySource_asksLiterals parser.registry .event
      parser.options.minErrorChars _ _
      text parser.registry.events).1 descriptor index result asks

def Descriptor.answer : Descriptor :=
  { (Recording.plain ⟨"Answer", 0⟩).descriptor ["the answer"] [] with
    role := .expression "number" }

def Registry.answering : Registry :=
  { builtins with
    conversions := [⟨"string", "integer", "length", Converter.length⟩]
    syntaxes := [(conditionKind, []), (effectKind, []), (expressionKind, [.answer]),
      (eventKind, [])] }

private theorem Registry.answering_sameTypes :
    Registry.builtins.SameTypes .answering := by
  refine SameTypes.of_kinds rfl rfl rfl ?_
  intro type member kind isKind
  simp only [builtins, RegisteredType.builtins, List.mem_cons, List.not_mem_nil,
    or_false] at member
  rcases member with rfl | rfl | rfl | rfl | rfl <;> cases isKind

/-- Literals alone do not tell these registries apart; expressions do. -/
theorem literalOnly_of_answer :
    Registry.builtins.SameTypes .answering ∧
      (⟨.builtins, .script, true, 5⟩ : Attempt).tracked.run "%object%"
        "the answer" =
        (⟨.answering, .script, true, 5⟩ : Attempt).tracked.run "%object%"
          "the answer" ∧
      ∃ after result, (⟨.answering, .script, false, 5⟩ : Attempt).tracked.run
        "%object%" "the answer"
          ⟨.empty, .empty⟩ = (.ok (some result), after) ∧
          ¬ result.BindsLiterals := by
  have same := Registry.answering_sameTypes
  refine ⟨same,
    (literalOnly_sees_types same .script 5 "%object%" "the answer").1,
    _, _, rfl, ?_⟩
  intro binds
  exact binds _ List.mem_cons_self

end Phrasebook
