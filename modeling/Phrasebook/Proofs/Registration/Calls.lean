import Phrasebook.Proofs.Registration

/-!
# Registration calls

A registry is an object that calls change in place, and what a call has written
would stay if it failed later on.  Every call comes out as the registry's
functions describe it, since it writes only behind its last check.
-/

namespace Phrasebook

/-- A call of a function that fills a registry. -/
inductive Registration where
  | type (added : RegisteredType)
  | converter (conversion : Conversion)
  | syntaxes (kind : Text) (descriptor : Descriptor)
  | condition (descriptor : Descriptor)
  | effect (descriptor : Descriptor)
  | expression (returnType : Text) (descriptor : Descriptor)
  | event (name : Text) (descriptor : Descriptor)
  | freeze

namespace Registration

def apply (registry : Registry) : Registration → Except SetupError Registry
  | .type added => registry.registerType added
  | .converter conversion => registry.registerConverter conversion
  | .syntaxes kind descriptor => registry.registerSyntax kind descriptor
  | .condition descriptor => registry.registerCondition descriptor
  | .effect descriptor => registry.registerEffect descriptor
  | .expression returnType descriptor =>
      registry.registerExpression returnType descriptor
  | .event name descriptor => registry.registerEvent name descriptor
  | .freeze => .ok registry.freeze

/-- What a call describes, as it is stored, with the kind it is stored under. -/
def stored? : Registration → Option (Text × Descriptor)
  | .syntaxes kind descriptor => some (kind, descriptor)
  | .condition descriptor =>
      some (Registry.conditionKind, { descriptor with role := .plain })
  | .effect descriptor =>
      some (Registry.effectKind, { descriptor with role := .plain })
  | .expression returnType descriptor =>
      some (Registry.expressionKind,
        { descriptor with role := .expression returnType })
  | .event name descriptor =>
      some (Registry.eventKind, { descriptor with role := .event name })
  | .type _ | .converter _ | .freeze => none

/-! ## Calls in place -/

/-- Steps on a registry that is changed in place: what a step has written stays
when a later one fails. -/
abbrev InPlace := ExceptT SetupError (StateM Registry)

namespace InPlace

def check {α : Type} (ask : Registry → Except SetupError α) : InPlace Unit := do
  match ask (← get) with
  | .ok _ => pure ()
  | .error error => throw error

def write (change : Registry → Registry) : InPlace Unit :=
  modify change

def on (steps : InPlace Unit) (registry : Registry) :
    Except SetupError Unit × Registry :=
  steps.run.run registry

theorem check_on {α : Type} (ask : Registry → Except SetupError α)
    (next : InPlace Unit) (registry : Registry) :
    (do check ask; next : InPlace Unit).on registry =
      match ask registry with
      | .ok _ => next.on registry
      | .error error => (.error error, registry) := by
  change ((match ask registry with
    | .ok _ => pure ()
    | .error error => throw error : InPlace Unit) >>= fun _ => next).on registry = _
  cases ask registry with
  | ok _ => rfl
  | error error => rfl

theorem write_on (change : Registry → Registry) (next : InPlace Unit)
    (registry : Registry) :
    (do write change; next : InPlace Unit).on registry = next.on
    (change registry) := by
  rfl

theorem write_on_last (change : Registry → Registry) (registry : Registry) :
    (write change).on registry = (.ok (), change registry) := by
  rfl

end InPlace

/-- The steps of a description: the checks, and then the one write. -/
def describe (kind : Text) (descriptor : Descriptor) : InPlace Unit := do
  InPlace.check Registry.checkOpen
  InPlace.check (·.checkPatterns descriptor.patterns)
  InPlace.write fun registry =>
    { registry with syntaxes :=
        Registry.appendSyntax kind descriptor registry.syntaxes }

def steps : Registration → InPlace Unit
  | .type added => do
      InPlace.check Registry.checkOpen
      InPlace.check fun registry =>
        if (registry.findType? added.name).isSome then
          .error (.duplicateType added.name) else .ok ()
      InPlace.write fun registry =>
        { registry with types := registry.types ++ [added] }
      InPlace.write fun registry =>
        { registry with plurals := (added.plural, added.name) :: registry.plurals }
  | .converter conversion => do
      InPlace.check Registry.checkOpen
      InPlace.check (·.getType conversion.source)
      InPlace.check (·.getType conversion.target)
      InPlace.write fun registry =>
        { registry with conversions :=
            Registry.putConversion conversion registry.conversions }
  | .syntaxes kind descriptor => describe kind descriptor
  | .condition descriptor =>
      describe Registry.conditionKind { descriptor with role := .plain }
  | .effect descriptor =>
      describe Registry.effectKind { descriptor with role := .plain }
  | .expression returnType descriptor => do
      InPlace.check (·.getType returnType)
      describe Registry.expressionKind
        { descriptor with role := .expression returnType }
  | .event name descriptor =>
      describe Registry.eventKind { descriptor with role := .event name }
  | .freeze => InPlace.write Registry.freeze

def perform (call : Registration) (registry : Registry) :
    Except SetupError Unit × Registry :=
  call.steps.on registry

private theorem describe_on (kind : Text) (descriptor : Descriptor)
    (registry : Registry) :
    (describe kind descriptor).on registry =
      match registry.registerSyntax kind descriptor with
      | .ok after => (.ok (), after)
      | .error error => (.error error, registry) := by
  unfold describe Registry.registerSyntax
  rw [InPlace.check_on, InPlace.check_on, InPlace.write_on_last]
  cases registry.checkOpen with
  | error error => rfl
  | ok _ =>
      cases registry.checkPatterns descriptor.patterns with
      | error error => rfl
      | ok _ => rfl

/-- In place, a call does what the registry's functions say, and it leaves the
registry as it was when it fails. -/
theorem perform_eq (call : Registration) (registry : Registry) :
    call.perform registry =
      match call.apply registry with
      | .ok after => (.ok (), after)
      | .error error => (.error error, registry) := by
  cases call with
  | type added =>
      rw [perform, steps, apply, Registry.registerType]
      rw [InPlace.check_on, InPlace.check_on, InPlace.write_on,
        InPlace.write_on_last]
      cases registry.checkOpen with
      | error error => rfl
      | ok _ =>
          cases (registry.findType? added.name).isSome with
          | true => rfl
          | false => rfl
  | converter conversion =>
      rw [perform, steps, apply, Registry.registerConverter]
      rw [InPlace.check_on, InPlace.check_on, InPlace.check_on,
        InPlace.write_on_last]
      cases registry.checkOpen with
      | error error => rfl
      | ok _ =>
          cases registry.getType conversion.source with
          | error error => rfl
          | ok _ =>
              cases registry.getType conversion.target with
              | error error => rfl
              | ok _ => rfl
  | syntaxes kind descriptor => exact describe_on kind descriptor registry
  | condition descriptor => exact describe_on _ _ registry
  | effect descriptor => exact describe_on _ _ registry
  | expression returnType descriptor =>
      rw [perform, steps, apply, Registry.registerExpression]
      rw [InPlace.check_on, describe_on]
      cases registry.getType returnType with
      | error error => rfl
      | ok _ => rfl
  | event name descriptor => exact describe_on _ _ registry
  | freeze => rfl

end Registration

end Phrasebook
