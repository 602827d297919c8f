import Phrasebook.BlockGame.Syntax
import Phrasebook.Builtin
import Phrasebook.Proofs.Registration

/-!
# Providers that accept quietly

A provider that accepts may still log something.  One that logs an error all the
same contradicts itself, and none of the block game does.
-/

namespace Phrasebook

/-- The provider logs no error when it accepts. -/
def Descriptor.AcceptsQuietly (descriptor : Descriptor) : Prop :=
  ∀ index result entries element, descriptor.init index result =
    ⟨entries, some element⟩ →
    ∀ entry ∈ entries, entry.isError = false

/-- No provider of an event or of a statement logs an error when it accepts. -/
def Registry.AcceptsQuietly (registry : Registry) : Prop :=
  ∀ descriptor ∈ registry.events ++ registry.statements, descriptor.AcceptsQuietly

theorem Descriptor.acceptsQuietly_of_silent {descriptor : Descriptor}
    (silent : ∀ index result, (descriptor.init index result).entries = []) :
    descriptor.AcceptsQuietly := by
  intro index result entries element verdict entry member
  have none : entries = [] := by rw [← silent index result, verdict]
  rw [none] at member
  cases member

namespace Registry

def AllQuiet (registry : Registry) : Prop :=
  ∀ entry ∈ registry.syntaxes, ∀ descriptor ∈ entry.2, descriptor.AcceptsQuietly

theorem AllQuiet.acceptsQuietly {registry : Registry} (quiet : registry.AllQuiet) :
    registry.AcceptsQuietly := by
  have ofKind {kind : Text} {descriptor : Descriptor}
      (member : descriptor ∈ registry.syntaxesOf kind) :
      descriptor.AcceptsQuietly := by
    obtain ⟨entry, listed, inside⟩ := mem_syntaxesOf member
    exact quiet entry listed descriptor inside
  intro descriptor member
  rcases List.mem_append.mp member with event | statement
  · exact ofKind event
  · rcases List.mem_append.mp statement with condition | effect
    · exact ofKind condition
    · exact ofKind effect

/-- A registration that only adds providers that accept quietly. -/
def KeepsQuiet (register : Registry → Except SetupError Registry) : Prop :=
  ∀ registry after, registry.AllQuiet → register registry = .ok after →
  after.AllQuiet

namespace KeepsQuiet

theorem bind {first second : Registry → Except SetupError Registry}
    (keeps : KeepsQuiet first) (later : KeepsQuiet second) :
    KeepsQuiet fun registry => first registry >>= second := by
  intro registry after quiet registered
  obtain ⟨next, step, registered⟩ := except_bind_ok registered
  exact later next after (keeps registry next quiet step) registered

theorem type (type : RegisteredType) : KeepsQuiet (·.registerType type) := by
  intro registry after quiet registered
  obtain ⟨_, _, rfl⟩ := registerType_ok registered
  exact quiet

theorem types (types : List RegisteredType) :
    KeepsQuiet (·.registerTypes types) := by
  induction types with
  | nil =>
      intro registry after quiet registered
      cases registered
      exact quiet
  | cons first types induction => exact (type first).bind induction

theorem converter (conversion : Conversion) :
    KeepsQuiet (·.registerConverter conversion) := by
  intro registry after quiet registered
  obtain ⟨_, _, _, rfl⟩ := registerConverter_ok registered
  exact quiet

theorem syntaxes (kind : Text) {descriptor : Descriptor}
    (accepts : descriptor.AcceptsQuietly) :
    KeepsQuiet (·.registerSyntax kind descriptor) := by
  intro registry after quiet registered
  obtain ⟨_, _, rfl⟩ := registerSyntax_ok registered
  intro entry member other inside
  rcases mem_appendSyntax member other inside with rfl | ⟨earlier, before, inside⟩
  · exact accepts
  · exact quiet earlier before other inside

theorem condition {descriptor : Descriptor} (accepts : descriptor.AcceptsQuietly) :
    KeepsQuiet (·.registerCondition descriptor) := by
  have plain : ({ descriptor with role := .plain } :
      Descriptor).AcceptsQuietly := accepts
  exact syntaxes conditionKind plain

theorem effect {descriptor : Descriptor} (accepts : descriptor.AcceptsQuietly) :
    KeepsQuiet (·.registerEffect descriptor) := by
  have plain : ({ descriptor with role := .plain } :
      Descriptor).AcceptsQuietly := accepts
  exact syntaxes effectKind plain

theorem expression (returnType : Text) {descriptor : Descriptor}
    (accepts : descriptor.AcceptsQuietly) :
    KeepsQuiet (·.registerExpression returnType descriptor) := by
  have described : Descriptor.AcceptsQuietly
      { descriptor with role := .expression returnType } := accepts
  intro registry after quiet registered
  obtain ⟨_, _, registered⟩ := except_bind_ok registered
  exact syntaxes expressionKind described registry after quiet registered

theorem event (name : Text) {descriptor : Descriptor}
    (accepts : descriptor.AcceptsQuietly) :
    KeepsQuiet (·.registerEvent name descriptor) := by
  have described :
      ({ descriptor with role := .event name } : Descriptor).AcceptsQuietly :=
    accepts
  exact syntaxes eventKind described

end KeepsQuiet

end Registry

namespace BlockGame

private theorem describePotions_acceptsQuietly (cls : ElementClass)
    (patterns : List Text) :
    Descriptor.AcceptsQuietly ⟨cls, patterns, [], .plain, describePotions⟩ := by
  apply Descriptor.acceptsQuietly_of_silent
  intro index result
  simp only [describePotions]
  cases firstSlot result with
  | none => rfl
  | some items => rfl

private theorem register_keepsQuiet : Registry.KeepsQuiet register := by
  have silent {descriptor : Descriptor}
      (none : ∀ index result, (descriptor.init index result).entries = []) :=
    Descriptor.acceptsQuietly_of_silent none
  unfold register
  refine .bind (.types _) ?_
  refine .bind (.converter _) ?_
  refine .bind (.syntaxes _ (describePotions_acceptsQuietly _ _)) ?_
  refine .bind (.condition (silent fun _ _ => rfl)) ?_
  refine .bind (.condition (silent fun _ _ => rfl)) ?_
  refine .bind (.effect (silent fun _ _ => rfl)) ?_
  refine .bind (.effect (silent fun _ _ => rfl)) ?_
  refine .bind (.expression _ (silent fun _ _ => rfl)) ?_
  refine .bind (.expression _ (silent fun _ _ => rfl)) ?_
  refine .bind (.expression _ (silent fun _ _ => rfl)) ?_
  refine .bind (.expression _ (silent fun _ _ => rfl)) ?_
  refine .bind (.event _ (silent fun _ _ => rfl)) ?_
  refine .bind (.event _ (silent fun _ _ => rfl)) ?_
  refine .bind (.event _ (silent fun _ _ => rfl)) ?_
  exact .event _ (silent fun _ _ => rfl)

/-- The registry of the block game accepts quietly. -/
theorem registry_acceptsQuietly {game : Registry}
    (registered : registry = .ok game) :
    game.AcceptsQuietly := by
  have nothing : Registry.empty.AllQuiet := by
    intro entry member descriptor inside
    rw [Registry.no_syntax_of_blank .standard entry member] at inside
    cases inside
  have keeps : Registry.KeepsQuiet fun empty =>
      empty.registerTypes RegisteredType.builtins >>= register :=
    .bind (.types _) register_keepsQuiet
  exact (keeps .empty game nothing registered).acceptsQuietly

end BlockGame

end Phrasebook
