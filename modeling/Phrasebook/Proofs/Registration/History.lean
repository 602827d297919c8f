import Phrasebook.Proofs.Builtins
import Phrasebook.Proofs.Registration.Calls
import Phrasebook.Provider.Recording

/-!
# Histories of registration

A history is a list of registration calls, in any order and with any arguments;
calls that fail are passed over.  The registry behind a history was filled by
the calls that succeeded.  No later type takes a spelling away from the patterns
that are already there: what was written in the singular still names its type,
what was written as a plural names the type that took this plural last, and what
was read by the rules of English may have become a name or a plural of its own.
-/

namespace Phrasebook

namespace Registry

/-! ## What registration keeps -/

theorem Built.names_distinct {registry : Registry} (built : Built registry) :
    (registry.types.map (·.name)).Nodup := by
  apply built.induct
  case blank => exact fun _ => List.nodup_nil
  case type =>
    intro registry type distinct new
    have absent : ∀ other ∈ registry.types, other.name ≠ type.name := by
      simpa [findType?] using new
    simp only [addType, List.map_append, List.map_cons, List.map_nil]
    refine List.nodup_append.mpr ⟨distinct, by simp, ?_⟩
    intro name member other single
    obtain ⟨earlier, listed, rfl⟩ := List.mem_map.mp member
    obtain rfl := List.mem_singleton.mp single
    exact absent earlier listed
  case converter =>
    intro registry conversion distinct _ _
    exact distinct
  case syntaxes =>
    intro registry kind descriptor distinct _
    exact distinct
  case freeze =>
    intro registry distinct
    exact distinct

/-- A conversion leads between types of the registry. -/
def Connects (registry : Registry) (conversion : Conversion) : Prop :=
  (∃ source, registry.findType? conversion.source = some source) ∧
    ∃ target, registry.findType? conversion.target = some target

private theorem mem_putConversion {conversion other : Conversion}
    {conversions : List Conversion}
    (member : other ∈ putConversion conversion conversions) :
    other = conversion ∨ other ∈ conversions := by
  induction conversions with
  | nil => exact .inl (List.mem_singleton.mp member)
  | cons earlier rest induction =>
      rw [putConversion] at member
      split at member
      · rcases List.mem_cons.mp member with rfl | member
        · exact .inl rfl
        · exact .inr (List.mem_cons_of_mem earlier member)
      · rcases List.mem_cons.mp member with rfl | member
        · exact .inr List.mem_cons_self
        · exact (induction member).imp_right (List.mem_cons_of_mem earlier)

theorem Built.connects {registry : Registry} (built : Built registry) :
    ∀ conversion ∈ registry.conversions, registry.Connects conversion := by
  apply built.induct
  case blank => simp [Registry.blank]
  case type =>
    intro registry type connects _ conversion member
    obtain ⟨⟨source, fromKnown⟩, target, toKnown⟩ := connects conversion member
    exact ⟨⟨source, findType?_addType type fromKnown⟩,
      target, findType?_addType type toKnown⟩
  case converter =>
    intro registry conversion connects source target other member
    rcases mem_putConversion member with rfl | member
    · exact ⟨source, target⟩
    · exact connects other member
  case syntaxes =>
    intro registry kind descriptor connects _
    exact connects
  case freeze =>
    intro registry connects
    exact connects

private theorem checkPatterns_nonempty {registry : Registry} {patterns : List Text}
    (succeeded : registry.checkPatterns patterns = .ok ()) : patterns ≠ [] := by
  rintro rfl
  cases succeeded

private theorem Built.patterned {registry : Registry} (built : Built registry) :
    ∀ entry ∈ registry.syntaxes, ∀ descriptor ∈ entry.2,
      descriptor.patterns ≠ [] := by
  apply built.induct
  case blank =>
    intro regexes entry member descriptor inside
    rw [no_syntax_of_blank regexes entry member] at inside
    cases inside
  case type =>
    intro registry type patterned _
    exact patterned
  case converter =>
    intro registry conversion patterned _ _
    exact patterned
  case syntaxes =>
    intro registry kind descriptor patterned patterns entry member other inside
    rcases mem_appendSyntax member other inside with rfl | ⟨earlier, before, inside⟩
    · exact checkPatterns_nonempty patterns
    · exact patterned earlier before other inside
  case freeze =>
    intro registry patterned
    exact patterned

/-- A placeholder, as it is written, reads as one of a registered type. -/
def Resolves (registry : Registry) (written : Text) : Prop :=
  ∃ placeholder type, Placeholder.read registry.normalize written =
    .ok placeholder ∧
    registry.findType? placeholder.name = some type

private theorem checkPlaceholder_ok {registry : Registry} {written : Text}
    (succeeded : registry.checkPlaceholder written = .ok ()) :
    registry.Resolves written := by
  obtain ⟨placeholder, read, succeeded⟩ := except_bind_ok succeeded
  obtain ⟨type, known, _⟩ := except_bind_ok succeeded
  exact ⟨placeholder, type, read, getType_ok known⟩

/-- What a registry can be relied on for, however it was filled. -/
structure Sound (registry : Registry) : Prop where
  names : (registry.types.map (·.name)).Nodup
  plurals : ∀ plural name, registry.plurals.lookup plural = some name →
    ∃ type, registry.findType? name = some type
  conversions : ∀ conversion ∈ registry.conversions, registry.Connects conversion
  patterned : ∀ kind, ∀ descriptor ∈ registry.syntaxesOf kind,
    descriptor.patterns ≠ []
  valid : ∀ kind, ∀ descriptor ∈ registry.syntaxesOf kind,
    ∀ pattern ∈ descriptor.patterns,
    Pattern.validate pattern = .ok ()
  resolves : ∀ kind, ∀ descriptor ∈ registry.syntaxesOf kind,
    ∀ pattern ∈ descriptor.patterns,
    ∀ written ∈ Pattern.placeholders pattern, registry.Resolves written

theorem Built.sound {registry : Registry} (built : Built registry) :
    registry.Sound where
  names := built.names_distinct
  plurals := by
    intro plural name found
    obtain ⟨before, behind, entries, _⟩ := List.lookup_eq_some_iff.mp found
    have listed : (plural, name) ∈ registry.plurals := by simp [entries]
    exact Option.isSome_iff_exists.mp (built.wellNamed.plurals _ listed)
  conversions := built.connects
  patterned := by
    intro kind descriptor member
    obtain ⟨entry, listed, inside⟩ := mem_syntaxesOf member
    exact built.patterned entry listed descriptor inside
  valid := by
    intro kind descriptor member pattern belongs
    exact (built.checked member pattern belongs).valid
  resolves := by
    intro kind descriptor member pattern belongs written found
    obtain ⟨entry, listed, inside⟩ := mem_syntaxesOf member
    exact checkPlaceholder_ok
      (built.wellNamed.placeholders entry listed descriptor inside pattern
        belongs written found)

/-! ## What one call adds -/

theorem syntaxesOf_addSyntax (registry : Registry) (kind : Text)
    (descriptor : Descriptor) (other : Text) :
    (registry.addSyntax kind descriptor).syntaxesOf other =
      registry.syntaxesOf other ++ if kind == other then [descriptor] else [] := by
  unfold syntaxesOf addSyntax
  simp only
  induction registry.syntaxes with
  | nil =>
      by_cases same : other = kind
      · simp [appendSyntax, same]
      · have unlike : (other == kind) = false := by simpa using same
        simp [appendSyntax, List.lookup_cons, unlike, Ne.symm same]
  | cons entry rest induction =>
      obtain ⟨name, descriptors⟩ := entry
      rw [appendSyntax]
      by_cases here : name = kind
      · subst here
        by_cases same : other = name
        · simp [same]
        · have unlike : (other == name) = false := by simpa using same
          simp [List.lookup_cons, unlike, Ne.symm same]
      · by_cases same : other = name
        · subst same
          simp [here, Ne.symm here]
        · have unlike : (other == name) = false := by simpa using same
          simpa [here, List.lookup_cons, unlike] using induction

end Registry

namespace Registration

/-- What a call that succeeds has checked, and what it leaves. -/
inductive Changes (registry : Registry) : Registration → Registry → Prop
  | type {added : RegisteredType} :
      registry.frozen = false → registry.findType? added.name = none →
        Changes registry (.type added) (registry.addType added)
  | converter {conversion : Conversion} :
      registry.frozen = false → registry.Connects conversion →
        Changes registry (.converter conversion) (registry.addConversion conversion)
  | stored {call : Registration} {kind : Text} {descriptor : Descriptor} :
      registry.frozen = false → call.stored? = some (kind, descriptor) →
        registry.checkPatterns descriptor.patterns = .ok () →
          Changes registry call (registry.addSyntax kind descriptor)
  | freeze : Changes registry .freeze registry.freeze

theorem apply_changes {registry after : Registry} {call : Registration}
    (succeeded : call.apply registry = .ok after) :
    Changes registry call after := by
  have stored {call : Registration} {kind : Text} {descriptor : Descriptor}
      (stores : call.stored? = some (kind, descriptor))
      (succeeded : registry.registerSyntax kind descriptor = .ok after) :
      Changes registry call after := by
    obtain ⟨opened, checked, rfl⟩ := Registry.registerSyntax_ok succeeded
    exact .stored opened stores checked
  cases call with
  | type added =>
      obtain ⟨opened, new, rfl⟩ := Registry.registerType_ok succeeded
      exact .type opened new
  | converter conversion =>
      obtain ⟨opened, source, target, rfl⟩ :=
        Registry.registerConverter_ok succeeded
      exact .converter opened ⟨source, target⟩
  | syntaxes kind descriptor => exact stored rfl succeeded
  | condition descriptor => exact stored rfl succeeded
  | effect descriptor => exact stored rfl succeeded
  | expression returnType descriptor =>
      obtain ⟨_, _, succeeded⟩ := except_bind_ok succeeded
      exact stored rfl succeeded
  | event name descriptor => exact stored rfl succeeded
  | freeze =>
      cases succeeded
      exact .freeze

/-- A frozen registry refuses every call but that to freeze it. -/
theorem apply_frozen {registry : Registry} (frozen : registry.frozen = true)
    {call : Registration} (other : call ≠ .freeze) :
    ∃ error, call.apply registry = .error error := by
  cases applied : call.apply registry with
  | error error => exact ⟨error, rfl⟩
  | ok after =>
      cases apply_changes applied with
      | type opened _ => simp [frozen] at opened
      | converter opened _ => simp [frozen] at opened
      | stored opened _ _ => simp [frozen] at opened
      | freeze => exact absurd rfl other

theorem built_apply {registry after : Registry} (built : registry.Built)
    {call : Registration} (succeeded : call.apply registry = .ok after) :
    after.Built := by
  cases call with
  | type added => exact .type added built succeeded
  | converter conversion => exact .converter conversion built succeeded
  | syntaxes kind descriptor => exact .syntaxes kind descriptor built succeeded
  | condition descriptor => exact .condition descriptor built succeeded
  | effect descriptor => exact .effect descriptor built succeeded
  | expression returnType descriptor =>
      exact .expression returnType descriptor built succeeded
  | event name descriptor => exact .event name descriptor built succeeded
  | freeze =>
      cases succeeded
      exact .freeze built

/-- The calls among these that succeed on the registry they meet, in order. -/
def accepted : Registry → List Registration → List Registration
  | _, [] => []
  | registry, call :: calls =>
      match call.perform registry with
      | (.ok _, after) => call :: accepted after calls
      | (.error _, after) => accepted after calls

/-- The descriptors of a kind that these calls store, in order. -/
def storedUnder (kind : Text) (calls : List Registration) : List Descriptor :=
  ((calls.filterMap stored?).filter (·.1 == kind)).map (·.2)

end Registration

namespace Registry

/-- The registry behind these calls, whether they succeed or fail. -/
def after (registry : Registry) (calls : List Registration) : Registry :=
  calls.foldl (fun reached call => (call.perform reached).2) registry

/-- A registry as it is made, with the built-in types or without. -/
inductive Fresh : Registry → Prop
  | blank (regexes : RegexEngine) : Fresh (.blank regexes)
  | builtins {regexes : RegexEngine} {registry : Registry} :
      (blank regexes).registerTypes RegisteredType.builtins = .ok registry →
      Fresh registry

open Registration

@[simp] theorem after_nil (registry : Registry) :
    registry.after [] = registry := rfl

@[simp] theorem after_cons (registry : Registry) (call : Registration)
    (calls : List Registration) :
    registry.after (call :: calls) = (call.perform registry).2.after calls := rfl

theorem after_append (registry : Registry) (earlier later : List Registration) :
    registry.after (earlier ++ later) = (registry.after earlier).after later :=
  List.foldl_append

/-- A run of calls keeps what every call that succeeds keeps. -/
theorem after_induct {property : Registry → Prop}
    (step : ∀ reached next (call : Registration), property reached →
      call.apply reached = .ok next → property next)
    {registry : Registry} (holds : property registry) (calls : List Registration) :
    property (registry.after calls) := by
  induction calls generalizing registry with
  | nil => exact holds
  | cons call calls induction =>
      rw [after_cons, perform_eq]
      cases applied : call.apply registry with
      | ok next => exact induction (step registry next call holds applied)
      | error error => exact induction holds

theorem Built.after {registry : Registry} (built : registry.Built)
    (calls : List Registration) :
    (registry.after calls).Built :=
  after_induct (fun _ _ _ built applied => built_apply built applied) built calls

private theorem Built.registerTypes {registry after : Registry}
    (built : registry.Built) {types : List RegisteredType}
    (succeeded : registry.registerTypes types = .ok after) :
    after.Built := by
  induction types generalizing registry with
  | nil =>
      cases succeeded
      exact built
  | cons first types induction =>
      obtain ⟨next, registered, succeeded⟩ := except_bind_ok succeeded
      exact induction (.type first built registered) succeeded

theorem Fresh.built {registry : Registry} (fresh : registry.Fresh) :
    registry.Built := by
  cases fresh with
  | blank regexes => exact .blank regexes
  | builtins made => exact (Built.blank _).registerTypes made

theorem Fresh.syntaxesOf_eq {registry : Registry} (fresh : registry.Fresh)
    (kind : Text) :
    registry.syntaxesOf kind = [] := by
  have made : ∃ regexes, registry.syntaxes = (Registry.blank regexes).syntaxes := by
    cases fresh with
    | blank regexes => exact ⟨regexes, rfl⟩
    | @builtins regexes _ made =>
        cases made
        exact ⟨regexes, rfl⟩
  apply List.eq_nil_iff_forall_not_mem.mpr
  intro descriptor member
  obtain ⟨entry, listed, inside⟩ := mem_syntaxesOf member
  obtain ⟨regexes, made⟩ := made
  rw [made] at listed
  rw [no_syntax_of_blank regexes entry listed] at inside
  cases inside

/-- Types stay in their places, and later ones come behind them. -/
theorem types_after (registry : Registry) (calls : List Registration) :
    registry.types <+: (registry.after calls).types := by
  refine @after_induct (fun reached => registry.types <+: reached.types) ?_ registry
    List.prefix_rfl calls
  intro reached next call kept applied
  cases apply_changes applied with
  | type _ _ => exact kept.trans (List.prefix_append _ _)
  | converter _ _ => exact kept
  | stored _ _ _ => exact kept
  | freeze => exact kept

theorem frozen_after (registry : Registry) {calls : List Registration}
    (freezes : .freeze ∈ calls) : (registry.after calls).frozen = true := by
  obtain ⟨earlier, later, rfl⟩ := List.append_of_mem freezes
  rw [after_append, after_cons]
  refine @after_induct (fun reached => reached.frozen = true) ?_ _ rfl later
  intro reached next call frozen applied
  cases apply_changes applied with
  | type _ _ => exact frozen
  | converter _ _ => exact frozen
  | stored _ _ _ => exact frozen
  | freeze => rfl

private theorem syntaxesOf_changes {registry after : Registry} {call : Registration}
    (changes : Changes registry call after) (kind : Text) :
    after.syntaxesOf kind = registry.syntaxesOf kind ++
      storedUnder kind [call] := by
  cases changes with
  | type _ _ => simp [storedUnder, stored?, addType, syntaxesOf]
  | converter _ _ => simp [storedUnder, stored?, addConversion, syntaxesOf]
  | @stored call other descriptor _ stores _ =>
      rw [syntaxesOf_addSyntax]
      by_cases same : other = kind
      · simp [storedUnder, stores, same]
      · simp [storedUnder, stores, same]
  | freeze => simp [storedUnder, stored?, Registry.freeze, syntaxesOf]

private theorem syntaxesOf_after (registry : Registry)
    (calls : List Registration) (kind : Text) :
    (registry.after calls).syntaxesOf kind =
      registry.syntaxesOf kind ++ storedUnder kind (accepted registry calls) := by
  induction calls generalizing registry with
  | nil => simp [accepted, storedUnder]
  | cons call calls induction =>
      rw [after_cons, accepted, perform_eq]
      cases applied : call.apply registry with
      | error error => exact induction registry
      | ok next =>
          simp only
          have first : storedUnder kind (call :: accepted next calls) =
              storedUnder kind [call] ++
                storedUnder kind (accepted next calls) := by
            simp [storedUnder, ← List.map_append, ← List.filter_append,
              ← List.filterMap_append]
          rw [induction next, syntaxesOf_changes (apply_changes applied) kind,
            first, List.append_assoc]

/-- Behind any calls on a fresh registry: the registry is sound, and no later
call changes its types; each kind lists what the calls that succeeded have
described, in order; a call that fails leaves it as it is; and once it is
frozen, every call but another freezing fails. -/
theorem Fresh.after_sound {registry : Registry} (fresh : registry.Fresh)
    (calls : List Registration) :
    (registry.after calls).Sound ∧
      (∀ more, (registry.after calls).types <+:
        (registry.after (calls ++ more)).types) ∧
      (∀ kind, (registry.after calls).syntaxesOf kind =
        storedUnder kind (accepted registry calls)) ∧
      (∀ (call : Registration) error left,
        call.perform (registry.after calls) = (.error error, left) →
          left = registry.after calls) ∧
      (.freeze ∈ calls → ∀ call : Registration, call ≠ .freeze →
        ∃ error, call.perform (registry.after calls) =
          (.error error, registry.after calls)) := by
  refine ⟨(fresh.built.after calls).sound, ?_, ?_, ?_, ?_⟩
  · intro more
    rw [after_append]
    exact types_after _ more
  · intro kind
    rw [syntaxesOf_after, fresh.syntaxesOf_eq, List.nil_append]
  · intro call error left failed
    rw [perform_eq] at failed
    cases applied : call.apply (registry.after calls) with
    | ok next => simp [applied] at failed
    | error error =>
        simp only [applied, Prod.mk.injEq] at failed
        exact failed.2.symm
  · intro freezes call other
    obtain ⟨error, applied⟩ := apply_frozen (frozen_after registry freezes) other
    exact ⟨error, by rw [perform_eq, applied]⟩

/-- Boxes are packed by their English plural before a type takes that plural and
another one takes it as its name; ghosts are never registered, and drawers come
too late. -/
def packing : List Registration :=
  let boxed (name plural : Text) : RegisteredType :=
    .ofReader { TypeInfo.named name .text with plural := plural } Literal.string
  [ .type (boxed "box" "boxen"),
    .effect ((Recording.plain ⟨"Pack", 0⟩).descriptor ["pack %boxes%"] []),
    .type (boxed "crate" "boxes"),
    .type (boxed "boxes" "boxess"),
    .condition ((Recording.plain ⟨"Haunted", 0⟩).descriptor ["%ghost% is here"] []),
    .freeze,
    .type (boxed "drawer" "drawers") ]

/-- The pattern of the effect is read in three ways by and by, and each time it
names a type. -/
theorem packing_sound :
    (builtins.after packing).Sound ∧
      (builtins.after packing).types.map (·.name) =
        (["object", "number", "integer", "string", "boolean", "box", "crate",
          "boxes"] : List Text) ∧
      ((builtins.after packing).syntaxesOf effectKind).map (·.patterns) =
        [["pack %boxes%".toList]] ∧
      (accepted builtins packing).length = 5 ∧
      (builtins.after (packing.take 2)).normalize "boxes" = (("box" : Text), true) ∧
      (builtins.after (packing.take 3)).normalize "boxes" =
        (("crate" : Text), true) ∧
      (builtins.after packing).normalize "boxes" = (("boxes" : Text), false) := by
  obtain ⟨sound, _, described, _, _⟩ :=
    Fresh.after_sound (.builtins withBuiltins_eq) packing
  refine ⟨sound, by decide +kernel, ?_, by decide +kernel, by decide +kernel, by
    decide +kernel, by decide +kernel⟩
  rw [described]
  decide +kernel

end Registry

end Phrasebook
