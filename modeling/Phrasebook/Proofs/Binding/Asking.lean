import Phrasebook.Proofs.Binding.Walk
import Phrasebook.Provider.Recording

/-!
# Providers are asked about well-bound matches

A provider is asked about a match only after what is still empty in it was filled
by default expressions, unless a dash allows a slot to stay empty.  So whatever
attempt or nested attempt a question comes from, every slot holds what its
placeholder asks for.
-/

namespace Phrasebook

open Traced

variable {good : Descriptor → Nat → MatchResult → Prop}

/-- The descriptor is registered as a condition, an effect or an expression. -/
def Registry.Registered (registry : Registry) (descriptor : Descriptor) : Prop :=
  descriptor ∈ registry.conditions ∨ descriptor ∈ registry.effects ∨
    descriptor ∈ registry.expressions

/-- The match that a provider is asked about is one of a pattern of the
descriptor, and it is well bound if the descriptor is registered and the pattern
is tidy. -/
def Registry.AsksWell (registry : Registry) (descriptor : Descriptor) (index : Nat)
    (result : MatchResult) : Prop :=
  ∃ pattern, descriptor.patterns[index]? = some pattern ∧
    (registry.Registered descriptor → Pattern.Tidy pattern →
      registry.WellBound pattern result.exprs)

private theorem Registry.Built.checked_of_registered {registry : Registry}
    (built : registry.Built) {descriptor : Descriptor}
    (registered : registry.Registered descriptor) :
    ∀ pattern ∈ descriptor.patterns, Pattern.Checked pattern := by
  rcases registered with condition | effect | expression
  · exact built.checked condition
  · exact built.checked effect
  · exact built.checked expression

theorem consult_heeds {descriptor : Descriptor} {index : Nat} {result : MatchResult}
    (holds : good descriptor index result) :
    Heeds good (fun _ => True) (Matcher.consult descriptor index result :
      Traced _) := by
  apply Heeds.bind (Heeds.ask holds)
  intro verdict _
  cases verdict.element with
  | some element => exact Heeds.bind (Heeds.forward _) fun _ _ => Heeds.pure trivial
  | none =>
      cases LogEntry.lastError? verdict.entries with
      | some entry =>
          exact Heeds.bind (Heeds.record _ _) fun _ _ => Heeds.pure trivial
      | none => exact Heeds.pure trivial

section Selecting

variable {matcher : Matcher Traced}

theorem tryPattern_heeds (built : matcher.registry.Built)
    (resolves : ∀ type text, Heeds matcher.registry.AsksWell
      (fun found => ∀ expr ∈ found, expr.OfType type.toTypeInfo)
        (matcher.resolve type text))
    (text : Text) {descriptor : Descriptor} {pattern : Text × Nat}
    (member : pattern ∈ descriptor.patterns.zipIdx) :
    Heeds matcher.registry.AsksWell (fun _ => True)
      (matcher.tryPattern true text descriptor pattern) := by
  have listed : descriptor.patterns[pattern.2]? = some pattern.1 :=
    List.mem_zipIdx_iff_getElem?.mp member
  apply Heeds.bind (walk_heeds resolves pattern.1 text _ 0 _ _)
  intro found holds
  cases found with
  | none => exact Heeds.pure trivial
  | some result =>
      apply Heeds.bind (Heeds.lift fun _ => id)
      intro filled success
      refine consult_heeds ⟨pattern.1, listed, ?_⟩
      intro registered tidy
      have checked := built.checked_of_registered registered pattern.1
        (List.mem_of_getElem? listed)
      have partly := holds result rfl tidy (Cursor.Placed.start pattern.1)
      exact Registry.fillDefaults_wellBound
        (fun written inside => checked.readable written inside _) partly success

theorem trySource_heeds (built : matcher.registry.Built)
    (resolves : ∀ type text, Heeds matcher.registry.AsksWell
      (fun found => ∀ expr ∈ found, expr.OfType type.toTypeInfo)
        (matcher.resolve type text))
    (text : Text) (source : List Descriptor) :
    Heeds matcher.registry.AsksWell (fun _ => True)
      (matcher.trySource true text source) := by
  have found : Heeds matcher.registry.AsksWell (fun found =>
    ∀ accepted ∈ found, True)
      (matcher.trySource true text source) := by
    apply Heeds.firstSome
    intro descriptor _
    apply Heeds.firstSome
    intro pattern member
    exact (tryPattern_heeds built resolves text member).mono fun _ _ _ _ => trivial
  exact found.mono fun _ _ => trivial

end Selecting

section Nesting

variable {registry : Registry} (built : registry.Built)

theorem nestedElement_heeds {parse : Traced (Option Accepted)}
    (heeds : Heeds good (fun _ => True) parse) :
    Heeds good (fun _ => True) (Registry.nestedElement parse) :=
  Heeds.bind (Heeds.nested heeds) fun _ _ => Heeds.pure trivial

include built in
theorem parseNestedWithin_heeds (minErrorChars : Int) (fuel : Nat) (text : Text) :
    Heeds registry.AsksWell (fun _ => True)
      (registry.parseNestedWithin minErrorChars fuel text :
        Traced (Option Accepted)) := by
  induction fuel generalizing text with
  | zero => exact Heeds.fail _
  | succ fuel induction =>
      have resolves := resolve_heeds registry .script false registry.read
        fun text => nestedElement_heeds (induction text)
      exact trySource_heeds built resolves text registry.expressions

end Nesting

/-- Whenever a provider is asked in the course of a parse, in the parse itself
or in one nested in it, it is asked about a well-bound match.  This holds
however literals are read. -/
theorem asks_wellBound {attempt : Attempt} (built : attempt.registry.Built)
    (read : LiteralReading) {text : Text} {source : List Descriptor}
    {descriptor : Descriptor} {index : Nat} {result : MatchResult}
    (asks : Event.Asks descriptor index result
      ((attempt.matcher (attempt.registry.parseNested attempt.minErrorChars) read :
        Matcher Traced).trySource true text source).events)
    (registered : attempt.registry.Registered descriptor) :
    ∃ pattern, descriptor.patterns[index]? = some pattern ∧
      (Pattern.Tidy pattern → attempt.registry.WellBound pattern result.exprs) := by
  have nested (text : Text) := nestedElement_heeds
    (parseNestedWithin_heeds built attempt.minErrorChars (text.length + 1) text)
  have resolves :=
    resolve_heeds attempt.registry attempt.context attempt.literalOnly read nested
  have heeds : Heeds attempt.registry.AsksWell (fun _ => True)
      ((attempt.matcher (attempt.registry.parseNested attempt.minErrorChars) read :
        Matcher Traced).trySource true text source) :=
      trySource_heeds built resolves text source
  obtain ⟨pattern, listed, bound⟩ := heeds.1 descriptor index result asks
  exact ⟨pattern, listed, bound registered⟩

/-- A condition about one thing and perhaps several others. -/
def Descriptor.pairing : Descriptor :=
  (Recording.plain ⟨"Pairing", 0⟩).descriptor ["%object%[ %-objects%]"] []

def Registry.pairing : Registry where
  types := [⟨.object, .none, none⟩]
  plurals := [("objects", "object")]
  conversions := []
  syntaxes := [(conditionKind, [.pairing]), (effectKind, []),
    (expressionKind, []), (eventKind, [])]
  frozen := false
  regexes := .standard

private theorem Registry.pairing_built : Registry.pairing.Built :=
  .condition .pairing (.type ⟨.object, .none, none⟩ (.blank .standard) rfl) rfl

theorem pairing_wellBound :
    let attempt : Attempt := ⟨.pairing, .script, false, 5⟩
    ∃ result,
      Event.Asks .pairing 0 result
        ((attempt.matcherIn Traced).trySource true "9" [.pairing]).events ∧
      Registry.pairing.Built ∧ Registry.pairing.Registered .pairing ∧
      Registry.pairing.WellBound "%object%[ %-objects%]" result.exprs := by
  intro attempt
  have registered : Registry.pairing.Registered .pairing := .inl List.mem_cons_self
  have asks : ∃ result, Event.Asks .pairing 0 result
      ((attempt.matcherIn Traced).trySource true "9" [.pairing]).events :=
    ⟨_, .here (List.mem_cons_of_mem _ List.mem_cons_self)⟩
  obtain ⟨result, asks⟩ := asks
  have built : attempt.registry.Built := Registry.pairing_built
  obtain ⟨pattern, listed, bound⟩ :=
    asks_wellBound built attempt.registry.read asks registered
  cases listed
  exact ⟨result, asks, built, registered, bound (by decide)⟩

end Phrasebook
