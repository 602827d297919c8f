import Phrasebook.Proofs.Builtins
import Phrasebook.Proofs.Search.Laws
import Phrasebook.Proofs.Search.Tracking
import Phrasebook.Provider.Recording

/-!
# Errors that a success leaves behind

A text that resolves logs nothing and fails nowhere itself.  Still, the parse of
it against the registered expressions may have failed before the text was found
to be a literal.  The best error of that parse is taken into account all the
same.
-/

namespace Phrasebook

/-! ## Resolving with records listed -/

section Listed

variable {records : List ErrorRecord}

theorem Search.lift_found {α : Type} {step : Except SetupError α} {answer : α}
    (found : (Searching.lift step : Search α) = .ok (records, answer)) :
    records = [] := by
  cases step with
  | error error => cases found
  | ok other =>
      cases found
      rfl

variable {resolver : Resolver Search} {type : RegisteredType} {text : Text}
  {expr : Expr}

private theorem Resolver.resolveLiteral_found
    (found : resolver.resolveLiteral type text = .ok (records, some expr)) :
    records = [] := by
  obtain ⟨earlier, literal, later, first, second, rfl⟩ := Search.bind_found found
  obtain rfl := Search.lift_found first
  cases literal with
  | some literal =>
      cases second
      rfl
  | none => cases second

private theorem Resolver.resolveComputed_found {computed : ComputedElement}
    (found : resolver.resolveComputed type computed = .ok (records, some expr)) :
    records = [] := by
  obtain ⟨_, own, _, first, second, rfl⟩ := Search.bind_found found
  obtain rfl := Search.lift_found first
  obtain ⟨_, converted, later, third, fourth, rfl⟩ := Search.bind_found second
  obtain rfl := Search.lift_found third
  cases converted with
  | some converted =>
      cases fourth
      rfl
  | none => cases fourth

/-- Of a text that resolves no records are left but those of the nested parse. -/
theorem Resolver.resolve_found
    (found : resolver.resolve type text = .ok (records, some expr)) :
    (records = [] ∧
        (resolver.literalOnly = true ∨
          Expr.readVariable? text type.toTypeInfo ≠ none)) ∨
      resolver.literalOnly = false ∧
      Expr.readVariable? text type.toTypeInfo = none ∧
        ∃ computed, resolver.parseNested text = .ok (records, computed) := by
  unfold Resolver.resolve at found
  split at found
  · rename_i literalOnly
    exact .inl ⟨resolveLiteral_found found, .inl literalOnly⟩
  rename_i unrestricted
  cases isVariable : Expr.readVariable? text type.toTypeInfo with
  | some reference =>
      rw [isVariable] at found
      cases found
      exact .inl ⟨rfl, .inr (Option.some_ne_none _)⟩
  | none =>
      rw [isVariable] at found
      refine .inr ⟨Bool.eq_false_iff.mpr unrestricted, rfl, ?_⟩
      obtain ⟨earlier, computed, later, nested, second, rfl⟩ :=
        Search.bind_found found
      cases computed with
      | some computed =>
          obtain rfl := resolveComputed_found second
          exact ⟨some computed, by rw [nested, List.append_nil]⟩
      | none =>
          obtain rfl := resolveLiteral_found second
          exact ⟨none, by rw [nested, List.append_nil]⟩

end Listed

/-! ## Resolving within an attempt -/

namespace Attempt

def nestedParse (attempt : Attempt) (text : Text) : Search (Option Accepted) :=
  attempt.registry.parseNestedWithin attempt.minErrorChars (text.length + 1) text

/-- Resolving the text comes to its parse against the registered expressions,
which fails and leaves these records. -/
structure FailsNested (attempt : Attempt) (type : RegisteredType) (text : Text)
    (records : List ErrorRecord) : Prop where
  unrestricted : attempt.literalOnly = false
  noVariable : Expr.readVariable? text type.toTypeInfo = none
  failed : attempt.nestedParse text = .ok (records, none)

variable {attempt : Attempt} {type : RegisteredType} {text : Text}
  {records : List ErrorRecord} {expr : Expr}

private theorem ready_parseNested {computed : Option ComputedElement}
    (found : (attempt.registry.parseNested attempt.minErrorChars text :
      Search (Option ComputedElement)) = .ok (records, computed)) :
    attempt.nestedParse text = .ok (records, none) ∨
      records = [] ∧ ∃ dropped accepted, attempt.nestedParse text =
        .ok (dropped, some accepted) := by
  obtain ⟨earlier, accepted, later, nested, second, rfl⟩ := Search.bind_found found
  cases second
  rw [List.append_nil]
  change (attempt.nestedParse text).settled = _ at nested
  rcases parsed : attempt.nestedParse text with error | ⟨dropped, none | accepted⟩
  · rw [parsed] at nested
    cases nested
  · rw [parsed] at nested
    cases nested
    exact .inl rfl
  · rw [parsed] at nested
    cases nested
    exact .inr ⟨rfl, dropped, accepted, rfl⟩

/-- A text that resolves leaves the records of its failed parse, or none. -/
theorem ready_resolve
    (found : attempt.ready.resolve type text = .ok (records, some expr)) :
    attempt.FailsNested type text records ∨
      records = [] ∧ ∀ failed, ¬ attempt.FailsNested type text failed := by
  rcases Resolver.resolve_found found with
    ⟨rfl, restricted⟩ | ⟨unrestricted, noVariable, computed, nested⟩
  · refine .inr ⟨rfl, ?_⟩
    intro failed fails
    rcases restricted with literalOnly | isVariable
    · cases literalOnly.symm.trans fails.unrestricted
    · exact isVariable fails.noVariable
  · rcases ready_parseNested nested with failed | ⟨rfl, dropped, accepted, parsed⟩
    · exact .inl ⟨unrestricted, noVariable, failed⟩
    · refine .inr ⟨rfl, ?_⟩
      intro failed fails
      cases parsed.symm.trans fails.failed

/-- Resolving a text as an expression logs nothing, and the best error stays
what it was.  Only if the parse of the text against the registered expressions
has failed before the text was found to be a literal, the best error of that
parse takes its place, if it is better. -/
theorem resolve_keeps {before after : Tracker}
    (resolved : attempt.tracked.resolve type text before =
      (.ok (some expr), after)) :
    (∃ opened, after.log = before.log.withOpened opened) ∧
      (∀ records, attempt.FailsNested type text records →
        after.best =
          if before.best.quality.rank <
              (BestError.ofRecords records).quality.rank then
            .ofRecords records
          else before.best) ∧
      ((∀ records, ¬ attempt.FailsNested type text records) →
        after.best = before.best) := by
  have follows : Tracked.Follows Tracked.silent (attempt.tracked.resolve type text)
      (attempt.ready.resolve type text) :=
    (Tracked.selection.attempt_alike attempt).resolve type text
  obtain ⟨left, found⟩ := follows.answered resolved
  obtain ⟨opened, reflects⟩ := follows before
  rw [found] at reflects
  obtain ⟨_, outcome⟩ := reflects
  cases resolved.symm.trans outcome
  refine ⟨⟨opened, rfl⟩, ?_, ?_⟩
  · intro records fails
    obtain rfl : left = records := by
      rcases ready_resolve found with failed | ⟨_, never⟩
      · cases failed.failed.symm.trans fails.failed
        rfl
      · exact absurd fails (never records)
    have sound := BestError.sound_foldl_record BestError.sound_empty left
    exact (BestError.merge_ofRecords before.best left).symm.trans
      (BestError.merge_eq sound)
  · intro never
    rcases ready_resolve found with failed | ⟨rfl, _⟩
    · exact absurd failed (never left)
    · rfl

end Attempt

/-- An expression that is written like the number five and complains instead of
accepting. -/
def Descriptor.doubting : Descriptor :=
  let recording : Recording := { Recording.plain ⟨"Doubting", 0⟩ with
    accepts := false, entries := [.ofSeverity .error "no five"] }
  { recording.descriptor ["5"] [] with role := .expression "number" }

def Registry.doubting : Registry :=
  { builtins with
    syntaxes := [(conditionKind, []), (effectKind, []),
      (expressionKind, [.doubting]), (eventKind, [])] }

namespace Attempt

/-- The complaint does not displace an error that is as good. -/
theorem resolve_keeps_doubt :
    let attempt : Attempt := ⟨.doubting, .script, false, 5⟩
    let before : Tracker := ⟨⟨.semantic, some "no sense"⟩, .empty⟩
    attempt.FailsNested .integer "5" [⟨.semantic, "no five"⟩] ∧
      ∃ expr after, attempt.tracked.resolve .integer "5" before =
        (.ok (some expr), after) ∧
        after.best = before.best ∧ ∃ opened,
          after.log = before.log.withOpened opened := by
  intro attempt before
  have fails : attempt.FailsNested .integer "5" [⟨.semantic, "no five"⟩] :=
    ⟨rfl, rfl, rfl⟩
  have resolves : ∃ expr after,
      attempt.tracked.resolve .integer "5" before = (.ok (some expr), after) :=
    ⟨_, _, rfl⟩
  obtain ⟨expr, after, resolved⟩ := resolves
  obtain ⟨logged, displaced, _⟩ := resolve_keeps resolved
  exact ⟨fails, expr, after, resolved, displaced _ fails, logged⟩

/-- The number resolves, and the complaint of the expression is left behind. -/
theorem resolve_leaves_doubt :
    let attempt : Attempt := ⟨.doubting, .script, false, 5⟩
    ∃ expr after, attempt.tracked.resolve .integer "5" ⟨.empty, .empty⟩ =
      (.ok (some expr), after) ∧
      expr.literalValues = [.datum (.int 5)] ∧
      after.best = ⟨.semantic, some "no five"⟩ ∧ after.best ≠ BestError.empty :=
  ⟨_, _, rfl, rfl, rfl, by decide⟩

end Attempt

end Phrasebook
