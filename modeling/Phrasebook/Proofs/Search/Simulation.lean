import Phrasebook.Candidate

/-!
# Searches carried out in two ways

Matchers and resolvers use nothing of a search but the steps that every way of
carrying it out offers.  A relation between computations of two kinds that
those steps keep is therefore kept by walks along a pattern and by resolving a
text, whatever the computations are.
-/

namespace Phrasebook

/-- A relation between computations of two kinds that the steps of a matcher
keep. -/
structure Searching.Simulation (m n : Type → Type) [Searching m] [Searching n] where
  Related {α : Type} : m α → n α → Prop
  pure_related {α : Type} (answer : α) : Related (pure answer) (pure answer)
  bind_related {α β : Type} {left : m α} {right : n α}
    {leftNext : α → m β} {rightNext : α → n β} :
    Related left right → (∀ answer, Related (leftNext answer) (rightNext answer)) →
      Related (left >>= leftNext) (right >>= rightNext)
  fail_related {α : Type} (error : SetupError) :
    Related (Searching.fail error : m α) (Searching.fail error)
  record_related {quality : ErrorQuality} (ranked : 0 < quality.rank)
    (message : Text) :
    Related (Searching.record quality message) (Searching.record quality message)

variable {m n : Type → Type} [Searching m] [Searching n]

namespace Searching.Simulation

variable (simulation : Searching.Simulation m n)

theorem lift_related {α : Type} (step : Except SetupError α) :
    simulation.Related (Searching.lift step) (Searching.lift step) := by
  cases step with
  | error error => exact simulation.fail_related error
  | ok answer => exact simulation.pure_related answer

theorem firstSome_related {α β : Type} {left : α → m (Option β)}
    {right : α → n (Option β)} (items : List α)
    (related : ∀ item, item ∈ items → simulation.Related (left item) (right item)) :
    simulation.Related (Searching.firstSome left items)
      (Searching.firstSome right items) := by
  induction items with
  | nil => exact simulation.pure_related none
  | cons item items induction =>
      apply simulation.bind_related (related item List.mem_cons_self)
      intro found
      cases found with
      | some answer => exact simulation.pure_related (some answer)
      | none =>
          exact induction fun later member =>
            related later (List.mem_cons_of_mem item member)

end Searching.Simulation

theorem Searching.firstSome_congr {α β : Type} {left right : α → m (Option β)}
    {items : List α} (same : ∀ item ∈ items, left item = right item) :
    Searching.firstSome left items = Searching.firstSome right items := by
  induction items with
  | nil => rfl
  | cons item items induction =>
      obtain ⟨here, behind⟩ := List.forall_mem_cons.mp same
      simp only [Searching.firstSome, here, induction behind]

/-- What a walk does at a placeholder that it has read. -/
def Matcher.tryCuts (matcher : Matcher m) (slot : Nat) (placeholder : Placeholder)
    (matched : Nat) (cuts : List Cut) (remainder : Cut → m (Option MatchResult)) :
    m (Option MatchResult) := do
  let type ← Searching.lift (matcher.registry.getType placeholder.name)
  let found ← Searching.firstSome
    (matcher.tryCut slot placeholder type matched remainder) cuts
  pure ((found.getD none).map (·.plusChars matched))

/-- Two matchers that read placeholders and regular expressions alike, and whose
tries at a placeholder are related whenever what they do behind it is. -/
structure Matcher.Concur (simulation : Searching.Simulation m n)
    (left : Matcher m) (right : Matcher n) : Prop where
  normalize : left.registry.normalize = right.registry.normalize
  regexes : left.registry.regexes = right.registry.regexes
  tryCuts : ∀ (slot : Nat) (placeholder : Placeholder) (matched : Nat)
    (cuts : List Cut) {leftRemainder : Cut → m (Option MatchResult)}
    {rightRemainder : Cut → n (Option MatchResult)},
    (∀ cut, simulation.Related (leftRemainder cut) (rightRemainder cut)) →
      simulation.Related (left.tryCuts slot placeholder matched cuts leftRemainder)
        (right.tryCuts slot placeholder matched cuts rightRemainder)

namespace Matcher.Concur

variable {simulation : Searching.Simulation m n} {left : Matcher m}
  {right : Matcher n}

theorem tryCapture_related (program : RegexProgram)
    {leftRemainder : Cut → m (Option MatchResult)}
    {rightRemainder : Cut → n (Option MatchResult)}
    (related : ∀ cut, simulation.Related (leftRemainder cut) (rightRemainder cut))
    (cut : Cut) :
    simulation.Related (Matcher.tryCapture program leftRemainder cut)
      (Matcher.tryCapture program rightRemainder cut) := by
  unfold Matcher.tryCapture
  apply simulation.bind_related (related cut)
  intro remainder
  cases remainder with
  | none => exact simulation.pure_related none
  | some result => exact simulation.pure_related _

/-- Matchers that concur at placeholders walk alike. -/
theorem walk_related (concur : Matcher.Concur simulation left right) (text : Text)
    (fuel matched : Nat) (cursor : Cursor) (position : Position) :
    simulation.Related (left.walk text fuel matched cursor position)
      (right.walk text fuel matched cursor position) := by
  induction fuel generalizing matched cursor position with
  | zero => exact simulation.pure_related none
  | succ fuel induction =>
      unfold Matcher.walk
      cases Demand.ofText cursor.rest <;> dsimp only
      case nothing => exact simulation.pure_related _
      case optional inside =>
          apply simulation.bind_related (induction 0 _ position)
          intro found
          cases found with
          | some result => exact simulation.pure_related _
          | none =>
              cases Pattern.closingOffset ']' '[' 0 inside with
              | none => exact simulation.fail_related _
              | some offset => exact induction matched _ position
      case choice inside =>
          cases Pattern.closingOffset ')' '(' 0 inside with
          | none => exact simulation.fail_related _
          | some offset =>
              refine simulation.bind_related ?_ fun found =>
                simulation.pure_related _
              apply simulation.firstSome_related
              intro start _
              exact simulation.bind_related (induction 0 _ position)
                fun result => simulation.pure_related _
      case placeholder inside =>
          rw [concur.normalize]
          split
          · exact simulation.pure_related none
          cases Pattern.unescapedOffset '%' inside with
          | none => exact simulation.fail_related _
          | some offset =>
              apply simulation.bind_related (simulation.lift_related _)
              intro placeholder
              exact concur.tryCuts cursor.slot placeholder matched _
                fun cut => induction 0 _ (position.after cut)
      case capture inside =>
          cases Pattern.regexEndOffset inside with
          | none => exact simulation.fail_related _
          | some offset =>
              simp only [concur.regexes]
              split
              · exact simulation.fail_related _
              · refine simulation.bind_related ?_ fun found =>
                  simulation.pure_related _
                apply simulation.firstSome_related
                intro cut _
                exact tryCapture_related _ (fun cut =>
                  induction 0 _ (position.after cut)) cut
      case bar inside =>
          cases Pattern.closingOffset ')' '(' 0 inside with
          | none => exact simulation.fail_related _
          | some offset => exact induction matched _ position
      case closing => exact induction matched _ position
      case space =>
          cases position.takeSpace with
          | none => exact simulation.pure_related none
          | some taken => exact induction _ _ taken.2
      case loneBackslash => exact simulation.fail_related _
      case letter letter length =>
          cases position.takeLetter letter with
          | none => exact simulation.pure_related none
          | some next => exact induction (matched + 1) _ next

theorem run_related (concur : Matcher.Concur simulation left right)
    (pattern text : Text) :
    simulation.Related (left.run pattern text) (right.run pattern text) :=
  concur.walk_related text _ 0 _ _

end Matcher.Concur

/-- Two matchers that look alike: they know the same types and regular expressions,
and the ways in which they resolve texts are related. -/
structure Matcher.Alike (simulation : Searching.Simulation m n)
    (left : Matcher m) (right : Matcher n) : Prop where
  normalize : left.registry.normalize = right.registry.normalize
  regexes : left.registry.regexes = right.registry.regexes
  getType : left.registry.getType = right.registry.getType
  context : left.context = right.context
  minErrorChars : left.minErrorChars = right.minErrorChars
  resolve : ∀ type text,
    simulation.Related (left.resolve type text) (right.resolve type text)

namespace Matcher.Alike

variable {simulation : Searching.Simulation m n} {left : Matcher m}
  {right : Matcher n}

theorem fit_related (alike : Matcher.Alike simulation left right)
    (placeholder : Placeholder) (type : TypeInfo) (expr : Expr) :
    simulation.Related (left.fit placeholder type expr)
      (right.fit placeholder type expr) := by
  unfold Matcher.fit
  rw [alike.context]
  split
  · exact simulation.bind_related (simulation.record_related (by decide) _)
      fun _ => simulation.pure_related none
  split
  · exact simulation.pure_related (some expr)
  split
  · exact simulation.pure_related none
  cases expr.setTime placeholder.time with
  | some timed => exact simulation.pure_related (some timed)
  | none =>
      exact simulation.bind_related (simulation.record_related (by decide) _)
        fun _ => simulation.pure_related none

theorem complain_related (alike : Matcher.Alike simulation left right)
    (type : TypeInfo) (taken : Text) (chars : Nat) :
    simulation.Related (left.complain type taken chars)
      (right.complain type taken chars) := by
  unfold Matcher.complain
  rw [alike.minErrorChars]
  split
  · exact simulation.record_related (by decide) _
  · exact simulation.pure_related ()

theorem tryCut_related (alike : Matcher.Alike simulation left right)
    (slot : Nat) (placeholder : Placeholder) (type : RegisteredType)
    (matched : Nat) {leftRemainder : Cut → m (Option MatchResult)}
    {rightRemainder : Cut → n (Option MatchResult)}
    (related : ∀ cut, simulation.Related (leftRemainder cut) (rightRemainder cut))
    (cut : Cut) :
    simulation.Related (left.tryCut slot placeholder type matched leftRemainder cut)
      (right.tryCut slot placeholder type matched rightRemainder cut) := by
  unfold Matcher.tryCut
  apply simulation.bind_related (related cut)
  intro remainder
  cases remainder with
  | none => exact simulation.pure_related none
  | some result =>
      apply simulation.bind_related (alike.resolve type cut.taken)
      intro resolved
      cases resolved with
      | some expr =>
          exact simulation.bind_related
            (alike.fit_related placeholder type.toTypeInfo expr)
            fun fitted => simulation.pure_related
              (some (fitted.map (result.bind slot)))
      | none =>
          exact simulation.bind_related
            (alike.complain_related type.toTypeInfo cut.taken
              (result.matchedChars + matched))
            fun _ => simulation.pure_related none

theorem concur (alike : Matcher.Alike simulation left right) :
    Matcher.Concur simulation left right where
  normalize := alike.normalize
  regexes := alike.regexes
  tryCuts := by
    intro slot placeholder matched cuts leftRemainder rightRemainder related
    unfold Matcher.tryCuts
    rw [alike.getType]
    apply simulation.bind_related (simulation.lift_related _)
    intro type
    refine simulation.bind_related ?_ fun found => simulation.pure_related _
    apply simulation.firstSome_related
    intro cut _
    exact alike.tryCut_related slot placeholder type matched related cut

theorem run_related (alike : Matcher.Alike simulation left right)
    (pattern text : Text) :
    simulation.Related (left.run pattern text) (right.run pattern text) :=
  alike.concur.run_related pattern text

end Matcher.Alike

namespace Searching.Simulation

variable (simulation : Searching.Simulation m n)

theorem resolveLiteral_related (registry : Registry) (context : ParseContext)
    (literalOnly : Bool) (read : LiteralReading)
    (leftNested : Text → m (Option ComputedElement))
    (rightNested : Text → n (Option ComputedElement)) (type : RegisteredType)
    (text : Text) :
    simulation.Related
      (Resolver.resolveLiteral ⟨registry, context, literalOnly, leftNested,
        read⟩ type text)
      (Resolver.resolveLiteral ⟨registry, context, literalOnly, rightNested,
        read⟩ type text) := by
  unfold Resolver.resolveLiteral
  apply simulation.bind_related (simulation.lift_related _)
  intro literal
  cases literal with
  | some expr => exact simulation.pure_related (some expr)
  | none =>
      exact simulation.bind_related (simulation.record_related (by decide) _)
        fun _ => simulation.pure_related none

theorem resolveComputed_related (registry : Registry) (context : ParseContext)
    (literalOnly : Bool) (read : LiteralReading)
    (leftNested : Text → m (Option ComputedElement))
    (rightNested : Text → n (Option ComputedElement)) (type : RegisteredType)
    (computed : ComputedElement) :
    simulation.Related
      (Resolver.resolveComputed ⟨registry, context, literalOnly, leftNested,
        read⟩ type computed)
      (Resolver.resolveComputed ⟨registry, context, literalOnly,
        rightNested, read⟩ type
        computed) := by
  unfold Resolver.resolveComputed
  apply simulation.bind_related (simulation.lift_related _)
  intro own
  apply simulation.bind_related (simulation.lift_related _)
  intro converted
  cases converted with
  | some expr => exact simulation.pure_related (some expr)
  | none =>
      exact simulation.bind_related (simulation.record_related (by decide) _)
        fun _ => simulation.pure_related none

/-- Resolvers whose nested parses are related resolve alike. -/
theorem resolve_related (registry : Registry) (context : ParseContext)
    (literalOnly : Bool) (read : LiteralReading)
    {leftNested : Text → m (Option ComputedElement)}
    {rightNested : Text → n (Option ComputedElement)}
    (nested : ∀ text, simulation.Related (leftNested text) (rightNested text))
    (type : RegisteredType) (text : Text) :
    simulation.Related
      (Resolver.resolve ⟨registry, context, literalOnly, leftNested,
        read⟩ type text)
      (Resolver.resolve ⟨registry, context, literalOnly, rightNested,
        read⟩ type text) := by
  unfold Resolver.resolve
  simp only
  split
  · exact simulation.resolveLiteral_related registry context literalOnly read
      _ _ type text
  split
  · exact simulation.pure_related _
  apply simulation.bind_related (nested text)
  intro found
  cases found with
  | some computed =>
      exact simulation.resolveComputed_related registry context literalOnly read
        _ _ type computed
  | none =>
      exact simulation.resolveLiteral_related registry context literalOnly read
        _ _ type text

/-- Attempts under the same circumstances whose nested parses are related have
matchers that look alike. -/
theorem matcher_alike (attempt : Attempt) (read : LiteralReading)
    {leftNested : Text → m (Option ComputedElement)}
    {rightNested : Text → n (Option ComputedElement)}
    (nested : ∀ text, simulation.Related (leftNested text) (rightNested text)) :
    Matcher.Alike simulation (attempt.matcher leftNested read)
      (attempt.matcher rightNested read) where
  normalize := rfl
  regexes := rfl
  getType := rfl
  context := rfl
  minErrorChars := rfl
  resolve := simulation.resolve_related attempt.registry attempt.context
    attempt.literalOnly read
    nested

end Searching.Simulation

/-! ## Candidates -/

/-- A relation that the selection of candidates keeps as well.  Where an element is
looked for, its own relation takes the place of the one between steps. -/
structure Searching.Selection (m n : Type → Type) [Searching m] [Searching n]
    extends Searching.Simulation m n where
  Found : m (Option Accepted) → n (Option Accepted) → Prop
  none_found : Found (pure none) (pure none)
  fail_found (error : SetupError) :
    Found (Searching.fail error) (Searching.fail error)
  bind_found {α : Type} {left : m α} {right : n α}
    {leftNext : α → m (Option Accepted)} {rightNext : α → n (Option Accepted)} :
    Related left right → (∀ answer, Found (leftNext answer) (rightNext answer)) →
      Found (left >>= leftNext) (right >>= rightNext)
  firstSome_found {α : Type} {left : α → m (Option Accepted)}
    {right : α → n (Option Accepted)} (items : List α) :
    (∀ item, item ∈ items → Found (left item) (right item)) →
      Found (Searching.firstSome left items) (Searching.firstSome right items)
  consult_found (descriptor : Descriptor) (index : Nat) (result : MatchResult) :
    Found (Matcher.consult descriptor index result)
      (Matcher.consult descriptor index result)
  nested_related {left : m (Option Accepted)} {right : n (Option Accepted)} :
    Found left right → Related (Searching.nested left) (Searching.nested right)

namespace Searching.Selection

variable (selection : Searching.Selection m n)

section Source

variable {left : Matcher m} {right : Matcher n}

private theorem tryPattern_found
    (concur : Matcher.Concur selection.toSimulation left right)
    (complete : left.complete = right.complete) (fill : Bool) (text : Text)
    (descriptor : Descriptor) (pattern : Text × Nat) :
    selection.Found (left.tryPattern fill text descriptor pattern)
      (right.tryPattern fill text descriptor pattern) := by
  unfold Matcher.tryPattern
  apply selection.bind_found (concur.run_related pattern.1 text)
  intro found
  cases found with
  | none => exact selection.none_found
  | some result =>
      rw [complete]
      exact selection.bind_found (selection.toSimulation.lift_related _)
        fun filled => selection.consult_found descriptor pattern.2 filled

theorem trySource_found (concur : Matcher.Concur selection.toSimulation left right)
    (complete : left.complete = right.complete) (fill : Bool) (text : Text)
    (source : List Descriptor) :
    selection.Found (left.trySource fill text source)
      (right.trySource fill text source) := by
  apply selection.firstSome_found source
  intro descriptor _
  apply selection.firstSome_found descriptor.patterns.zipIdx
  intro pattern _
  exact selection.tryPattern_found concur complete fill text descriptor pattern

end Source

theorem nestedElement_related {left : m (Option Accepted)}
    {right : n (Option Accepted)} (found : selection.Found left right) :
    selection.Related (Registry.nestedElement left)
      (Registry.nestedElement right) :=
  selection.bind_related (selection.nested_related found) fun _ =>
    selection.pure_related _

private theorem parseNestedWithin_found (registry : Registry)
    (minErrorChars : Int) (fuel : Nat) (text : Text) :
    selection.Found (registry.parseNestedWithin minErrorChars fuel text)
      (registry.parseNestedWithin minErrorChars fuel text) := by
  induction fuel generalizing text with
  | zero => exact selection.fail_found .endlessNesting
  | succ fuel induction =>
      unfold Registry.parseNestedWithin
      have alike := selection.matcher_alike ⟨registry, .script, false,
        minErrorChars⟩
        registry.read fun text => selection.nestedElement_related (induction text)
      exact selection.trySource_found alike.concur rfl true text
        registry.expressions

theorem attempt_alike (attempt : Attempt) :
    Matcher.Alike selection.toSimulation (attempt.matcherIn m)
      (attempt.matcherIn n) :=
  selection.matcher_alike attempt attempt.registry.read fun text =>
    selection.nestedElement_related
      (selection.parseNestedWithin_found attempt.registry
        attempt.minErrorChars _ text)

def identity (m : Type → Type) [Searching m] : Searching.Selection m m where
  Related := Eq
  pure_related _ := rfl
  bind_related same next := by rw [same, funext next]
  fail_related _ := rfl
  record_related _ _ := rfl
  Found := Eq
  none_found := rfl
  fail_found _ := rfl
  bind_found same next := by rw [same, funext next]
  firstSome_found _ same := Searching.firstSome_congr same
  consult_found _ _ _ := rfl
  nested_related same := by rw [same]

end Searching.Selection

end Phrasebook
