import Phrasebook.Candidate

/-!
# Setup errors that a match may end with

A setup error ends a search at once.  Whatever way a search is carried out in,
the errors that it may end with are those of its steps.  A match with literals
only looks at patterns, types and default expressions, so it ends with no errors
but theirs: none that belongs to registration, to the declaration of a command
or to the loading of modules.
-/

namespace Phrasebook

/-- The errors that a match with literals only may end with. -/
def SetupError.OfMatching : SetupError → Prop
  | .malformedPattern .. | .unknownType _ | .noDefault _ | .defaultNotSingle _
  | .defaultWithoutTimes _ | .endlessNesting => True
  | .registrationClosed | .duplicateType _ | .noPatterns | .badArgumentDefault ..
  | .argumentCount .. | .noRegistration _ => False

/-- A step that ends with an answer or with an error of these. -/
def RaisesOnly {α : Type} (allowed : SetupError → Prop)
    (step : Except SetupError α) : Prop :=
  ∀ error, step = .error error → allowed error

namespace RaisesOnly

variable {α β : Type} {allowed : SetupError → Prop}

theorem ok (answer : α) : RaisesOnly allowed (.ok answer) :=
  fun _ failed => nomatch failed

theorem error {error : SetupError} (holds : allowed error) :
    RaisesOnly allowed (.error error : Except SetupError α) := by
  intro other failed
  cases failed
  exact holds

theorem bind {step : Except SetupError α} {next : α → Except SetupError β}
    (first : RaisesOnly allowed step)
    (later : ∀ answer, RaisesOnly allowed (next answer)) :
    RaisesOnly allowed (step >>= next) := by
  intro error failed
  cases step with
  | error earlier =>
      cases failed
      exact first _ rfl
  | ok answer => exact later answer error failed

end RaisesOnly

/-! ## Searches -/

/-- Which errors the searches of one kind may end with. -/
structure Searching.Raising (m : Type → Type) [Searching m] where
  Raises {α : Type} : m α → SetupError → Prop
  not_pure {α : Type} {answer : α} {error : SetupError} :
    ¬ Raises (pure answer : m α) error
  of_bind {α β : Type} {search : m α} {next : α → m β} {error : SetupError} :
    Raises (search >>= next) error → Raises search error ∨ ∃ answer,
      Raises (next answer) error
  of_fail {α : Type} {given error : SetupError} :
    Raises (Searching.fail given : m α) error → error = given
  not_record {quality : ErrorQuality} {message : Text} {error : SetupError} :
    ¬ Raises (Searching.record quality message : m Unit) error
  not_ask {descriptor : Descriptor} {index : Nat} {result : MatchResult}
    {error : SetupError} :
    ¬ Raises (Searching.ask descriptor index result : m Verdict) error
  not_forward {entries : List LogEntry} {error : SetupError} :
    ¬ Raises (Searching.forward entries : m Unit) error

def Search.raising : Searching.Raising Search where
  Raises search error := search = .error error
  not_pure failed := nomatch failed
  of_bind := by
    intro _ _ search next error failed
    cases search with
    | error earlier =>
        cases failed
        exact .inl rfl
    | ok outcome =>
        obtain ⟨records, answer⟩ := outcome
        refine .inr ⟨answer, ?_⟩
        cases run : next answer with
        | error later =>
            simp only [bind, Search.bind, run] at failed
            exact failed
        | ok result =>
            simp only [bind, Search.bind, run] at failed
            cases failed
  of_fail := by
    intro _ given error failed
    cases failed
    rfl
  not_record failed := nomatch failed
  not_ask failed := nomatch failed
  not_forward failed := nomatch failed

def Tracked.raising : Searching.Raising Tracked where
  Raises search error := ∃ before after, search before = (.error error, after)
  not_pure := fun ⟨_, _, failed⟩ => nomatch failed
  of_bind := by
    intro _ _ search next error ⟨before, after, failed⟩
    change Tracked.bind search next before = (.error error, after) at failed
    rw [Tracked.bind] at failed
    split at failed
    · rename_i earlier middle run
      cases failed
      exact .inl ⟨before, after, run⟩
    · rename_i answer middle run
      exact .inr ⟨answer, middle, after, failed⟩
  of_fail := by
    intro _ given error ⟨_, _, failed⟩
    cases failed
    rfl
  not_record := fun ⟨_, _, failed⟩ => nomatch failed
  not_ask := fun ⟨_, _, failed⟩ => nomatch failed
  not_forward := fun ⟨_, _, failed⟩ => nomatch failed

namespace Searching.Raising

variable {m : Type → Type} [Searching m] (raising : Searching.Raising m)
  {α β : Type}

/-- Every error that the search may end with is one of these. -/
structure Only (allowed : SetupError → Prop) (search : m α) : Prop where
  holds : ∀ error, raising.Raises search error → allowed error

namespace Only

variable {raising} {allowed : SetupError → Prop}

theorem pure (answer : α) : raising.Only allowed (Pure.pure answer : m α) :=
  ⟨fun _ raises => absurd raises raising.not_pure⟩

theorem record (quality : ErrorQuality) (message : Text) :
    raising.Only allowed (Searching.record quality message : m Unit) :=
  ⟨fun _ raises => absurd raises raising.not_record⟩

theorem ask (descriptor : Descriptor) (index : Nat) (result : MatchResult) :
    raising.Only allowed (Searching.ask descriptor index result : m Verdict) :=
  ⟨fun _ raises => absurd raises raising.not_ask⟩

theorem forward (entries : List LogEntry) :
    raising.Only allowed (Searching.forward entries : m Unit) :=
  ⟨fun _ raises => absurd raises raising.not_forward⟩

theorem fail {error : SetupError} (holds : allowed error) :
    raising.Only allowed (Searching.fail error : m α) := by
  constructor
  intro other raises
  rw [raising.of_fail raises]
  exact holds

theorem lift {step : Except SetupError α} (only : RaisesOnly allowed step) :
    raising.Only allowed (Searching.lift step : m α) := by
  cases step with
  | error error => exact fail (only error rfl)
  | ok answer => exact pure answer

theorem bind {search : m α} {next : α → m β} (first : raising.Only allowed search)
    (later : ∀ answer, raising.Only allowed (next answer)) :
    raising.Only allowed (search >>= next) := by
  constructor
  intro error raises
  rcases raising.of_bind raises with early | ⟨answer, late⟩
  · exact first.holds error early
  · exact (later answer).holds error late

theorem map {search : m α} (only : raising.Only allowed search) (change : α → β) :
    raising.Only allowed
      (do let answer ← search; Pure.pure (change answer) : m β) :=
  bind only fun answer => pure (change answer)

theorem firstSome {attempt : α → m (Option β)} {items : List α}
    (only : ∀ item ∈ items, raising.Only allowed (attempt item)) :
    raising.Only allowed (Searching.firstSome attempt items) := by
  induction items with
  | nil => exact pure none
  | cons item items induction =>
      apply bind (only item List.mem_cons_self)
      intro found
      cases found with
      | some answer => exact pure (some answer)
      | none =>
          apply induction
          intro other member
          exact only other (List.mem_cons_of_mem item member)

end Only

end Searching.Raising

open Searching.Raising (Only)

/-! ## Walks -/

section Walking

variable {m : Type → Type} [Searching m] {raising : Searching.Raising m}
  {matcher : Matcher m} {allowed : SetupError → Prop}

theorem Placeholder.read_raises (normalize : Text → Text × Bool) (written : Text) :
    RaisesOnly SetupError.OfMatching (Placeholder.read normalize written) := by
  unfold Placeholder.read
  simp only
  split
  · exact .ok _
  split
  · exact .ok _
  · exact .error trivial

theorem Registry.getType_raises (registry : Registry) (name : Text) :
    RaisesOnly SetupError.OfMatching (registry.getType name) := by
  unfold Registry.getType
  split
  · exact .ok _
  · exact .error trivial

namespace Matcher

theorem fit_raises (placeholder : Placeholder) (type : TypeInfo) (expr : Expr) :
    raising.Only allowed (matcher.fit placeholder type expr) := by
  unfold Matcher.fit
  split
  · exact .bind (.record _ _) fun _ => .pure none
  split
  · exact .pure _
  split
  · exact .pure none
  split
  · exact .pure _
  · exact .bind (.record _ _) fun _ => .pure none

theorem tryCut_raises {slot matched : Nat} {placeholder : Placeholder}
    {type : RegisteredType} {remainder : Cut → m (Option MatchResult)}
    (cut : Cut) (remains : raising.Only allowed (remainder cut))
    (resolves : raising.Only allowed (matcher.resolve type cut.taken)) :
    raising.Only allowed
      (matcher.tryCut slot placeholder type matched remainder cut) := by
  apply Only.bind remains
  intro rest
  cases rest with
  | none => exact .pure none
  | some result =>
      apply Only.bind resolves
      intro found
      cases found with
      | some expr => exact (fit_raises placeholder type.toTypeInfo expr).map _
      | none =>
          apply Only.bind
          · unfold Matcher.complain
            split
            · exact .record _ _
            · exact .pure ()
          · exact fun _ => .pure none

theorem tryCapture_raises (program : RegexProgram)
    {remainder : Cut → m (Option MatchResult)} (cut : Cut)
    (remains : raising.Only allowed (remainder cut)) :
    raising.Only allowed (tryCapture program remainder cut) := by
  apply Only.bind remains
  intro rest
  cases rest with
  | none => exact .pure none
  | some result => exact .pure _

/-- A walk raises no errors but those of patterns and types and of what it
resolves. -/
theorem walk_raises
    (resolves : ∀ type taken,
      raising.Only SetupError.OfMatching (matcher.resolve type taken))
    (text : Text) (fuel matched : Nat) (cursor : Cursor) (position : Position) :
    raising.Only SetupError.OfMatching
      (matcher.walk text fuel matched cursor position) := by
  induction fuel generalizing matched cursor position with
  | zero => exact .pure none
  | succ fuel induction =>
      have malformed (fault : PatternFault) :
          raising.Only SetupError.OfMatching
            (Matcher.malformed cursor fault : m (Option MatchResult)) :=
        .fail trivial
      unfold Matcher.walk
      cases Demand.ofText cursor.rest <;> dsimp only
      case nothing => exact .pure _
      case optional inside =>
        apply Only.bind (induction 0 _ position)
        intro found
        cases found with
        | some result => exact .pure _
        | none =>
            simp only
            split
            · exact malformed _
            · exact induction matched _ position
      case choice inside =>
        split
        · exact malformed _
        · refine (Only.firstSome ?_).map _
          intro place _
          exact (induction 0 _ position).map _
      case placeholder inside =>
        split
        · exact .pure none
        split
        · exact malformed _
        apply Only.bind (.lift (Placeholder.read_raises _ _))
        intro placeholder
        apply Only.bind (.lift (matcher.registry.getType_raises _))
        intro type
        refine (Only.firstSome ?_).map _
        intro cut _
        exact tryCut_raises cut (induction 0 _ _) (resolves type cut.taken)
      case capture inside =>
        split
        · exact malformed _
        split
        · exact malformed _
        refine (Only.firstSome ?_).map _
        intro cut _
        exact tryCapture_raises _ cut (induction 0 _ _)
      case bar inside =>
        split
        · exact malformed _
        · exact induction matched _ position
      case closing => exact induction matched _ position
      case space =>
        split
        · exact .pure none
        · exact induction _ _ _
      case loneBackslash => exact malformed _
      case letter letter length =>
        split
        · exact .pure none
        · exact induction _ _ _

end Matcher

end Walking

/-! ## Literals -/

section Literals

variable {m : Type → Type} [Searching m] {raising : Searching.Raising m}
  {allowed : SetupError → Prop}

theorem Expr.convertText_raises {read : LiteralReading} {type : RegisteredType}
    {context : ParseContext}
    (reads : ∀ text, RaisesOnly allowed (read type text context))
    (text : Text) :
    RaisesOnly allowed (Expr.convertText read type context text) := by
  have all (texts : List Text) :
      RaisesOnly allowed
        (Expr.readAll (fun part => read type (Text.strip part) context)
          texts) := by
    induction texts with
    | nil => exact .ok _
    | cons text texts induction =>
        apply RaisesOnly.bind (reads _)
        intro value
        cases value with
        | none => exact .ok none
        | some value => exact induction.bind fun values => .ok _
  unfold Expr.convertText
  split
  · exact .ok _
  apply RaisesOnly.bind (reads text)
  intro value
  cases value with
  | some value => exact .ok _
  | none =>
      simp only
      split
      · exact .ok none
      · exact (all _).bind fun values => .ok _

/-- With literals only a text is resolved with no errors but those of the
literals that the type reads. -/
theorem Resolver.resolve_raises (resolver : Resolver m)
    (literalOnly : resolver.literalOnly = true) {type : RegisteredType}
    (reads : ∀ text, RaisesOnly allowed (resolver.read type text resolver.context))
    (text : Text) :
    raising.Only allowed (resolver.resolve type text) := by
  have literal : RaisesOnly allowed (resolver.literal? type text) := by
    unfold Resolver.literal?
    simp only
    split
    · exact .ok _
    split
    · exact .ok none
    · exact Expr.convertText_raises reads _
  unfold Resolver.resolve
  rw [if_pos literalOnly]
  apply Only.bind (.lift literal)
  intro found
  cases found with
  | some expr => exact .pure (some expr)
  | none => exact .bind (.record _ _) fun _ => .pure none

theorem Registry.fillDefaults_raises (registry : Registry) (pattern : Text)
    (result : MatchResult) :
    RaisesOnly SetupError.OfMatching (registry.fillDefaults pattern result) := by
  have default (placeholder : Placeholder) :
      RaisesOnly SetupError.OfMatching (registry.bindDefault placeholder) := by
    unfold Registry.bindDefault
    split
    · exact .error trivial
    split
    · exact .error trivial
    have typed (timed : Element) : RaisesOnly SetupError.OfMatching (do
        let type ← registry.getType placeholder.name
        pure (Expr.computed timed type.toTypeInfo none)) :=
      (registry.getType_raises placeholder.name).bind fun type => .ok _
    simp only
    split
    · exact typed _
    split
    · exact typed _
    · exact .error trivial
  have slots (placeholders : List Text) (exprs : List (Option Expr)) :
      RaisesOnly SetupError.OfMatching (registry.fillSlots placeholders exprs) := by
    fun_induction registry.fillSlots placeholders exprs with
    | case1 written rest exprs dashed induction =>
        exact induction.bind fun _ => .ok _
    | case2 written rest exprs plain induction =>
        apply RaisesOnly.bind (Placeholder.read_raises _ _)
        intro placeholder
        exact (default placeholder).bind fun expr => induction.bind fun _ => .ok _
    | case3 written rest expr exprs induction => exact induction.bind fun _ => .ok _
    | case4 placeholders exprs => exact .ok _
  exact (slots _ _).bind fun exprs => .ok _

theorem Matcher.trySource_raises {matcher : Matcher m}
    (resolves : ∀ type taken,
      raising.Only SetupError.OfMatching (matcher.resolve type taken))
    (fill : Bool) (text : Text) (source : List Descriptor) :
    raising.Only SetupError.OfMatching (matcher.trySource fill text source) := by
  refine Only.firstSome fun descriptor _ => Only.firstSome fun pattern _ => ?_
  apply Only.bind (Matcher.walk_raises resolves text _ 0 _ _)
  intro found
  cases found with
  | none => exact .pure none
  | some result =>
      apply Only.bind
      · apply Only.lift
        unfold Matcher.complete
        split
        · exact matcher.registry.fillDefaults_raises _ _
        · exact .ok result
      · intro filled
        apply Only.bind (.ask _ _ _)
        intro verdict
        split
        · exact .bind (.forward _) fun _ => .pure _
        · split
          · exact .bind (.record _ _) fun _ => .pure none
          · exact .pure none

theorem Registry.readWithin_raises (registry : Registry) (fuel : Nat)
    (type : RegisteredType) (text : Text) (context : ParseContext) :
    RaisesOnly SetupError.OfMatching
      (registry.readWithin fuel type text context) := by
  induction fuel generalizing type text context with
  | zero => exact .error trivial
  | succ fuel induction =>
      unfold Registry.readWithin
      split
      · exact .ok none
      · exact .ok _
      · rename_i kind _
        have raises : Search.raising.Only SetupError.OfMatching
            (((⟨registry, .script, true, 5⟩ : Attempt).matcher (fun _ => pure none)
              (registry.readWithin fuel)).trySource true text
                (registry.syntaxesOf kind)) := by
          apply Matcher.trySource_raises
          intro type taken
          exact Resolver.resolve_raises
            ⟨registry, .script, true, fun _ => pure none,
              registry.readWithin fuel⟩ rfl
            (fun text => induction type text .script) taken
        simp only
        split
        · rename_i error failed
          exact .error (raises.holds error failed)
        · exact .ok _

/-- A match with literals only ends with no errors but those of patterns, types
and default expressions. -/
theorem Attempt.run_raises (registry : Registry) (context : ParseContext)
    (minErrorChars : Int) (pattern text : Text) :
    raising.Only SetupError.OfMatching
      (((⟨registry, context, true, minErrorChars⟩ : Attempt).matcherIn m).run
        pattern text) := by
  apply Matcher.walk_raises
  intro type taken
  exact Resolver.resolve_raises
    ⟨registry, context, true, registry.parseNested minErrorChars, registry.read⟩ rfl
    (fun text => registry.readWithin_raises _ type text context) taken

end Literals

end Phrasebook
