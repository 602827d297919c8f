import Phrasebook.Proofs.Shrinking.Walk
import Phrasebook.Proofs.Builtins

/-!
# How deep expressions are nested

What an anchored pattern hands on to be resolved is shorter than the text it is
matched against.  So each parse of an expression inside of another one has a
shorter text, and no more of them are nested than the text has characters, and
one.
-/

namespace Phrasebook

/-! ## Texts handed on -/

/-- A computation that keeps the texts that are handed on to be resolved, and
may hit a setup error. -/
structure Watched (α : Type) where
  handed : List Text
  answer : Except SetupError α

namespace Watched

protected def bind {α β : Type} (watched : Watched α) (next : α → Watched β) :
    Watched β :=
  match watched.answer with
  | .error error => ⟨watched.handed, .error error⟩
  | .ok answer => ⟨watched.handed ++ (next answer).handed, (next answer).answer⟩

instance : Monad Watched where
  pure answer := ⟨[], .ok answer⟩
  bind := Watched.bind

instance : LawfulMonad Watched := LawfulMonad.mk' Watched
  (by
    intro α watched
    obtain ⟨handed, answer⟩ := watched
    cases answer with
    | error error => rfl
    | ok answer =>
        change Watched.mk (handed ++ []) (.ok answer) = ⟨handed, .ok answer⟩
        rw [List.append_nil])
  (fun _ _ => rfl)
  (by
    intro α β γ watched first second
    obtain ⟨handed, answer⟩ := watched
    cases answer with
    | error error => rfl
    | ok answer =>
        change Watched.bind (Watched.bind ⟨handed, .ok answer⟩ first) second =
          Watched.bind ⟨handed, .ok answer⟩ fun answer =>
            Watched.bind (first answer) second
        simp only [Watched.bind]
        cases (first answer).answer with
        | error error => rfl
        | ok middle =>
            dsimp only
            rw [List.append_assoc])

instance : Searching Watched where
  fail error := ⟨[], .error error⟩
  record _ _ := ⟨[], .ok ()⟩
  ask descriptor index result := ⟨[], .ok (descriptor.init index result)⟩
  forward _ := ⟨[], .ok ()⟩
  nested attempt := attempt

theorem stops : Searching.Stops Watched :=
  fun _ _ => rfl

/-- Everything handed on is shorter than the limit.  This is said of the first
of two searches; the second one is not looked at. -/
def short (limit : Nat) : Searching.Simulation Watched Watched where
  Related watched _ := ∀ taken ∈ watched.handed, taken.length < limit
  pure_related _ := List.forall_mem_nil _
  bind_related := by
    intro α β watched _ next _ first later taken member
    change taken ∈ (Watched.bind watched next).handed at member
    unfold Watched.bind at member
    split at member
    · exact first taken member
    · rename_i answer _
      rcases List.mem_append.mp member with member | member
      · exact first taken member
      · exact later answer taken member
  fail_related _ := List.forall_mem_nil _
  record_related _ _ := List.forall_mem_nil _

end Watched

namespace Matcher

/-- A matcher that hands on every text to be resolved, whatever the texts
resolve to. -/
def watching (registry : Registry) (context : ParseContext)
    (minErrorChars : Int)
    (answer : RegisteredType → Text → Except SetupError (Option Expr)) :
    Matcher Watched where
  registry := registry
  context := context
  minErrorChars := minErrorChars
  resolve type taken := ⟨[taken], answer type taken⟩

/-- A matcher that hands on only the texts that are shorter than the limit. -/
def guarding (registry : Registry) (context : ParseContext)
    (minErrorChars : Int)
    (answer : RegisteredType → Text → Except SetupError (Option Expr))
    (limit : Nat) :
    Matcher Watched :=
  { watching registry context minErrorChars answer with
    resolve := fun type taken =>
      if taken.length < limit then ⟨[taken], answer type taken⟩ else pure none }

section Watching

variable (registry : Registry) (context : ParseContext) (minErrorChars : Int)
  (answer : RegisteredType → Text → Except SetupError (Option Expr))

private theorem agree_guarding (limit : Nat) :
    AgreeBelow limit (watching registry context minErrorChars answer)
      (guarding registry context minErrorChars answer limit) where
  registry := rfl
  context := rfl
  minErrorChars := rfl
  resolve _ _ shorter := (if_pos shorter).symm

private theorem guarding_alike (limit : Nat) :
    Alike (Watched.short limit)
      (guarding registry context minErrorChars answer limit)
      (guarding registry context minErrorChars answer limit) where
  normalize := rfl
  regexes := rfl
  getType := rfl
  context := rfl
  minErrorChars := rfl
  resolve type text := by
    intro taken member
    unfold guarding at member
    dsimp only at member
    split at member
    · rename_i shorter
      rw [List.mem_singleton.mp member]
      exact shorter
    · cases member

/-- Along an anchored pattern only shorter texts are handed on. -/
theorem watching_shrinks {pattern : Text} (anchored : Pattern.Anchored pattern)
    (text : Text) :
    ∀ taken ∈ ((watching registry context minErrorChars answer).run pattern
      text).handed, taken.length < text.length := by
  rw [(agree_guarding registry context minErrorChars answer _).run_eq
    Watched.stops anchored.ahead]
  exact (guarding_alike registry context minErrorChars answer _).run_related
    pattern text

end Watching

end Matcher

/-! ## Nested parses -/

section Nesting

variable {m : Type → Type} [Searching m]

/-- To resolve a text, no other text is parsed. -/
theorem Attempt.resolve_of_nested (attempt : Attempt) (read : LiteralReading)
    {nested other : Text → m (Option ComputedElement)} {text : Text}
    (same : nested text = other text) (type : RegisteredType) :
    (attempt.matcher nested read).resolve type text =
      (attempt.matcher other read).resolve type text := by
  unfold Attempt.matcher Resolver.resolve
  dsimp only
  rw [same]
  rfl

namespace Registry

/-- Every pattern of the registered expressions is anchored. -/
def Anchored (registry : Registry) : Prop :=
  ∀ descriptor ∈ registry.expressions, ∀ pattern ∈ descriptor.patterns,
    Pattern.Anchored pattern

/-- Parses a text against the registered expressions, given what parses inside
of it find. -/
def parseWith (registry : Registry) (minErrorChars : Int)
    (inner : Text → m (Option Accepted)) (text : Text) : m (Option Accepted) :=
  let attempt : Attempt := ⟨registry, .script, false, minErrorChars⟩
  (attempt.matcher (fun taken => nestedElement (inner taken))
    registry.read).trySource true text
    registry.expressions

/-- Parses nested so many deep.  What parses nested deeper find is given. -/
def parseOver (registry : Registry) (minErrorChars : Int)
    (deepest : Text → m (Option Accepted)) :
    Nat → Text → m (Option Accepted)
  | 0 => deepest
  | depth + 1 =>
      registry.parseWith minErrorChars
        (registry.parseOver minErrorChars deepest depth)

theorem parseOver_endless (registry : Registry) (minErrorChars : Int)
    (depth : Nat) :
    registry.parseOver minErrorChars (fun _ => Searching.fail .endlessNesting)
      depth =
      (registry.parseNestedWithin minErrorChars depth : Text →
        m (Option Accepted)) := by
  induction depth with
  | zero => rfl
  | succ depth induction =>
      rw [parseOver, induction]
      rfl

/-- A parse that makes its inner parses in the same way, as deep as they go. -/
def Recurs (registry : Registry) (minErrorChars : Int)
    (parse : Text → m (Option Accepted)) :
    Prop :=
  ∀ text, parse text = registry.parseWith minErrorChars parse text

theorem Recurs.parseOver_eq {registry : Registry} {minErrorChars : Int}
    {parse : Text → m (Option Accepted)}
    (recurs : registry.Recurs minErrorChars parse) (depth : Nat) :
    registry.parseOver minErrorChars parse depth = parse := by
  induction depth with
  | zero => rfl
  | succ depth induction =>
      rw [parseOver, induction]
      exact (funext recurs).symm

end Registry

variable [LawfulMonad m] (stops : Searching.Stops m)
include stops

/-- A source with anchored patterns does not tell matchers apart that differ
only in what they make of the whole text. -/
theorem Matcher.AgreeBelow.trySource_eq {left right : Matcher m} {text : Text}
    (agree : AgreeBelow text.length left right) (fill : Bool)
    {source : List Descriptor}
    (anchored : ∀ descriptor ∈ source, ∀ pattern ∈ descriptor.patterns,
      Pattern.Anchored pattern) :
    left.trySource fill text source = right.trySource fill text source := by
  apply Searching.firstSome_congr
  intro descriptor member
  apply Searching.firstSome_congr
  intro pattern written
  have ahead :=
    (anchored descriptor member pattern.1
      (List.fst_mem_of_mem_zipIdx written)).ahead
  unfold tryPattern complete
  rw [agree.run_eq stops ahead, agree.registry]

namespace Registry

variable {registry : Registry} (anchored : registry.Anchored)
include anchored

theorem Anchored.parseWith_eq (minErrorChars : Int)
    {inner other : Text → m (Option Accepted)} {text : Text}
    (same : ∀ taken : Text, taken.length < text.length →
      inner taken = other taken) :
    registry.parseWith minErrorChars inner text =
      registry.parseWith minErrorChars other text := by
  refine Matcher.AgreeBelow.trySource_eq stops ?_ true anchored
  refine ⟨rfl, rfl, rfl, ?_⟩
  intro type taken shorter
  apply Attempt.resolve_of_nested
  rw [same taken shorter]

/-- Parses nested deeper than a text is long are not made. -/
theorem Anchored.parseOver_eq (minErrorChars : Int)
    (deepest other : Text → m (Option Accepted)) {depth fuel : Nat}
    {text : Text} (within : text.length < depth) (enough : text.length < fuel) :
    registry.parseOver minErrorChars deepest depth text =
      registry.parseOver minErrorChars other fuel text := by
  induction depth generalizing fuel text with
  | zero => cases within
  | succ depth induction =>
      cases fuel with
      | zero => cases enough
      | succ fuel =>
          apply anchored.parseWith_eq stops
          intro taken shorter
          apply induction
          · omega
          · omega

theorem Anchored.parseNestedWithin_eq (minErrorChars : Int)
    (deepest : Text → m (Option Accepted)) {depth fuel : Nat} {text : Text}
    (within : text.length < depth) (enough : text.length < fuel) :
    registry.parseOver minErrorChars deepest depth text =
      registry.parseNestedWithin minErrorChars fuel text := by
  rw [← parseOver_endless]
  exact anchored.parseOver_eq stops minErrorChars deepest _ within enough

private theorem Anchored.recurs_iff (minErrorChars : Int)
    (parse : Text → m (Option Accepted)) :
    registry.Recurs minErrorChars parse ↔
      parse = fun text =>
        registry.parseNestedWithin minErrorChars (text.length + 1) text := by
  constructor
  · intro recurs
    funext text
    have parsed := anchored.parseNestedWithin_eq stops minErrorChars parse
      (Nat.lt_succ_self text.length) (Nat.lt_succ_self text.length)
    rwa [recurs.parseOver_eq] at parsed
  · rintro rfl text
    dsimp only
    rw [← anchored.parseNestedWithin_eq stops minErrorChars
      (fun taken => registry.parseNestedWithin minErrorChars
        (taken.length + 1) taken)
      (Nat.lt_succ_self text.length) (Nat.lt_succ_self text.length), parseOver]
    apply anchored.parseWith_eq stops
    intro taken shorter
    exact anchored.parseNestedWithin_eq stops minErrorChars _ shorter
      (Nat.lt_succ_self _)

end Registry

end Nesting

namespace Registry

/-- When every pattern of the registered expressions is anchored, what a pattern
hands on to be resolved is shorter than the text that it is matched against,
whatever becomes of it.  So to resolve a text, parses are nested at most as deep
as the text has characters, and one: what lies deeper plays no part.  The parse
that makes its inner parses without any bound is therefore well defined, and it
is the one that the fuel bounds. -/
theorem resolve_shrinks {registry : Registry} (anchored : registry.Anchored)
    (context : ParseContext) (literalOnly : Bool) (minErrorChars : Int) :
    (∀ answer, ∀ descriptor ∈ registry.expressions,
      ∀ pattern ∈ descriptor.patterns, ∀ text,
        ∀ taken ∈ ((Matcher.watching registry context minErrorChars answer).run
          pattern text).handed, taken.length < text.length) ∧
      ∀ {m : Type → Type} [Searching m] [LawfulMonad m], Searching.Stops m →
        (∀ (deepest : Text →
          m (Option Accepted)) (type : RegisteredType) (text : Text),
          let attempt : Attempt := ⟨registry, context, literalOnly, minErrorChars⟩
          let parse := registry.parseOver minErrorChars deepest (text.length + 1)
          (attempt.matcher (fun taken => nestedElement (parse taken))
            registry.read).resolve type
              text = (attempt.matcherIn m).resolve type text) ∧
        ∀ parse : Text → m (Option Accepted), registry.Recurs minErrorChars parse ↔
          parse = fun text =>
            registry.parseNestedWithin minErrorChars (text.length + 1)
              text := by
  refine ⟨?_, ?_⟩
  · intro answer descriptor member pattern written text
    exact Matcher.watching_shrinks registry context minErrorChars answer
      (anchored descriptor member pattern written) text
  · intro m _ _ stops
    refine ⟨?_, anchored.recurs_iff stops minErrorChars⟩
    intro deepest type text
    apply Attempt.resolve_of_nested
    dsimp only
    rw [anchored.parseNestedWithin_eq stops minErrorChars deepest
      (Nat.lt_succ_self _) (Nat.lt_succ_self _)]
    rfl

def measuring : Registry :=
  { builtins with
    syntaxes := [(conditionKind, []), (effectKind, []),
      (expressionKind,
        [{ (Recording.plain ⟨"Length", 0⟩).descriptor ["length of %object%"]
            [] with
          role := .expression "integer" }]),
      (eventKind, [])] }

/-- Of a length of a length the inner one is handed on, and the parses end. -/
theorem shrinks_of_measuring :
    measuring.Anchored ∧
      ((Matcher.watching measuring .script 5 fun _ _ => .ok none).run
          "length of %object%" "length of length of it").handed =
            [("length of it" : Text)] ∧
      (∀ taken ∈ ((Matcher.watching measuring .script 5 fun _ _ => .ok none).run
          "length of %object%" "length of length of it").handed,
        taken.length < ("length of length of it" : Text).length) ∧
      ∀ (deepest : Text → Tracked (Option Accepted)) (type : RegisteredType),
        let attempt : Attempt := ⟨measuring, .script, false, 5⟩
        let parse := measuring.parseOver 5 deepest 23
        (attempt.matcher (fun taken => nestedElement (parse taken))
          measuring.read).resolve type
            "length of length of it" =
              attempt.tracked.resolve type "length of length of it" := by
  have anchored : measuring.Anchored := by
    intro descriptor member pattern written
    obtain rfl := List.mem_singleton.mp member
    obtain rfl := List.mem_singleton.mp written
    exact ⟨rfl, by decide, [], .char 'l', _, rfl, by decide, rfl⟩
  obtain ⟨shrinks, nests⟩ := resolve_shrinks anchored .script false 5
  refine ⟨anchored, rfl, ?_, ?_⟩
  · exact shrinks _ _ List.mem_cons_self _ List.mem_cons_self _
  · intro deepest type
    exact (nests Tracked.stops).1 deepest type "length of length of it"

end Registry

end Phrasebook
