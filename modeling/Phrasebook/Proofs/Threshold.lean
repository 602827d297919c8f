import Phrasebook.Proofs.Call

/-!
# The threshold of complaints

A parser has a number of literal characters from which on a placeholder that
did not resolve is worth an error record of its own.  Resolving, however, never
fails without an error of at least the lowest quality, which is the quality of
that record.  Whatever the number is, the record comes too late to be kept, and
two parsers that differ only in it cannot be told apart.
-/

namespace Phrasebook

namespace Tracked

/-- A failure leaves an error of at least the lowest quality. -/
def Complains {α : Type} (search : Tracked (Option α)) : Prop :=
  ∀ before after : Tracker, search before = (.ok none, after) →
    ErrorQuality.notAnExpression.rank ≤ after.best.quality.rank

theorem complains_some {α : Type} (answer : α) :
    Complains (pure (some answer) : Tracked (Option α)) := by
  intro before after failed
  cases failed

theorem complains_bind {α β : Type} (search : Tracked α)
    {next : α → Tracked (Option β)}
    (complains : ∀ answer, Complains (next answer)) :
    Complains (search >>= next) := by
  intro before after failed
  cases first : search before with
  | mk outcome middle =>
      cases outcome with
      | error error =>
          rw [bind_of_error first] at failed
          cases failed
      | ok answer =>
          rw [bind_of_ok first] at failed
          exact complains answer middle after failed

/-- What is kept after a failure was recorded is at least as good as that
failure. -/
theorem complains_record {α : Type} {quality : ErrorQuality}
    (ranked : ErrorQuality.notAnExpression.rank ≤ quality.rank) (message : Text) :
    Complains
      (do Searching.record quality message; pure none :
        Tracked (Option α)) := by
  intro before after failed
  obtain rfl : { before with best := before.best.record ⟨quality, message⟩ } =
      after :=
    congrArg Prod.snd failed
  by_cases better : before.best.quality.rank < quality.rank
  · rwa [BestError.record_of_lt better]
  · have atLeast : quality.rank ≤ before.best.quality.rank := Nat.not_lt.mp better
    rw [BestError.record_of_le atLeast]
    exact Nat.le_trans ranked atLeast

/-- To record that a text is no expression is no news when an error of at least
the lowest quality is kept. -/
theorem record_unheard {tracker : Tracker} (message : Text)
    (kept : ErrorQuality.notAnExpression.rank ≤ tracker.best.quality.rank) :
    (Searching.record .notAnExpression message : Tracked Unit) tracker =
      (.ok (), tracker) := by
  change (Except.ok (), { tracker with best := tracker.best.record _ }) = _
  rw [BestError.record_of_le kept]

/-- What follows a search matters only for the answers and trackers that it
leads to. -/
theorem bind_congr_reached {α β : Type} {search : Tracked α}
    {left right : α → Tracked β}
    (same : ∀ answer before after, search before = (.ok answer, after) →
      left answer after = right answer after) :
    search >>= left = search >>= right := by
  funext before
  cases first : search before with
  | mk outcome after =>
      cases outcome with
      | error error => rw [bind_of_error first, bind_of_error first]
      | ok answer =>
          rw [bind_of_ok first, bind_of_ok first]
          exact same answer before after first

end Tracked

/-! ## Resolving -/

section Resolving

variable (resolver : Resolver Tracked) (type : RegisteredType)

private theorem Resolver.resolveLiteral_complains (text : Text) :
    (resolver.resolveLiteral type text).Complains := by
  apply Tracked.complains_bind
  intro literal
  cases literal with
  | some expr => exact Tracked.complains_some expr
  | none => exact Tracked.complains_record (Nat.le_refl _) _

private theorem Resolver.resolveComputed_complains (computed : ComputedElement) :
    (resolver.resolveComputed type computed).Complains := by
  apply Tracked.complains_bind
  intro own
  apply Tracked.complains_bind
  intro converted
  cases converted with
  | some expr => exact Tracked.complains_some expr
  | none => exact Tracked.complains_record (by decide) _

/-- Resolving never fails without an error, whichever way it takes. -/
theorem Resolver.resolve_complains (text : Text) :
    (resolver.resolve type text).Complains := by
  unfold Resolver.resolve
  split
  · exact resolver.resolveLiteral_complains type text
  split
  · exact Tracked.complains_some _
  apply Tracked.complains_bind
  intro found
  cases found with
  | some computed => exact resolver.resolveComputed_complains type computed
  | none => exact resolver.resolveLiteral_complains type text

end Resolving

/-! ## Matching -/

namespace Matcher

theorem complete_of_registry {m n : Type → Type} {left : Matcher m}
    {right : Matcher n} (registry : Registry)
    (leftKnows : left.registry = registry)
    (rightKnows : right.registry = registry) :
    left.complete = right.complete := by
  funext fill pattern result
  unfold complete
  rw [leftKnows, rightKnows]

def withThreshold {m : Type → Type} (matcher : Matcher m)
    (minErrorChars : Int) : Matcher m :=
  { matcher with minErrorChars := minErrorChars }

variable (matcher : Matcher Tracked)

/-- A complaint about a text that did not resolve is no news when an error of at
least the lowest quality is kept. -/
theorem complain_unheard (type : TypeInfo) (taken : Text) (chars : Nat)
    {tracker : Tracker}
    (kept : ErrorQuality.notAnExpression.rank ≤ tracker.best.quality.rank) :
    matcher.complain type taken chars tracker = (.ok (), tracker) := by
  unfold complain
  split
  · exact Tracked.record_unheard _ kept
  · rfl

private theorem tryCut_withThreshold (minErrorChars : Int) (slot : Nat)
    (placeholder : Placeholder) (type : RegisteredType) (matched : Nat)
    (remainder : Cut → Tracked (Option MatchResult)) (cut : Cut)
    (complains : (matcher.resolve type cut.taken).Complains) :
    matcher.tryCut slot placeholder type matched remainder cut =
      (matcher.withThreshold minErrorChars).tryCut slot placeholder type matched
        remainder cut := by
  unfold tryCut
  congr 1
  funext rest
  cases rest with
  | none => rfl
  | some result =>
      apply Tracked.bind_congr_reached
      intro resolved before after reached
      cases resolved with
      | some expr => rfl
      | none =>
          have kept := complains before after reached
          dsimp only
          rw [Tracked.bind_of_ok (matcher.complain_unheard _ _ _ kept),
            Tracked.bind_of_ok (complain_unheard _ _ _ _ kept)]

/-- Matchers with different thresholds concur at placeholders if resolving never
fails without an error. -/
theorem concur_withThreshold
    (complains : ∀ type text, (matcher.resolve type text).Complains)
    (minErrorChars : Int) :
    Matcher.Concur (Searching.Selection.identity Tracked).toSimulation matcher
      (matcher.withThreshold minErrorChars) where
  normalize := rfl
  regexes := rfl
  tryCuts := by
    intro slot placeholder matched cuts left right same
    obtain rfl : left = right := funext same
    have alike (type : RegisteredType) :
        matcher.tryCut slot placeholder type matched left =
          (matcher.withThreshold minErrorChars).tryCut slot placeholder type
            matched left :=
      funext fun cut =>
        matcher.tryCut_withThreshold minErrorChars slot placeholder type matched
        left cut (complains type cut.taken)
    change matcher.tryCuts slot placeholder matched cuts left =
      (matcher.withThreshold minErrorChars).tryCuts slot placeholder
        matched cuts left
    simp only [tryCuts, alike]
    rfl

end Matcher

/-! ## Parsing -/

section Parsing

variable (first second : Int)

theorem Attempt.concur_of_threshold (registry : Registry) (context : ParseContext)
    (literalOnly : Bool) (parseNested : Text → Tracked (Option ComputedElement))
    (read : LiteralReading) :
    Matcher.Concur (Searching.Selection.identity Tracked).toSimulation
      (Attempt.matcher ⟨registry, context, literalOnly, first⟩ parseNested read)
      (Attempt.matcher ⟨registry, context, literalOnly, second⟩ parseNested read) :=
  Matcher.concur_withThreshold
    (Attempt.matcher ⟨registry, context, literalOnly, first⟩
    parseNested read) (fun type text =>
      Resolver.resolve_complains _ type text) second

private theorem Registry.parseNestedWithin_threshold (registry : Registry)
    (fuel : Nat) (text : Text) :
    (registry.parseNestedWithin first fuel text : Tracked (Option Accepted)) =
      registry.parseNestedWithin second fuel text := by
  induction fuel generalizing text with
  | zero => rfl
  | succ fuel induction =>
      have nested : (fun text => Registry.nestedElement
            (registry.parseNestedWithin first fuel text :
              Tracked (Option Accepted))) =
          fun text => Registry.nestedElement
            (registry.parseNestedWithin second fuel text) :=
        funext fun text => congrArg Registry.nestedElement (induction text)
      unfold Registry.parseNestedWithin
      simp only [nested]
      exact (Searching.Selection.identity Tracked).trySource_found
        (Attempt.concur_of_threshold first second registry .script false _
          registry.read)
        rfl true text registry.expressions

theorem Registry.parseNested_threshold (registry : Registry) :
    (registry.parseNested first : Text → Tracked (Option ComputedElement)) =
      registry.parseNested second :=
  funext fun text =>
    congrArg Registry.nestedElement
      (registry.parseNestedWithin_threshold first second _ text)

variable (registry : Registry) (defaultError : Text)

theorem Parser.matcher_threshold (context : ParseContext) (literalOnly : Bool) :
    Matcher.Concur (Searching.Selection.identity Tracked).toSimulation
      (Parser.matcher ⟨registry, ⟨first, defaultError⟩⟩ context literalOnly)
      (Parser.matcher ⟨registry, ⟨second, defaultError⟩⟩ context literalOnly) := by
  have concur :=
    Attempt.concur_of_threshold first second registry context literalOnly
    (registry.parseNested first) registry.read
  have nested := registry.parseNested_threshold first second
  unfold Parser.matcher Parser.attempt Attempt.tracked Attempt.matcherIn
  simp only
  rwa [← nested]

theorem Parser.run_threshold (context : ParseContext) (literalOnly : Bool)
    (pattern text : Text) :
    (Parser.matcher ⟨registry, ⟨first, defaultError⟩⟩ context literalOnly).run
      pattern text =
      (Parser.matcher ⟨registry, ⟨second, defaultError⟩⟩ context
        literalOnly).run pattern text :=
  (Parser.matcher_threshold first second registry defaultError context
    literalOnly).run_related
    pattern text

private theorem Parser.trySource_threshold (context : ParseContext)
    (literalOnly fill : Bool) (text : Text) (source : List Descriptor) :
    (Parser.matcher ⟨registry, ⟨first, defaultError⟩⟩ context literalOnly).trySource
        fill text source =
      (Parser.matcher ⟨registry, ⟨second, defaultError⟩⟩ context
        literalOnly).trySource
        fill text source :=
  have concur :=
    Parser.matcher_threshold first second registry defaultError
      context literalOnly
  (Searching.Selection.identity Tracked).trySource_found concur
    (Matcher.complete_of_registry registry rfl rfl) fill text source

private theorem Parser.searchExpression_threshold (type : RegisteredType)
    (text : Text) :
    (Parser.searchExpression ⟨registry, ⟨first, defaultError⟩⟩ type text :
      Tracked (Option Expr)) =
      Parser.searchExpression ⟨registry, ⟨second, defaultError⟩⟩ type text := by
  have nested := registry.parseNested_threshold first second
  unfold Parser.searchExpression Parser.attempt Attempt.matcherIn
  simp only
  rw [nested]
  rfl

private theorem Call.perform_threshold (call : Call) (log : ParseLog) :
    call.perform ⟨registry, ⟨first, defaultError⟩⟩ log =
      call.perform ⟨registry, ⟨second, defaultError⟩⟩ log := by
  have run := Parser.run_threshold first second registry defaultError
  have trySource := Parser.trySource_threshold first second registry defaultError
  cases call with
  | parse text source unparsed =>
      exact congrArg (log.conclude unparsed)
        (trySource .script false true text source)
  | parseStatic text source unparsed =>
      exact congrArg (log.conclude unparsed)
        (trySource .script true true text source)
  | parseStatement text unparsed =>
      exact congrArg (log.conclude (some (unparsed.getD defaultError)))
        (trySource .script false true text registry.statements)
  | parseEvent text unparsed =>
      exact congrArg (log.conclude unparsed)
        (trySource .event true false text registry.events)
  | parseExpression text typeName unparsed =>
      simp only [perform, Parser.parseExpression]
      cases registry.getType typeName with
      | error error => rfl
      | ok type =>
          exact congrArg (log.conclude unparsed)
            (Parser.searchExpression_threshold first second registry
              defaultError type _)
  | parseArguments world command text =>
      simp only [perform, Parser.parseArguments]
      rw [run .command true command.pattern text]
  | matchPattern pattern text literalOnly =>
      simp only [perform, Parser.matchPattern]
      rw [run .script literalOnly pattern text]

end Parsing

/-- The threshold is never noticed.  Of two parsers that differ only in it,
every call gives the same answer and leaves the same log, and every match the
same answer and the same best error; and when a text has failed to resolve, an
error at least as good as the one that the threshold guards is kept already. -/
theorem Parser.threshold_unnoticed (registry : Registry) (defaultError : Text)
    (first second : Int) :
    (∀ (call : Call) (log : ParseLog),
      call.perform ⟨registry, ⟨first, defaultError⟩⟩ log =
        call.perform ⟨registry, ⟨second, defaultError⟩⟩ log) ∧
    (∀ (context : ParseContext) (literalOnly : Bool) (pattern text :
      Text) (tracker : Tracker),
      (Parser.matcher ⟨registry, ⟨first, defaultError⟩⟩ context literalOnly).run
        pattern text
          tracker =
        (Parser.matcher ⟨registry, ⟨second, defaultError⟩⟩ context
          literalOnly).run pattern text
          tracker) ∧
    ∀ (context : ParseContext) (literalOnly : Bool) (type :
      RegisteredType) (taken : Text)
      (before after : Tracker),
      (Parser.matcher ⟨registry, ⟨first, defaultError⟩⟩ context
        literalOnly).resolve type taken
          before = (.ok none, after) →
        ErrorQuality.notAnExpression.rank ≤ after.best.quality.rank := by
  refine ⟨?_, ?_, ?_⟩
  · exact Call.perform_threshold first second registry defaultError
  · intro context literalOnly pattern text tracker
    rw [Parser.run_threshold first second]
  · intro context literalOnly type taken before after failed
    exact Resolver.resolve_complains _ type taken before after failed

end Phrasebook
