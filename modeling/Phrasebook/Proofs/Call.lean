import Phrasebook.Command
import Phrasebook.Proofs.Search.Laws
import Phrasebook.Proofs.Search.Tracing
import Phrasebook.Proofs.Search.Tracking

/-!
# Calls of a parser

A call of one of the entry points amounts to a search.  What the call answers and
logs can be read off the trace of that search.
-/

namespace Phrasebook

/-- A call of one of a parser's entry points. -/
inductive Call where
  | parse (text : Text) (source : List Descriptor) (defaultError : Option Text)
  | parseStatic (text : Text) (source : List Descriptor)
      (defaultError : Option Text)
  | parseStatement (text : Text) (defaultError : Option Text)
  | parseEvent (text : Text) (defaultError : Option Text)
  | parseExpression (text typeName : Text) (defaultError : Option Text)
  | parseArguments (world : World) (command : Command) (text : Text)
  | matchPattern (pattern text : Text) (literalOnly : Bool)

namespace Call

/-- What the call gives when it succeeds. -/
def Answer : Call → Type
  | .parse .. | .parseStatic .. | .parseStatement .. | .parseEvent .. => Accepted
  | .parseExpression .. => Expr
  | .parseArguments .. => Command
  | .matchPattern .. => MatchResult

def perform (parser : Parser) (log : ParseLog) :
    (call : Call) → Except SetupError (Option call.Answer) × ParseLog
  | .parse text source defaultError => parser.parse log text source defaultError
  | .parseStatic text source defaultError =>
      parser.parseStatic log text source defaultError
  | .parseStatement text defaultError => parser.parseStatement log text defaultError
  | .parseEvent text defaultError => parser.parseEvent log text defaultError
  | .parseExpression text typeName defaultError =>
      parser.parseExpression log text typeName defaultError
  | .parseArguments world command text =>
      parser.parseArguments log world command text
  | .matchPattern pattern text literalOnly =>
      parser.matchPattern log pattern text literalOnly

/-- The search that the call amounts to, for any way to carry it out. -/
def search (m : Type → Type) [Searching m] (parser : Parser) :
    (call : Call) → m (Option call.Answer)
  | .parse text source _ =>
      ((parser.attempt .script false).matcherIn m).trySource true text source
  | .parseStatic text source _ =>
      ((parser.attempt .script true).matcherIn m).trySource true text source
  | .parseStatement text _ =>
      ((parser.attempt .script false).matcherIn m).trySource true text
        parser.registry.statements
  | .parseEvent text _ =>
      ((parser.attempt .event true).matcherIn m).trySource false text
        parser.registry.events
  | .parseExpression text typeName _ => do
      let type ← Searching.lift (parser.registry.getType typeName)
      parser.searchExpression type (Text.strip text)
  | .parseArguments world command text => do
      match ← ((parser.attempt .command true).matcherIn m).run
          command.pattern text with
      | none => pure none
      | some result =>
          if command.arguments.length ≠ result.exprs.length then
            Searching.fail
              (.argumentCount command.name command.arguments.length
                result.exprs.length)
          else pure (some (command.assign world result.exprs))
  | .matchPattern pattern text literalOnly => do
      Searching.lift (Pattern.validate pattern)
      ((parser.attempt .script literalOnly).matcherIn m).run pattern text

/-- Everything that happens in the course of the call. -/
def events (parser : Parser) (call : Call) : List Event :=
  (call.search Traced parser).events

/-- The error records of the call, in the order in which they were made.  Those
of an attempt made on the way stand where it ended, and only if it failed. -/
def records (parser : Parser) (call : Call) : List ErrorRecord :=
  Event.recordsOfAll (call.events parser)

/-- The text of the default error that applies to the call. -/
def defaultError (parser : Parser) : Call → Option Text
  | .parse _ _ defaultError | .parseStatic _ _ defaultError
      | .parseEvent _ defaultError
  | .parseExpression _ _ defaultError => defaultError
  | .parseStatement _ defaultError =>
      some (defaultError.getD parser.options.defaultError)
  | .parseArguments .. | .matchPattern .. => none

end Call

def ErrorRecord.entry (record : ErrorRecord) : LogEntry :=
  ⟨.error, record.message, record.quality.code⟩

def LogEntry.byDefault (message : Text) : LogEntry :=
  ⟨.error, message, "E100"⟩

/-- What the provider of the winning element has logged.  A call that does not
select an element has none. -/
def Call.Emits (parser : Parser) :
    (call : Call) → call.Answer → List LogEntry → Prop
  | .parse text source defaultError, accepted, entries =>
      accepted.Won source ((Call.parse text source defaultError).events parser)
        entries
  | .parseStatic text source defaultError, accepted, entries =>
      accepted.Won source
        ((Call.parseStatic text source defaultError).events parser) entries
  | .parseStatement text defaultError, accepted, entries =>
      accepted.Won parser.registry.statements
        ((Call.parseStatement text defaultError).events parser) entries
  | .parseEvent text defaultError, accepted, entries =>
      accepted.Won parser.registry.events
        ((Call.parseEvent text defaultError).events parser) entries
  | .parseExpression .., _, entries | .parseArguments .., _, entries
  | .matchPattern .., _, entries => entries = []

/-! ## The end of a call -/

namespace ParseLog

theorem conclude_answer {α : Type} (log : ParseLog) (defaultError : Option Text)
    (search : Tracked (Option α)) :
    (log.conclude defaultError search).1 = (search ⟨.empty, log.openScope⟩).1 := by
  have answered : (search.attempt log).answer =
      (search ⟨.empty, log.openScope⟩).1 := rfl
  rw [← answered]
  unfold conclude
  cases ended : (search.attempt log).answer with
  | error error => simp only [ended]
  | ok found => cases found <;> simp only [ended]

/-- A failed scope forwards the best error that was reported in it, or else the
default error. -/
theorem forwardError_reported (log : ParseLog) (best : BestError)
    (defaultError : Option Text) :
    log.forwardError best.reported.toList defaultError =
      log.addAll (best.reported.or
        (defaultError.map LogEntry.byDefault)).toList := by
  unfold BestError.reported
  cases best.record? with
  | some record => rfl
  | none => cases defaultError <;> rfl

/-- The outcome of a call of which the search is known: the answer is that of the
search, and the log has got what was told of an answer, or the best error of a
failure. -/
def Settles {α : Type} (told : α → List LogEntry) (log : ParseLog)
    (defaultError : Option Text) (search : Search (Option α))
    (outcome : Except SetupError (Option α) × ParseLog) : Prop :=
  ∃ opened, match search with
    | .error error => outcome = (.error error, log.withOpened opened)
    | .ok (_, some answer) =>
        outcome = (.ok (some answer), (log.withOpened opened).addAll (told answer))
    | .ok (records, none) =>
        (∀ record ∈ records, record.Ranked) ∧
          outcome = (.ok none, (log.withOpened opened).addAll
            ((BestError.ofRecords records).reported.or
              (defaultError.map LogEntry.byDefault)).toList)

theorem conclude_settles {α : Type} {told : Option α → List LogEntry}
    (quiet : told none = []) (log : ParseLog) (defaultError : Option Text)
    {tracked : Tracked (Option α)} {search : Search (Option α)}
    (follows : Tracked.Follows told tracked search) :
    Settles (fun answer => told (some answer)) log defaultError search
      (log.conclude defaultError tracked) := by
  obtain ⟨opened, ending⟩ := Tracked.attempt_follows follows log
  refine ⟨opened, ?_⟩
  cases search with
  | error error =>
      obtain ⟨best, held, ending⟩ := ending
      simp only [conclude, ending]
  | ok outcome =>
      obtain ⟨records, answer⟩ := outcome
      cases answer with
      | some answer =>
          obtain ⟨_, ending⟩ := ending
          simp only [conclude, ending, forward]
      | none =>
          obtain ⟨ranked, ending⟩ := ending
          refine ⟨ranked, ?_⟩
          simp only [conclude, ending, quiet, List.nil_append,
            forwardError_reported]

end ParseLog

theorem Parser.trySource_follows (parser : Parser) (context : ParseContext)
    (literalOnly fill : Bool) (text : Text) (source : List Descriptor) :
    Tracked.Follows Tracked.told
      ((parser.matcher context literalOnly).trySource fill text source)
      (((parser.attempt context literalOnly).matcherIn Search).trySource fill
        text source) :=
  have alike := Tracked.selection.attempt_alike (parser.attempt context literalOnly)
  Tracked.selection.trySource_found alike.concur rfl fill text source

namespace Call

/-- What an answer tells the log. -/
def told : (call : Call) → call.Answer → List LogEntry
  | .parse .., accepted | .parseStatic .., accepted | .parseStatement .., accepted
  | .parseEvent .., accepted => Accepted.entries accepted
  | .parseExpression .., _ | .parseArguments .., _ | .matchPattern .., _ => []

section Settling

variable (parser : Parser) (log : ParseLog)

theorem trySource_settles (context : ParseContext) (literalOnly fill : Bool)
    (text : Text) (source : List Descriptor) (defaultError : Option Text) :
    ParseLog.Settles Accepted.entries log defaultError
      (((parser.attempt context literalOnly).matcherIn Search).trySource
        fill text source)
      (log.conclude defaultError
        ((parser.matcher context literalOnly).trySource fill text source)) := by
  have follows := parser.trySource_follows context literalOnly fill text source
  exact ParseLog.conclude_settles rfl log defaultError follows

/-- A check before the attempt leaves nothing when it fails. -/
theorem check_settles {α β : Type} {told : α → List LogEntry}
    {defaultError : Option Text}
    (check : Except SetupError β) {search : β → Search (Option α)}
    {outcome : Except SetupError (Option α) × ParseLog}
    (failed : ∀ error, check = .error error → outcome = (.error error, log))
    (settles : ∀ answer, check = .ok answer →
      ParseLog.Settles told log defaultError (search answer) outcome) :
    ParseLog.Settles told log defaultError (Searching.lift check >>= search)
      outcome := by
  cases check with
  | error error => exact ⟨log.opened, failed error rfl⟩
  | ok answer =>
      simp only [Searching.lift, pure_bind]
      exact settles answer rfl

private theorem searchExpression_follows (type : RegisteredType) (text : Text) :
    Tracked.Follows Tracked.silent (parser.searchExpression type text :
      Tracked (Option Expr))
      (parser.searchExpression type text : Search (Option Expr)) := by
  have alike := Tracked.selection.attempt_alike (parser.attempt .script false)
  unfold Parser.searchExpression
  refine Tracked.bind_follows ?_ ?_
  · split
    · exact Tracked.pure_follows rfl
    · exact alike.resolve type text
  · intro found
    cases found with
    | some expr => exact Tracked.pure_follows rfl
    | none =>
        exact Tracked.bind_follows (Tracked.record_follows (by decide) _)
          fun _ => Tracked.pure_follows rfl

theorem parseExpression_settles (text typeName : Text)
    (defaultError : Option Text) :
    ParseLog.Settles (fun _ => []) log defaultError
      ((Call.parseExpression text typeName defaultError).search Search parser)
      (parser.parseExpression log text typeName defaultError) := by
  refine check_settles log (parser.registry.getType typeName) ?_ ?_
  · intro error unknown
    simp only [Parser.parseExpression, unknown]
    rfl
  · intro type known
    simp only [Parser.parseExpression, known]
    exact ParseLog.conclude_settles rfl log defaultError
      (searchExpression_follows parser type (Text.strip text))

theorem matchPattern_settles (pattern text : Text) (literalOnly : Bool) :
    ParseLog.Settles (fun _ => []) log none
      ((Call.matchPattern pattern text literalOnly).search Search parser)
      (parser.matchPattern log pattern text literalOnly) := by
  have alike := Tracked.selection.attempt_alike (parser.attempt .script literalOnly)
  refine check_settles log (Pattern.validate pattern) ?_ ?_
  · intro error invalid
    simp only [Parser.matchPattern, invalid]
    rfl
  · intro _ valid
    simp only [Parser.matchPattern, valid]
    exact ParseLog.conclude_settles rfl log none (alike.run_related pattern text)

private theorem parseArguments_settles (world : World) (command : Command)
    (text : Text) :
    ParseLog.Settles (fun _ => []) log none
      ((Call.parseArguments world command text).search Search parser)
      (parser.parseArguments log world command text) := by
  have alike := Tracked.selection.attempt_alike (parser.attempt .command true)
  have follows := alike.run_related command.pattern text
  obtain ⟨opened, ending⟩ := Tracked.attempt_follows follows log
  refine ⟨opened, ?_⟩
  have listed : (Call.parseArguments world command text).search Search parser =
      bind (m := Search)
        (((parser.attempt .command true).matcherIn Search).run command.pattern text)
        fun found => match found with
          | none => pure none
          | some result =>
              if command.arguments.length ≠ result.exprs.length then
                Searching.fail
                  (.argumentCount command.name command.arguments.length
                    result.exprs.length)
              else pure (some (command.assign world result.exprs)) := rfl
  rw [listed]
  generalize ((parser.attempt .command true).matcherIn Search).run
    command.pattern text = run
    at ending ⊢
  cases run with
  | error error =>
      obtain ⟨best, held, ending⟩ := ending
      simp only [Parser.parseArguments, Parser.matcher, Attempt.tracked, ending]
      rfl
  | ok outcome =>
      obtain ⟨records, result⟩ := outcome
      cases result with
      | none =>
          obtain ⟨ranked, ending⟩ := ending
          have reported := ParseLog.forwardError_reported (log.withOpened opened)
            (BestError.ofRecords records) none
          have kept : records ++ [] = records := List.append_nil records
          simp only [Search.bind_ok, pure, Search.pure, kept]
          refine ⟨ranked, ?_⟩
          simp only [Parser.parseArguments, Parser.matcher, Attempt.tracked, ending,
            Tracked.silent, List.nil_append, reported]
          rfl
      | some result =>
          obtain ⟨ranked, ending⟩ := ending
          simp only [Parser.parseArguments, Parser.matcher, Attempt.tracked, ending,
            Search.bind_ok]
          by_cases count : command.arguments.length ≠ result.exprs.length
          · simp only [if_pos count]
            rfl
          · simp only [if_neg count]
            rfl

/-- Every call settles as its search says. -/
theorem perform_settles (call : Call) :
    ParseLog.Settles call.told log (call.defaultError parser)
      (call.search Search parser) (call.perform parser log) := by
  cases call with
  | parse text source defaultError =>
      exact trySource_settles parser log .script false true text source defaultError
  | parseStatic text source defaultError =>
      exact trySource_settles parser log .script true true text source defaultError
  | parseStatement text defaultError =>
      exact trySource_settles parser log .script false true text
        parser.registry.statements _
  | parseEvent text defaultError =>
      exact trySource_settles parser log .event true false text
        parser.registry.events defaultError
  | parseExpression text typeName defaultError =>
      exact parseExpression_settles parser log text typeName defaultError
  | parseArguments world command text =>
      exact parseArguments_settles parser log world command text
  | matchPattern pattern text literalOnly =>
      exact matchPattern_settles parser log pattern text literalOnly

end Settling

private theorem search_listed (parser : Parser) (call : Call) :
    (call.search Traced parser).listed = call.search Search parser := by
  have source (context : ParseContext) (literalOnly fill : Bool) (text : Text)
      (source : List Descriptor) := Traced.selection.trySource_found
    (Traced.selection.attempt_alike (parser.attempt context literalOnly)).concur
      rfl fill text source
  have alike (context : ParseContext) (literalOnly : Bool) :=
    Traced.selection.attempt_alike (parser.attempt context literalOnly)
  cases call with
  | parse text descriptors defaultError =>
      exact source .script false true text descriptors
  | parseStatic text descriptors defaultError =>
      exact source .script true true text descriptors
  | parseStatement text defaultError =>
      exact source .script false true text parser.registry.statements
  | parseEvent text defaultError =>
      exact source .event true false text parser.registry.events
  | parseExpression text typeName defaultError =>
      apply Traced.simulation.bind_related (Traced.simulation.lift_related _)
      intro type
      refine Traced.simulation.bind_related ?_ ?_
      · split
        · rfl
        · exact (alike .script false).resolve type (Text.strip text)
      · intro found
        cases found with
        | some expr => rfl
        | none => rfl
  | parseArguments world command text =>
      refine Traced.simulation.bind_related
        ((alike .command true).run_related command.pattern text) ?_
      intro found
      cases found with
      | none => rfl
      | some result =>
          simp only
          split
          · rfl
          · rfl
  | matchPattern pattern text literalOnly =>
      exact Traced.simulation.bind_related (Traced.simulation.lift_related _)
        fun _ => (alike .script literalOnly).run_related pattern text

/-- What a call does, in terms of its trace. -/
theorem perform_traced (parser : Parser) (log : ParseLog) (call : Call) :
    ∃ opened, match (call.search Traced parser).answer with
      | .error error =>
          call.perform parser log = (.error error, log.withOpened opened)
      | .ok (some answer) =>
          call.perform parser log =
            (.ok (some answer), (log.withOpened opened).addAll (call.told answer))
      | .ok none =>
          (∀ record ∈ call.records parser, record.Ranked) ∧
            call.perform parser log = (.ok none, (log.withOpened opened).addAll
              ((BestError.ofRecords (call.records parser)).reported.or
                ((call.defaultError parser).map LogEntry.byDefault)).toList) := by
  obtain ⟨opened, settled⟩ := perform_settles parser log call
  refine ⟨opened, ?_⟩
  have listed := search_listed parser call
  unfold Traced.listed at listed
  cases answered : (call.search Traced parser).answer with
  | error error =>
      rw [answered] at listed
      rwa [← listed] at settled
  | ok answer =>
      rw [answered] at listed
      rw [← listed] at settled
      cases answer with
      | none => exact settled
      | some answer => exact settled

theorem emits_told {parser : Parser} {call : Call} {answer : call.Answer}
    (answered : (call.search Traced parser).answer = .ok (some answer)) :
    call.Emits parser answer (call.told answer) := by
  cases call with
  | parse text source defaultError => exact Traced.trySource_won answered
  | parseStatic text source defaultError => exact Traced.trySource_won answered
  | parseStatement text defaultError => exact Traced.trySource_won answered
  | parseEvent text defaultError => exact Traced.trySource_won answered
  | parseExpression text typeName defaultError => exact rfl
  | parseArguments world command text => exact rfl
  | matchPattern pattern text literalOnly => exact rfl

end Call

end Phrasebook
