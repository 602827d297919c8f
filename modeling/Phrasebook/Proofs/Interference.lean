import Phrasebook.Proofs.Accounting
import Phrasebook.Proofs.Builtins

/-!
# Candidates that do not matter

The candidates of a source are tried one after another, and they share a matcher,
a best error and a log.  What one of them leaves behind does not steer those after
it: a descriptor of which no pattern matches may be put anywhere into a source, and
whatever is put behind a source that the text parses on is never reached.
-/

namespace Phrasebook

/-- None of the descriptor's patterns matches the text, and none hits a setup
error. -/
def Descriptor.Irrelevant (matcher : Matcher Tracked) (text : Text)
    (descriptor : Descriptor) :
    Prop :=
  ∀ pattern ∈ descriptor.patterns, ∃ before after,
    matcher.run pattern text before = (.ok none, after)

/-- The call has failed, and it reports the best error, or else the default
error. -/
def ParseLog.Reports {α : Type} (log : ParseLog) (defaultError : Option Text)
    (best : BestError) (outcome : Except SetupError (Option α) × ParseLog) :
    Prop :=
  ∃ opened, outcome = (.ok none, (log.withOpened opened).addAll
    (best.reported.or (defaultError.map LogEntry.byDefault)).toList)

/-- Of a search a call sees only how it goes in a fresh scope. -/
theorem ParseLog.conclude_congr {α : Type} {log : ParseLog}
    {defaultError : Option Text} {left right : Tracked (Option α)}
    (same : left ⟨.empty, log.openScope⟩ = right ⟨.empty, log.openScope⟩) :
    log.conclude defaultError left = log.conclude defaultError right := by
  have ending : left.attempt log = right.attempt log := by
    unfold Tracked.attempt
    rw [same]
  unfold conclude
  rw [ending]

/-! ## Lists of records -/

namespace Search

variable {α β : Type} {attempt : α → Search (Option β)}

theorem firstSome_cons_some {item : α} {records : List ErrorRecord} {answer : β}
    (found : attempt item = .ok (records, some answer)) (items : List α) :
    Searching.firstSome attempt (item :: items) = .ok (records, some answer) := by
  rw [Searching.firstSome, found, bind_ok]
  change Except.ok (records ++ [], some answer) = Except.ok (records, some answer)
  rw [List.append_nil]

theorem firstSome_cons_none {item : α} {records : List ErrorRecord}
    (fails : attempt item = .ok (records, none)) (items : List α) :
    Searching.firstSome attempt (item :: items) =
      match Searching.firstSome attempt items with
      | .error error => .error error
      | .ok (later, answer) => .ok (records ++ later, answer) := by
  rw [Searching.firstSome, fails, bind_ok]
  dsimp only
  cases Searching.firstSome attempt items with
  | error error => rfl
  | ok outcome => rfl

/-- Attempts that all fail leave their records. -/
theorem firstSome_fails {items : List α}
    (fails : ∀ item ∈ items, ∃ records, attempt item = .ok (records, none)) :
    ∃ records, Searching.firstSome attempt items = .ok (records, none) := by
  induction items with
  | nil => exact ⟨[], rfl⟩
  | cons item items induction =>
      obtain ⟨records, here⟩ := fails item List.mem_cons_self
      obtain ⟨later, behind⟩ := induction fun other member =>
        fails other (List.mem_cons_of_mem item member)
      exact ⟨records ++ later, by rw [firstSome_cons_none here, behind]⟩

/-- An item that fails adds its records to those of the others, unless an answer
is found before it. -/
theorem firstSome_insert {item : α} {before behind : List α}
    {added records : List ErrorRecord} {answer : Option β}
    (fails : attempt item = .ok (added, none))
    (without : Searching.firstSome attempt (before ++ behind) =
      .ok (records, answer)) :
    ∃ more, records ⊆ more ∧
      Searching.firstSome attempt (before ++ item :: behind) =
        .ok (more, answer) := by
  induction before generalizing records with
  | nil =>
      refine ⟨added ++ records, List.subset_append_right added records, ?_⟩
      rw [List.nil_append] at without ⊢
      rw [firstSome_cons_none fails, without]
  | cons first before induction =>
      rw [List.cons_append] at without ⊢
      cases tried : attempt first with
      | error error =>
          rw [Searching.firstSome, tried] at without
          cases without
      | ok outcome =>
          obtain ⟨earlier, found⟩ := outcome
          cases found with
          | some found =>
              rw [firstSome_cons_some tried] at without ⊢
              exact ⟨records, List.Subset.refl records, without⟩
          | none =>
              rw [firstSome_cons_none tried] at without ⊢
              cases later : Searching.firstSome attempt (before ++ behind) with
              | error error =>
                  rw [later] at without
                  cases without
              | ok outcome =>
                  obtain ⟨kept, answered⟩ := outcome
                  rw [later] at without
                  cases without
                  obtain ⟨more, subset, inserted⟩ := induction later
                  refine ⟨earlier ++ more, ?_, by rw [inserted]⟩
                  intro record member
                  rcases List.mem_append.mp member with here | behind
                  · exact List.mem_append_left more here
                  · exact List.mem_append_right earlier (subset behind)

end Search

namespace Tracked

variable {α β : Type}

theorem firstSome_append_of_some {attempt : α → Tracked (Option β)} {items : List α}
    {before after : Tracker} {answer : β}
    (found : Searching.firstSome attempt items before = (.ok (some answer), after))
    (more : List α) :
    Searching.firstSome attempt (items ++ more) before =
      (.ok (some answer), after) := by
  induction items generalizing before with
  | nil => cases found
  | cons item items induction =>
      rw [Searching.firstSome] at found
      rw [List.cons_append, Searching.firstSome]
      cases tried : attempt item before with
      | mk outcome middle =>
          cases outcome with
          | error error =>
              rw [bind_of_error tried] at found
              cases found
          | ok first =>
              rw [bind_of_ok tried] at found ⊢
              cases first with
              | some answer => exact found
              | none => exact induction found

end Tracked

/-! ## Sources -/

namespace Parser

variable (parser : Parser) (context : ParseContext) (literalOnly : Bool)
  (text : Text)

/-- A descriptor that does not matter leaves records and no answer. -/
theorem tryDescriptor_irrelevant {descriptor : Descriptor}
    (irrelevant : descriptor.Irrelevant (parser.matcher context literalOnly) text)
    (fill : Bool) :
    ∃ records, ((parser.attempt context literalOnly).matcherIn
      Search).tryDescriptor fill text descriptor = .ok (records, none) := by
  apply Search.firstSome_fails
  intro pattern member
  obtain ⟨before, after, ran⟩ :=
    irrelevant pattern.1 (List.fst_mem_of_mem_zipIdx member)
  have alike := Tracked.selection.attempt_alike (parser.attempt context literalOnly)
  have follows : Tracked.Follows Tracked.silent _ _ :=
    alike.run_related pattern.1 text
  obtain ⟨records, fails⟩ := follows.answered ran
  refine ⟨records, ?_⟩
  rw [Matcher.tryPattern, fails, Search.bind_ok]
  change Except.ok (records ++ [], none) = Except.ok (records, none)
  rw [List.append_nil]

variable (log : ParseLog) (defaultError : Option Text) {fill : Bool}
  {source : List Descriptor}

theorem listed_of_parsed {answer : Option Accepted} {after : ParseLog}
    (parsed : log.conclude defaultError
      ((parser.matcher context literalOnly).trySource fill text source) =
        (.ok answer, after)) :
    ∃ records, ((parser.attempt context literalOnly).matcherIn Search).trySource
      fill text source =
      .ok (records, answer) := by
  have follows := parser.trySource_follows context literalOnly fill text source
  have answered :=
    (log.conclude_answer defaultError _).symm.trans (congrArg Prod.fst parsed)
  exact follows.answered (Prod.ext answered rfl)

theorem parsed_of_listed {other : List Descriptor} {records : List ErrorRecord}
    {accepted : Accepted} {after : ParseLog}
    (parsed : log.conclude defaultError
      ((parser.matcher context literalOnly).trySource fill text source) =
        (.ok (some accepted), after))
    (listed : ((parser.attempt context literalOnly).matcherIn Search).trySource
      fill text other =
      .ok (records, some accepted)) :
    ∃ opened, log.conclude defaultError
      ((parser.matcher context literalOnly).trySource fill text other) =
        (.ok (some accepted), after.withOpened opened) := by
  obtain ⟨earlier, found⟩ :=
    listed_of_parsed parser context literalOnly text log defaultError parsed
  obtain ⟨first, left⟩ :=
    Call.trySource_settles parser log context literalOnly fill text source
    defaultError
  obtain ⟨second, right⟩ :=
    Call.trySource_settles parser log context literalOnly fill text other
    defaultError
  rw [found] at left
  rw [listed] at right
  have logged : after = _ := congrArg Prod.snd (parsed.symm.trans left)
  refine ⟨second, right.trans ?_⟩
  rw [logged, ParseLog.addAll_withOpened, ParseLog.addAll_withOpened,
    ParseLog.withOpened_withOpened]

/-- A call without an answer reports the best of the records. -/
theorem reports_of_listed {records : List ErrorRecord}
    (listed : ((parser.attempt context literalOnly).matcherIn Search).trySource
      fill text source =
      .ok (records, none)) :
    let search := (parser.matcher context literalOnly).trySource fill text source
    (search.attempt log).best = .ofRecords records ∧
      log.Reports defaultError (search.attempt log).best
        (log.conclude defaultError search) := by
  intro search
  have follows := parser.trySource_follows context literalOnly fill text source
  obtain ⟨_, ending⟩ := Tracked.attempt_follows follows log
  obtain ⟨opened, settles⟩ :=
    Call.trySource_settles parser log context literalOnly fill text source
    defaultError
  rw [listed] at ending settles
  have best : (search.attempt log).best = .ofRecords records := by rw [ending.2]
  refine ⟨best, opened, ?_⟩
  rw [best]
  exact settles.2

private theorem conclude_append {accepted : Accepted} {after : ParseLog}
    (parsed : log.conclude defaultError
      ((parser.matcher context literalOnly).trySource fill text source) =
        (.ok (some accepted), after)) (more : List Descriptor) :
    log.conclude defaultError
      ((parser.matcher context literalOnly).trySource fill text (source ++ more)) =
        (.ok (some accepted), after) := by
  have answered :=
    (log.conclude_answer defaultError _).symm.trans (congrArg Prod.fst parsed)
  have found : (parser.matcher context literalOnly).trySource fill text source
      ⟨.empty, log.openScope⟩ = (.ok (some accepted), _) := Prod.ext answered rfl
  rw [← parsed]
  apply ParseLog.conclude_congr
  rw [found]
  exact Tracked.firstSome_append_of_some found more

end Parser

/-- A descriptor of which no pattern matches does not interfere, wherever it is
put.  If the text parses without it, it parses to the same element with it, and
the log is the same up to the number of scopes opened.  If the text does not
parse without it, it does not parse with it, and the error that is reported is
at least as good.  What is put behind a source on which the text parses makes no
difference at all. -/
theorem Parser.irrelevant_unnoticed (parser : Parser) (context : ParseContext)
    (literalOnly fill : Bool) (text : Text) (log : ParseLog)
    (defaultError : Option Text) (before : List Descriptor) :
    let matcher := parser.matcher context literalOnly
    let best (source : List Descriptor) :=
      ((matcher.trySource fill text source).attempt log).best
    let parse (source : List Descriptor) :=
      log.conclude defaultError (matcher.trySource fill text source)
    (∀ (descriptor : Descriptor) (behind : List Descriptor),
      descriptor.Irrelevant matcher text →
      (∀ accepted after, parse (before ++ behind) = (.ok (some accepted), after) →
        ∃ opened, parse (before ++ descriptor :: behind) =
          (.ok (some accepted), after.withOpened opened)) ∧
      ∀ after, parse (before ++ behind) = (.ok none, after) →
        log.Reports defaultError (best (before ++ behind))
          (parse (before ++ behind)) ∧
          log.Reports defaultError (best (before ++ descriptor :: behind))
            (parse (before ++ descriptor :: behind)) ∧
          (best (before ++ behind)).quality.rank ≤
            (best (before ++ descriptor :: behind)).quality.rank) ∧
      ∀ accepted after, parse before = (.ok (some accepted), after) →
        ∀ more, parse (before ++ more) = (.ok (some accepted), after) := by
  intro matcher best parse
  refine ⟨?_, ?_⟩
  · intro descriptor behind irrelevant
    obtain ⟨added, fails⟩ :=
      tryDescriptor_irrelevant parser context literalOnly text irrelevant fill
    refine ⟨?_, ?_⟩
    · intro accepted after parsed
      obtain ⟨records, listed⟩ :=
        listed_of_parsed parser context literalOnly text log defaultError parsed
      obtain ⟨more, _, inserted⟩ := Search.firstSome_insert fails listed
      exact parsed_of_listed parser context literalOnly text log defaultError
        parsed inserted
    · intro after parsed
      obtain ⟨records, listed⟩ :=
        listed_of_parsed parser context literalOnly text log defaultError parsed
      obtain ⟨more, subset, inserted⟩ := Search.firstSome_insert fails listed
      obtain ⟨bestWithout, without⟩ :=
        reports_of_listed parser context literalOnly text log defaultError listed
      obtain ⟨bestWith, reports⟩ :=
        reports_of_listed parser context literalOnly text log defaultError inserted
      refine ⟨without, reports, ?_⟩
      calc
        (best (before ++ behind)).quality.rank
            = (BestError.ofRecords records).quality.rank := by rw [← bestWithout]
        _ ≤ (BestError.ofRecords more).quality.rank :=
      BestError.rank_ofRecords_mono subset
        _ = (best (before ++ descriptor :: behind)).quality.rank := by
          rw [← bestWith]
  · intro accepted after parsed more
    exact conclude_append parser context literalOnly text log defaultError
      parsed more

theorem Parser.unnoticed_by_grumbling :
    let matcher := Parser.builtins.matcher .script false
    let parse (source : List Descriptor) :=
      ParseLog.empty.conclude none (matcher.trySource true "nine" source)
    let best (source : List Descriptor) :=
      ((matcher.trySource true "nine" source).attempt .empty).best
    let counting := (Recording.plain ⟨"Counting", 0⟩).descriptor ["%integer%"] []
    counting.Irrelevant matcher "nine" ∧
      (∃ accepted after opened, parse [.grumbling true] =
        (.ok (some accepted), after) ∧
        parse [counting, .grumbling true] =
          (.ok (some accepted), after.withOpened opened) ∧
        ∀ more, parse (.grumbling true :: more) = (.ok (some accepted), after)) ∧
      (parse []).1 = .ok none ∧
      (best []).quality.rank ≤ (best [counting]).quality.rank ∧
        (best [counting]).quality = .notAnExpression := by
  intro matcher parse best counting
  have irrelevant : counting.Irrelevant matcher "nine" := by
    intro pattern member
    cases List.mem_singleton.mp member
    exact ⟨⟨.empty, .empty⟩, _, rfl⟩
  have succeeds : ∃ accepted, parse [.grumbling true] =
      (.ok (some accepted), (parse [.grumbling true]).2) := ⟨_, rfl⟩
  obtain ⟨accepted, parsed⟩ := succeeds
  obtain ⟨inFront, _⟩ :=
    Parser.irrelevant_unnoticed .builtins .script false true "nine" .empty none []
  obtain ⟨_, behind⟩ :=
    Parser.irrelevant_unnoticed .builtins .script false true "nine" .empty none
    [.grumbling true]
  obtain ⟨opened, found⟩ :=
    (inFront counting [.grumbling true] irrelevant).1 accepted _ parsed
  obtain ⟨_, _, better⟩ := (inFront counting [] irrelevant).2 (parse []).2 rfl
  exact ⟨irrelevant,
    ⟨accepted, _, opened, parsed, found, behind accepted _ parsed⟩,
    rfl, better, rfl⟩

end Phrasebook
