import Phrasebook.Proofs.Accounting
import Phrasebook.Proofs.LonePlural
import Phrasebook.Proofs.Search.Superseding
import Phrasebook.Proofs.Threshold

/-!
# Expressions and lone plurals

Parsing a text as an expression goes straight to what the text resolves to.  The
plural of the type, as a pattern, goes there by a match.  On a failure the one
always leaves a record that the text is no expression, and the other does so
only if the match is worth it.  By then resolving has left a record that is at
least as good, so that this one is never told, and both report the same.
-/

namespace Phrasebook

open Pattern

/-! ## Failures that were told before -/

namespace Tracked

/-- Behind a search that does not fail without an error, what follows a failure
does not matter if it is no news then. -/
theorem Complains.followed {α β : Type} {search : Tracked (Option α)} {wrap : α → β}
    (complains : Complains search) {next : Option α → Tracked (Option β)}
    (answers : ∀ answer, next (some answer) = pure (some (wrap answer)))
    (unheard : ∀ tracker : Tracker,
      ErrorQuality.notAnExpression.rank ≤ tracker.best.quality.rank →
        next none tracker = (.ok none, tracker)) :
    search >>= next = Option.map wrap <$> search := by
  rw [map_eq_pure_bind]
  apply bind_congr_reached
  intro found before after reached
  cases found with
  | some answer => exact congrFun (answers answer) after
  | none => exact unheard after (complains before after reached)

end Tracked

/-! ## The two searches -/

namespace Parser

variable {parser : Parser} {type : RegisteredType} {text : Text}

theorem run_plural_expression (spells : parser.registry.SpellsPlural type)
    (present : text ≠ []) :
    (parser.matcher .script false).run (alone type.plural) text =
      Option.map (.lone text) <$> parser.searchExpression type text := by
  have complains : ((parser.matcher .script false).resolve type text).Complains :=
    ((parser.attempt .script false).resolver Tracked).resolve_complains type text
  have written : text.isEmpty = false := by simpa using present
  have searched : (parser.searchExpression type text : Tracked (Option Expr)) =
      Option.map id <$> (parser.matcher .script false).resolve type text := by
    rw [searchExpression, written]
    refine complains.followed (fun _ => rfl) ?_
    intro tracker kept
    exact Tracked.bind_of_ok (Tracked.record_unheard _ kept)
  rw [searched, Option.map_id, id_map, Matcher.run_plural spells present]
  refine complains.followed (fun _ => rfl) ?_
  intro tracker kept
  exact Tracked.bind_of_ok (Matcher.complain_unheard _ _ _ _ kept)

/-- A search for an expression that fails leaves a record. -/
theorem searchExpression_leaves {records : List ErrorRecord}
    (failed : (parser.searchExpression type text : Search (Option Expr)) =
      .ok (records, none)) :
    records ≠ [] := by
  obtain ⟨earlier, found, later, _, failed, rfl⟩ := Search.bind_found failed
  cases found with
  | some expr => cases failed
  | none =>
      cases failed
      simp

end Parser

/-! ## The two calls -/

namespace ParseLog

theorem conclude_map {α β : Type} (log : ParseLog) (defaultError : Option Text)
    (search : Tracked (Option α)) (wrap : α → β) :
    log.conclude defaultError (Option.map wrap <$> search) =
      ((log.conclude defaultError search).1.map (Option.map wrap),
        (log.conclude defaultError search).2) := by
  rw [map_eq_pure_bind]
  unfold conclude Tracked.attempt
  rcases ran : search ⟨.empty, log.openScope⟩ with ⟨error | (none | answer), after⟩
  · simp only [Tracked.bind_of_error ran]
    rfl
  · simp only [Tracked.bind_of_ok ran]
    rfl
  · simp only [Tracked.bind_of_ok ran]
    rfl

/-- The log has got an error for each of the records and nothing else.  Outside
of all scopes these are its new diagnostics. -/
structure Gains (log : ParseLog) (records : List ErrorRecord)
    (after : ParseLog) : Prop where
  logged : ∃ opened,
    after = (log.withOpened opened).addAll (records.map ErrorRecord.entry)
  reported : log.scopes = [] →
    after.diagnostics = log.diagnostics ++ records.map ErrorRecord.diagnostic

theorem Gains.of_addAll (log : ParseLog) (opened : Nat)
    (records : List ErrorRecord) :
    log.Gains records
      ((log.withOpened opened).addAll (records.map ErrorRecord.entry)) where
  logged := ⟨opened, rfl⟩
  reported root := by
    have diagnosed : (LogEntry.diagnostic? ∘ ErrorRecord.entry) =
        fun record => some record.diagnostic := rfl
    rw [((log.withOpened opened).addAll_of_root _ root).2, List.filterMap_map,
      diagnosed, List.filterMap_eq_map']
    rfl

end ParseLog

namespace Parser

private theorem parseExpression_gains (parser : Parser) (log : ParseLog)
    {type : RegisteredType}
    (known : parser.registry.getType type.name = .ok type) (text : Text) :
    (∃ expr after, parser.parseExpression log text type.name none =
      (.ok (some expr), after) ∧
        log.Gains [] after) ∨
      (∃ record after, parser.parseExpression log text type.name none =
        (.ok none, after) ∧
        log.Gains [record] after) ∨
      ∃ error after, parser.parseExpression log text type.name none =
        (.error error, after) ∧
        log.Gains [] after := by
  have settles := Call.parseExpression_settles parser log text type.name none
  have search : (Call.parseExpression text type.name none).search Search parser =
      parser.searchExpression type (Text.strip text) := by
    rw [Call.search, known]
    exact pure_bind _ _
  rw [search] at settles
  obtain ⟨opened, settles⟩ := settles
  rcases searched :
      (parser.searchExpression type (Text.strip text) : Search (Option Expr))
        with
    error | ⟨records, none | expr⟩
  · rw [searched] at settles
    exact .inr (.inr ⟨error, _, settles, .of_addAll log opened []⟩)
  · rw [searched] at settles
    obtain ⟨ranked, settles⟩ := settles
    rcases BestError.ofRecords_cases ranked with ⟨nothing, _⟩ | ⟨record, _, best⟩
    · exact absurd nothing (searchExpression_leaves searched)
    · rw [BestError.reported, best] at settles
      exact .inr (.inl ⟨record, _, settles, .of_addAll log opened [record]⟩)
  · rw [searched] at settles
    exact .inl ⟨expr, _, settles, .of_addAll log opened []⟩

/-- The plural of a type, as a pattern, takes a text without spaces around it if
and only if the text is parsed as an expression of the type.  Both give the same
expression and log nothing, or both fail with the same single error, or both hit
the same setup error. -/
theorem parseExpression_agrees (parser : Parser) (log : ParseLog)
    {type : RegisteredType} {text : Text}
    (spells : parser.registry.SpellsPlural type) (present : text ≠ [])
    (trimmed : Text.strip text = text) :
    let direct := parser.parseExpression log text type.name none
    let matched := parser.matchPattern log (alone type.plural) text false
    (∃ expr after, direct = (.ok (some expr), after) ∧
        matched = (.ok (some (.lone text expr)), after) ∧ log.Gains [] after) ∨
      (∃ record after, direct = (.ok none, after) ∧ matched = (.ok none, after) ∧
        log.Gains [record] after) ∨
      ∃ error after, direct = (.error error, after) ∧
      matched = (.error error, after) ∧
        log.Gains [] after := by
  intro direct matched
  have alike : matched = (direct.1.map (Option.map (.lone text)), direct.2) := by
    have concluded :
        direct = log.conclude none (parser.searchExpression type text) := by
      simp only [direct, parseExpression, spells.known, trimmed]
    rw [concluded, ← ParseLog.conclude_map, ← run_plural_expression spells present]
    simp only [matched, matchPattern, spells.valid]
  rcases parser.parseExpression_gains log spells.known text with
    ⟨expr, after, parsed, gains⟩ | ⟨record, after, failed, gains⟩
      | ⟨error, after, failed, gains⟩
  · refine .inl ⟨expr, after, parsed, ?_, gains⟩
    rw [alike, show direct = _ from parsed]
    rfl
  · refine .inr (.inl ⟨record, after, failed, ?_, gains⟩)
    rw [alike, show direct = _ from failed]
    rfl
  · refine .inr (.inr ⟨error, after, failed, ?_, gains⟩)
    rw [alike, show direct = _ from failed]
    rfl

/-- The number is no truth value, and what is told in both is the complaint of the
expression that is written like it. -/
theorem parseExpression_agrees_doubt :
    let parser : Parser := ⟨.doubting, .standard⟩
    parser.registry.SpellsPlural .boolean ∧ Text.strip "5" = "5" ∧
      ∃ record after, parser.parseExpression .empty "5" "boolean" none =
        (.ok none, after) ∧
        parser.matchPattern .empty "%booleans%" "5" false = (.ok none, after) ∧
        ParseLog.empty.Gains [record] after ∧
        after.diagnostics = [⟨.error, "E103", "no five", [], []⟩] := by
  intro parser
  have spells : parser.registry.SpellsPlural .boolean :=
    ⟨rfl, rfl, by decide, by decide⟩
  have trimmed : Text.strip "5" = "5" := by decide
  refine ⟨spells, trimmed, ?_⟩
  have fails : (parser.parseExpression .empty "5" "boolean" none).1 =
      .ok none := rfl
  have reports : (parser.parseExpression .empty "5" "boolean" none).2.diagnostics =
      [⟨.error, "E103", "no five", [], []⟩] := rfl
  rcases parseExpression_agrees parser .empty spells (by decide) trimmed with
    ⟨expr, after, parsed, _⟩ | ⟨record, after, failed, matched, gains⟩
      | ⟨error, after, failed, _⟩
  · cases (congrArg Prod.fst parsed).symm.trans fails
  · have reported : after.diagnostics = [⟨.error, "E103", "no five", [], []⟩] :=
      (congrArg (·.2.diagnostics) failed).symm.trans reports
    exact ⟨record, after, failed, matched, gains, reported⟩
  · cases (congrArg Prod.fst failed).symm.trans fails

end Parser

end Phrasebook
