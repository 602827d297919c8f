import Phrasebook.Proofs.Boundary.Shortcut
import Phrasebook.Proofs.Call
import Phrasebook.Proofs.Pattern.Derivation
import Phrasebook.Proofs.Usage.Agreement

/-!
# The plural of a type on its own

A pattern may be a single placeholder with the plural of a type.  It takes a
text as a whole, and neither its number nor its time gets in the way of what the
text resolves to.  With literals alone it does what reading the text as a
literal does, unless the type is the universal one and the text is blank.
-/

namespace Phrasebook

open Pattern

/-- The type is registered, and its plural means it and can be written in a
placeholder. -/
structure Registry.SpellsPlural (registry : Registry) (type : RegisteredType) :
    Prop where
  known : registry.getType type.name = .ok type
  means : registry.normalize type.plural = (type.name, true)
  present : type.plural ≠ []
  plain : Command.PlainName type.plural

/-- The match of a text that the only placeholder of a pattern has taken as a
whole. -/
def MatchResult.lone (text : Text) (expr : Expr) : MatchResult :=
  (unbound text 1 0).bind 0 expr

@[simp] theorem MatchResult.exprs_lone (text : Text) (expr : Expr) :
    (lone text expr).exprs = [some expr] := rfl

namespace Registry.SpellsPlural

variable {registry : Registry} {type : RegisteredType}

theorem segment (spells : registry.SpellsPlural type) : Segment type.plural 0 :=
  spells.plain.segment false

theorem read (spells : registry.SpellsPlural type) :
    Placeholder.read registry.normalize type.plural =
      .ok ⟨type.name, true, 0, false⟩ := by
  have named := spells.plain.read registry.normalize false
  rwa [spells.means] at named

theorem valid (spells : registry.SpellsPlural type) :
    validate (alone type.plural) = .ok () := by
  have faultless : fault? (alone type.plural) = none :=
    (faultFrom_enclosed spells.segment).trans (if_neg spells.present)
  rw [validate, faultless]

end Registry.SpellsPlural

/-! ## What the placeholder takes -/

section Run

variable {m : Type → Type} [Searching m] [LawfulMonad m] {matcher : Matcher m}
  {type : RegisteredType} {text : Text}

private theorem Matcher.takeWhole_plural (matcher : Matcher m) (name : Text)
    (optional : Bool) (type : RegisteredType) (text : Text) :
    matcher.takeWhole ⟨name, true, 0, optional⟩ type text = (do
      match ← matcher.resolve type text with
      | some expr => pure (some (.lone text expr))
      | none => do
          matcher.complain type.toTypeInfo text 0
          pure none) := by
  simp only [takeWhole, tryCut, pure_bind, bind_assoc]
  refine congrArg (matcher.resolve type text >>= ·) (funext fun found => ?_)
  cases found with
  | some expr => simp [fit, MatchResult.lone]
  | none => simp [MatchResult.unbound]

theorem Matcher.run_plural (spells : matcher.registry.SpellsPlural type)
    (present : text ≠ []) :
    matcher.run (alone type.plural) text = (do
      match ← matcher.resolve type text with
      | some expr => pure (some (.lone text expr))
      | none => do
          matcher.complain type.toTypeInfo text 0
          pure none) := by
  rw [matcher.run_alone spells.segment present spells.read spells.known]
  exact matcher.takeWhole_plural type.name false type text

omit [LawfulMonad m] in
theorem Matcher.run_alone_nil (matcher : Matcher m) (written : Text) :
    matcher.run (alone written) [] = pure none := rfl

end Run

/-! ## Literals -/

def Attempt.resolver (attempt : Attempt) (m : Type → Type) [Searching m] :
    Resolver m where
  registry := attempt.registry
  context := attempt.context
  literalOnly := attempt.literalOnly
  parseNested := attempt.registry.parseNested attempt.minErrorChars
  read := attempt.registry.read

/-- The answer that a search comes to, apart from its records. -/
def Search.answer {α : Type} (search : Search α) : Except SetupError α :=
  Except.map Prod.snd search

namespace Parser

variable {parser : Parser} {type : RegisteredType} {text : Text}

/-- Unless a blank text is wanted as anything at all, a placeholder takes the
literals that a text is read as on its own. -/
theorem literal?_eq {m : Type → Type} [Searching m] {literalOnly : Bool}
    (known : parser.registry.getType type.name = .ok type)
    (visible : type.isUniversal = true → Text.strip text ≠ []) :
    ((parser.attempt .script literalOnly).resolver m).literal? type text =
      parser.parseLiteral text type.name := by
  unfold Resolver.literal? parseLiteral
  rw [known]
  dsimp only
  by_cases universal : type.isUniversal = true
  · have written : (Text.strip text).isEmpty = false := by
      simpa using visible universal
    simp [universal, written, Expr.convert, Expr.convertText, bind, Except.bind]
  · simp only [if_neg universal]
    rfl

theorem literal?_universal {m : Type → Type} (resolver : Resolver m)
    (universal : type.isUniversal = true) :
    resolver.literal? type text = .ok (some (.unparsed (Text.strip text))) := by
  rw [Resolver.literal?, if_pos universal]

/-- With literals alone the placeholder takes a text if it is a literal. -/
theorem run_plural_literal (spells : parser.registry.SpellsPlural type)
    (present : text ≠ []) :
    Search.answer ((parser.attempt .script true).ready.run
      (alone type.plural) text) =
      (((parser.attempt .script true).resolver Search).literal? type text).map
        (Option.map (.lone text)) := by
  have resolve : (parser.attempt .script true).ready.resolve type text =
      ((parser.attempt .script true).resolver Search).resolveLiteral
        type text := rfl
  rw [Matcher.run_plural spells present, resolve, Resolver.resolveLiteral]
  cases ((parser.attempt .script true).resolver Search).literal? type text with
  | error error => rfl
  | ok found =>
      cases found with
      | some expr => rfl
      | none =>
          simp only [Searching.lift, pure_bind]
          unfold Matcher.complain
          split <;> rfl

theorem run_plural_parseLiteral (spells : parser.registry.SpellsPlural type)
    (visible : type.isUniversal = true → text ≠ [] → Text.strip text ≠ []) :
    Search.answer ((parser.attempt .script true).ready.run
      (alone type.plural) text) =
      (parser.parseLiteral text type.name).map (Option.map (.lone text)) := by
  by_cases present : text = []
  · subst present
    rw [Matcher.run_alone_nil]
    rfl
  · rw [run_plural_literal spells present,
      literal?_eq spells.known fun universal => visible universal present]

theorem run_plural_blank (spells : parser.registry.SpellsPlural type)
    (universal : type.isUniversal = true) (present : text ≠ [])
    (blank : Text.strip text = []) :
    Search.answer ((parser.attempt .script true).ready.run
      (alone type.plural) text) =
      .ok (some (.lone text (.unparsed []))) := by
  rw [run_plural_literal spells present, literal?_universal _ universal, blank]
  rfl

end Parser

/-! ## Matching a single pattern -/

theorem matchQuietly_answer (registry : Registry) (context : ParseContext)
    (literalOnly : Bool) {pattern : Text} (valid : validate pattern = .ok ())
    (text : Text) :
    matchQuietly registry context literalOnly pattern text =
      Search.answer (Matcher.run (Attempt.ready ⟨registry, context, literalOnly,
        ParserOptions.standard.minErrorChars⟩) pattern text) := by
  rw [matchQuietly, valid]
  cases answers : Matcher.run (Attempt.ready ⟨registry, context, literalOnly,
      ParserOptions.standard.minErrorChars⟩) pattern text with
  | error error =>
      simp only [answers]
      rfl
  | ok outcome =>
      simp only [answers]
      rfl

theorem ParseLog.Settles.answered {α : Type} {told : α → List LogEntry}
    {log : ParseLog} {defaultError : Option Text} {search : Search (Option α)}
    {outcome : Except SetupError (Option α) × ParseLog}
    (settles : Settles told log defaultError search outcome) :
    outcome.1 = search.answer := by
  obtain ⟨opened, settles⟩ := settles
  rcases search with error | ⟨records, none | answer⟩
  · exact congrArg Prod.fst settles
  · exact congrArg Prod.fst settles.2
  · exact congrArg Prod.fst settles

private theorem Parser.matchPattern_answer (parser : Parser) (log : ParseLog)
    {pattern : Text} (valid : validate pattern = .ok ()) (text : Text)
    (literalOnly : Bool) :
    (parser.matchPattern log pattern text literalOnly).1 =
      Search.answer ((parser.attempt .script literalOnly).ready.run
        pattern text) := by
  have settles := Call.matchPattern_settles parser log pattern text literalOnly
  rw [settles.answered, Call.search, valid]
  simp only [Searching.lift, pure_bind]
  rfl

namespace Parser

/-- A text is read as a literal of a type if and only if the plural of the type,
as a pattern, takes it with literals alone, and both give the same expression or
hit the same setup error.  A blank text is the only exception: it is not read as
a literal of the universal type, but the placeholder takes it, unless there is
nothing of it. -/
theorem parseLiteral_agrees (parser : Parser) (log : ParseLog)
    {type : RegisteredType} (spells : parser.registry.SpellsPlural type)
    (text : Text) :
    ((type.isUniversal = true → text ≠ [] → Text.strip text ≠ []) →
      matchQuietly parser.registry .script true (alone type.plural) text =
          (parser.parseLiteral text type.name).map (Option.map (.lone text)) ∧
        (parser.matchPattern log (alone type.plural) text true).1 =
          (parser.parseLiteral text type.name).map (Option.map (.lone text))) ∧
      (type.isUniversal = true → text ≠ [] → Text.strip text = [] →
        parser.parseLiteral text type.name = .ok none ∧
          matchQuietly parser.registry .script true (alone type.plural) text =
            .ok (some (.lone text (.unparsed []))) ∧
          (parser.matchPattern log (alone type.plural) text true).1 =
            .ok (some (.lone text (.unparsed [])))) := by
  have standard : (⟨parser.registry, .standard⟩ : Parser).registry.SpellsPlural
      type := spells
  rw [matchQuietly_answer _ _ _ spells.valid, matchPattern_answer _ _ spells.valid]
  constructor
  · intro visible
    exact ⟨run_plural_parseLiteral standard visible,
      run_plural_parseLiteral spells visible⟩
  · intro universal present blank
    refine ⟨?_, run_plural_blank standard universal present blank,
      run_plural_blank spells universal present blank⟩
    rw [parseLiteral, blank]
    rfl

theorem parseLiteral_agrees_numbers :
    builtins.registry.SpellsPlural .integer ∧
      (RegisteredType.integer.isUniversal = true → Text.strip " 4 and 5 " ≠ []) ∧
      ∃ expr, builtins.parseLiteral " 4 and 5 " "integer" = .ok (some expr) ∧
        expr.literalValues = [.datum (.int 4), .datum (.int 5)] ∧
        matchQuietly builtins.registry .script true "%integers%" " 4 and 5 " =
          .ok (some (.lone " 4 and 5 " expr)) ∧
        (builtins.matchPattern .empty "%integers%" " 4 and 5 " true).1 =
          .ok (some (.lone " 4 and 5 " expr)) := by
  have spells : builtins.registry.SpellsPlural .integer :=
    ⟨rfl, rfl, by decide, by decide⟩
  have visible : RegisteredType.integer.isUniversal = true →
      Text.strip " 4 and 5 " ≠ [] := by
    decide
  have agrees := (parseLiteral_agrees builtins .empty spells " 4 and 5 ").1
    fun universal _ => visible universal
  exact ⟨spells, visible, _, rfl, rfl, agrees⟩

/-- The placeholder takes a space as anything at all, but on its own it is no
literal. -/
theorem objects_take_blank :
    builtins.registry.SpellsPlural .object ∧
      ¬ ((∃ expr, builtins.parseLiteral " " "object" = .ok (some expr)) ↔
        ∃ result, (builtins.matchPattern .empty "%objects%" " " true).1 =
          .ok (some result)) := by
  refine ⟨⟨rfl, rfl, by decide, by decide⟩, ?_⟩
  intro agree
  obtain ⟨expr, isLiteral⟩ := agree.mpr ⟨_, rfl⟩
  cases isLiteral

end Parser

end Phrasebook
