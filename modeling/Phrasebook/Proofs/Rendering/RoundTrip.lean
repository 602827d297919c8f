import Phrasebook.Proofs.Call
import Phrasebook.Proofs.Pattern.Lexing
import Phrasebook.Proofs.Rendering.Template
import Phrasebook.Proofs.Search.Laws
import Phrasebook.Proofs.Search.Tracking

/-!
# Values come back

With nothing but the built-in types registered, the written form of a value is
read as the value.  So matching the text of a template against its pattern gives
all the values back.
-/

namespace Phrasebook

/-! ## Reading a written form -/

theorem Literal.string_unquoted {context : ParseContext}
    (notCommand : context ≠ .command) (text : Text) :
    string text context = (Text.unquote? text).map fun value =>
      .datum (.text value) := by
  cases context with
  | command => exact absurd rfl notCommand
  | script => rfl
  | event => rfl

namespace Filling

theorem written_first (filling : Filling) :
    ∃ first rest, filling.written = first :: rest ∧
      (first = '-' ∨ first = '"' ∨ first.isDigit = true) := by
  cases filling with
  | integer value =>
      obtain ⟨first, digits, split, starts, _⟩ := written_integer value
      rcases starts with rfl | isDigit
      · exact ⟨'-', digits, split, .inl rfl⟩
      · exact ⟨first, digits, split, .inr (.inr isDigit)⟩
  | string value => exact ⟨'"', _, rfl, .inr (.inl rfl)⟩

theorem strip_written (filling : Filling) :
    Text.strip filling.written = filling.written := by
  obtain ⟨first, rest, split, starts⟩ := filling.written_first
  obtain ⟨last, isLast, noBlank⟩ := filling.written_last
  apply Text.strip_eq
  · intro char isFirst
    rw [split] at isFirst
    cases isFirst
    rcases starts with rfl | rfl | isDigit
    · rfl
    · rfl
    · exact Text.isBlank_digit isDigit
  · intro char isChar
    rw [isLast] at isChar
    cases isChar
    exact noBlank

theorem readVariable_written (filling : Filling) (type : TypeInfo) :
    Expr.readVariable? filling.written type = none := by
  obtain ⟨first, rest, split, starts⟩ := filling.written_first
  rw [split]
  rcases starts with rfl | rfl | isDigit
  · exact Expr.readVariable_none type (by decide) (by decide)
  · exact Expr.readVariable_none type (by decide) (by decide)
  · apply Expr.readVariable_none
    · rintro rfl
      cases isDigit
    · rw [Text.toLower_digit isDigit]
      intro member
      have isLetter : first = 'v' ∨ first = 't' := by simpa using member
      rcases isLetter with rfl | rfl <;> cases isDigit

variable {registry : Registry} {context : ParseContext} (filling : Filling)

/-- Outside of commands a written form is a literal of the type of its value. -/
theorem read_written (notCommand : context ≠ .command) :
    registry.read filling.type filling.written context =
      .ok (some filling.value) := by
  rw [Registry.read, Registry.readWithin]
  cases filling with
  | integer value =>
      change Except.ok (Literal.integer (Text.ofInt value) context) = _
      rw [Literal.integer, Text.readInteger_ofInt]
      rfl
  | string value =>
      change Except.ok (Literal.string (Text.quoted value) context) = _
      rw [Literal.string_unquoted notCommand, Text.unquote_quoted]
      rfl

private theorem literal_written {resolver : Resolver Search}
    (reads : resolver.read = registry.read)
    (notCommand : resolver.context ≠ .command) :
    resolver.literal? filling.type filling.written = .ok (some filling.expr) := by
  obtain ⟨first, rest, split, _⟩ := filling.written_first
  have notUniversal : filling.type.isUniversal = false := by
    cases filling <;> rfl
  have present : filling.written.isEmpty = false := by
    rw [split]
    rfl
  simp only [Resolver.literal?, strip_written, notUniversal, present,
    Bool.false_eq_true, if_false,
    Expr.convert, Expr.convertText, reads, read_written filling notCommand]
  rfl

end Filling

private theorem Registry.parseNested_none {registry : Registry}
    (noSyntax : registry.expressions = []) (minErrorChars : Int) (text : Text) :
    registry.parseNested minErrorChars text =
      (pure none : Search (Option ComputedElement)) := by
  rw [Registry.parseNested, Registry.parseNestedWithin]
  simp only [noSyntax]
  rfl

theorem Attempt.resolve_written {attempt : Attempt}
    (noSyntax : attempt.registry.expressions = [])
    (notCommand : attempt.context ≠ .command) (filling : Filling) :
    attempt.ready.resolve filling.type filling.written =
      pure (some filling.expr) := by
  have literal : Resolver.resolveLiteral ⟨attempt.registry, attempt.context,
    attempt.literalOnly,
      attempt.registry.parseNested attempt.minErrorChars,
      attempt.registry.read⟩ filling.type
      filling.written = (pure (some filling.expr) : Search (Option Expr)) := by
    rw [Resolver.resolveLiteral, filling.literal_written rfl notCommand,
      Searching.lift, pure_bind]
  change Resolver.resolve ⟨attempt.registry, attempt.context, attempt.literalOnly,
    attempt.registry.parseNested attempt.minErrorChars,
    attempt.registry.read⟩ filling.type
    filling.written = (pure (some filling.expr) : Search (Option Expr))
  rw [Resolver.resolve]
  by_cases literalOnly : attempt.literalOnly = true
  · rw [if_pos literalOnly]
    exact literal
  · rw [if_neg literalOnly, filling.readVariable_written]
    simp only [Registry.parseNested_none noSyntax, pure_bind]
    exact literal

/-! ## Templates are valid patterns -/

namespace Pattern

theorem faultFrom_part {part : Text} (plain : ∀ char ∈ part, char ∉ specials)
    (rest : Text) :
    faultFrom (.plain []) (part ++ rest) = faultFrom (.plain []) rest := by
  induction part with
  | nil => rfl
  | cons char part induction =>
      have noSpecial := plain char List.mem_cons_self
      simp only [specials, List.mem_cons, List.not_mem_nil, or_false, not_or]
        at noSpecial
      obtain ⟨noSquare, noSquareEnd, noRound, noRoundEnd, noBar, noPercent,
          noAngle, noEscape⟩ :=
        noSpecial
      have later := induction fun other member =>
        plain other (List.mem_cons_of_mem char member)
      rw [List.cons_append, faultFrom_plain noEscape]
      simp [noSquare, noSquareEnd, noRound, noRoundEnd, noBar, noPercent,
        noAngle, later]

private theorem faultFrom_gap {gap : Gap}
    (plain : ∀ char ∈ gap.behind, char ∉ specials) (rest : Text) :
    faultFrom (.plain []) (gap.pattern ++ rest) = faultFrom (.plain []) rest := by
  have passed : faultFrom (.plain []) (gap.pattern ++ rest) =
      faultFrom (.plain []) (gap.behind ++ rest) := by
    rw [Gap.pattern]
    cases gap.filling with
    | integer value => rfl
    | string value => rfl
  rw [passed, faultFrom_part plain]

private theorem faultFrom_gaps {gaps : List Gap}
    (itself : ∀ gap ∈ gaps, Text.standsForItself gap.behind = true) :
    faultFrom (.plain []) (gaps.flatMap Gap.pattern) = none := by
  induction gaps with
  | nil => rfl
  | cons gap gaps induction =>
      have plain := (Text.standsForItself_iff.mp (itself gap List.mem_cons_self)).1
      rw [List.flatMap_cons, faultFrom_gap plain]
      exact induction fun other member =>
        itself other (List.mem_cons_of_mem gap member)

end Pattern

theorem Template.Proper.valid {template : Template} (proper : template.Proper) :
    Pattern.validate template.pattern = .ok () := by
  have noFault : Pattern.fault? template.pattern = none := by
    rw [Pattern.fault?, Template.pattern,
      Pattern.faultFrom_part (Text.standsForItself_iff.mp proper.lead).1]
    exact Pattern.faultFrom_gaps proper.behind
  rw [Pattern.validate, noFault]

/-! ## Matching a template -/

private theorem Template.Proper.ready_run {template : Template}
    (proper : template.Proper) {attempt : Attempt}
    (types : attempt.registry.types = RegisteredType.builtins)
    (noSyntax : attempt.registry.expressions = [])
    (notCommand : attempt.context ≠ .command) :
    attempt.ready.run template.pattern template.text =
      .ok ([], some template.result) :=
  proper.run_eq types (Attempt.resolve_written noSyntax notCommand)

/-- A parser answers what the search answers that lists all records. -/
theorem Attempt.tracked_run {attempt : Attempt} {pattern text : Text}
    {records : List ErrorRecord} {found : Option MatchResult}
    (answers : attempt.ready.run pattern text = .ok (records, found))
    (tracker : Tracker) :
    (attempt.tracked.run pattern text tracker).1 = .ok found := by
  have follows := (Tracked.selection.attempt_alike attempt).run_related pattern text
  obtain ⟨opened, reflects⟩ := follows tracker
  have listed : (attempt.matcherIn Search).run pattern text =
      .ok (records, found) := answers
  rw [listed] at reflects
  exact congrArg Prod.fst reflects.2

/-- Whatever the values are, the pattern of a proper template matches its text,
binds each slot to the single literal of its value, and counts the characters
between them. -/
theorem Template.Proper.roundTrip {template : Template} (proper : template.Proper)
    {registry : Registry} (types : registry.types = RegisteredType.builtins)
    (noSyntax : registry.expressions = []) :
    (∀ context literalOnly, context ≠ .command →
      matchQuietly registry context literalOnly template.pattern template.text =
        .ok (some template.result)) ∧
    ∀ options log literalOnly,
      (Parser.matchPattern ⟨registry, options⟩ log template.pattern
        template.text literalOnly).1 =
        .ok (some template.result) := by
  constructor
  · intro context literalOnly notCommand
    have answers : Matcher.run (Attempt.ready ⟨registry, context, literalOnly,
        ParserOptions.standard.minErrorChars⟩) template.pattern template.text = _ :=
      proper.ready_run types noSyntax notCommand
    rw [matchQuietly, proper.valid]
    simp only [answers]
    rfl
  · intro options log literalOnly
    have answers : Matcher.run (Attempt.ready ⟨registry, .script, literalOnly,
        options.minErrorChars⟩) template.pattern template.text = _ :=
      proper.ready_run types noSyntax (fun same => by cases same)
    have tracked := Attempt.tracked_run answers ⟨.empty, log.openScope⟩
    simp only [Parser.matchPattern, proper.valid]
    rw [ParseLog.conclude_answer]
    exact tracked

/-- The text between the quotes may look like the pattern itself. -/
theorem Template.roundTrip_of_order :
    let template : Template :=
      ⟨"buy ", [⟨.integer (-12), " of "⟩, ⟨.string "1 of \"2\"", []⟩]⟩
    template.pattern = "buy %integer% of %string%" ∧
      template.text = "buy -12 of \"1 of \"\"2\"\"\"" ∧
      template.result.matchedChars = 8 ∧
      matchQuietly .builtins .script false template.pattern template.text =
        .ok (some template.result) ∧
      (Parser.builtins.matchPattern .empty template.pattern template.text true).1 =
        .ok (some template.result) := by
  intro template
  have proper : template.Proper := ⟨by decide, by decide, by decide, by decide⟩
  have types : Registry.builtins.types = RegisteredType.builtins := rfl
  have noSyntax : Registry.builtins.expressions = [] := rfl
  obtain ⟨quietly, reported⟩ := proper.roundTrip types noSyntax
  exact ⟨by decide, by decide, rfl, quietly .script false (by decide),
    reported .standard .empty true⟩

end Phrasebook
