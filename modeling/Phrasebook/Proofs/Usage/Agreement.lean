import Phrasebook.Proofs.Builtins
import Phrasebook.Proofs.Coverage.Walk
import Phrasebook.Proofs.Search.Raising
import Phrasebook.Proofs.Usage.Reading

/-!
# Arguments and placeholders

Each argument that a usage declares has a placeholder in the pattern.  The rest
of the usage is copied into the pattern as it stands, and scans of the pattern
read it again: a percent sign in it counts as one of a placeholder, and a
backslash takes away the percent sign of a declaration behind it.  As long as
neither happens, the placeholders are those of the arguments, in order.
-/

namespace Phrasebook

open Pattern

private theorem Text.partition_of_not_mem {separator : Char} {text : Text}
    (absent : separator ∉ text) : Text.partition separator text = (text, none) := by
  induction text with
  | nil => rfl
  | cons char text induction =>
      obtain ⟨other, later⟩ := not_or.mp (mt List.mem_cons.mpr absent)
      rw [Text.partition, if_neg (Ne.symm other), induction later]

namespace Command

/-- No character of the name means anything in a placeholder. -/
def PlainName (name : Text) : Prop :=
  (∀ char ∈ name, char ∉ ['%', '\\', '@']) ∧ name.head? ≠ some '-'

instance (name : Text) : Decidable (PlainName name) :=
  have := List.decidableBAll (fun char => char ∉ ['%', '\\', '@']) name
  inferInstanceAs (Decidable (_ ∧ _))

/-- Outside of declarations every percent sign is escaped, and no backslash
escapes the start of a declaration; names of types are plain.  The flag says
whether the parts stand behind a backslash that escapes their first
character. -/
def Clear : Bool → List UsagePart → Prop
  | _, [] => True
  | true, .char _ :: rest => Clear false rest
  | false, .char char :: rest => char ≠ '%' ∧ Clear (char == '\\') rest
  | true, .declared _ _ :: _ => False
  | false, .declared declaration _ :: rest =>
      PlainName (Text.strip declaration.typeName) ∧ Clear false rest

instance decidableClear : (escaped : Bool) → (parts : List UsagePart) →
    Decidable (Clear escaped parts)
  | _, [] => .isTrue trivial
  | true, .char _ :: rest => decidableClear false rest
  | false, .char char :: rest =>
      have := decidableClear (char == '\\') rest
      inferInstanceAs (Decidable (_ ∧ _))
  | true, .declared _ _ :: _ => .isFalse id
  | false, .declared _ _ :: rest =>
      have := decidableClear false rest
      inferInstanceAs (Decidable (_ ∧ _))

theorem PlainName.segment {name : Text} (plain : PlainName name) (optional : Bool) :
    Segment (Draft.written optional name) 0 := by
  have named : Segment name 0 := .of_avoiding (by decide) (by decide) plain.1
  cases optional with
  | false => exact named
  | true => exact .plain (by decide) (by decide) named

/-- A plain name reads as the type it names. -/
theorem PlainName.read {name : Text} (plain : PlainName name)
    (normalize : Text → Text × Bool) (optional : Bool) :
    Placeholder.read normalize (Draft.written optional name) =
      .ok ⟨(normalize name).1, (normalize name).2, 0, optional⟩ := by
  have split : Placeholder.splitDash (Draft.written optional name) =
      (optional, name) := by
    cases optional with
    | true => rfl
    | false =>
        unfold Draft.written Placeholder.splitDash
        simp only [Bool.false_eq_true, if_false]
        split
        · exact absurd rfl plain.2
        · rfl
  have noTime : '@' ∉ name := by
    intro member
    exact absurd (plain.1 '@' member) (by simp)
  simp only [Placeholder.read, split, Text.partition_of_not_mem noTime]

/-- The pattern has a placeholder in this slot, and it asks for what the
argument is declared as. -/
def Places (registry : Registry) (pattern : Text) (slot : Nat)
    (argument : Argument) : Prop :=
  ∃ before inside rest, pattern = before ++ '%' :: (inside ++ '%' :: rest) ∧
    Segment before (2 * slot) ∧ Segment inside 0 ∧
      Placeholder.read registry.normalize inside =
        .ok ⟨argument.typeName, !argument.single, 0, argument.optional⟩

theorem Places.append {registry : Registry} {pattern : Text} {slot : Nat}
    {argument : Argument} (places : Places registry pattern slot argument)
    (more : Text) :
    Places registry (pattern ++ more) slot argument := by
  obtain ⟨before, inside, rest, rfl, segment, piece, read⟩ := places
  exact ⟨before, inside, rest ++ more, by simp, segment, piece, read⟩

theorem Places.listed {registry : Registry} {pattern : Text} {slot : Nat}
    {argument : Argument} (places : Places registry pattern slot argument) :
    ∃ written, (placeholders pattern)[slot]? = some written ∧
      Placeholder.read registry.normalize written =
        .ok ⟨argument.typeName, !argument.single, 0, argument.optional⟩ := by
  obtain ⟨before, inside, rest, rfl, segment, piece, reads⟩ := places
  exact ⟨inside, placeholders_at segment piece, reads⟩

/-- The placeholders of a draft are those of its arguments.  The flag says
whether the pattern ends with a backslash that escapes what comes next. -/
structure Draft.Agrees (registry : Registry) (escaped : Bool) (draft : Draft) :
    Prop where
  segment : ∃ front, draft.pattern = front ++ (if escaped then ['\\'] else []) ∧
    Segment front (2 * draft.arguments.length)
  places : ∀ slot argument, draft.arguments[slot]? = some argument →
    Places registry draft.pattern slot argument

namespace Draft.Agrees

variable {registry : Registry} {draft : Draft} {escaped : Bool}

theorem start (registry : Registry) : Agrees registry false ⟨[], [], 0⟩ where
  segment := ⟨[], rfl, .nil⟩
  places := by
    intro slot argument found
    cases found

theorem of_count (agrees : draft.Agrees registry escaped) (text : Text) :
    (draft.countBrackets text).Agrees registry escaped :=
  ⟨agrees.segment, agrees.places⟩

theorem char {char : Char} {next : Bool} (agrees : draft.Agrees registry escaped)
    (segment : ∃ front, draft.pattern ++ [char] =
      front ++ (if next then ['\\'] else []) ∧
      Segment front (2 * draft.arguments.length)) :
    (draft.addChar char).Agrees registry next where
  segment := segment
  places slot argument found := (agrees.places slot argument found).append [char]

theorem escapedChar (agrees : draft.Agrees registry true) (char : Char) :
    (draft.addChar char).Agrees registry false := by
  obtain ⟨front, isPattern, segment⟩ := agrees.segment
  apply agrees.char
  refine ⟨front ++ ['\\', char], by simp [isPattern], ?_⟩
  exact segment.append (.escaped char .nil)

theorem plainChar (agrees : draft.Agrees registry false) {char : Char}
    (noPercent : char ≠ '%') :
    (draft.addChar char).Agrees registry (char == '\\') := by
  obtain ⟨front, isPattern, segment⟩ := agrees.segment
  apply agrees.char
  by_cases isEscape : char = '\\'
  · exact ⟨front, by simp [isPattern, isEscape], segment⟩
  · exact ⟨front ++ [char], by simp [isPattern,
      isEscape], segment.append (.single isEscape noPercent)⟩

theorem extend (agrees : draft.Agrees registry false) {declaration : Declaration}
    (plain : PlainName (Text.strip declaration.typeName)) (default : Option Expr) :
    (draft.extend registry declaration default).Agrees registry false := by
  obtain ⟨front, isPattern, segment⟩ := agrees.segment
  have isFront : draft.pattern = front := by simpa using isPattern
  subst isFront
  have piece := plain.segment (draft.lets declaration)
  constructor
  case segment =>
    refine ⟨_, (List.append_nil _).symm, ?_⟩
    have counted := segment.append (.percent (piece.append .single_percent))
    simpa [Draft.extend, Nat.mul_add] using counted
  case places =>
    intro slot argument found
    simp only [Draft.extend] at found ⊢
    rcases Nat.lt_or_ge slot draft.arguments.length with earlier | last
    · rw [List.getElem?_append_left earlier] at found
      exact (agrees.places slot argument found).append _
    · rw [List.getElem?_append_right last, List.getElem?_singleton] at found
      split at found
      case isFalse => cases found
      rename_i atEnd
      obtain rfl : slot = draft.arguments.length := by omega
      cases found
      refine ⟨draft.pattern, _, [], rfl, segment, piece, ?_⟩
      simpa using plain.read registry.normalize (draft.lets declaration)

theorem percentCount (agrees : draft.Agrees registry escaped) :
    percentCount draft.pattern = 2 * draft.arguments.length := by
  obtain ⟨front, isPattern, segment⟩ := agrees.segment
  have nothing : Pattern.percentCount (if escaped then ['\\'] else []) = 0 := by
    cases escaped <;> rfl
  rw [isPattern, percentCount_append segment, nothing, Nat.add_zero]

end Draft.Agrees

/-- One more part of a clear usage keeps arguments and placeholders in step. -/
theorem Draft.agrees_of_part {registry : Registry} {command : Text}
    {part : UsagePart} {rest : List UsagePart} {draft next : Draft}
    {escaped : Bool} (agrees : draft.Agrees registry escaped)
    (clear : Clear escaped (part :: rest))
    (added : draft.addPart registry command part = .ok next) :
    ∃ escaped, next.Agrees registry escaped ∧ Clear escaped rest := by
  cases part with
  | char char =>
      cases added
      cases escaped with
      | true => exact ⟨false, (agrees.of_count [char]).escapedChar char, clear⟩
      | false =>
          exact ⟨char == '\\', (agrees.of_count [char]).plainChar clear.1,
            clear.2⟩
  | declared declaration taken =>
      obtain ⟨type, default, _, _, rfl⟩ := Draft.addPart_declared_ok added
      cases escaped with
      | true => exact clear.elim
      | false => exact ⟨false, (agrees.extend clear.1 default).of_count taken,
          clear.2⟩

theorem Draft.agrees_of_parts {registry : Registry} {command : Text}
    {parts : List UsagePart} {draft after : Draft} {escaped : Bool}
    (agrees : draft.Agrees registry escaped) (clear : Clear escaped parts)
    (read : parts.foldlM (Draft.addPart registry command) draft = .ok after) :
    ∃ escaped, after.Agrees registry escaped := by
  induction parts generalizing draft escaped with
  | nil =>
      cases read
      exact ⟨escaped, agrees⟩
  | cons part parts induction =>
      obtain ⟨next, added, read⟩ := except_bind_ok read
      obtain ⟨_, agrees, clear⟩ := Draft.agrees_of_part agrees clear added
      exact induction agrees clear read

end Command

/-- If a command has as many arguments as its pattern has placeholders, then
parsing its arguments ends with no setup errors but those that a match may end
with. -/
theorem Parser.parseArguments_raises (parser : Parser) (log : ParseLog)
    (world : World) {command : Command}
    (counted : placeholderCount command.pattern = command.arguments.length)
    (text : Text) {error : SetupError}
    (failed : (parser.parseArguments log world command text).1 = .error error) :
    error.OfMatching := by
  have answered :
    (((parser.matcher .command true).run command.pattern text).attempt
      log).answer =
      ((parser.matcher .command true).run command.pattern text ⟨.empty,
        log.openScope⟩).1 := rfl
  unfold parseArguments at failed
  generalize ((parser.matcher .command true).run command.pattern text).attempt
    log = ending
    at answered failed
  cases found : ending.answer with
  | error other =>
      simp only [found] at failed
      cases failed
      have raises : Tracked.raising.Only SetupError.OfMatching
          ((parser.matcher .command true).run command.pattern text) :=
        Attempt.run_raises parser.registry .command parser.options.minErrorChars
          command.pattern text
      exact raises.holds error ⟨_, _, Prod.ext (answered.symm.trans found) rfl⟩
  | ok answer =>
      cases answer with
      | none =>
          simp only [found] at failed
          cases failed
      | some result =>
          have yields := Tracked.yields_of_answer (answered.symm.trans found)
          have same : ¬command.arguments.length ≠ result.exprs.length := by
            rw [Matcher.run_length_exprs yields, counted]
            simp
          simp only [found, if_neg same] at failed
          cases failed

namespace Command

/-- The arguments of a command and the placeholders of its pattern agree, if the
usage is clear: there are as many of the one as of the other, each placeholder
asks for what its argument is declared as, and no parser ever complains about
their numbers, whatever the text is. -/
theorem ofUsage_agrees {registry : Registry} {name usage : Text} {command : Command}
    (clear : Clear false (parts usage))
    (declared : ofUsage registry name usage = .ok command) :
    placeholderCount command.pattern = command.arguments.length ∧
      (∀ (slot : Nat) (argument : Argument), command.arguments[slot]? =
        some argument →
        ∃ written, (placeholders command.pattern)[slot]? = some written ∧
          Placeholder.read registry.normalize written =
            .ok ⟨argument.typeName, !argument.single, 0, argument.optional⟩) ∧
      ∀ (parser : Parser) log world text called arguments slots,
        (parser.parseArguments log world command text).1 ≠
          .error (.argumentCount called arguments slots) := by
  obtain ⟨draft, read, _, rfl⟩ := ofUsage_ok declared
  obtain ⟨escaped, agrees⟩ := Draft.agrees_of_parts (.start registry) clear read
  have counted : placeholderCount draft.pattern = draft.arguments.length := by
    rw [placeholderCount, agrees.percentCount]
    omega
  refine ⟨counted, ?_, ?_⟩
  · intro slot argument found
    exact (agrees.places slot argument found).listed
  · intro parser log world text called arguments slots failed
    exact parser.parseArguments_raises log world counted text failed

/-- A usage with an escaped percent sign, and with arguments of every sort. -/
def raisingUsage : Text :=
  "by \\% <integer> [to <numbers>] <string=none>"

theorem agrees_of_raising :
    ∃ command, Clear false (parts raisingUsage) ∧
      ofUsage .builtins "raise" raisingUsage = .ok command ∧
      command.pattern = "by \\% %integer% [to %-numbers%] %-string%" ∧
      placeholderCount command.pattern = 3 ∧ command.arguments.length = 3 ∧
      ∀ (parser : Parser) log world text called arguments slots,
        (parser.parseArguments log world command text).1 ≠
          .error (.argumentCount called arguments slots) := by
  have clear : Clear false (parts raisingUsage) := by decide +kernel
  obtain ⟨command, declared, isPattern, arguments⟩ : ∃ command,
      ofUsage .builtins "raise" raisingUsage = .ok command ∧
        command.pattern = "by \\% %integer% [to %-numbers%] %-string%" ∧
          command.arguments.length = 3 := ⟨_, rfl, rfl, rfl⟩
  obtain ⟨counted, _, silent⟩ := ofUsage_agrees clear declared
  exact ⟨command, clear, declared, isPattern, counted.trans arguments,
    arguments, silent⟩

/-- A percent sign of the usage counts as one of a placeholder. -/
theorem percents_miscounted :
    ∃ command, ofUsage .builtins "set" "%integer%" = .ok command ∧
      placeholderCount command.pattern = 1 ∧ command.arguments.length = 0 ∧
      (Parser.builtins.parseArguments .empty .empty command "5").1 =
        .error (.argumentCount "set" 0 1) :=
  ⟨_, rfl, rfl, rfl, rfl⟩

end Command

end Phrasebook
