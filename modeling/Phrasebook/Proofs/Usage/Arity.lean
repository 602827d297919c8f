import Phrasebook.Proofs.Coverage.Arity
import Phrasebook.Proofs.Usage.Agreement
import Phrasebook.Proofs.Usage.Assignment

/-!
# One value for a single argument

What a user types for a single argument has to be single: the matcher checks it.
This carries over to the argument as long as its slot is bound by the
placeholder that was written for it.  What a usage declares as the default of
the argument nobody checks in this way.
-/

namespace Phrasebook

open Pattern

/-! ## Defaults of several values -/

private theorem Expr.readAll_length
    {read : Text → Except SetupError (Option Value)} {texts : List Text}
    {values : List Value} (success : readAll read texts = .ok (some values)) :
    values.length = texts.length := by
  induction texts generalizing values with
  | nil =>
      cases success
      rfl
  | cons text texts induction =>
      obtain ⟨first, _, success⟩ := except_bind_ok success
      cases first with
      | none => cases success
      | some value =>
          obtain ⟨rest, reads, success⟩ := except_bind_ok success
          cases rest with
          | none => cases success
          | some others =>
              cases success
              rw [List.length_cons, List.length_cons, induction reads]

private theorem Expr.convertText_several {read : LiteralReading}
    {target : RegisteredType} {context : ParseContext} {text : Text}
    {expr : Expr} {world : World}
    (success : convertText read target context text = .ok (some expr))
    (several : 1 < (expr.values world).length) :
    1 < (ListText.split text).1.length := by
  unfold convertText at success
  split at success
  · cases success
    exact absurd several (Nat.lt_irrefl 1)
  · obtain ⟨value, _, success⟩ := except_bind_ok success
    cases value with
    | some value =>
        cases success
        exact absurd several (Nat.lt_irrefl 1)
    | none =>
        simp only at success
        split at success
        · cases success
        · obtain ⟨values, reads, success⟩ := except_bind_ok success
          cases values with
          | none => cases success
          | some values =>
              cases success
              rw [← Expr.readAll_length reads]
              exact several

namespace Command

theorem Draft.readDeclared_several {registry : Registry} {command : Text}
    {draft : Draft} {type : RegisteredType} {declared : Option Text}
    {default : Expr} {world : World}
    (read : readDeclared registry command draft type declared = .ok (some default))
    (several : 1 < (default.values world).length) :
    ∃ written, declared = some written ∧
    1 < (ListText.split (Text.strip written)).1.length := by
  cases declared with
  | none => cases read
  | some written =>
      obtain ⟨expr, reads, read⟩ := except_bind_ok read
      cases read
      obtain ⟨found, converted, same⟩ := except_bind_ok reads
      cases found with
      | none => cases same
      | some found =>
          cases same
          exact ⟨written, rfl, Expr.convertText_several converted several⟩

/-! ## Usages in which placeholders keep to themselves -/

def UsagePart.Unmarked : UsagePart → Prop
  | .char _ => True
  | .declared declaration _ =>
      ∀ char ∈ Text.strip declaration.typeName, char ∉ "()[]|".toList

instance : (part : UsagePart) → Decidable part.Unmarked
  | .char _ => .isTrue trivial
  | .declared declaration _ =>
      List.decidableBAll (fun char => char ∉ "()[]|".toList)
        (Text.strip declaration.typeName)

def UsagePart.Named : UsagePart → Prop
  | .char _ => True
  | .declared declaration _ => '>' ∉ declaration.typeName

private theorem read_named {text : Text} {declaration : Declaration}
    (read : Declaration.read? text = some declaration) :
    '>' ∉ declaration.typeName := by
  have named : declaration.typeName = text.takeWhile Declaration.isNameChar := by
    unfold Declaration.read? at read
    simp only at read
    split at read
    · cases read
    split at read
    · cases read
      rfl
    · split at read
      · cases read
        rfl
      · cases read
    · cases read
  intro member
  rw [named] at member
  have isNameChar := List.all_eq_true.mp List.all_takeWhile '>' member
  cases isNameChar

theorem partsWithin_named (fuel : Nat) (usage : Text) :
    ∀ part ∈ partsWithin fuel usage, part.Named := by
  induction fuel generalizing usage with
  | zero =>
      intro part member
      cases member
  | succ fuel induction =>
      cases usage with
      | nil =>
          intro part member
          cases member
      | cons char rest =>
          rw [partsWithin]
          cases read : (if char = '<' then Declaration.read? rest else none) with
          | none => exact List.forall_mem_cons.mpr ⟨trivial, induction rest⟩
          | some declaration =>
              obtain ⟨_, read⟩ := Option.ite_none_right_eq_some.mp read
              exact List.forall_mem_cons.mpr ⟨read_named read, induction _⟩

private theorem mem_of_mem_strip {char : Char} {text : Text}
    (member : char ∈ Text.strip text) :
    char ∈ text := by
  have inStart : char ∈ Text.stripStart text := by
    have inReverse := (List.dropWhile_sublist _).subset (List.mem_reverse.mp member)
    exact List.mem_reverse.mp inReverse
  exact (List.dropWhile_sublist _).subset inStart

private theorem Draft.written_clean {optional : Bool} {name : Text}
    (clean : ∀ char ∈ name, char ∉ "()[]|>".toList) :
    ∀ char ∈ '%' :: (written optional name ++ ['%']), char ∉ "()[]|>".toList := by
  intro char member
  cases optional with
  | false =>
      simp only [written, Bool.false_eq_true, if_false, List.mem_cons,
        List.mem_append, List.not_mem_nil, or_false] at member
      rcases member with rfl | member | rfl
      · decide
      · exact clean char member
      · decide
  | true =>
      simp only [written, if_true, List.mem_cons, List.mem_append, List.cons_append,
        List.not_mem_nil, or_false] at member
      rcases member with rfl | rfl | member | rfl
      · decide
      · decide
      · exact clean char member
      · decide

private theorem Draft.signsEven_of_part {registry : Registry} {command : Text}
    {part : UsagePart} {draft next : Draft} {escaped : Bool}
    (even : SignsEven draft.pattern) (unmarked : part.Unmarked)
    (named : part.Named) (agrees : next.Agrees registry escaped)
    (added : draft.addPart registry command part = .ok next) :
    SignsEven next.pattern := by
  cases part with
  | char char =>
      cases added
      have counted := agrees.percentCount
      apply even.concat
      change percentCount (draft.pattern ++ [char]) = _ at counted
      omega
  | declared declaration taken =>
      obtain ⟨type, default, _, _, rfl⟩ := Draft.addPart_declared_ok added
      apply even.append
      apply Draft.written_clean
      intro char member isSign
      rcases List.mem_append.mp (show char ∈ "()[]|".toList ++
        ['>'] from isSign) with mark | isEnd
      · exact unmarked char member mark
      · obtain rfl := List.mem_singleton.mp isEnd
        exact named (mem_of_mem_strip member)

private theorem Draft.signsEven_of_parts {registry : Registry} {command : Text}
    {parts : List UsagePart} {draft after : Draft} {escaped : Bool}
    (even : SignsEven draft.pattern) (agrees : draft.Agrees registry escaped)
    (clear : Clear escaped parts) (unmarked : ∀ part ∈ parts, part.Unmarked)
    (named : ∀ part ∈ parts, part.Named)
    (read : parts.foldlM (Draft.addPart registry command) draft = .ok after) :
    SignsEven after.pattern := by
  induction parts generalizing draft escaped with
  | nil =>
      cases read
      exact even
  | cons part parts induction =>
      obtain ⟨next, added, read⟩ := except_bind_ok read
      obtain ⟨_, agreesNext, clear⟩ := Draft.agrees_of_part agrees clear added
      obtain ⟨ownUnmarked, unmarked⟩ := List.forall_mem_cons.mp unmarked
      obtain ⟨ownNamed, named⟩ := List.forall_mem_cons.mp named
      have evenNext :=
        Draft.signsEven_of_part even ownUnmarked ownNamed agreesNext added
      exact induction evenNext agreesNext clear unmarked named read

/-- The pattern of a command is one in which a walk stays behind whole
placeholders, and its placeholders are those of the arguments, if the usage is
clear and no bracket or bar stands in the name of a type. -/
theorem sheltered_of_usage {registry : Registry} {name usage : Text}
    {command : Command} (clear : Clear false (parts usage))
    (unmarked : ∀ part ∈ parts usage, part.Unmarked)
    (declared : ofUsage registry name usage = .ok command) :
    Sheltered command.pattern ∧
      ∀ index argument, command.arguments[index]? = some argument →
        Places registry command.pattern index argument := by
  obtain ⟨draft, read, _, rfl⟩ := ofUsage_ok declared
  obtain ⟨_, agrees⟩ := Draft.agrees_of_parts (.start registry) clear read
  have even : SignsEven draft.pattern :=
    Draft.signsEven_of_parts .nil (.start registry) clear unmarked
      (partsWithin_named _ usage) read
  exact ⟨even.sheltered, agrees.places⟩

end Command

/-! ## Values of single arguments -/

namespace Parser

/-- The expression that a command has bound for a single argument has one value. -/
theorem bound_one_value {parser : Parser} {command : Command} {log : ParseLog}
    {text : Text} {result : MatchResult} (sheltered : Sheltered command.pattern)
    (answered :
      (((parser.matcher .command true).run command.pattern text).attempt
        log).answer =
      .ok (some result)) {index : Nat} {argument : Argument} (single :
      argument.single = true)
    (places : Command.Places parser.registry command.pattern index argument)
    {expr : Expr}
    (holds : result.exprs[index]? = some (some expr)) (world : World) :
    ∃ value, expr.values world = [value] := by
  have isLiteral : expr.IsLiteral :=
    parser.attempt_bindsLiterals log answered expr (List.mem_of_getElem? holds)
  obtain ⟨part, taken, rfl, name, placeholder, type, found, _, listed, read, _,
      _, fits, timed⟩ :=
    Matcher.run_bound (Tracked.yields_of_answer answered) holds
  obtain ⟨written, listedThere, asks⟩ := places.listed
  cases listedThere.symm.trans (listed sheltered)
  cases asks.symm.trans read
  rw [Expr.setTime_zero] at timed
  cases timed
  exact isLiteral.one_value (fits (by simp [single])) world

/-- After a text that matches, a single argument holds one value if its slot is
bound.  The only single arguments that hold several, all of which but the first
get lost, are those that have been left out and have a default of several
values.  A usage may give such a default to a single argument, in the form of a
list. -/
theorem parseArguments_single {registry : Registry} {name usage : Text}
    {command : Command} (clear : Command.Clear false (Command.parts usage))
    (unmarked : ∀ part ∈ Command.parts usage, part.Unmarked)
    (declared : Command.ofUsage registry name usage = .ok command.cleared)
    (options : ParserOptions) (log : ParseLog) (world : World) (text : Text)
    {after : Command} {later : ParseLog}
    (parsed : (⟨registry, options⟩ : Parser).parseArguments log world command text =
      (.ok (some after), later)) :
    ∃ result, ((((⟨registry, options⟩ : Parser).matcher .command true).run
      command.pattern text).attempt log).answer = .ok (some result) ∧
        ∀ (index : Nat) (argument : Argument), after.arguments[index]? =
          some argument →
          argument.single = true →
            after.values[index]? = some (.inl argument.current.head?) ∧
            (∀ expr, result.exprs[index]? = some (some expr) →
              argument.current.length = 1) ∧
            (1 < argument.current.length ↔ result.exprs[index]? = some none ∧
              ∃ default, argument.default = some default ∧
              1 < (default.values world).length) ∧
            (1 < argument.current.length → ∃ declaration taken written,
              .declared declaration taken ∈ Command.parts usage ∧
                declaration.default = some written ∧
                  1 < (ListText.split (Text.strip written)).1.length) := by
  obtain ⟨result, answered, set⟩ := parseArguments_ok _ log world parsed
  obtain ⟨sheltered, places⟩ := Command.sheltered_of_usage clear unmarked declared
  have lists : ∀ argument ∈ command.arguments, ∀ default ∈ argument.default,
      1 < (default.values world).length → ∃ declaration taken written,
        .declared declaration taken ∈ Command.parts usage ∧
          declaration.default = some written ∧
            1 < (ListText.split (Text.strip written)).1.length := by
    refine Command.defaults_of_usage ?_ declared
    rintro draft declaration taken type _ member read default rfl several
    obtain ⟨written, isDefault, isList⟩ :=
      Command.Draft.readDeclared_several read several
    exact ⟨declaration, taken, written, member, isDefault, isList⟩
  refine ⟨result, answered, ?_⟩
  intro index argument isArgument single
  have within : index < command.arguments.length := by
    rw [← set.arguments]
    exact (List.getElem?_eq_some_iff.mp isArgument).1
  obtain ⟨before, isBefore⟩ : ∃ before, command.arguments[index]? = some before :=
    ⟨_, List.getElem?_eq_getElem within⟩
  obtain ⟨slot, isSlot⟩ : ∃ slot, result.exprs[index]? = some slot :=
    ⟨_, List.getElem?_eq_getElem (set.slots ▸ within)⟩
  cases isArgument.symm.trans (set.given index before slot isBefore isSlot)
  have single : before.single = true := single
  have isPlaced : Command.Places registry command.pattern index before :=
    places index before.cleared (by simp [Command.cleared, isBefore])
  have bound (expr : Expr) (isBound : result.exprs[index]? = some (some expr)) :
      (before.given world slot).length = 1 := by
    cases isSlot.symm.trans isBound
    obtain ⟨value, values⟩ :=
      bound_one_value sheltered answered single isPlaced isBound world
    simp [Argument.given, values]
  have several : 1 < (before.given world slot).length ↔ slot = none ∧
      ∃ default, before.default = some default ∧
      1 < (default.values world).length := by
    cases slot with
    | some expr => simp [bound expr isSlot]
    | none => cases isDefault : before.default <;> simp [Argument.given, isDefault]
  refine ⟨by simp [Command.values, isArgument, single], bound, ?_, ?_⟩
  · simpa [isSlot] using several
  · intro many
    obtain ⟨_, default, isDefault, many⟩ := several.mp many
    exact lists before (List.mem_of_getElem? isBefore) default isDefault many

/-- The number that is typed is the one value of its argument. -/
theorem parseArguments_single_of_ordering :
    let usage : Text := "<integer>[ of <string=bread>]"
    ∃ command after later argument,
      Command.Clear false (Command.parts usage) ∧
      (∀ part ∈ Command.parts usage, part.Unmarked) ∧
      Command.ofUsage .builtins "order" usage = .ok command.cleared ∧
      builtins.parseArguments .empty .empty command "5" =
        (.ok (some after), later) ∧
      after.arguments[0]? = some argument ∧ argument.single = true ∧
      after.values[0]? = some (.inl argument.current.head?) ∧
      argument.current = [.datum (.int 5)] := by
  intro usage
  have clear : Command.Clear false (Command.parts usage) := by decide +kernel
  have unmarked : ∀ part ∈ Command.parts usage, part.Unmarked := by decide +kernel
  obtain ⟨command, after, later, argument, declared, unset, parsed, isArgument,
    single, holds⟩ :
      ∃ command after later argument, Command.ofUsage .builtins "order" usage =
        .ok command ∧
        command.cleared = command ∧
        builtins.parseArguments .empty .empty command "5" =
          (.ok (some after), later) ∧
        after.arguments[0]? = some argument ∧ argument.single = true ∧
        argument.current = [.datum (.int 5)] :=
    ⟨_, _, _, _, rfl, rfl, rfl, rfl, rfl, rfl⟩
  rw [← unset] at declared
  obtain ⟨_, _, held⟩ :=
    parseArguments_single clear unmarked declared .standard .empty .empty "5" parsed
  obtain ⟨value, _⟩ := held 0 argument isArgument single
  exact ⟨command, after, later, argument, clear, unmarked, declared, parsed,
    isArgument, single, value, holds⟩

/-- The default of a single argument is a list of two, and the second value is
lost. -/
theorem default_several :
    ∃ command after argument,
      Command.ofUsage .builtins "give" "[<integer=1 and 2>]" = .ok command ∧
      (builtins.parseArguments .empty .empty command "").1 = .ok (some after) ∧
      after.arguments = [argument] ∧ argument.single = true ∧
      argument.current = [.datum (.int 1), .datum (.int 2)] ∧
      after.values = [.inl (some (.datum (.int 1)))] :=
  ⟨_, _, _, rfl, rfl, rfl, rfl, rfl, rfl⟩

end Parser

end Phrasebook
