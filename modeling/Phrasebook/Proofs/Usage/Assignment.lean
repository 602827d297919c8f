import Phrasebook.Proofs.LiteralOnly
import Phrasebook.Proofs.Usage.Reading

/-!
# Setting arguments in place

The arguments of a command outlive the calls that set them.  A call sets one
argument after the other, and to evaluate what an argument is set from may break
off, because elements are free to.  So a call could come to its end with some
arguments set and others not.  Arguments that a usage declares are safe from
this: all that they are ever set from are literals, and a literal has its values
without asking anyone.
-/

namespace Phrasebook

/-! ## Evaluations that may break off -/

section Evaluation

variable {ε : Type} (breaks : Element → World → Option ε) (world : World)

/-- The values of the expression, unless the element that computes them breaks
off. -/
def Expr.evaluate (expr : Expr) : Except ε (List Value) :=
  match expr.element?.bind (breaks · world) with
  | some error => .error error
  | none => .ok (expr.values world)

theorem Expr.IsLiteral.evaluate {expr : Expr} (isLiteral : expr.IsLiteral) :
    expr.evaluate breaks world = .ok (expr.values world) := by
  cases expr with
  | literal values type andList => rfl
  | unparsed text => rfl
  | «variable» name type => cases isLiteral
  | computed element type converted => cases isLiteral

end Evaluation

namespace Argument

/-- What the argument is set from: the expression in its slot, or else its
default. -/
def source? (argument : Argument) (slot : Option Expr) : Option Expr :=
  slot.or argument.default

/-- The values that the argument gets: those of the expression in its slot, or
else of its default, or else none. -/
def given (world : World) (argument : Argument) : Option Expr → List Value
  | some expr => expr.values world
  | none =>
      match argument.default with
      | some default => default.values world
      | none => []

def cleared (argument : Argument) : Argument :=
  { argument with current := [] }

theorem assign_eq (world : World) (argument : Argument) (slot : Option Expr) :
    argument.assign world slot =
      { argument with current := argument.given world slot } := by
  unfold assign given
  cases slot with
  | some expr => rfl
  | none => cases argument.default <;> rfl

end Argument

namespace Command

def cleared (command : Command) : Command :=
  { command with arguments := command.arguments.map Argument.cleared }

/-- Sets the arguments from the slots, one after the other and each in place.
An evaluation that breaks off leaves the arguments before it set, and the others
as they were. -/
def setEach {ε : Type} (evaluate : Expr → Except ε (List Value)) :
    List Argument → List (Option Expr) → Except ε Unit × List Argument
  | argument :: rest, slot :: slots =>
      match ((argument.source? slot).map evaluate).getD (.ok []) with
      | .error error => (.error error, argument :: rest)
      | .ok values =>
          let later := setEach evaluate rest slots
          (later.1, { argument with current := values } :: later.2)
  | arguments, _ => (.ok (), arguments)

end Command

namespace Parser

/-- How a call that sets arguments in place has ended: with an answer, or with
an error of its own or of an evaluation, and with a command and a log as they
are then. -/
structure Ended (ε : Type) where
  answer : Except (SetupError ⊕ ε) Bool
  command : Command
  log : ParseLog

/-- The end of a call that either answers with another command or leaves the
command as it is. -/
def Ended.of {ε : Type} (command : Command) :
    Except SetupError (Option Command) × ParseLog → Ended ε
  | (.error error, log) => ⟨.error (.inl error), command, log⟩
  | (.ok none, log) => ⟨.ok false, command, log⟩
  | (.ok (some after), log) => ⟨.ok true, after, log⟩

/-- Matches the text of arguments against a command and sets its arguments in
place. -/
def setArguments {ε : Type} (parser : Parser) (breaks : Element → World → Option ε)
    (log : ParseLog) (world : World) (command : Command) (text : Text) : Ended ε :=
  let ending :=
    ((parser.matcher .command true).run command.pattern text).attempt log
  match ending.answer with
  | .error error => ⟨.error (.inl error), command, ending.log⟩
  | .ok none => ⟨.ok false, command, ending.log.forwardError ending.held none⟩
  | .ok (some result) =>
      if command.arguments.length ≠ result.exprs.length then
        ⟨.error (.inl (.argumentCount command.name command.arguments.length
          result.exprs.length)), command, ending.log⟩
      else
        let set := Command.setEach (Expr.evaluate breaks world)
          command.arguments result.exprs
        let after : Command := { command with arguments := set.2 }
        match set.1 with
        | .error error => ⟨.error (.inr error), after, ending.log⟩
        | .ok () => ⟨.ok true, after, ending.log.forward ending.held⟩

end Parser

/-! ## Literals everywhere -/

namespace Command

theorem Draft.readDeclared_isLiteral {registry : Registry} {command : Text}
    {draft : Draft} {type : RegisteredType} {declared : Option Text}
    {default : Option Expr}
    (read : readDeclared registry command draft type declared = .ok default) :
    ∀ expr ∈ default, expr.IsLiteral := by
  cases declared with
  | none =>
      cases read
      intro expr member
      cases member
  | some text =>
      obtain ⟨expr, converted, read⟩ := except_bind_ok read
      cases read
      obtain ⟨found, converted, same⟩ := except_bind_ok converted
      intro other member
      cases member
      cases found with
      | none => cases same
      | some found =>
          cases same
          exact Expr.convertText_isLiteral converted

/-- What holds of each default that a declaration reads holds of all defaults of
the arguments. -/
theorem Draft.defaults_of_parts {registry : Registry} {command : Text}
    {holds : Expr → Prop} {parts : List UsagePart} {draft after : Draft}
    (reads : ∀ draft declaration taken type default,
      .declared declaration taken ∈ parts →
      readDeclared registry command draft type declaration.default = .ok default →
        ∀ expr ∈ default, holds expr)
    (earlier : ∀ argument ∈ draft.arguments, ∀ expr ∈ argument.default, holds expr)
    (read : parts.foldlM (Draft.addPart registry command) draft = .ok after) :
    ∀ argument ∈ after.arguments, ∀ expr ∈ argument.default, holds expr := by
  induction parts generalizing draft with
  | nil =>
      cases read
      exact earlier
  | cons part parts induction =>
      obtain ⟨next, added, read⟩ := except_bind_ok read
      refine induction (fun draft declaration taken type default member =>
        reads draft declaration taken type default
          (List.mem_cons_of_mem part member)) ?_ read
      cases part with
      | char char =>
          cases added
          exact earlier
      | declared declaration taken =>
          obtain ⟨type, default, _, own, rfl⟩ := Draft.addPart_declared_ok added
          intro argument member
          rcases List.mem_append.mp member with member | last
          · exact earlier argument member
          · obtain rfl := List.mem_singleton.mp last
            exact reads draft declaration taken type default List.mem_cons_self own

/-- What holds of each default that a usage reads holds of all defaults of the
command. -/
theorem defaults_of_usage {registry : Registry} {name usage : Text}
    {command : Command} {holds : Expr → Prop}
    (reads : ∀ draft declaration taken type default,
      .declared declaration taken ∈ parts usage →
      Draft.readDeclared registry name draft type declaration.default =
        .ok default →
        ∀ expr ∈ default, holds expr)
    (declared : ofUsage registry name usage = .ok command.cleared) :
    ∀ argument ∈ command.arguments, ∀ expr ∈ argument.default, holds expr := by
  obtain ⟨draft, read, _, same⟩ := ofUsage_ok declared
  intro argument member
  have cleared : argument.cleared ∈ draft.arguments := by
    have inCleared : argument.cleared ∈ command.cleared.arguments :=
      List.mem_map_of_mem member
    rwa [same] at inCleared
  exact Draft.defaults_of_parts reads (by simp) read argument.cleared cleared

/-- The arguments have no other defaults than literals. -/
def DefaultsLiteral (arguments : List Argument) : Prop :=
  ∀ argument ∈ arguments, ∀ expr ∈ argument.default, expr.IsLiteral

theorem defaultsLiteral_of_usage {registry : Registry} {name usage : Text}
    {command : Command}
    (declared : ofUsage registry name usage = .ok command.cleared) :
    DefaultsLiteral command.arguments :=
  defaults_of_usage (fun _ _ _ _ _ _ => Draft.readDeclared_isLiteral) declared

/-! ## Setting all of them -/

section Setting

variable {ε : Type} (breaks : Element → World → Option ε) (world : World)

/-- One argument is set from a literal, or from nothing, without breaking off. -/
theorem evaluate_source {argument : Argument} {slot : Option Expr}
    (bound : ∀ expr ∈ slot, expr.IsLiteral)
    (default : ∀ expr ∈ argument.default, expr.IsLiteral) :
    ((argument.source? slot).map (Expr.evaluate breaks world)).getD (.ok []) =
      .ok (argument.given world slot) := by
  unfold Argument.source? Argument.given
  cases slot with
  | some expr => exact (bound expr rfl).evaluate breaks world
  | none =>
      cases isDefault : argument.default with
      | some expr => exact (default expr isDefault).evaluate breaks world
      | none => rfl

/-- With literals all around, each argument is set. -/
theorem setEach_literals {arguments : List Argument}
    {slots : List (Option Expr)} (sameLength : arguments.length = slots.length)
    (defaults : DefaultsLiteral arguments)
    (bound : ∀ expr, some expr ∈ slots → expr.IsLiteral) :
    setEach (Expr.evaluate breaks world) arguments slots =
      (.ok (), arguments.zipWith (fun argument slot =>
        argument.assign world slot) slots) := by
  induction arguments generalizing slots with
  | nil =>
      cases List.length_eq_zero_iff.mp sameLength.symm
      rfl
  | cons argument arguments induction =>
      obtain ⟨slot, slots, rfl⟩ :=
        List.exists_cons_of_length_eq_add_one sameLength.symm
      obtain ⟨default, defaults⟩ := List.forall_mem_cons.mp defaults
      have own : ∀ expr ∈ slot, expr.IsLiteral := by
        intro expr member
        cases member
        exact bound expr List.mem_cons_self
      have later : setEach (Expr.evaluate breaks world) arguments slots = _ :=
        induction (Nat.succ.inj sameLength) defaults fun expr member =>
          bound expr (List.mem_cons_of_mem slot member)
      simp only [setEach, evaluate_source breaks world own default, later,
        List.zipWith_cons_cons, Argument.assign_eq]

end Setting

/-- Each argument has been given what the slot of the match has for it, in place
of all that it has held. -/
structure SetFrom (world : World) (result : MatchResult)
    (before after : Command) : Prop where
  name : after.name = before.name
  pattern : after.pattern = before.pattern
  slots : result.exprs.length = before.arguments.length
  arguments : after.arguments.length = before.arguments.length
  given : ∀ (index : Nat) (argument : Argument) (slot : Option Expr),
    before.arguments[index]? = some argument → result.exprs[index]? = some slot →
      after.arguments[index]? =
        some { argument with current := argument.given world slot }

theorem SetFrom.assign (world : World) {command : Command} {result : MatchResult}
    (sameLength : command.arguments.length = result.exprs.length) :
    SetFrom world result command (command.assign world result.exprs) where
  name := rfl
  pattern := rfl
  slots := sameLength.symm
  arguments := by simp [Command.assign, sameLength]
  given := by
    intro index argument slot isArgument isSlot
    simp [Command.assign, List.getElem?_zipWith, isArgument, isSlot,
      Argument.assign_eq]

end Command

namespace Parser

variable {ε : Type} (parser : Parser) (breaks : Element → World → Option ε)
  (log : ParseLog) (world : World) {command : Command}

theorem attempt_bindsLiterals {pattern text : Text} {result : MatchResult}
    (answered : (((parser.matcher .command true).run pattern text).attempt
      log).answer =
      .ok (some result)) : result.BindsLiterals := by
  have binds := Attempt.run_bindsLiterals Tracked.yielding parser.registry .command
    parser.options.minErrorChars
      (parser.registry.parseNested parser.options.minErrorChars)
    parser.registry.read pattern text
  exact binds.holds (some result) (Tracked.yields_of_answer answered) result rfl

/-- For arguments with literal defaults it makes no difference that they are set
one by one. -/
theorem setArguments_eq (defaults : Command.DefaultsLiteral command.arguments)
    (text : Text) :
    parser.setArguments breaks log world command text =
      .of command (parser.parseArguments log world command text) := by
  cases answered :
      (((parser.matcher .command true).run command.pattern text).attempt
        log).answer with
  | error error => simp only [setArguments, parseArguments, answered, Ended.of]
  | ok answer =>
      cases answer with
      | none => simp only [setArguments, parseArguments, answered, Ended.of]
      | some result =>
          by_cases sameLength : command.arguments.length = result.exprs.length
          · have binds := parser.attempt_bindsLiterals log answered
            have set := Command.setEach_literals breaks world sameLength
              defaults binds
            simp only [setArguments, parseArguments, answered,
              if_neg (not_not_intro sameLength), set, Ended.of, Command.assign]
          · simp only [setArguments, parseArguments, answered,
              if_pos sameLength, Ended.of]

theorem parseArguments_ok {text : Text} {after : Command} {later : ParseLog}
    (parsed : parser.parseArguments log world command text =
      (.ok (some after), later)) :
    ∃ result, (((parser.matcher .command true).run command.pattern
      text).attempt log).answer = .ok (some result) ∧
        Command.SetFrom world result command after := by
  unfold parseArguments at parsed
  simp only at parsed
  split at parsed
  · cases parsed
  · cases parsed
  · rename_i result answered
    by_cases sameLength : command.arguments.length = result.exprs.length
    · rw [if_neg (not_not_intro sameLength)] at parsed
      cases parsed
      exact ⟨result, answered, .assign world sameLength⟩
    · rw [if_pos sameLength] at parsed
      cases parsed

private theorem parseArguments_cleared (command : Command) (text : Text) :
    parser.parseArguments log world command.cleared text =
      parser.parseArguments log world command text := by
  have assigned (exprs : List (Option Expr)) :
      command.cleared.assign world exprs = command.assign world exprs := by
    have same (argument : Argument) (slot : Option Expr) :
        argument.cleared.assign world slot = argument.assign world slot := by
      rw [Argument.assign_eq, Argument.assign_eq]
      rfl
    simp only [Command.assign, Command.cleared, List.zipWith_map_left, same]
  have counted : command.cleared.arguments.length = command.arguments.length :=
    List.length_map _
  unfold parseArguments
  simp only [assigned, counted]
  rfl

/-- Parsing the arguments of a declared command is all or nothing.  The
arguments are set one by one, but whatever they have held, whatever the text is,
and wherever elements break off, the call ends as one that sets them at a single
stroke.  Unless it answers that it has, it leaves the command as it was; and if
it does, then each argument holds what its slot of the match has for it, and
nothing that it has held before has any part in it. -/
theorem setArguments_allOrNothing {registry : Registry} {name usage : Text}
    (declared : Command.ofUsage registry name usage = .ok command.cleared)
    (text : Text) :
    let called := parser.setArguments breaks log world command text
    called = .of command (parser.parseArguments log world command text) ∧
      (called.answer ≠ .ok true → called.command = command) ∧
      (called.answer = .ok true → ∃ result,
        (((parser.matcher .command true).run command.pattern text).attempt
          log).answer =
            .ok (some result) ∧
          Command.SetFrom world result command called.command) ∧
      ∀ other : Command, other.cleared = command.cleared →
        parser.parseArguments log world other text =
          parser.parseArguments log world command text := by
  intro called
  have ends : called = .of command (parser.parseArguments log world command text) :=
    parser.setArguments_eq breaks log world
      (Command.defaultsLiteral_of_usage declared) text
  refine ⟨ends, ?_, ?_, ?_⟩
  · intro unanswered
    rw [ends] at unanswered ⊢
    cases parsed : parser.parseArguments log world command text with
    | mk answer later =>
        rw [parsed] at unanswered
        rcases answer with error | (none | after)
        · rfl
        · rfl
        · exact absurd rfl unanswered
  · intro answered
    rw [ends] at answered ⊢
    cases parsed : parser.parseArguments log world command text with
    | mk answer later =>
        rw [parsed] at answered
        rcases answer with error | (none | after)
        · cases answered
        · cases answered
        · exact parser.parseArguments_ok log world parsed
  · intro other same
    rw [← parser.parseArguments_cleared log world other, same,
      parser.parseArguments_cleared log world command]

def givenBefore : Command :=
  ⟨"give", "%integer%[ to %-strings%]", [
    ⟨0, "integer", none, false, true, [.datum (.int 7)]⟩,
    ⟨1, "string", none, true, false, [.datum (.text "Ann")]⟩]⟩

/-- The earlier values are gone after a text that matches, also from an argument
that it leaves out, and they all stay after one that does not match.  No element
is asked, so none can break off. -/
theorem setArguments_of_giving :
    let breaks : Element → World → Option Text := fun _ _ => some "out of order"
    Command.ofUsage .builtins "give" "<integer>[ to <strings>]" =
      .ok givenBefore.cleared ∧
      (∃ after, (builtins.setArguments breaks .empty .empty givenBefore
        "5").command = after ∧
        after.arguments.map Argument.current = [[.datum (.int 5)], []]) ∧
      (builtins.setArguments breaks .empty .empty givenBefore "five").command =
        givenBefore := by
  intro breaks
  have declared : Command.ofUsage .builtins "give" "<integer>[ to <strings>]" =
      .ok givenBefore.cleared := rfl
  obtain ⟨given, _⟩ :=
    builtins.setArguments_allOrNothing breaks .empty .empty declared "5"
  obtain ⟨_, kept, _⟩ :=
    builtins.setArguments_allOrNothing breaks .empty .empty declared "five"
  refine ⟨declared, ⟨_, congrArg Ended.command given, rfl⟩, kept ?_⟩
  intro answered
  cases answered

end Parser

end Phrasebook
