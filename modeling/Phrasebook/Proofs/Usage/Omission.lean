import Phrasebook.Proofs.Builtins
import Phrasebook.Proofs.Pattern.Stepping
import Phrasebook.Proofs.Search.Laws
import Phrasebook.Proofs.Usage.Reading

/-!
# Arguments that are left out

A usage may consist of declarations alone, each of them in square brackets or
not, with a default or not.  A match of its pattern against an empty text skips
the groups, and the spaces between them take nothing at the end of the input.
But a placeholder outside of all brackets takes at least one character, and a
default does not change that.
-/

namespace Phrasebook

open Pattern

private theorem Text.takeWhile_stops {belongs : Char → Bool} {text : Text}
    {stop : Char} (inside : ∀ char ∈ text, belongs char = true)
    (outside : belongs stop = false) (rest : Text) :
    (text ++ stop :: rest).takeWhile belongs = text := by
  rw [List.takeWhile_append_of_pos inside, List.takeWhile_cons, outside]
  exact List.append_nil text

namespace Command

/-! ## Usages made of declarations -/

/-- A declaration as it stands in a usage, perhaps in square brackets. -/
structure Form where
  typeName : Text
  default : Option Text
  bracketed : Bool
  named : typeName ≠ []
  nameChars : ∀ char ∈ typeName, Declaration.isNameChar char = true
  defaultChars : ∀ text ∈ default, ∀ char ∈ text,
    Declaration.isDefaultChar char = true

namespace Form

def defaultText (form : Form) : Text :=
  match form.default with
  | none => []
  | some text => '=' :: text

def inside (form : Form) : Text :=
  form.typeName ++ form.defaultText ++ ['>']

def written (form : Form) : Text :=
  if form.bracketed then '[' :: '<' :: (form.inside ++ [']'])
    else '<' :: form.inside

def declaration (form : Form) : Declaration :=
  ⟨form.typeName, form.default, form.inside.length + 1⟩

def parts (form : Form) : List UsagePart :=
  if form.bracketed then
    [.char '[', .declared form.declaration ('<' :: form.inside), .char ']']
  else [.declared form.declaration ('<' :: form.inside)]

private theorem read (form : Form) (rest : Text) :
    Declaration.read? (form.inside ++ rest) = some form.declaration := by
  obtain ⟨typeName, default, bracketed, named, nameChars, defaultChars⟩ := form
  have present : typeName.isEmpty = false := by simpa using named
  cases default with
  | none =>
      have name : (typeName ++ '>' :: rest).takeWhile Declaration.isNameChar =
          typeName :=
        Text.takeWhile_stops nameChars (by decide) rest
      simp [Declaration.read?, inside, defaultText, declaration, name, present]
  | some text =>
      have name : (typeName ++ '=' :: (text ++ '>' :: rest)).takeWhile
        Declaration.isNameChar =
          typeName :=
        Text.takeWhile_stops nameChars (by decide) _
      have value : (text ++ '>' :: rest).takeWhile Declaration.isDefaultChar =
          text :=
        Text.takeWhile_stops (defaultChars text rfl) (by decide) rest
      simp [Declaration.read?, inside, defaultText, declaration, name,
        value, present]
      omega

theorem parts_written (form : Form) (rest : Text) :
    Command.parts (form.written ++ rest) = form.parts ++ Command.parts rest := by
  have length : form.declaration.length = form.inside.length + 1 := rfl
  unfold written parts
  cases form.bracketed with
  | false => simpa using parts_declared (form.read rest) length
  | true =>
      have declared := parts_declared (form.read (']' :: rest)) length
      simp only [if_true, List.cons_append, List.append_assoc, List.nil_append]
      rw [parts_char (by decide), declared, parts_char (by decide)]

end Form

/-- Forms that stand behind another one, each behind a space. -/
def writtenBehind (forms : List Form) : Text :=
  forms.flatMap fun form => ' ' :: form.written

/-- The usage in which these forms stand, with single spaces between them. -/
def usageOf (forms : List Form) : Text :=
  Text.join " " (forms.map Form.written)

theorem usageOf_cons (form : Form) (forms : List Form) :
    usageOf (form :: forms) = form.written ++ writtenBehind forms := by
  induction forms generalizing form with
  | nil => simp [usageOf, writtenBehind, Text.join]
  | cons next forms induction =>
      have behind := induction next
      simp only [usageOf, List.map_cons] at behind
      simp only [usageOf, List.map_cons, Text.join, behind, writtenBehind,
        List.flatMap_cons]
      simp

/-! ## The pattern of such a usage -/

/-- A placeholder of the pattern, perhaps in square brackets. -/
structure Slot where
  inside : Text
  bracketed : Bool
  clean : ∀ char ∈ inside, char ∉ ['[', ']', '\\', '%']

namespace Slot

def pattern (slot : Slot) : Text :=
  if slot.bracketed then '[' :: ('%' :: (slot.inside ++ ['%']) ++ [']'])
  else '%' :: (slot.inside ++ ['%'])

/-- Slots that stand behind another one, each behind a space. -/
def patternBehind (slots : List Slot) : Text :=
  slots.flatMap fun slot => ' ' :: slot.pattern

theorem segment (slot : Slot) : Segment slot.pattern 2 := by
  have inside : Segment slot.inside 0 :=
    .of_avoiding (by decide) (by decide) slot.clean
  have placeholder : Segment ('%' :: (slot.inside ++ ['%'])) 2 :=
    .percent (inside.append .single_percent)
  unfold pattern
  split
  · exact .plain (by decide) (by decide)
      (placeholder.append (.single (by decide) (by decide)))
  · exact placeholder

theorem segment_behind (slots : List Slot) :
    Segment (patternBehind slots) (2 * slots.length) := by
  induction slots with
  | nil => exact .nil
  | cons slot slots induction =>
      have space : Segment [' '] 0 := .single (by decide) (by decide)
      have whole := (space.append slot.segment).append induction
      rw [List.length_cons, Nat.mul_add, Nat.add_comm]
      simpa [patternBehind] using whole

theorem length_pattern (slot : Slot) : 2 ≤ slot.pattern.length := by
  unfold pattern
  split
  · simp
  · simp

theorem passesOver (slot : Slot) :
    PassesOver ']' '[' ('%' :: (slot.inside ++ ['%'])) := by
  have percent : PassesOver ']' '[' ['%'] :=
    .single (by decide) (by decide) (by decide)
  have inside : PassesOver ']' '[' slot.inside :=
    .of_avoiding (by decide) (by decide) (by decide) slot.clean
  exact inside.between percent percent

end Slot

/-! ## From the usage to the pattern -/

/-- The usage names its types without marks of patterns. -/
def NamesCleanly (form : Form) : Prop :=
  ∀ char ∈ Text.strip form.typeName, char ∉ ['[', ']', '\\', '%']

instance (form : Form) : Decidable (NamesCleanly form) :=
  List.decidableBAll (fun char => char ∉ ['[', ']', '\\', '%'])
    (Text.strip form.typeName)

section Drafts

variable {registry : Registry} {name : Text} {draft after : Draft}

theorem Form.adds (form : Form) (clean : NamesCleanly form)
    {more : List UsagePart}
    (read : (form.parts ++ more).foldlM (Draft.addPart registry name) draft =
      .ok after) :
    ∃ (slot : Slot) (next : Draft), slot.bracketed = form.bracketed ∧
      next.pattern = draft.pattern ++ slot.pattern ∧
      next.arguments.length = draft.arguments.length + 1 ∧
      more.foldlM (Draft.addPart registry name) next = .ok after := by
  have inside (optional : Bool) :
      ∀ char ∈ Draft.written optional (Text.strip form.typeName),
        char ∉ ['[', ']', '\\', '%'] := by
    cases optional with
    | false => exact clean
    | true =>
        intro char member
        rcases List.mem_cons.mp member with rfl | member
        · decide
        · exact clean char member
  cases bracketed : form.bracketed with
  | false =>
      have isParts :
          form.parts = [.declared form.declaration ('<' :: form.inside)] := by
        simp [Form.parts, bracketed]
      rw [isParts] at read
      obtain ⟨next, added, read⟩ := except_bind_ok read
      obtain ⟨type, default, _, _, rfl⟩ := Draft.addPart_declared_ok added
      exact ⟨⟨_, false, inside (draft.lets form.declaration)⟩, _, rfl, rfl,
        by simp [Draft.countBrackets, Draft.extend], read⟩
  | true =>
      have isParts : form.parts =
          [.char '[', .declared form.declaration ('<' :: form.inside),
            .char ']'] := by
        simp [Form.parts, bracketed]
      rw [isParts] at read
      obtain ⟨opened, isOpened, read⟩ := except_bind_ok read
      cases isOpened
      obtain ⟨next, added, read⟩ := except_bind_ok read
      obtain ⟨closed, isClosed, read⟩ := except_bind_ok read
      cases isClosed
      obtain ⟨type, default, _, _, rfl⟩ := Draft.addPart_declared_ok added
      refine ⟨⟨_, true,
        inside (((draft.countBrackets ['[']).addChar '[').lets
          form.declaration)⟩, _,
        rfl, ?_, ?_, read⟩
      · simp [Draft.countBrackets, Draft.addChar, Draft.extend, Slot.pattern,
          Form.declaration]
      · simp [Draft.countBrackets, Draft.addChar, Draft.extend]

theorem adds_behind {forms : List Form}
    (clean : ∀ form ∈ forms, NamesCleanly form)
    (read : (parts (writtenBehind forms)).foldlM (Draft.addPart registry name)
      draft = .ok after) :
    ∃ slots : List Slot, slots.map (·.bracketed) = forms.map (·.bracketed) ∧
      after.pattern = draft.pattern ++ Slot.patternBehind slots ∧
      after.arguments.length = draft.arguments.length + slots.length := by
  induction forms generalizing draft with
  | nil =>
      cases read
      exact ⟨[], rfl, (List.append_nil _).symm, rfl⟩
  | cons form forms induction =>
      have isParts : parts (writtenBehind (form :: forms)) =
          .char ' ' :: (form.parts ++ parts (writtenBehind forms)) := by
        rw [← form.parts_written]
        exact parts_char (by decide) _
      rw [isParts] at read
      obtain ⟨spaced, isSpaced, read⟩ := except_bind_ok read
      cases isSpaced
      obtain ⟨slot, next, bracketed, pattern, counted, read⟩ :=
        form.adds (clean form List.mem_cons_self) read
      obtain ⟨slots, allBracketed, allPattern, allCounted⟩ :=
        induction (fun other member =>
          clean other (List.mem_cons_of_mem form member)) read
      refine ⟨slot :: slots, by simp [bracketed, allBracketed], ?_, ?_⟩
      · rw [allPattern, pattern]
        simp [Draft.addChar, Draft.countBrackets, Slot.patternBehind]
      · rw [allCounted, counted, List.length_cons]
        simp only [Draft.addChar, Draft.countBrackets]
        omega

end Drafts

end Command

/-! ## Matching an empty text -/

private theorem Cursor.pattern_advance (cursor : Cursor) (count : Nat) :
    (cursor.advance count).pattern = cursor.pattern := by
  simp [Cursor.advance, Cursor.pattern]

namespace Matcher

variable {m : Type → Type} [Searching m] {matcher : Matcher m} {text : Text}
  {fuel matched : Nat} {previous : Option Char}

theorem walk_placeholder_ended (before rest : Text) :
    matcher.walk text fuel matched ⟨before, '%' :: rest⟩ ⟨previous, []⟩ =
      pure none := by
  cases fuel with
  | zero => rfl
  | succ fuel =>
      rw [Matcher.walk]
      simp [Demand.ofText_placeholder]

/-- A group that cannot be walked through is skipped, perhaps together with the
space behind it. -/
theorem walk_skipped [LawfulMonad m] {cursor : Cursor} {inside rest : Text}
    {position : Position}
    (here : cursor.rest = '[' :: (inside ++ ']' :: rest))
    (clean : PassesOver ']' '[' inside)
    (fails : matcher.walk text fuel 0 (cursor.advance 1) position = pure none) :
    ∃ later : Cursor, later.pattern = cursor.pattern ∧
      (later.rest = rest ∨ rest = ' ' :: later.rest) ∧
      matcher.walk text (fuel + 1) matched cursor position =
        matcher.walk text fuel matched later position := by
  have closed : closingOffset ']' '[' 0 (inside ++ ']' :: rest) =
      some inside.length := by
    rw [clean, closingOffset_cons (by decide), if_pos rfl, Option.map_some,
      Nat.zero_add]
  have behind : (inside ++ ']' :: rest).drop (inside.length + 1) = rest := by simp
  have skips : matcher.walk text (fuel + 1) matched cursor position =
      matcher.walk text fuel matched
        (cursor.advance
          (if cursor.absorbsSpace && rest.head? == some ' ' then inside.length + 3
          else inside.length + 2)) position := by
    rw [Matcher.walk]
    simp only [here, Demand.ofText_optional, fails, pure_bind, closed, behind]
  refine ⟨_, cursor.pattern_advance _, ?_, skips⟩
  split
  · rename_i absorbs
    obtain ⟨_, spaced⟩ : _ ∧ rest.head? = some ' ' := by simpa using absorbs
    obtain ⟨later, rfl⟩ := List.head?_eq_some_iff.mp spaced
    right
    simp [Cursor.advance, here]
  · left
    simp [Cursor.advance, here]

/-- What a walk over slots finds at the end of the input. -/
def omitted (text pattern : Text) (matched : Nat) (slots : List Command.Slot) :
    Option MatchResult :=
  if slots.all (·.bracketed) then
    some (.unbound text (placeholderCount pattern) matched) else none

theorem omitted_cons {slot : Command.Slot} (bracketed : slot.bracketed = true)
    (slots : List Command.Slot) (pattern : Text) :
    omitted text pattern matched (slot :: slots) =
      omitted text pattern matched slots := by
  simp [omitted, bracketed]

variable {slot : Command.Slot} {cursor : Cursor} {rest : Text}

private theorem walk_bare (bare : slot.bracketed = false)
    (here : cursor.rest = slot.pattern ++ rest) (slots : List Command.Slot) :
    matcher.walk text fuel matched cursor ⟨previous, []⟩ =
      pure (omitted text cursor.pattern matched (slot :: slots)) := by
  obtain ⟨before, ahead⟩ := cursor
  have placeholder : ahead = '%' :: (slot.inside ++ '%' :: rest) := by
    simpa [Command.Slot.pattern, bare] using here
  rw [placeholder, walk_placeholder_ended]
  simp [omitted, bare]

private theorem walk_bracketed [LawfulMonad m] (matcher : Matcher m)
    (text : Text) (fuel matched : Nat) (previous : Option Char)
    (bracketed : slot.bracketed = true)
    (here : cursor.rest = slot.pattern ++ rest) :
    ∃ later : Cursor, later.pattern = cursor.pattern ∧
      (later.rest = rest ∨ rest = ' ' :: later.rest) ∧
      matcher.walk text (fuel + 1) matched cursor ⟨previous, []⟩ =
        matcher.walk text fuel matched later ⟨previous, []⟩ := by
  have group : cursor.rest =
      '[' :: (('%' :: (slot.inside ++ ['%'])) ++ ']' :: rest) := by
    simp [here, Command.Slot.pattern, bracketed]
  apply walk_skipped group slot.passesOver
  obtain ⟨before, ahead⟩ := cursor
  cases group
  exact walk_placeholder_ended _ _

/-- One slot, with what a walk finds behind it given. -/
theorem walk_slot [LawfulMonad m] {slots : List Command.Slot}
    (here : cursor.rest = slot.pattern ++ Command.Slot.patternBehind slots)
    (enough : cursor.rest.length < fuel)
    (behind : ∀ (later : Cursor) (fuel : Nat),
      later.rest = Command.Slot.patternBehind slots ∨
        Command.Slot.patternBehind slots = ' ' :: later.rest →
      (Command.Slot.patternBehind slots).length + 1 < fuel →
        matcher.walk text fuel matched later ⟨previous, []⟩ =
          pure (omitted text later.pattern matched slots)) :
    matcher.walk text fuel matched cursor ⟨previous, []⟩ =
      pure (omitted text cursor.pattern matched (slot :: slots)) := by
  cases bracketed : slot.bracketed with
  | false => exact walk_bare bracketed here slots
  | true =>
      have long := slot.length_pattern
      rw [here, List.length_append] at enough
      obtain ⟨fuel, rfl⟩ : ∃ less, fuel = less + 1 := ⟨fuel - 1, by omega⟩
      obtain ⟨later, same, reached, skips⟩ :=
        matcher.walk_bracketed text fuel matched previous bracketed here
      rw [skips, omitted_cons bracketed, ← same]
      exact behind later fuel reached (by omega)

/-- At the end of the input a walk over slots skips those in square brackets and
takes no others. -/
theorem walk_slots [LawfulMonad m] (slots : List Command.Slot)
    (here : cursor.rest = slot.pattern ++ Command.Slot.patternBehind slots)
    (enough : cursor.rest.length < fuel) :
    matcher.walk text fuel matched cursor ⟨previous, []⟩ =
      pure (omitted text cursor.pattern matched (slot :: slots)) := by
  induction slots generalizing slot cursor fuel with
  | nil =>
      apply walk_slot here enough
      intro later fuel reached more
      obtain ⟨fuel, rfl⟩ : ∃ less, fuel = less + 1 := ⟨fuel - 1, by omega⟩
      have ended : later.rest = [] := by
        rcases reached with ended | spaced
        · exact ended
        · cases spaced
      obtain ⟨before, rest⟩ := later
      cases ended
      rw [walk_finished]
      simp [omitted, Cursor.pattern]
  | cons next slots induction =>
      apply walk_slot here enough
      intro later fuel reached more
      obtain ⟨fuel, rfl⟩ : ∃ less, fuel = less + 1 := ⟨fuel - 1, by omega⟩
      have behind : Command.Slot.patternBehind (next :: slots) =
          ' ' :: (next.pattern ++ Command.Slot.patternBehind slots) := rfl
      rw [behind] at reached more
      rw [List.length_cons] at more
      rcases reached with atSpace | spaced
      · obtain ⟨before, ahead⟩ := later
        cases atSpace
        rw [walk_space]
        have space : (⟨previous, []⟩ : Position).takeSpace =
            some (0, ⟨previous, []⟩) := rfl
        have ahead :
          (⟨' ' :: before, next.pattern ++ Command.Slot.patternBehind slots⟩ :
            Cursor).rest.length < fuel := by
          simp only
          omega
        simp only [space, Nat.add_zero]
        rw [induction rfl ahead]
        simp [Cursor.pattern]
      · obtain ⟨_, ahead⟩ := List.cons.inj spaced
        apply induction ahead.symm
        rw [← ahead]
        omega

end Matcher

namespace Command

/-- The command with every argument left out: each holds the values of its
default, or nothing. -/
def leftOut (world : World) (command : Command) : Command :=
  { command with
    arguments := command.arguments.map fun argument =>
      { argument with current := (argument.default.map (·.values world)).getD [] } }

private theorem assign_none (world : World) (command : Command) :
    command.assign world (List.replicate command.arguments.length none) =
      command.leftOut world := by
  have unset (arguments : List Argument) :
      arguments.zipWith (fun argument expr => argument.assign world expr)
          (List.replicate arguments.length none) =
        arguments.map fun argument =>
          { argument with current :=
              (argument.default.map (·.values world)).getD [] } := by
    induction arguments with
    | nil => rfl
    | cons argument arguments induction =>
        rw [List.length_cons, List.replicate_succ, List.zipWith_cons_cons,
          induction, List.map_cons]
        unfold Argument.assign
        cases argument.default with
        | none => rfl
        | some expr => rfl
  simp only [assign, leftOut, unset]

/-- What a match of slots against an empty text comes to. -/
theorem parseArguments_empty (parser : Parser) (log : ParseLog) (world : World)
    {command : Command} {matched : Bool}
    (counted : placeholderCount command.pattern = command.arguments.length)
    (run : (parser.matcher .command true).run command.pattern [] =
      pure (if matched then
        some (.unbound [] (placeholderCount command.pattern) 0) else none)) :
    (parser.parseArguments log world command []).1 =
      .ok (if matched then some (command.leftOut world) else none) := by
  unfold Parser.parseArguments
  rw [run]
  cases matched with
  | false => rfl
  | true =>
      have same : ¬command.arguments.length ≠
          (MatchResult.unbound [] (placeholderCount command.pattern)
            0).exprs.length := by
        simp [MatchResult.unbound, counted]
      have assigned : command.assign world
          (MatchResult.unbound [] (placeholderCount command.pattern) 0).exprs =
            command.leftOut world := by
        rw [← assign_none, ← counted]
        rfl
      simp only [if_true, ← assigned]
      exact congrArg Prod.fst (if_neg same)

/-- Arguments that stand in square brackets can be left out, all of them at
once, and then hold their defaults.  An argument outside of brackets cannot,
also if it has a default. -/
theorem ofUsage_leftOut {registry : Registry} {name : Text} {forms : List Form}
    {command : Command} (clean : ∀ form ∈ forms, NamesCleanly form)
    (declared : ofUsage registry name (usageOf forms) = .ok command)
    (parser : Parser) (log : ParseLog) (world : World) :
    (parser.parseArguments log world command []).1 =
      .ok (if forms.all (·.bracketed) then some (command.leftOut world)
        else none) := by
  obtain ⟨draft, read, _, rfl⟩ := ofUsage_ok declared
  cases forms with
  | nil =>
      cases read
      have none : placeholderCount [] = 0 := by decide
      exact @parseArguments_empty parser log world ⟨name, [], []⟩ true none
        Matcher.walk_finished
  | cons form forms =>
      rw [usageOf_cons, form.parts_written] at read
      obtain ⟨slot, next, bracketed, first, one, read⟩ :=
        form.adds (clean form List.mem_cons_self) read
      obtain ⟨slots, allBracketed, pattern, counted⟩ :=
        adds_behind (fun other member =>
          clean other (List.mem_cons_of_mem form member)) read
      have isPattern : draft.pattern = slot.pattern ++
          Slot.patternBehind slots := by
        rw [pattern, first, List.nil_append]
      have arguments : draft.arguments.length = slots.length + 1 := by
        rw [counted, one]
        simp only [List.length_nil]
        omega
      have slotCount : placeholderCount draft.pattern = draft.arguments.length := by
        have segment := slot.segment.append (Slot.segment_behind slots)
        rw [placeholderCount, isPattern, percentCount_segment segment, arguments]
        omega
      have sameBrackets : (slot :: slots).all (·.bracketed) =
          (form :: forms).all (·.bracketed) := by
        have behind : slots.all (·.bracketed) = forms.all (·.bracketed) := by
          simpa [List.all_map, Function.comp_def]
            using congrArg (List.all · id) allBracketed
        rw [List.all_cons, List.all_cons, bracketed, behind]
      apply parseArguments_empty parser log world slotCount
      rw [← sameBrackets]
      exact Matcher.walk_slots slots isPattern (Nat.lt_succ_self _)

/-- An integer without a default and two numbers with one, each in square
brackets. -/
def healingForms : List Form :=
  [⟨"integer", none, true, by decide, List.all_eq_true.mp rfl, by simp⟩,
    ⟨"numbers", some "1, 2", true, by decide, List.all_eq_true.mp rfl,
      by simp [Declaration.isDefaultChar]⟩]

theorem leftOut_of_healing :
    usageOf healingForms = "[<integer>] [<numbers=1, 2>]" ∧
      (∀ form ∈ healingForms, NamesCleanly form) ∧
      ∃ command, ofUsage .builtins "heal" (usageOf healingForms) = .ok command ∧
        (Parser.builtins.parseArguments .empty .empty command []).1 =
          .ok (some (command.leftOut .empty)) ∧
        (command.leftOut .empty).values =
          [.inl none, .inr [.datum (.int 1), .datum (.int 2)]] := by
  have clean : ∀ form ∈ healingForms, NamesCleanly form := by decide
  obtain ⟨command, declared, values⟩ : ∃ command,
      ofUsage .builtins "heal" (usageOf healingForms) = .ok command ∧
        (command.leftOut .empty).values =
          [.inl none, .inr [.datum (.int 1), .datum (.int 2)]] := ⟨_, rfl, rfl⟩
  exact ⟨rfl, clean, command, declared,
    ofUsage_leftOut clean declared Parser.builtins .empty .empty, values⟩

/-- A default lets an argument be left out, but not its placeholder. -/
theorem default_not_leftOut :
    ∃ command, ofUsage .builtins "heal" "<number=20>" = .ok command ∧
      command.arguments.all (·.optional) = true ∧ command.pattern = "%-number%" ∧
      (Parser.builtins.parseArguments .empty .empty command []).1 = .ok none :=
  ⟨_, rfl, rfl, rfl, rfl⟩

end Command

end Phrasebook
