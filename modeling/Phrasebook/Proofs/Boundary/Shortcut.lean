import Phrasebook.Command
import Phrasebook.Proofs.Boundary.Runs
import Phrasebook.Proofs.Builtins
import Phrasebook.Proofs.Pattern.Stepping
import Phrasebook.Proofs.Search.Laws

/-!
# The shortcut of the last placeholder

A placeholder at the end of a pattern takes everything at once, and any other
one searches for its boundary.  In `[%type%]` the search has to reach the end of
the text as well.  It gets there unless it comes upon a run that never ends.
-/

namespace Phrasebook

open Pattern

def Pattern.alone (written : Text) : Text :=
  '%' :: (written ++ ['%'])

def Pattern.omissible (written : Text) : Text :=
  '[' :: (alone written ++ [']'])

theorem Pattern.alone_segment {written : Text} (segment : Segment written 0) :
    Segment (alone written) 2 :=
  .percent (segment.append .single_percent)

theorem Pattern.omissible_segment {written : Text} (segment : Segment written 0) :
    Segment (omissible written) 2 :=
  (Segment.single (by decide) (by decide)).append
    ((alone_segment segment).append (.single (by decide) (by decide)))

/-! ## The cut at the end of a text -/

private theorem Cut.onward_last (gait : Gait) (taken text : Text) :
    ∃ front, (∀ cut ∈ front, cut.rest ≠ []) ∧
      (onward gait taken text = front ∨ onward gait taken text =
        front ++ [⟨taken ++ text, []⟩]) := by
  fun_induction onward gait taken text with
  | case1 taken => exact ⟨[], by simp, .inr (by simp)⟩
  | case2 => exact ⟨[], by simp, .inl rfl⟩
  | case3 taken char rest opens length found induction => simpa using induction
  | case4 taken char rest opens induction =>
      obtain ⟨front, goOn, split⟩ := induction
      refine ⟨⟨taken, char :: rest⟩ :: front, by simpa using goOn, ?_⟩
      rcases split with split | split
      · exact .inl (by rw [split])
      · exact .inr (by rw [split]; simp)
  | case5 taken => exact ⟨[], by simp, .inr (by simp)⟩
  | case6 taken char rest induction =>
      obtain ⟨front, goOn, split⟩ := induction
      refine ⟨⟨taken, char :: rest⟩ :: front, by simpa using goOn, ?_⟩
      rcases split with split | split
      · exact .inl (by rw [split])
      · exact .inr (by rw [split]; simp)
  | case7 => exact ⟨[], by simp, .inl rfl⟩
  | case8 left taken char rest induction => simpa using induction

theorem Cut.ofPlaceholder_last {text : Text} (present : text ≠ []) :
    ∃ front, (∀ cut ∈ front, cut.rest ≠ []) ∧
      (ofPlaceholder false text = front ∨ ofPlaceholder false text =
        front ++ [⟨text, []⟩]) := by
  cases text with
  | nil => exact absurd rfl present
  | cons char text =>
      rw [ofPlaceholder, if_neg Bool.false_ne_true]
      by_cases opens : Text.opensRun char = true
      · rw [if_pos opens]
        cases Text.runLength char text with
        | none => exact ⟨[], by simp, .inl rfl⟩
        | some length =>
            have last := onward_last .look ((char :: text).take length)
              ((char :: text).drop length)
            rwa [List.take_append_drop] at last
      · rw [if_neg opens]
        exact onward_last .look [char] text

/-! ## The two ways through the text -/

namespace Matcher

variable {m : Type → Type} [Searching m]

/-- What becomes of a text that the only placeholder of a pattern is to take as
a whole. -/
def takeWhole (matcher : Matcher m) (placeholder : Placeholder)
    (type : RegisteredType) (text : Text) : m (Option MatchResult) := do
  let found ← matcher.tryCut 0 placeholder type 0 (fun _ =>
    pure (some (.unbound text 1 0)))
    ⟨text, []⟩
  pure (found.getD none)

variable [LawfulMonad m] {matcher : Matcher m} {written text : Text}
  {placeholder : Placeholder} {type : RegisteredType}

omit [LawfulMonad m] in
theorem takeWhole_of_remainder {remainder : Cut → m (Option MatchResult)}
    (ends : remainder ⟨text, []⟩ = pure (some (.unbound text 1 0))) :
    (do
      let found ← matcher.tryCut 0 placeholder type 0 remainder ⟨text, []⟩
      pure (found.getD none)) = matcher.takeWhole placeholder type text := by
  simp only [takeWhole, tryCut, ends]

theorem run_alone (matcher : Matcher m) (segment : Segment written 0)
    (present : text ≠ [])
    (read : Placeholder.read matcher.registry.normalize written = .ok placeholder)
    (known : matcher.registry.getType placeholder.name = .ok type) :
    matcher.run (alone written) text = matcher.takeWhole placeholder type text := by
  have one : placeholderCount (alone written) = 1 := by
    rw [placeholderCount, percentCount_segment (alone_segment segment)]
  have ends : matcher.walk text ('%' :: (written ++ ['%'])).length 0
      ⟨'%' :: (written.reverse ++ ['%']),
        []⟩ ((Position.start text).after ⟨text, []⟩) =
      pure (some (.unbound text 1 0)) := by
    have pattern : ('%' :: (written.reverse ++ ['%'])).reverse = alone written := by
      simp [alone]
    rw [List.length_cons, walk_finished, pattern, one]
    rfl
  rw [run, alone, Cursor.start, walk_placeholder segment present read known]
  simp only [List.isEmpty_nil, Cut.ofPlaceholder, if_true,
    Searching.firstSome_singleton, map_plusChars_zero]
  exact takeWhole_of_remainder ends

/-- If the rest of the pattern needs the end of the text, only the cut there
counts. -/
theorem firstSome_cuts {slot matched : Nat}
    {remainder : Cut → m (Option MatchResult)} (present : text ≠ [])
    (stops : ∀ cut : Cut, cut.rest ≠ [] → remainder cut = pure none) :
    Searching.firstSome (matcher.tryCut slot placeholder type matched remainder)
        (Cut.ofPlaceholder false text) =
      if ⟨text, []⟩ ∈ Cut.ofPlaceholder false text then
        matcher.tryCut slot placeholder type matched remainder ⟨text, []⟩
      else pure none := by
  obtain ⟨front, goOn, split⟩ := Cut.ofPlaceholder_last present
  have fails : ∀ cut ∈ front,
      matcher.tryCut slot placeholder type matched remainder cut = pure none :=
    fun cut member => tryCut_fails (stops cut (goOn cut member))
  rcases split with split | split
  · have notReached : ⟨text, []⟩ ∉ Cut.ofPlaceholder false text := by
      rw [split]
      intro member
      exact goOn _ member rfl
    rw [if_neg notReached, split]
    exact Searching.firstSome_fails fails
  · have reached : ⟨text, []⟩ ∈ Cut.ofPlaceholder false text := by
      rw [split]
      exact List.mem_append_right front List.mem_cons_self
    rw [if_pos reached, split, Searching.firstSome_behind fails,
      Searching.firstSome_singleton]

/-- Inside of an optional group the placeholder takes the whole text if its
search for a boundary gets to the end, and nothing otherwise. -/
theorem run_omissible (matcher : Matcher m) (segment : Segment written 0)
    (clean : PassesOver ']' '[' written) (present : text ≠ [])
    (read : Placeholder.read matcher.registry.normalize written = .ok placeholder)
    (known : matcher.registry.getType placeholder.name = .ok type) :
    matcher.run (omissible written) text =
      if ⟨text, []⟩ ∈ Cut.ofPlaceholder false text then
        matcher.takeWhole placeholder type text
      else pure none := by
  have passed : PassesOver ']' '[' ('%' :: (written ++ ['%'])) :=
    clean.between (.single (by decide) (by decide) (by decide))
      (.single (by decide) (by decide) (by decide))
  have split : ('%' :: (written ++ ['%'])) ++ [']'] =
    '%' :: (written ++ '%' :: [']']) := by simp
  have fuel : ('[' :: (('%' :: (written ++ ['%'])) ++ [']'])).length =
      written.length + 4 := by
    simp
  have skipped : matcher.walk text (written.length + 4) 0
      ⟨']' :: (('%' :: (written ++ ['%'])).reverse ++ ['[']),
        []⟩ (.start text) = pure none := by
    rw [walk_finished, Position.start, if_neg (by simpa using present)]
  rw [run, omissible, alone, Cursor.start, fuel, walk_optional passed skipped,
    split, walk_placeholder segment present read known]
  have stops (cut : Cut) (goesOn : cut.rest ≠ []) :
    matcher.walk text (written.length + 3) 0
      ⟨'%' :: (written.reverse ++ ['%', '[']),
        [']']⟩ ((Position.start text).after cut) =
      pure none := by
    rw [walk_closing (.inr rfl), walk_finished, Position.after,
      if_neg (by simpa using goesOn)]
  have ends : matcher.walk text (written.length + 3) 0
      ⟨'%' :: (written.reverse ++ ['%', '[']),
        [']']⟩ ((Position.start text).after ⟨text, []⟩) =
      pure (some (.unbound text 1 0)) := by
    have pattern : (']' :: '%' :: (written.reverse ++ ['%', '['])).reverse =
        omissible written := by
      simp [omissible, alone]
    have one : placeholderCount (omissible written) = 1 := by
      rw [placeholderCount, percentCount_segment (omissible_segment segment)]
    rw [walk_closing (.inr rfl), walk_finished, pattern, one]
    rfl
  simp only [map_plusChars_zero]
  refine Eq.trans (congrArg (· >>= fun found => pure (found.getD none))
    (firstSome_cuts present stops)) ?_
  split
  · exact takeWhole_of_remainder ends
  · rw [pure_bind]
    rfl

end Matcher

/-- Where runs stand apart, the search for a boundary gets to the end of a text
outside of all runs. -/
theorem Cut.reachesEnd_iff {text : Text} (present : text ≠ [])
    (apart : Text.runsApart text = true) :
    ⟨text, []⟩ ∈ ofPlaceholder false text ↔ Text.endsOutside 0 text [] = true := by
  rw [mem_ofPlaceholder_iff apart]
  constructor
  · intro reached
    exact reached.2.2.1
  · intro outside
    exact ⟨present, List.append_nil text, outside, rfl⟩

/-! ## Commands for a text -/

namespace Command

/-- The command for a text, and whether the text may be left out. -/
def ofText (registry : Registry) (name : Text) (optional : Bool) : Command :=
  ⟨name, if optional then "[%-string%]" else "%string%",
    [⟨0, (registry.normalize "string").1, none, optional,
      !(registry.normalize "string").2, []⟩]⟩

theorem addArgument_text (registry : Registry) (name : Text) (draft : Draft) :
    draft.addArgument registry name ⟨"string", none, 8⟩ =
      (registry.getType (registry.normalize "string").1).map fun _ =>
        { draft with
          arguments := draft.arguments ++
            [⟨draft.arguments.length, (registry.normalize "string").1,
            none, 0 < draft.depth || false, !(registry.normalize "string").2, []⟩]
          pattern := draft.pattern ++
            ((if 0 < draft.depth || false then "%-" else "%") ++
            "string" ++ "%") } := by
  have stripped : Text.strip "string" = "string" := by decide
  simp only [Draft.addArgument, stripped]
  cases registry.getType (registry.normalize "string").1 <;> rfl

theorem ofUsage_text (registry : Registry) (name : Text) :
    ofUsage registry name "<string>" =
      (registry.getType (registry.normalize "string").1).map fun _ =>
        ofText registry name false := by
  have reads : readUsage registry name (("<string>" : Text).length + 1) ⟨[], [],
    0⟩ "<string>" =
      (do
        let next ← Draft.addArgument registry name ⟨[], [], 0⟩ ⟨"string", none, 8⟩
        pure (next.countBrackets "<string>")) := by rfl
  rw [ofUsage, reads, addArgument_text]
  cases registry.getType (registry.normalize "string").1 <;> rfl

theorem ofUsage_optionalText (registry : Registry) (name : Text) :
    ofUsage registry name "[<string>]" =
      (registry.getType (registry.normalize "string").1).map fun _ =>
        ofText registry name true := by
  have reads : readUsage registry name (("[<string>]" : Text).length + 1) ⟨[],
    [], 0⟩ "[<string>]" =
      (do
        let next ← Draft.addArgument registry name ⟨[], "[", 1⟩ ⟨"string", none, 8⟩
        pure (((next.countBrackets "<string>").countBrackets [']']).addChar
          ']')) := by rfl
  rw [ofUsage, reads, addArgument_text]
  cases registry.getType (registry.normalize "string").1 <;> rfl

private theorem values_assign_text (registry : Registry) (name : Text)
    (world : World) (exprs : List (Option Expr)) :
    ((ofText registry name true).assign world exprs).values =
      ((ofText registry name false).assign world exprs).values := by
  cases exprs with
  | nil => rfl
  | cons expr exprs => cases expr <;> rfl

end Command

namespace Parser

variable {parser : Parser} {text : Text}

private theorem run_text {type : RegisteredType} {name : Text}
    (present : text ≠ []) (reaches : ⟨text, []⟩ ∈ Cut.ofPlaceholder false text)
    (known : parser.registry.getType (parser.registry.normalize "string").1 =
      .ok type) :
    (parser.matcher .command true).run
      (Command.ofText parser.registry name true).pattern text =
      (parser.matcher .command true).run
        (Command.ofText parser.registry name false).pattern text := by
  have required : Placeholder.read parser.registry.normalize "string" =
      .ok ⟨(parser.registry.normalize "string").1,
        (parser.registry.normalize "string").2, 0, false⟩ := rfl
  have optional : Placeholder.read parser.registry.normalize "-string" =
      .ok ⟨(parser.registry.normalize "string").1,
        (parser.registry.normalize "string").2, 0, true⟩ := rfl
  have segment : Segment "string" 0 := .plain_text (by simp)
  have dashed : Segment "-string" 0 := .plain_text (by simp)
  have clean : PassesOver ']' '[' "-string" := .plain (by simp)
  have alone := (parser.matcher .command true).run_alone segment present
    required known
  have omissible :=
    (parser.matcher .command true).run_omissible dashed clean present
      optional known
  rw [if_pos reaches] at omissible
  exact omissible.trans alone.symm

private theorem parseArguments_text {type : RegisteredType} {name : Text}
    {log : ParseLog} {world : World} {accepted : Command} (present : text ≠ [])
    (reaches : ⟨text, []⟩ ∈ Cut.ofPlaceholder false text)
    (known : parser.registry.getType (parser.registry.normalize "string").1 =
      .ok type)
    (accepts : (parser.parseArguments log world
      (.ofText parser.registry name false) text).1 =
      .ok (some accepted)) :
    ∃ other, (parser.parseArguments log world
      (.ofText parser.registry name true) text).1 = .ok (some other) ∧
      other.values = accepted.values := by
  unfold parseArguments at accepts ⊢
  rw [run_text present reaches known]
  generalize ((parser.matcher .command true).run
    (Command.ofText parser.registry name false).pattern text).attempt log =
      ending at accepts ⊢
  cases answered : ending.answer with
  | error error =>
      simp only [answered] at accepts
      cases accepts
  | ok found =>
      simp only [answered] at accepts ⊢
      cases found with
      | none => cases accepts
      | some result =>
          dsimp only at accepts ⊢
          by_cases miscounted :
              (Command.ofText parser.registry name false).arguments.length ≠
                result.exprs.length
          · rw [if_pos miscounted] at accepts
            cases accepts
          · rw [if_neg miscounted] at accepts
            cases accepts
            refine ⟨_, congrArg Prod.fst (if_neg miscounted), ?_⟩
            exact Command.values_assign_text parser.registry name world result.exprs

/-- As long as runs stand apart, the placeholder in the optional group does what
the one that is the whole pattern does, unless a run never ends; then it takes
nothing.  So a command for a text that may be left out takes each text without
such a run that a command which requires a text takes. -/
theorem omissible_agrees (parser : Parser) (context : ParseContext)
    (literalOnly : Bool) {written : Text} {placeholder : Placeholder}
    {type : RegisteredType}
    (plain : ∀ char ∈ written, char ∉ ['%', '\\', '[', ']'])
    (read : Placeholder.read parser.registry.normalize written = .ok placeholder)
    (known : parser.registry.getType placeholder.name = .ok type)
    (present : text ≠ []) (apart : Text.runsApart text = true) :
    (parser.matcher context literalOnly).run (omissible written) text =
      (if Text.endsOutside 0 text [] = true then
        (parser.matcher context literalOnly).run (alone written) text
      else pure none) ∧
    ∀ log world name required accepted, Text.endsOutside 0 text [] = true →
      Command.ofUsage parser.registry name "<string>" = .ok required →
      (parser.parseArguments log world required text).1 = .ok (some accepted) →
      ∃ optional other, Command.ofUsage parser.registry name "[<string>]" =
        .ok optional ∧
        (parser.parseArguments log world optional text).1 = .ok (some other) ∧
        other.values = accepted.values := by
  have reaches := Cut.reachesEnd_iff present apart
  have separate (char : Char) (member : char ∈ written) :
      char ≠ '%' ∧ char ≠ '\\' ∧ char ≠ '[' ∧ char ≠ ']' := by
    simpa using plain char member
  have segment : Segment written 0 :=
    .plain_text fun char member =>
      ⟨(separate char member).2.1, (separate char member).1⟩
  have clean : PassesOver ']' '[' written :=
    .plain fun char member =>
      ⟨(separate char member).2.1, (separate char member).2.2.2,
        (separate char member).2.2.1⟩
  constructor
  · rw [Matcher.run_omissible _ segment clean present read known,
      Matcher.run_alone _ segment present read known]
    simp only [reaches]
  · intro log world name required accepted outside declared accepts
    rw [Command.ofUsage_text] at declared
    cases found : parser.registry.getType (parser.registry.normalize "string").1
        with
    | error error =>
        rw [found] at declared
        cases declared
    | ok known =>
        rw [found] at declared
        cases declared
        obtain ⟨other, accepted, same⟩ :=
          parseArguments_text present (reaches.mpr outside) found accepts
        refine ⟨Command.ofText parser.registry name true, other, ?_, accepted, same⟩
        rw [Command.ofUsage_optionalText, found]
        rfl

theorem omissible_takes_greeting :
    Text.runsApart "hi \"you\"" = true ∧ Text.endsOutside 0 "hi \"you\"" [] = true ∧
      (builtins.matcher .command true).run (omissible "string") "hi \"you\"" =
        (builtins.matcher .command true).run (alone "string") "hi \"you\"" ∧
      ∃ optional other, Command.ofUsage builtins.registry "say" "[<string>]" =
        .ok optional ∧
        (builtins.parseArguments .empty .empty optional "hi \"you\"").1 =
          .ok (some other) ∧
        other.values = [.inl (some (.datum (.text "hi \"you\"")))] := by
  have apart : Text.runsApart "hi \"you\"" = true := by decide
  have outside : Text.endsOutside 0 "hi \"you\"" [] = true := by decide
  have read : Placeholder.read builtins.registry.normalize "string" =
      .ok ⟨"string", false, 0, false⟩ := rfl
  have known : builtins.registry.getType "string" = .ok .string := rfl
  obtain ⟨same, takes⟩ :=
    omissible_agrees builtins .command true (by simp) read known (by simp) apart
  rw [if_pos outside] at same
  obtain ⟨accepted, accepts, values⟩ : ∃ accepted : Command,
      (builtins.parseArguments .empty .empty (.ofText builtins.registry "say" false)
        "hi \"you\"").1 = .ok (some accepted) ∧
      accepted.values = [.inl (some (.datum (.text "hi \"you\"")))] := ⟨_, rfl, rfl⟩
  obtain ⟨optional, other, declared, taken, alike⟩ :=
    takes .empty .empty "say" _ accepted outside rfl accepts
  exact ⟨apart, outside, same, optional, other, declared, taken, alike.trans values⟩

/-- A quote opens a run that never ends. -/
theorem omissible_refuses_quote :
    (∃ result, ((builtins.matcher .command true).run (alone "string") "\""
      ⟨.empty, .empty⟩).1 = .ok (some result)) ∧
    ((builtins.matcher .command true).run (omissible "string") "\"" ⟨.empty,
      .empty⟩).1 =
      .ok none ∧
    ∃ required optional accepted,
      Command.ofUsage builtins.registry "say" "<string>" = .ok required ∧
      Command.ofUsage builtins.registry "say" "[<string>]" = .ok optional ∧
      (builtins.parseArguments .empty .empty required "\"").1 =
        .ok (some accepted) ∧
      (builtins.parseArguments .empty .empty optional "\"").1 = .ok none := by
  refine ⟨⟨_, rfl⟩, rfl, .ofText builtins.registry "say" false,
    .ofText builtins.registry "say" true, ?_⟩
  exact ⟨_, rfl, rfl, rfl, rfl⟩

end Parser

end Phrasebook
