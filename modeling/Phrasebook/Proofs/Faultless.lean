import Phrasebook.Builtin
import Phrasebook.Proofs.Binding.Fitting
import Phrasebook.Proofs.Pattern.Orderly
import Phrasebook.Proofs.Pattern.Stepping
import Phrasebook.Proofs.Search.Laws
import Phrasebook.Proofs.Search.Raising
import Phrasebook.Provider.Recording

/-!
# Matches that always answer

Registration checks a pattern once, and it is matched against any text later on.
Along an orderly pattern a walk never meets a setup error: every bracket that it
looks for is there, every placeholder names a registered type, and every slot
can be read.  So a match with literals only answers, with a result or without
one.
-/

namespace Phrasebook

open Pattern

/-! ## Searches that answer -/

namespace Tracked

variable {α β : Type}

/-- The search answers, whatever was seen and logged before it. -/
def Succeeds (search : Tracked α) : Prop :=
  ∀ before, ∃ answer after, search before = (.ok answer, after)

/-- A search answers that may end with no error at all. -/
theorem succeeds_iff {search : Tracked α} :
    search.Succeeds ↔ raising.Only (fun _ => False) search := by
  constructor
  · intro succeeds
    constructor
    rintro error ⟨before, after, failed⟩
    obtain ⟨answer, other, answered⟩ := succeeds before
    rw [answered] at failed
    cases failed
  · intro only before
    cases run : search before with
    | mk answer after =>
        cases answer with
        | error error => exact (only.holds error ⟨before, after, run⟩).elim
        | ok answer => exact ⟨answer, after, rfl⟩

theorem succeeds_pure (answer : α) : Succeeds (pure answer : Tracked α) :=
  succeeds_iff.mpr (.pure answer)

theorem succeeds_bind {search : Tracked α} {next : α → Tracked β}
    (first : Succeeds search) (later : ∀ answer, Succeeds (next answer)) :
    Succeeds (search >>= next) :=
  succeeds_iff.mpr (.bind (succeeds_iff.mp first) fun answer =>
    succeeds_iff.mp (later answer))

theorem succeeds_firstSome {attempt : α → Tracked (Option β)} {items : List α}
    (succeeds : ∀ item ∈ items, Succeeds (attempt item)) :
    Succeeds (Searching.firstSome attempt items) :=
  succeeds_iff.mpr (.firstSome fun item member =>
    succeeds_iff.mp (succeeds item member))

end Tracked

open Tracked

/-- With literals only a text is resolved without an error if the type reads its
literals without one. -/
theorem Resolver.resolve_succeeds (resolver : Resolver Tracked)
    (literalOnly : resolver.literalOnly = true) {type : RegisteredType}
    (answers : ∀ text, ∃ value, resolver.read type text resolver.context =
      .ok value)
    (taken : Text) : (resolver.resolve type taken).Succeeds := by
  apply succeeds_iff.mpr
  apply resolver.resolve_raises literalOnly
  intro text
  obtain ⟨value, success⟩ := answers text
  rw [success]
  exact .ok value

namespace Matcher

variable {matcher : Matcher Tracked}

theorem tryCut_succeeds {slot matched : Nat} {placeholder : Placeholder}
    {type : RegisteredType} {remainder : Cut → Tracked (Option MatchResult)}
    (cut : Cut) (remains : (remainder cut).Succeeds)
    (resolves : (matcher.resolve type cut.taken).Succeeds) :
    (matcher.tryCut slot placeholder type matched remainder cut).Succeeds :=
  succeeds_iff.mpr
    (tryCut_raises cut (succeeds_iff.mp remains) (succeeds_iff.mp resolves))

theorem tryCapture_succeeds (program : RegexProgram)
    {remainder : Cut → Tracked (Option MatchResult)} (cut : Cut)
    (remains : (remainder cut).Succeeds) :
    (tryCapture program remainder cut).Succeeds :=
  succeeds_iff.mpr (tryCapture_raises program cut (succeeds_iff.mp remains))

/-! ## Walking along an orderly pattern -/

/-- With so much fuel, walks answer from wherever the rest of the pattern is
orderly. -/
def Goes (matcher : Matcher Tracked) (text : Text) (fuel : Nat) : Prop :=
  ∀ matched owed cursor position, Orderly matcher.registry owed cursor.rest →
    (matcher.walk text fuel matched cursor position).Succeeds

namespace Goes

variable {text : Text} {fuel matched : Nat} {owed : List Char} {before rest : Text}
  {position : Position}

theorem optional (goes : matcher.Goes text fuel)
    (orderly : Orderly matcher.registry (']' :: owed) rest) :
    (matcher.walk text (fuel + 1) matched ⟨before, '[' :: rest⟩
      position).Succeeds := by
  obtain ⟨inside, later, group⟩ := orderly.group .square (List.nil_append _).symm
  have found : closingOffset ']' '[' 0 rest = some inside.length := group.found
  have behind : rest.drop (inside.length + 1) = later := by
    rw [group.split]
    simp
  rw [Matcher.walk]
  simp only [Demand.ofText_optional, found, behind]
  apply succeeds_bind (goes 0 _ _ position orderly)
  intro result
  cases result with
  | some result => exact succeeds_pure _
  | none =>
      simp only
      split
      · rename_i absorbs
        obtain ⟨_, spaced⟩ : _ ∧ later.head? = some ' ' := by simpa using absorbs
        obtain ⟨later, rfl⟩ := List.head?_eq_some_iff.mp spaced
        apply goes matched owed _ position
        change Orderly matcher.registry owed (rest.drop (inside.length + 1 + 1))
        rw [← List.drop_drop, behind]
        exact group.behind.behind_space
      · apply goes matched owed _ position
        change Orderly matcher.registry owed (rest.drop (inside.length + 1))
        rw [behind]
        exact group.behind

theorem choice (goes : matcher.Goes text fuel)
    (orderly : Orderly matcher.registry (')' :: owed) rest) :
    (matcher.walk text (fuel + 1) matched ⟨before, '(' :: rest⟩
      position).Succeeds := by
  obtain ⟨inside, later, group⟩ := orderly.group .round (List.nil_append _).symm
  have found : closingOffset ')' '(' 0 rest = some inside.length := group.found
  have whole : rest.take inside.length = inside := by
    rw [group.split]
    simp
  have alternative {start : Nat} (member : start ∈ alternativeStarts inside) :
      Orderly matcher.registry (')' :: owed) (rest.drop start) := by
    rcases List.mem_cons.mp member with rfl | member
    · exact orderly
    · obtain ⟨front, behind, isRest, rfl, orderly⟩ := group.bars rfl 0 start member
      rw [isRest, Nat.zero_add, List.drop_left]
      exact orderly
  rw [Matcher.walk]
  simp only [Demand.ofText_choice, found, whole]
  refine succeeds_bind (succeeds_firstSome ?_) fun _ => succeeds_pure _
  intro place member
  apply succeeds_bind
  · exact goes 0 _ _ position (alternative (List.fst_mem_of_mem_zipIdx member))
  · exact fun _ => succeeds_pure _

theorem bar (goes : matcher.Goes text fuel) (inChoice : ')' ∈ owed)
    (orderly : Orderly matcher.registry owed rest) :
    (matcher.walk text (fuel + 1) matched ⟨before, '|' :: rest⟩
      position).Succeeds := by
  obtain ⟨inner, outer, rfl, first⟩ := List.eq_append_cons_of_mem inChoice
  obtain ⟨inside, later, group⟩ := orderly.group .round rfl
  have found : closingOffset ')' '(' 0 rest = some inside.length := by
    rw [← group.found, List.count_eq_zero.mpr first]
  rw [Matcher.walk]
  simp only [Demand.ofText_bar, found]
  apply goes matched outer _ position
  change Orderly matcher.registry outer (rest.drop (inside.length + 1))
  rw [group.split]
  simpa using group.behind

theorem placeholder {written : Text}
    (resolves : ∀ type ∈ matcher.registry.types, ∀ taken,
      (matcher.resolve type taken).Succeeds)
    (goes : matcher.Goes text fuel) (segment : Segment written 0)
    (named : matcher.registry.checkPlaceholder written = .ok ())
    (orderly : Orderly matcher.registry owed rest) :
    (matcher.walk text (fuel + 1) matched ⟨before, '%' :: (written ++ '%' :: rest)⟩
      position).Succeeds := by
  obtain ⟨placeholder, read, known⟩ := except_bind_ok named
  obtain ⟨type, known, _⟩ := except_bind_ok known
  by_cases finished : position.rest = []
  · rw [Matcher.walk]
    simp only [Demand.ofText_placeholder, finished, List.isEmpty_nil, if_true]
    exact succeeds_pure none
  · rw [walk_placeholder segment finished read known]
    refine succeeds_bind (succeeds_firstSome ?_) fun _ => succeeds_pure _
    intro cut _
    apply tryCut_succeeds cut
    · exact goes 0 owed _ _ orderly
    · exact resolves type (Registry.mem_of_getType known) cut.taken

theorem slot {body : Text} {program : RegexProgram}
    (goes : matcher.Goes text fuel) (noEnd : '>' ∉ body)
    (compiles : matcher.registry.regexes.compile body = .ok program)
    (orderly : Orderly matcher.registry owed rest) :
    (matcher.walk text (fuel + 1) matched ⟨before, '<' :: (body ++ '>' :: rest)⟩
      position).Succeeds := by
  rw [Matcher.walk]
  simp only [Demand.ofText_capture, regexEndOffset_eq noEnd,
    List.take_left, compiles]
  refine succeeds_bind (succeeds_firstSome ?_) fun _ => succeeds_pure _
  intro cut _
  apply tryCapture_succeeds program cut
  apply goes 0 owed _ _
  rw [Cursor.advance_enclosed]
  exact orderly

theorem escaped {char : Char} (goes : matcher.Goes text fuel)
    (orderly : Orderly matcher.registry owed rest) :
    (matcher.walk text (fuel + 1) matched ⟨before, '\\' :: char :: rest⟩
      position).Succeeds := by
  rw [Matcher.walk]
  simp only [Demand.ofText_escaped]
  cases position.takeLetter char with
  | none => exact succeeds_pure none
  | some next => exact goes (matched + 1) owed _ next orderly

theorem plain {char : Char} (goes : matcher.Goes text fuel)
    (noMark : char ∉ ['[', '(', '%', '<', '|', ')', ']', '\\'])
    (orderly : Orderly matcher.registry owed rest) :
    (matcher.walk text (fuel + 1) matched ⟨before, char :: rest⟩
      position).Succeeds := by
  by_cases isSpace : char = ' '
  · subst isSpace
    rw [walk_space]
    cases position.takeSpace with
    | none => exact succeeds_pure none
    | some taken => exact goes _ owed _ taken.2 orderly
  · have noMark : char ∉ Demand.marks := by
      simp only [Demand.marks, List.mem_cons, List.not_mem_nil, or_false,
        not_or] at noMark ⊢
      simp [noMark, isSpace]
    rw [walk_letter noMark]
    cases position.takeLetter char with
    | none => exact succeeds_pure none
    | some next => exact goes (matched + 1) owed _ next orderly

end Goes

/-- Walks along orderly patterns answer. -/
theorem goes_of_resolves
    (resolves : ∀ type ∈ matcher.registry.types, ∀ taken,
      (matcher.resolve type taken).Succeeds)
    (text : Text) (fuel : Nat) : matcher.Goes text fuel := by
  induction fuel with
  | zero => exact fun _ _ _ _ _ => succeeds_pure none
  | succ fuel goes =>
      rintro matched owed ⟨before, rest⟩ position orderly
      cases orderly with
      | done =>
          rw [walk_finished]
          exact succeeds_pure _
      | escaped char orderly => exact goes.escaped orderly
      | plain noMark orderly => exact goes.plain noMark orderly
      | opening pair orderly =>
          rcases pair with ⟨rfl, rfl⟩ | ⟨rfl, rfl⟩
          · exact goes.choice orderly
          · exact goes.optional orderly
      | @closing outer _ _ _ pair orderly =>
          rw [walk_closing (pair.imp And.left And.left)]
          exact goes matched outer _ position orderly
      | bar inChoice orderly => exact goes.bar inChoice orderly
      | placeholder segment _ named orderly =>
          exact goes.placeholder resolves segment named orderly
      | slot noEnd _ compiles orderly => exact goes.slot noEnd compiles orderly

end Matcher

/-! ## Registered patterns -/

/-- Only literals that are syntax elements can be hard to read. -/
theorem Registry.read_answers (registry : Registry) {type : RegisteredType}
    (noSyntax : ∀ kind, type.reader ≠ .syntaxes kind) (text : Text)
    (context : ParseContext) :
    ∃ value, registry.read type text context = .ok value := by
  unfold read readWithin
  cases reader : type.reader with
  | none => exact ⟨none, rfl⟩
  | function read => exact ⟨read text context, rfl⟩
  | syntaxes kind => exact absurd reader (noSyntax kind)

/-- A registered pattern is orderly, if none of its tokens leads scans astray
and its slots compile. -/
theorem Registry.Built.orderly {registry : Registry} (built : registry.Built)
    {kind : Text}
    {descriptor : Descriptor}
    (registered : descriptor ∈ registry.syntaxesOf kind) {pattern : Text}
    (belongs : pattern ∈ descriptor.patterns) (clear : AllClear [] (tokens pattern))
    (compiles : ∀ body, .regex body ∈ tokens pattern →
      ∃ program, registry.regexes.compile body = .ok program) :
    Orderly registry [] pattern := by
  obtain ⟨entry, listed, inside⟩ := mem_syntaxesOf registered
  have lexed := lexed_of_validate (built.checked registered pattern belongs).valid
  have named := built.wellNamed.placeholders entry listed descriptor inside
    pattern belongs
  exact lexed.orderly
    { clear := clear, compiles := compiles, segment := ⟨0, .nil⟩, named := named }

/-- A pattern that was registered never makes a match with literals only fail with a
setup error, whatever the text and the engine for regular expressions are: if its
slots compile, no type fails to read its literals, and scans pass over its
placeholders and slots, then the match answers. -/
theorem Registry.Built.run_answers {registry : Registry}
    (built : registry.Built) {kind : Text}
    {descriptor : Descriptor}
    (registered : descriptor ∈ registry.syntaxesOf kind) {pattern : Text}
    (belongs : pattern ∈ descriptor.patterns) (clear : AllClear [] (tokens pattern))
    (compiles : ∀ body, .regex body ∈ tokens pattern →
      ∃ program, registry.regexes.compile body = .ok program)
    (literals : ∀ type ∈ registry.types, ∀ text context,
      ∃ value, registry.read type text context = .ok value)
    (context : ParseContext) (minErrorChars : Int) (text : Text)
    (before : Tracker) :
    ∃ answer after,
      (⟨registry, context, true, minErrorChars⟩ : Attempt).tracked.run pattern
        text before =
        (.ok answer, after) := by
  have orderly := built.orderly registered belongs clear compiles
  have resolves : ∀ type ∈ registry.types, ∀ taken,
      ((⟨registry, context, true, minErrorChars⟩ : Attempt).tracked.resolve type
        taken).Succeeds :=
    fun type member taken => Resolver.resolve_succeeds
      ⟨registry, context, true, registry.parseNested minErrorChars,
        registry.read⟩ rfl
      (fun text => literals type member text context) taken
  exact Matcher.goes_of_resolves resolves text _ 0 [] (.start pattern)
    (.start text) orderly before

/-- An effect of turning somewhere or of switching something. -/
def Descriptor.turning : Descriptor :=
  (Recording.plain ⟨"Turning", 0⟩).descriptor ["(<left|right>|%boolean%)"] []

def Registry.turning : Registry where
  types := [.boolean]
  plurals := [("booleans", "boolean")]
  conversions := []
  syntaxes := [(conditionKind, []), (effectKind, [.turning]),
    (expressionKind, []), (eventKind, [])]
  frozen := false
  regexes := .standard

private theorem Registry.turning_built : Registry.turning.Built :=
  .effect .turning (.type .boolean (.blank .standard) rfl) rfl

theorem Registry.turning_answers :
    Registry.turning.Built ∧
      ∃ answer after, (⟨.turning, .command, true, 5⟩ : Attempt).tracked.run
        "(<left|right>|%boolean%)" "right" ⟨.empty, .empty⟩ =
          (.ok answer, after) := by
  have first : Nested true "left" := .of_plain (by simp)
  have second : Nested true "right" := .of_plain (by simp)
  have slot : Nested true "left|right" := first.append (.bar second)
  have named : Nested false "boolean" := .of_plain (by simp)
  have clear : AllClear [] (tokens "(<left|right>|%boolean%)") := by
    refine ⟨trivial, ⟨rfl, .inr ⟨slot, by decide, by decide⟩⟩, trivial, ?_,
      trivial, trivial⟩
    rintro closing isClosing
    cases isClosing
    exact named
  have compiles : ∀ body, .regex body ∈ tokens "(<left|right>|%boolean%)" →
      ∃ program, Registry.turning.regexes.compile body = .ok program := by
    intro body member
    have isSlot : body = "left|right" := by
      simpa [tokens, tokensFrom] using member
    subst isSlot
    exact ⟨_, rfl⟩
  have literals : ∀ type ∈ Registry.turning.types, ∀ text context,
      ∃ value, Registry.turning.read type text context = .ok value := by
    intro type member
    apply Registry.read_answers
    cases List.mem_singleton.mp member
    intro kind isSyntax
    cases isSyntax
  have built := Registry.turning_built
  have registered : Descriptor.turning ∈ Registry.turning.effects :=
    List.mem_singleton_self _
  exact ⟨built, built.run_answers registered List.mem_cons_self clear compiles
    literals .command 5 "right" ⟨.empty, .empty⟩⟩

/-- An effect whose slot, inside a group, takes an opening bracket. -/
def Descriptor.bracketing : Descriptor :=
  (Recording.plain ⟨"Bracketing", 0⟩).descriptor ["(<[(]>)"] []

def Registry.bracketing : Registry where
  types := []
  plurals := []
  conversions := []
  syntaxes :=
    [(conditionKind, []), (effectKind, [.bracketing]), (expressionKind, []),
      (eventKind, [])]
  frozen := false
  regexes := .standard

/-- Registration takes the slot as a whole, the search for the group's end
counts the bracket in it: a match of the registered pattern fails with a setup
error. -/
theorem Registry.bracketing_goes_astray :
    Registry.bracketing.Built ∧
      Descriptor.bracketing ∈ Registry.bracketing.effects ∧
      ("(<[(]>)" : Text) ∈ Descriptor.bracketing.patterns ∧
      (∀ body, .regex body ∈ tokens "(<[(]>)" →
        ∃ program, Registry.bracketing.regexes.compile body = .ok program) ∧
      (∀ type ∈ Registry.bracketing.types, ∀ text context,
        ∃ value, Registry.bracketing.read type text context = .ok value) ∧
      ((⟨.bracketing, .script, true, 5⟩ : Attempt).tracked.run "(<[(]>)" "("
        ⟨.empty, .empty⟩).1 =
          .error (.malformedPattern "(<[(]>)" (.missingClosing ')')) := by
  have compiles : ∀ body, .regex body ∈ tokens "(<[(]>)" →
      ∃ program, Registry.bracketing.regexes.compile body = .ok program := by
    intro body member
    have isSlot : body = "[(]" := by
      simpa [tokens, tokensFrom] using member
    subst isSlot
    exact ⟨_, rfl⟩
  refine ⟨.effect .bracketing (.blank .standard) rfl, List.mem_singleton_self _,
    List.mem_singleton_self _, compiles, ?_, rfl⟩
  intro type member
  cases member

end Phrasebook
