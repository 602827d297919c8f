import Phrasebook.Proofs.Pattern.Grammar
import Phrasebook.Proofs.Pattern.Stepping

/-!
# Answers of the walk along a pattern

If it is known which ways lead from a later place of a pattern to its end, the walk
from an earlier place answers with the first way that takes the whole input.  There
is one lemma for each thing that a pattern can ask for.
-/

namespace Phrasebook

open Pattern

/-! ## The first complete path -/

namespace Pattern.Path

/-- The answer of a match whose ways these are, with so many literal characters
more. -/
def answer (text : Text) (matched : Nat) (paths : List Path) : Option MatchResult :=
  (paths.find? isComplete).map fun path => (path.result text).plusChars matched

variable {text : Text} {matched : Nat}

theorem answer_nil : answer text matched [] = none := rfl

theorem answer_append (first second : List Path) :
    answer text matched (first ++ second) =
      (answer text matched first).or (answer text matched second) := by
  rw [answer, List.find?_append, Option.map_or]
  rfl

theorem answer_map (count : Nat) (change : Path → Path)
    (extend : MatchResult → MatchResult)
    (complete : ∀ path, (change path).isComplete = path.isComplete)
    (same : ∀ path, ((change path).result text).plusChars matched =
      extend ((path.result text).plusChars count)) (paths : List Path) :
    answer text matched (paths.map change) =
      (answer text count paths).map extend := by
  have unchanged : isComplete ∘ change = isComplete := funext complete
  rw [answer, List.find?_map, unchanged, answer, Option.map_map, Option.map_map]
  congr 1
  funext path
  exact same path

theorem answer_plusChars (paths : List Path) :
    (answer text 0 paths).map (·.plusChars matched) =
      answer text matched paths := by
  have same : ∀ path : Path, (path.result text).plusChars matched =
      ((path.result text).plusChars 0).plusChars matched := by
    intro path
    simp [MatchResult.plusChars]
  rw [← answer_map 0 id (·.plusChars matched) (fun _ => rfl) same, List.map_id]

theorem answer_literal (count : Nat) (stop : Position) (paths : List Path) :
    answer text matched (paths.map (literal count stop).join) =
      answer text (matched + count) paths := by
  have same : ∀ path : Path,
    (((literal count stop).join path).result text).plusChars matched =
      id ((path.result text).plusChars (matched + count)) := by
    intro path
    simp only [MatchResult.plusChars, result, join, literal, List.nil_append, id_eq]
    congr 1
    omega
  rw [answer_map (matched + count) (literal count stop).join id (fun _ => rfl) same,
    Option.map_id, id_eq]

theorem answer_captured (capture : Capture) (stop : Position) (paths : List Path) :
    answer text 0 (paths.map (captured capture stop).join) =
      (answer text 0 paths).map (·.capture capture) :=
  answer_map 0 (captured capture stop).join (·.capture capture) (fun _ => rfl)
    (fun path => by simp [MatchResult.plusChars, MatchResult.capture, result,
      join, captured]) paths

theorem answer_choose (index : Nat) (paths : List Path) :
    answer text 0 (paths.map (choose index)) =
      (answer text 0 paths).map (·.choose index) :=
  answer_map 0 (choose index) (·.choose index) (fun _ => rfl) (fun _ => rfl) paths

theorem answer_flatMap {α : Type} (items : List α) (ways : α → List Path) :
    answer text matched (items.flatMap ways) =
      items.findSome? fun item => answer text matched (ways item) := by
  induction items with
  | nil => rfl
  | cons item items induction =>
      rw [List.flatMap_cons, answer_append, induction, List.findSome?_cons]
      cases answer text matched (ways item) <;> rfl

end Pattern.Path

/-! ## The walk from one place of a pattern on -/

theorem Cursor.advance_past_bar {cursor : Cursor} {start : Nat}
    {before part rest : Text}
    (here : cursor.advance (start + 1) = ⟨before, part ++ '|' :: rest⟩) :
    cursor.advance (start + part.length + 1 + 1) =
      ⟨'|' :: (part.reverse ++ before), rest⟩ := by
  have apart : part ++ '|' :: rest = (part ++ ['|']) ++ rest := by simp
  have moved := Cursor.advance_append before (part ++ ['|']) rest
  rw [← apart, ← here, Cursor.advance_advance] at moved
  have total : start + part.length + 1 + 1 =
      start + 1 + (part ++ ['|']).length := by
    simp only [List.length_append, List.length_singleton]
    omega
  rw [total, moved]
  simp

/-- The walk sees from the pattern whether an optional group absorbs the space
behind it. -/
theorem Cursor.absorbsSpace_eq (before rest behind : Text) :
    ((⟨before, rest⟩ : Cursor).absorbsSpace && behind.head? == some ' ') =
      Pattern.absorbsSpace before behind := by
  rw [Bool.eq_iff_iff]
  simp [Cursor.absorbsSpace, hasOnly, Pattern.absorbsSpace]

/-- What follows a sequence of items does not change what is absorbed in it. -/
theorem absorbsSpace_append {before part rest : Text}
    (noSpace : rest.head? ≠ some ' ') :
    Pattern.absorbsSpace before (part ++ rest) =
      Pattern.absorbsSpace before part := by
  cases part with
  | nil => simp [Pattern.absorbsSpace, noSpace]
  | cons char part => simp [Pattern.absorbsSpace]

section Walk

variable {m : Type → Type} [Searching m] {matcher : Matcher m} {text : Text}

/-- From the cursor on, the walk answers with the first of the ways that is
complete. -/
def Matcher.Answers (matcher : Matcher m) (text : Text) (cursor : Cursor)
    (ways : Position → List Path) : Prop :=
  ∀ fuel matched position, cursor.rest.length < fuel →
    matcher.walk text fuel matched cursor position =
      pure (Path.answer text matched (ways position))

namespace Matcher.Answers

variable {before rest : Text} {ways : Position → List Path}

/-- The fuel never runs out. -/
theorem of_succ {cursor : Cursor}
    (answers : ∀ fuel matched position, cursor.rest.length < fuel + 1 →
      matcher.walk text (fuel + 1) matched cursor position =
        pure (Path.answer text matched (ways position))) :
            matcher.Answers text cursor ways := by
  intro fuel matched position enough
  cases fuel with
  | zero => exact absurd enough (Nat.not_lt_zero _)
  | succ fuel => exact answers fuel matched position enough

theorem finished {pattern : Text} (noSlots : placeholderCount pattern = 0) :
    matcher.Answers text ⟨pattern.reverse, []⟩ fun position =>
      [.stay position] := by
  apply of_succ
  intro fuel matched position _
  rw [walk_finished, List.reverse_reverse, noSlots]
  cases complete : position.rest.isEmpty <;>
    simp [Path.answer, Path.isComplete, Path.stay, Path.result, MatchResult.unbound,
      MatchResult.plusChars, complete]

theorem closing {char : Char} (closes : char = ')' ∨ char = ']')
    (later : matcher.Answers text ⟨char :: before, rest⟩ ways) :
    matcher.Answers text ⟨before, char :: rest⟩ ways := by
  apply of_succ
  intro fuel matched position enough
  rw [walk_closing closes]
  exact later fuel matched position (Nat.lt_of_succ_lt_succ enough)

theorem space (later : matcher.Answers text ⟨' ' :: before, rest⟩ ways) :
    matcher.Answers text ⟨before, ' ' :: rest⟩ fun position =>
      Path.andThen (spacePaths position) ways := by
  apply of_succ
  intro fuel matched position enough
  have fewer : rest.length < fuel := Nat.lt_of_succ_lt_succ enough
  rw [walk_space]
  simp only [spacePaths]
  by_cases passes : position.rest = [] ∨ position.previous = some ' '
  · have taken : position.takeSpace = some (0, position) := by
      rcases passes with isEnd | isBehind
      · simp [Position.takeSpace, isEnd]
      · cases ahead : position.rest <;> simp [Position.takeSpace, ahead, isBehind]
    rw [if_pos passes, Path.andThen_stay]
    simp only [taken]
    exact later fuel matched position fewer
  · rw [if_neg passes]
    obtain ⟨notEnd, notBehind⟩ := not_or.mp passes
    cases ahead : position.rest with
    | nil => exact absurd ahead notEnd
    | cons char others =>
        by_cases isSpace : char = ' '
        · subst isSpace
          simp only [Position.takeSpace, ahead, if_neg notBehind, if_true,
            Path.andThen_singleton, Path.answer_literal]
          exact later fuel (matched + 1) _ fewer
        · simp [Position.takeSpace, ahead, notBehind, isSpace, Path.andThen_nil,
            Path.answer_nil]

theorem letter {cursor : Cursor} {char : Char} {length : Nat}
    (asks : Demand.ofText cursor.rest = .letter char length)
    (shorter : (cursor.advance length).rest.length < cursor.rest.length)
    (later : matcher.Answers text (cursor.advance length) ways) :
    matcher.Answers text cursor fun position =>
      Path.andThen (letterPaths char position) ways := by
  apply of_succ
  intro fuel matched position enough
  have fewer : (cursor.advance length).rest.length < fuel := by omega
  rw [Matcher.walk, asks]
  simp only [letterPaths, Position.takeLetter]
  cases position.rest with
  | nil => rfl
  | cons next rest =>
      by_cases same : Text.sameLetter char next
      · simp only [same, if_true, Path.andThen_singleton, Path.answer_literal]
        exact later fuel (matched + 1) _ fewer
      · simp [same, Path.andThen_nil, Path.answer_nil]

theorem bar {inside : Text} (nested : Nested true inside)
    (later : matcher.Answers text ⟨')' :: (inside.reverse ++ '|' :: before),
      rest⟩ ways) :
    matcher.Answers text ⟨before, '|' :: (inside ++ ')' :: rest)⟩ ways := by
  apply of_succ
  intro fuel matched position enough
  have closed := nested.closingOffset_eq .round rest
  simp only [List.length_cons, List.length_append] at enough
  rw [Matcher.walk]
  simp only [Demand.ofText_bar, closed]
  rw [Cursor.advance_enclosed]
  have fewer : rest.length < fuel := by omega
  exact later fuel matched position fewer

variable [LawfulMonad m]

/-- The way to take a cut of the input by a regular expression slot, if it
matches. -/
theorem tryCapture_answers {fuel : Nat} {program : RegexProgram} {cursor : Cursor}
    (enough : cursor.rest.length < fuel) (later : matcher.Answers text cursor ways)
    (position : Position) (cut : Cut) :
    tryCapture program (fun cut =>
      matcher.walk text fuel 0 cursor (position.after cut)) cut =
      pure (Path.answer text 0
        (Path.andThen (regexPath program position cut).toList ways)) := by
  rw [tryCapture, later fuel 0 (position.after cut) enough, pure_bind]
  cases matches_ : program.fullMatch? cut.taken with
  | none =>
      have noWay : regexPath program position cut = none := by
        simp [regexPath, matches_]
      rw [noWay]
      cases Path.answer text 0 (ways (position.after cut)) <;> rfl
  | some captured =>
      have way : regexPath program position cut =
          some (.captured ⟨cut.taken, captured⟩ (position.after cut)) := by
        simp [regexPath, matches_]
      rw [way, Option.toList_some, Path.andThen_singleton, Path.answer_captured]
      simp only [Path.captured]
      cases Path.answer text 0 (ways (position.after cut)) <;> rfl

theorem regex {body : Text} {program : RegexProgram} (noEnd : '>' ∉ body)
    (slot : Slot matcher.registry.regexes body program)
    (later : matcher.Answers text ⟨'>' :: (body.reverse ++ '<' :: before),
      rest⟩ ways) :
    matcher.Answers text ⟨before, '<' :: (body ++ '>' :: rest)⟩ fun position =>
      Path.andThen (regexPaths program position) ways := by
  apply of_succ
  intro fuel matched position enough
  simp only [List.length_cons, List.length_append] at enough
  have fewer : rest.length < fuel := by omega
  rw [walk_regex noEnd slot.compiles, Searching.firstSome_pure fun cut =>
    tryCapture_answers fewer later position cut]
  rw [pure_bind, ← Path.answer_flatMap, Path.answer_plusChars, regexPaths,
    Path.andThen_filterMap]

theorem optional {inside : Text} {content : Position → List Path}
    (nested : Nested false inside)
    (inner : matcher.Answers text ⟨'[' :: before, inside ++ ']' :: rest⟩ content)
    (later : matcher.Answers text
      ((⟨']' :: (inside.reverse ++ '[' :: before), rest⟩ : Cursor).advance
        (if absorbsSpace before rest then 1 else 0)) ways) :
    matcher.Answers text ⟨before, '[' :: (inside ++ ']' :: rest)⟩ fun position =>
      content position ++ ways position := by
  apply of_succ
  intro fuel matched position enough
  have closed := nested.closingOffset_eq .square rest
  have behind : (inside ++ ']' :: rest).drop (inside.length + 1) = rest := by simp
  have skipped : (⟨before, '[' :: (inside ++ ']' :: rest)⟩ : Cursor).advance
      (if absorbsSpace before rest then inside.length + 3 else inside.length + 2) =
      (⟨']' :: (inside.reverse ++ '[' :: before), rest⟩ : Cursor).advance
        (if absorbsSpace before rest then 1 else 0) := by
    rw [← Cursor.advance_enclosed, Cursor.advance_advance]
    congr 1
    cases absorbsSpace before rest <;> rfl
  have first : (Path.answer text 0 (content position)).map (·.plusChars matched) =
      Path.answer text matched (content position) := Path.answer_plusChars _
  simp only [List.length_cons, List.length_append] at enough
  rw [Matcher.walk]
  simp only [Demand.ofText_optional, closed, behind, Cursor.absorbsSpace_eq]
  rw [Cursor.advance_one, inner fuel 0 position (by simp; omega), pure_bind,
    Path.answer_append, ← first, skipped]
  cases Path.answer text 0 (content position) with
  | some result => rfl
  | none =>
      have fewer :
        ((⟨']' :: (inside.reverse ++ '[' :: before), rest⟩ : Cursor).advance
          (if absorbsSpace before rest then 1 else 0)).rest.length < fuel := by
        simp only [Cursor.advance, List.length_drop]
        omega
      exact later fuel matched position fewer

theorem tryAlternative_answers {cursor : Cursor} {fuel start : Nat}
    (index : Nat) (enough : (cursor.advance 1).rest.length < fuel)
    (inner : matcher.Answers text (cursor.advance (start + 1)) ways)
    (position : Position) :
    matcher.tryAlternative text fuel cursor position (start, index) =
      pure (Path.answer text 0 ((ways position).map (Path.choose index))) := by
  have fewer : (cursor.advance (start + 1)).rest.length < fuel := by
    simp only [Cursor.advance, List.length_drop] at enough ⊢
    omega
  rw [Matcher.tryAlternative, inner fuel 0 position fewer, pure_bind,
    Path.answer_choose]

theorem choice {inside : Text} {content : Position → List Path}
    (nested : Nested true inside)
    (tried : ∀ fuel position, (inside ++ ')' :: rest).length < fuel →
      Searching.firstSome
        (matcher.tryAlternative text fuel ⟨before,
          '(' :: (inside ++ ')' :: rest)⟩ position)
        (alternativeStarts inside).zipIdx =
          pure (Path.answer text 0 (content position))) :
    matcher.Answers text ⟨before, '(' :: (inside ++ ')' :: rest)⟩ content := by
  apply of_succ
  intro fuel matched position enough
  have closed := nested.closingOffset_eq .round rest
  have found := tried fuel position (Nat.lt_of_succ_lt_succ enough)
  rw [walk_choice closed, List.take_left, found, pure_bind, Path.answer_plusChars]

end Matcher.Answers

end Walk

end Phrasebook
