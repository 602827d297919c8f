import Phrasebook.Proofs.Builtins
import Phrasebook.Proofs.Pattern.Derivation
import Phrasebook.Proofs.Pattern.Orderly
import Phrasebook.Proofs.Pattern.Stepping
import Phrasebook.Proofs.Search.Laws

/-!
# A slot on its own

A pattern may consist of a regular expression slot only, or of a choice with
nothing but that slot inside.  The check takes the slot as a whole in both.  The
match looks for the end and the alternatives of the choice inside of the slot as
well, so that both patterns agree as long as it comes upon no others there.
-/

namespace Phrasebook

open Pattern

namespace Pattern

/-- The pattern that is a slot for the regular expression. -/
def lone (body : Text) : Text :=
  '<' :: (body ++ ['>'])

def grouped (inside : Text) : Text :=
  '(' :: (inside ++ [')'])

/-- Where the alternatives of such a choice start that the match finds, if it
finds the end of the choice. -/
def groupedStarts (inside : Text) : Option (List Nat) :=
  (closingOffset ')' '(' 0 (inside ++ [')'])).map fun offset =>
    alternativeStarts ((inside ++ [')']).take offset)

variable {body : Text}

theorem derives_lone (noEnd : '>' ∉ body) : Derives false (lone body) :=
  .slot noEnd .nil

theorem derives_grouped (noEnd : '>' ∉ body) :
    Derives false (grouped (lone body)) :=
  .choice (.slot noEnd .nil) .nil

/-- If brackets and bars stand in the regular expression as in a pattern, the
match finds no alternative besides the slot. -/
theorem groupedStarts_lone (nested : Nested false body) :
    groupedStarts (lone body) = some [0] := by
  have inside : Nested false (lone body) :=
    .plain (by decide) (nested.append (.plain (by decide) .nil))
  rw [groupedStarts, inside.closingOffset_eq .round, Option.map_some,
    List.take_left, alternativeStarts, inside.barOffsets_nil]

theorem placeholderCount_grouped (inside : Text) :
    placeholderCount (grouped inside) = placeholderCount inside := by
  rw [placeholderCount, grouped, percentCount_cons (by decide),
    percentCount_closed (by decide) (by decide), if_neg (by decide), Nat.zero_add]
  rfl

end Pattern

private theorem Cut.nonempty_last {text : Text} (present : text ≠ []) :
    ∃ front, (∀ cut ∈ front, cut.rest ≠ []) ∧
    nonempty text = front ++ [⟨text, []⟩] := by
  obtain ⟨count, length⟩ :=
    Nat.exists_eq_succ_of_ne_zero (mt List.length_eq_zero_iff.mp present)
  refine ⟨(List.range count).map fun index =>
    ⟨text.take (index + 1), text.drop (index + 1)⟩, ?_, ?_⟩
  · intro cut member
    obtain ⟨index, inRange, rfl⟩ := List.mem_map.mp member
    have early := List.mem_range.mp inRange
    simp only [ne_eq, List.drop_eq_nil_iff, Nat.not_le]
    omega
  · have whole : text.take (count + 1) = text := List.take_of_length_le (by omega)
    have none : text.drop (count + 1) = [] := List.drop_of_length_le (by omega)
    rw [nonempty, length, List.range_succ, List.map_append, List.map_singleton,
      whole, none]

/-- The result of taking the whole text by the only slot of a pattern, as its
only capture. -/
def MatchResult.ofWhole (program : RegexProgram) (slots : Nat) (text : Text) :
    Option MatchResult :=
  if text = [] then none
  else
    (program.fullMatch? text).map fun captured =>
      (MatchResult.unbound text slots 0).capture ⟨text, captured⟩

theorem MatchResult.choices_ofWhole {program : RegexProgram} {slots : Nat}
    {text : Text} {result : MatchResult}
    (found : ofWhole program slots text = some result) :
    result.choices = [] := by
  rw [ofWhole] at found
  split at found
  · cases found
  · obtain ⟨captured, _, rfl⟩ := Option.map_eq_some_iff.mp found
    rfl

namespace Matcher

variable {m : Type → Type} [Searching m] [LawfulMonad m] {body text : Text}
  {program : RegexProgram}

private theorem firstSome_captures {slots : Nat}
    {remainder : Cut → m (Option MatchResult)}
    (ends : ∀ cut : Cut, remainder cut =
      pure (if cut.rest.isEmpty then some (.unbound text slots 0) else none)) :
    Searching.firstSome (tryCapture program remainder) (Cut.nonempty text) =
      pure (MatchResult.ofWhole program slots text) := by
  by_cases present : text = []
  · subst present
    rfl
  · obtain ⟨front, goOn, split⟩ := Cut.nonempty_last present
    have passed : ∀ cut ∈ front, tryCapture program remainder cut = pure none := by
      intro cut member
      rw [tryCapture, ends, if_neg (by simpa using goOn cut member), pure_bind]
    have atEnd : remainder ⟨text, []⟩ = pure (some (.unbound text slots 0)) :=
      ends ⟨text, []⟩
    have last : tryCapture program remainder ⟨text, []⟩ =
        pure (MatchResult.ofWhole program slots text) := by
      rw [tryCapture, atEnd, pure_bind, MatchResult.ofWhole, if_neg present]
    rw [split, Searching.firstSome_behind passed,
      Searching.firstSome_singleton, last]

theorem walk_lone (matcher : Matcher m) {fuel slots : Nat} {before rest : Text}
    (noEnd : '>' ∉ body)
    (compiles : matcher.registry.regexes.compile body = .ok program)
    (ends : ∀ position,
      matcher.walk text fuel 0 ⟨'>' :: (body.reverse ++ '<' :: before), rest⟩
      position = pure (if position.rest.isEmpty then
        some (.unbound text slots 0) else none)) :
    matcher.walk text (fuel + 1) 0 ⟨before, '<' :: (body ++ '>' :: rest)⟩
      (.start text) =
      pure (MatchResult.ofWhole program slots text) := by
  rw [walk_regex noEnd compiles]
  simp only [map_plusChars_zero, bind_pure]
  exact firstSome_captures fun cut => ends ((Position.start text).after cut)

theorem run_lone (matcher : Matcher m) (noEnd : '>' ∉ body)
    (compiles : matcher.registry.regexes.compile body = .ok program) (text : Text) :
    matcher.run (lone body) text =
      pure (MatchResult.ofWhole program (placeholderCount (lone body)) text) := by
  have pattern : ('>' :: (body.reverse ++ ['<'])).reverse = lone body := by
    simp [lone]
  apply walk_lone matcher noEnd compiles
  intro position
  have fuel : (lone body).length = body.length + 2 := by simp [lone]
  rw [fuel, walk_finished, pattern]

/-- The first alternative that is tried is the slot itself, whatever is found
inside of it. -/
theorem tryAlternative_lone (matcher : Matcher m) (noEnd : '>' ∉ body)
    (compiles : matcher.registry.regexes.compile body = .ok program) (text : Text) :
    matcher.tryAlternative text (grouped (lone body)).length
      (.start (grouped (lone body)))
        (.start text) (0, 0) =
      pure ((MatchResult.ofWhole program (placeholderCount (lone body)) text).map
        (·.choose 0)) := by
  have opened : (Cursor.start (grouped (lone body))).advance (0 + 1) =
      ⟨['('], '<' :: (body ++ '>' :: [')'])⟩ := by
    simp [Cursor.start, Cursor.advance, grouped, lone]
  have fuel : (grouped (lone body)).length = body.length + 4 := by
    simp [grouped, lone]
  have pattern : (')' :: '>' :: (body.reverse ++ ['<', '('])).reverse =
      grouped (lone body) := by
    simp [grouped, lone]
  have ends : ∀ position, matcher.walk text (body.length + 3) 0
      ⟨'>' :: (body.reverse ++ '<' :: ['(']), [')']⟩ position =
      pure (if position.rest.isEmpty then
          some (.unbound text (placeholderCount (lone body)) 0)
        else none) := by
    intro position
    rw [walk_closing (.inl rfl), walk_finished, pattern, placeholderCount_grouped]
  rw [tryAlternative, opened, fuel, walk_lone matcher noEnd compiles ends,
    pure_bind]

omit [LawfulMonad m] in
theorem run_grouped_open (matcher : Matcher m) (inside : Text)
    (unfound : groupedStarts inside = none) (text : Text) :
    matcher.run (grouped inside) text =
      Searching.fail
        (.malformedPattern (grouped inside) (.missingClosing ')')) := by
  have unclosed := Option.map_eq_none_iff.mp unfound
  rw [run, Cursor.start, grouped, Matcher.walk]
  simp only [Demand.ofText_choice, unclosed]
  rfl

private theorem run_grouped (matcher : Matcher m) (inside : Text)
    {starts : List Nat} (found : groupedStarts inside = some starts)
    (text : Text) :
    ∃ others, starts = 0 :: others ∧
      matcher.run (grouped inside) text =
        Searching.firstSome (matcher.tryAlternative text (grouped inside).length
          (.start (grouped inside)) (.start text)) ((0, 0) :: others.zipIdx 1) := by
  obtain ⟨offset, closed, rfl⟩ := Option.map_eq_some_iff.mp found
  refine ⟨_, rfl, ?_⟩
  rw [run, Cursor.start, grouped, walk_choice closed]
  simp only [map_plusChars_zero, bind_pure]
  rfl

private theorem run_grouped_of_found (matcher : Matcher m) (noEnd : '>' ∉ body)
    (compiles : matcher.registry.regexes.compile body = .ok program)
    (text : Text) {starts : List Nat}
    (found : groupedStarts (lone body) = some starts)
    (alone : (MatchResult.ofWhole program (placeholderCount (lone body))
      text).isSome ∨
      starts = [0]) :
    matcher.run (grouped (lone body)) text =
      pure ((MatchResult.ofWhole program (placeholderCount (lone body)) text).map
        (·.choose 0)) := by
  have first := tryAlternative_lone matcher noEnd compiles text
  obtain ⟨others, rfl, tried⟩ := run_grouped matcher (lone body) found text
  rw [tried]
  rcases alone with isSome | single
  · obtain ⟨result, isResult⟩ := Option.isSome_iff_exists.mp isSome
    rw [isResult] at first ⊢
    exact Searching.firstSome_found first _
  · cases single
    exact (Searching.firstSome_singleton _).trans first

/-- A slot matches as a pattern and as the only alternative of a choice alike,
but for the choice itself, if it matches or if there is no other alternative for
the match to find. -/
theorem run_grouped_lone (matcher : Matcher m) (noEnd : '>' ∉ body)
    (compiles : matcher.registry.regexes.compile body = .ok program) (text : Text) :
    validate (lone body) = .ok () ∧ validate (grouped (lone body)) = .ok () ∧
      ∃ answer, matcher.run (lone body) text = pure answer ∧
        (∀ result ∈ answer, result.choices = []) ∧
        (groupedStarts (lone body) = none → matcher.run (grouped (lone body)) text =
          Searching.fail
            (.malformedPattern (grouped (lone body)) (.missingClosing ')'))) ∧
        (∀ starts, groupedStarts (lone body) = some starts → answer.isSome ∨
          starts = [0] →
          matcher.run (grouped (lone body)) text = pure (answer.map (·.choose 0))) ∧
        (Nested false body →
          matcher.run (grouped (lone body)) text =
            pure (answer.map (·.choose 0))) := by
  refine ⟨(derives_lone noEnd).validate_eq, (derives_grouped noEnd).validate_eq, _,
    run_lone matcher noEnd compiles text, fun _ => MatchResult.choices_ofWhole,
    fun unfound => run_grouped_open matcher (lone body) unfound text, ?_, ?_⟩
  · intro starts found alone
    exact run_grouped_of_found matcher noEnd compiles text found alone
  · intro nested
    exact run_grouped_of_found matcher noEnd compiles text
      (groupedStarts_lone nested) (.inr rfl)

theorem run_grouped_lone_enclosed :
    let body : Text := "a(b|c)?"
    let matcher := (⟨.builtins, .script, true, 5⟩ : Attempt).tracked
    ∃ program, '>' ∉ body ∧ matcher.registry.regexes.compile body = .ok program ∧
      ∃ answer, matcher.run (lone body) "ac" = pure answer ∧
        matcher.run (grouped (lone body)) "ac" =
          pure (answer.map (·.choose 0)) := by
  intro body matcher
  have enclosed : Nested true "b|c" :=
    .plain (by decide) (.bar (.plain (by decide) .nil))
  have nested : Nested false body :=
    .plain (by decide) (.enclosed .round enclosed (.plain (by decide) .nil))
  have noEnd : '>' ∉ body := by decide
  have compiles : ∃ program, matcher.registry.regexes.compile body =
      .ok program := ⟨_, rfl⟩
  obtain ⟨program, compiles⟩ := compiles
  obtain ⟨_, _, answer, alone, _, _, _, within⟩ :=
    run_grouped_lone matcher noEnd compiles "ac"
  exact ⟨program, noEnd, compiles, answer, alone, within nested⟩

/-- A bar of the regular expression passes for one of the choice: what stands
behind it is taken as a second alternative, the end of the slot included. -/
theorem run_grouped_lone_split :
    let body : Text := "a|b"
    let matcher := (⟨.builtins, .script, true, 5⟩ : Attempt).tracked
    '>' ∉ body ∧ (∃ program, matcher.registry.regexes.compile body = .ok program) ∧
      validate (lone body) = .ok () ∧ validate (grouped (lone body)) = .ok () ∧
      (matcher.run (lone body) "b>" ⟨.empty, .empty⟩).1 = .ok none ∧
      (matcher.run (grouped (lone body)) "b>" ⟨.empty, .empty⟩).1 =
        .ok (some ⟨"b>", [], [], [1], 2⟩) :=
  ⟨by decide, ⟨_, rfl⟩, rfl, rfl, rfl, rfl⟩

end Matcher

end Phrasebook
