import Phrasebook.Proofs.Pattern.Answering
import Phrasebook.Proofs.Pattern.Regular
import Phrasebook.Proofs.Search.Laws

/-!
# Matching decides the grammar

The walk along a pattern knows no items.  It finds the ends of groups by
scanning, passes over closing brackets, and jumps from bars behind their groups.
Still it answers with the first path through the items of the pattern that takes
the whole input.
-/

namespace Phrasebook

open Pattern

section Walk

variable {m : Type → Type} [Searching m] [LawfulMonad m] {matcher : Matcher m}
  {text : Text}

mutual

/-- If the ways behind a sequence of items are known, those from its start are
the paths through the items followed by them. -/
theorem Pattern.Sequence.answers {before part rest : Text} {items : Items}
    {ways : Position → List Path}
    (reading : Sequence matcher.registry.regexes before part items)
    (noSpace : rest.head? ≠ some ' ')
    (later : matcher.Answers text ⟨part.reverse ++ before, rest⟩ ways) :
    matcher.Answers text ⟨before, part ++ rest⟩ fun position =>
      Path.andThen (items.paths position) ways := by
  cases reading with
  | done =>
      simp only [Items.paths, Path.andThen_stay]
      exact later
  | @letter _ part char items noMark sequence =>
      have behind : matcher.Answers text ⟨part.reverse ++ char :: before,
          rest⟩ ways := by
        simpa using later
      simp only [Items.paths, Path.andThen_assoc]
      exact .letter (Demand.ofText_letter noMark _) (Nat.lt_succ_self _)
        (sequence.answers noSpace behind)
  | @escaped _ part char items sequence =>
      have behind : matcher.Answers text
          ⟨part.reverse ++ char :: '\\' :: before, rest⟩ ways := by
        simpa using later
      simp only [Items.paths, Path.andThen_assoc]
      refine .letter (Demand.ofText_escaped char _) ?_
        (sequence.answers noSpace behind)
      change (part ++ rest).length < (part ++ rest).length + 2
      omega
  | @space _ part items sequence =>
      have behind : matcher.Answers text ⟨part.reverse ++ ' ' :: before,
          rest⟩ ways := by
        simpa using later
      simp only [Items.paths, Path.andThen_assoc]
      exact .space (sequence.answers noSpace behind)
  | @regex _ body part program items noEnd slot sequence =>
      have behind : matcher.Answers text
          ⟨part.reverse ++ '>' :: (body.reverse ++ '<' :: before), rest⟩ ways := by
        simpa using later
      simp only [Items.paths, Path.andThen_assoc, List.cons_append,
        List.append_assoc]
      exact .regex noEnd slot (sequence.answers noSpace behind)
  | @choice _ inside part alternatives items reading sequence =>
      have behind : matcher.Answers text
          ⟨part.reverse ++ ')' :: (inside.reverse ++ '(' :: before),
            rest⟩ ways := by
        simpa using later
      simp only [Items.paths, Path.andThen_assoc, List.cons_append,
        List.append_assoc]
      apply Matcher.Answers.choice reading.nested
      intro fuel position enough
      exact reading.tried (sequence.answers noSpace behind)
        (Cursor.advance_one _ _ _) enough 0
        position
  | @optional _ inside part content items reading sequence =>
      have behind : matcher.Answers text
          ⟨part.reverse ++ ']' :: (inside.reverse ++ '[' :: before),
            rest⟩ ways := by
        simpa using later
      have outside := sequence.answers noSpace behind
      have inner := reading.answers (by simp) (.closing (.inr rfl) outside)
      have seen : absorbsSpace before (part ++ rest) = absorbsSpace before part :=
        absorbsSpace_append noSpace
      simp only [List.cons_append, List.append_assoc]
      cases absorbs : absorbsSpace before part with
      | false =>
          simp only [Items.paths, Path.andThen_append, Path.andThen_assoc]
          apply Matcher.Answers.optional reading.nested inner
          rw [seen, absorbs]
          exact outside
      | true =>
          obtain ⟨_, spaced⟩ := Bool.and_eq_true_iff.mp absorbs
          obtain ⟨later, rfl⟩ := List.head?_eq_some_iff.mp (beq_iff_eq.mp spaced)
          cases sequence with
          | letter noMark _ => exact absurd (by decide) noMark
          | space sequence =>
              have skipped := sequence.answers noSpace (by simpa using behind)
              simp only [Items.paths, Path.andThen_append, Path.andThen_assoc]
                at inner ⊢
              apply Matcher.Answers.optional reading.nested inner
              rw [seen, absorbs]
              exact skipped

/-- The alternatives of a choice that start at an offset are tried one after the
other. -/
theorem Pattern.Choice.tried {before inside rest : Text}
    {alternatives : Alternatives} {ways : Position → List Path}
    (reading : Choice matcher.registry.regexes before inside alternatives)
    (later : matcher.Answers text ⟨')' :: (inside.reverse ++ before), rest⟩ ways)
    {cursor : Cursor} {start fuel : Nat}
    (here : cursor.advance (start + 1) = ⟨before, inside ++ ')' :: rest⟩)
    (enough : (cursor.advance 1).rest.length < fuel) (index : Nat)
    (position : Position) :
    Searching.firstSome (matcher.tryAlternative text fuel cursor position)
        ((start :: barOffsets 0 start inside).zipIdx index) =
      pure (Path.answer text 0
          (Path.andThen (alternatives.paths index position) ways)) := by
  cases reading with
  | @last _ _ content sequence =>
      have inner := sequence.answers (by simp) (.closing (.inl rfl) later)
      rw [← here] at inner
      have tried := Matcher.Answers.tryAlternative_answers index enough
        inner position
      have exhausted : Searching.firstSome
          (matcher.tryAlternative text fuel cursor position) [] = pure none := rfl
      rw [sequence.nested.barOffsets_nil, List.zipIdx_cons, List.zipIdx_nil,
        Searching.firstSome_cons tried exhausted, Option.or_none]
      simp only [Alternatives.paths, List.append_nil, Path.andThen_choose]
  | @more _ part following content others sequence choice =>
      have split : (part ++ '|' :: following) ++ ')' :: rest =
          part ++ '|' :: (following ++ ')' :: rest) := by simp
      have behind : matcher.Answers text
          ⟨')' :: (following.reverse ++ '|' :: (part.reverse ++ before)),
            rest⟩ ways := by
        simpa using later
      have inner := sequence.answers (by simp) (.bar choice.nested behind)
      rw [split] at here
      rw [← here] at inner
      have tried := Matcher.Answers.tryAlternative_answers index enough
        inner position
      have next := Cursor.advance_past_bar here
      have triedLater := choice.tried behind next enough (index + 1) position
      rw [sequence.nested.barOffsets_bar, List.zipIdx_cons,
        Searching.firstSome_cons tried triedLater]
      simp only [Alternatives.paths, Path.andThen_append, Path.andThen_choose,
        Path.answer_append]

end

/-- A pattern that reads as a sequence of items is matched as its items tell. -/
theorem Pattern.Sequence.run_eq {pattern : Text} {items : Items}
    (matcher : Matcher m)
    (reading : Sequence matcher.registry.regexes [] pattern items)
    (text : Text) :
    matcher.run pattern text =
      pure (((items.paths (.start text)).find? Path.isComplete).map
          (Path.result text)) := by
  have atEnd : matcher.Answers text ⟨pattern.reverse ++ [], []⟩
      fun position => [.stay position] := by
    rw [List.append_nil]
    exact .finished reading.placeholderCount_eq
  have fromStart := reading.answers (by simp) atEnd
  rw [List.append_nil] at fromStart
  have decided :=
    fromStart (pattern.length + 1) 0 (.start text) (Nat.lt_succ_self _)
  simp only [Path.andThen_nothing] at decided
  exact decided

/-- Matching decides the grammar of regular patterns, whatever the engine for
regular expressions is.  Such a pattern reads as a sequence of items, and a text
matches it if some path through the items takes all of the text.  What the match
has bound is what the most preferred of these paths has. -/
theorem Matcher.run_decides (matcher : Matcher m) {pattern : Text}
    (regular : Regular matcher.registry.regexes [] pattern) :
    (∃ items, Sequence matcher.registry.regexes [] pattern items) ∧
      ∀ items, Sequence matcher.registry.regexes [] pattern items →
        ∀ text, matcher.run pattern text =
          pure (((items.paths (.start text)).find? Path.isComplete).map
              (Path.result text)) := by
  constructor
  · exact regular.sequence
  · intro items reading text
    exact reading.run_eq matcher text

end Walk

/-- The optional number takes the space behind it along when it is left out. -/
theorem Matcher.decides_numbers :
    let matcher : Matcher Tracked := ⟨.empty, .script, 5, fun _ _ => pure none⟩
    let pattern : Text := "[<1>] (<2>|<3>)"
    Regular matcher.registry.regexes [] pattern ∧
      matcher.run pattern "1 3" =
        pure (some ⟨"1 3", [], [⟨"1", []⟩, ⟨"3", []⟩], [1], 1⟩) ∧
      matcher.run pattern "3" = pure (some ⟨"3", [], [⟨"3", []⟩], [1], 0⟩) ∧
      matcher.run pattern " 3" = pure none := by
  intro matcher pattern
  let program : Char → RegexProgram := fun digit =>
    ⟨(Regex.test (.exactly digit)).fullMatch? 0⟩
  have slot : ∀ digit ∈ ['1', '2', '3'],
      Slot .standard [digit] (program digit) := by
    intro digit member
    simp only [List.mem_cons, List.not_mem_nil, or_false] at member
    rcases member with rfl | rfl | rfl <;>
      exact ⟨rfl, by decide, .plain (by decide) .nil⟩
  have split : tokensFrom .plain pattern =
      [.char '[', .regex "1", .char ']', .char ' ', .char '(', .regex "2",
        .char '|', .regex "3", .char ')'] := by decide
  have regular : Regular .standard [] pattern := by
    refine ⟨by decide, ?_, ?_, ?_⟩
    · rw [split]
      simp
    · rw [split]
      simp [BarsInChoices, owedBehind]
    · rw [split]
      intro body member
      simp only [List.mem_cons, Token.regex.injEq, List.not_mem_nil,
        reduceCtorEq, or_false, false_or] at member
      rcases member with rfl | rfl | rfl
      · exact ⟨_, slot '1' (by decide)⟩
      · exact ⟨_, slot '2' (by decide)⟩
      · exact ⟨_, slot '3' (by decide)⟩
  have first : Sequence .standard "[" "<1>" (.regex (program '1') .done) :=
    @Sequence.regex _ "[" "1" [] _ _ (by decide) (slot '1' (by decide)) .done
  have second : Sequence .standard "( ]>1<[" "<2>" (.regex (program '2') .done) :=
    @Sequence.regex _ "( ]>1<[" "2" [] _ _ (by decide) (slot '2' (by decide)) .done
  have third : Sequence .standard "|>2<( ]>1<[" "<3>"
      (.regex (program '3') .done) :=
    @Sequence.regex _ "|>2<( ]>1<[" "3" [] _ _ (by decide)
      (slot '3' (by decide)) .done
  have choice : Sequence .standard " ]>1<[" "(<2>|<3>)" _ :=
    @Sequence.choice _ " ]>1<[" "<2>|<3>" [] _ _ (.more second (.last third)) .done
  have decided :=
    (matcher.run_decides regular).2 _ (.optional first (.space choice))
  exact ⟨regular, (decided "1 3").trans rfl, (decided "3").trans rfl,
    (decided " 3").trans rfl⟩

end Phrasebook
