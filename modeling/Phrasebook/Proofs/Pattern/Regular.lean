import Phrasebook.Proofs.Pattern.Grammar
import Phrasebook.Proofs.Pattern.Lexing

/-!
# Regular patterns

A valid pattern without placeholders, whose bars are at home in parentheses and
whose regular expression slots compile, is a sequence of items.
-/

namespace Phrasebook.Pattern

def BarsInChoices : List Char → List Token → Prop
  | _, [] => True
  | owed, token :: tokens =>
      (token = .char '|' → owed.head? = some ')') ∧
      BarsInChoices (owedBehind owed token) tokens

/-- The rest of a pattern, with the closing brackets that are owed: it is valid,
has no placeholders, has its bars directly inside of parentheses, and the engine
compiles its regular expression slots.  A whole pattern owes nothing. -/
structure Regular (engine : RegexEngine) (owed : List Char) (rest : Text) :
    Prop where
  valid : faultFrom (.plain owed) rest = none
  noPlaceholder : ∀ written, .placeholder written ∉ tokensFrom .plain rest
  barsInChoices : BarsInChoices owed (tokensFrom .plain rest)
  slots : ∀ body, .regex body ∈ tokensFrom .plain rest → ∃ program,
    Slot engine body program

/-! ## Reading regular patterns -/

/-- What stands between brackets reads as they ask for. -/
def ReadsInside (engine : RegexEngine) (closing : Char) (before inside : Text) :
    Prop :=
  (closing = ')' ∧ ∃ alternatives, Choice engine before inside alternatives) ∨
    (closing = ']' ∧ ∃ content, Sequence engine before inside content)

/-- The rest of a pattern reads as items, group by group up to the closing
brackets that are owed. -/
def Readable (engine : RegexEngine) : List Char → Text → Text → Prop
  | [], before, rest => ∃ items, Sequence engine before rest items
  | closing :: outer, before, rest =>
      ∃ inside later, rest = inside ++ closing :: later ∧
        ReadsInside engine closing before inside ∧
        Readable engine outer (closing :: (inside.reverse ++ before)) later

/-- A piece may stand in front of all sequences that read behind it. -/
def Extends (engine : RegexEngine) (before piece : Text) : Prop :=
  ∀ text items, Sequence engine (piece.reverse ++ before) text items →
    ∃ more, Sequence engine before (piece ++ text) more

variable {engine : RegexEngine}

namespace ReadsInside

variable {closing opening : Char} {before inside : Text}

private theorem prepend {piece : Text} (extension : Extends engine before piece)
    (reads : ReadsInside engine closing (piece.reverse ++ before) inside) :
    ReadsInside engine closing before (piece ++ inside) := by
  rcases reads with ⟨isClosing, alternatives, choice⟩
    | ⟨isClosing, content, sequence⟩
  · left
    refine ⟨isClosing, ?_⟩
    cases choice with
    | last content =>
        obtain ⟨more, content⟩ := extension _ _ content
        exact ⟨_, .last content⟩
    | @more _ text later _ others content choice =>
        obtain ⟨more, content⟩ := extension _ _ content
        have behind : Choice engine ('|' :: ((piece ++ text).reverse ++ before))
            later others := by
          simpa using choice
        rw [← List.append_assoc]
        exact ⟨_, .more content behind⟩
  · right
    obtain ⟨more, content⟩ := extension _ _ sequence
    exact ⟨isClosing, more, content⟩

private theorem enclosed (pair : IsPair closing opening)
    (reads : ReadsInside engine closing (opening :: before) inside)
    {text : Text} {items : Items}
    (sequence : Sequence engine
      (closing :: (inside.reverse ++ opening :: before)) text items) :
    ∃ more, Sequence engine before (opening :: (inside ++ closing :: text))
      more := by
  rcases pair with ⟨rfl, rfl⟩ | ⟨rfl, rfl⟩
  · rcases reads with ⟨_, alternatives, choice⟩ | ⟨other, _⟩
    · exact ⟨_, .choice choice sequence⟩
    · cases other
  · rcases reads with ⟨other, _⟩ | ⟨_, content, inner⟩
    · cases other
    · exact ⟨_, .optional inner sequence⟩

end ReadsInside

namespace Readable

variable {owed : List Char} {before rest : Text}

theorem prepend (piece : Text) (extension : Extends engine before piece)
    (readable : Readable engine owed (piece.reverse ++ before) rest) :
    Readable engine owed before (piece ++ rest) := by
  cases owed with
  | nil =>
      obtain ⟨items, sequence⟩ := readable
      exact extension _ _ sequence
  | cons closing outer =>
      obtain ⟨inside, later, rfl, reads, behind⟩ := readable
      refine ⟨piece ++ inside, later, by simp, reads.prepend extension, ?_⟩
      simpa using behind

theorem opening {closing opening : Char} (pair : IsPair closing opening)
    (readable : Readable engine (closing :: owed) (opening :: before) rest) :
    Readable engine owed before (opening :: rest) := by
  obtain ⟨inside, later, rfl, reads, behind⟩ := readable
  rw [cons_append_cons]
  refine prepend (opening :: (inside ++ [closing])) ?_ (by simpa using behind)
  intro text items sequence
  rw [← cons_append_cons]
  exact reads.enclosed pair (by simpa using sequence)

theorem closing {closing opening : Char} (pair : IsPair closing opening)
    (readable : Readable engine owed (closing :: before) rest) :
    Readable engine (closing :: owed) before (closing :: rest) := by
  refine ⟨[], rest, rfl, ?_, readable⟩
  rcases pair with ⟨rfl, rfl⟩ | ⟨rfl, rfl⟩
  · exact .inl ⟨rfl, _, .last .done⟩
  · exact .inr ⟨rfl, _, .done⟩

theorem bar (readable : Readable engine (')' :: owed) ('|' :: before) rest) :
    Readable engine (')' :: owed) before ('|' :: rest) := by
  obtain ⟨inside, later, rfl, reads, behind⟩ := readable
  refine ⟨'|' :: inside, later, rfl, ?_, by simpa using behind⟩
  rcases reads with ⟨_, alternatives, choice⟩ | ⟨other, _⟩
  · exact .inl ⟨rfl, _, .more .done choice⟩
  · cases other

theorem slot {body : Text} (noEnd : '>' ∉ body) {program : RegexProgram}
    (slot : Slot engine body program)
    (readable : Readable engine owed ('>' :: (body.reverse ++ '<' :: before))
      rest) :
    Readable engine owed before ('<' :: (body ++ '>' :: rest)) := by
  rw [cons_append_cons]
  refine prepend ('<' :: (body ++ ['>'])) ?_ (by simpa using readable)
  intro text items sequence
  rw [← cons_append_cons]
  exact ⟨_, .regex noEnd slot (by simpa using sequence)⟩

end Readable

/-- What makes a pattern with these tokens regular, if it is valid. -/
structure PlainTokens (engine : RegexEngine) (owed : List Char)
    (tokens : List Token) : Prop where
  noPlaceholder : ∀ written, .placeholder written ∉ tokens
  bars : BarsInChoices owed tokens
  slots : ∀ body, .regex body ∈ tokens → ∃ program, Slot engine body program

private theorem PlainTokens.behind {owed after : List Char} {token : Token}
    {tokens : List Token} (plain : PlainTokens engine owed (token :: tokens))
    (owes : owedBehind owed token = after) :
    PlainTokens engine after tokens where
  noPlaceholder written member :=
    plain.noPlaceholder written (List.mem_cons_of_mem token member)
  bars := owes ▸ plain.bars.2
  slots body member := plain.slots body (List.mem_cons_of_mem token member)

/-- A valid pattern with such tokens can be read, whatever stands before it. -/
theorem Lexed.readable {owed : List Char} {text : Text} {tokens : List Token}
    (lexed : Lexed owed text tokens) (plain : PlainTokens engine owed tokens)
    (before : Text) :
    Readable engine owed before text := by
  induction lexed generalizing before with
  | done => exact ⟨.done, .done⟩
  | escaped char _ induction =>
      refine .prepend ['\\',
        char] ?_ (induction (plain.behind rfl) (char :: '\\' :: before))
      intro text items sequence
      exact ⟨_, .escaped sequence⟩
  | @plain owed char _ _ noMark _ induction =>
      have later := plain.behind (owedBehind_plain noMark owed)
      refine .prepend [char] ?_ (induction later (char :: before))
      intro text items sequence
      by_cases isSpace : char = ' '
      · subst isSpace
        exact ⟨_, .space sequence⟩
      · have letter : char ∉ Demand.marks := by
          simpa [Demand.marks, isSpace] using noMark
        exact ⟨_, .letter letter sequence⟩
  | opening pair _ induction =>
      exact .opening pair (induction (plain.behind (owedBehind_opening pair _)) _)
  | closing pair _ induction =>
      exact .closing pair (induction (plain.behind (owedBehind_closing pair _)) _)
  | @bar owed _ _ _ _ induction =>
      have directly : owed.head? = some ')' := plain.bars.1 rfl
      obtain ⟨outer, rfl⟩ := List.head?_eq_some_iff.mp directly
      exact .bar (induction (plain.behind rfl) _)
  | placeholder _ _ _ => exact (plain.noPlaceholder _ List.mem_cons_self).elim
  | slot noEnd _ induction =>
      obtain ⟨program, slot⟩ := plain.slots _ List.mem_cons_self
      exact .slot noEnd slot (induction (plain.behind rfl) _)

theorem Regular.sequence {pattern : Text} (regular : Regular engine [] pattern) :
    ∃ items, Sequence engine [] pattern items := by
  have plain : PlainTokens engine [] (tokens pattern) :=
    ⟨regular.noPlaceholder, regular.barsInChoices, regular.slots⟩
  exact (lexed_of_valid regular.valid).readable plain []

end Phrasebook.Pattern
