import Phrasebook.Proofs.Pattern.Nesting
import Phrasebook.Proofs.Pattern.Token

/-!
# Valid patterns, token by token

The check of a pattern takes its placeholders and regular expression slots as
wholes.  So a valid pattern can be read as its tokens, one after the other, with
the closing brackets that are owed at each of them.
-/

namespace Phrasebook.Pattern

/-- The rest of a valid pattern with its tokens, where these closing brackets
are owed. -/
inductive Lexed : List Char → Text → List Token → Prop where
  | done : Lexed [] [] []
  | escaped {owed : List Char} (char : Char) {rest : Text} {tokens : List Token} :
      Lexed owed rest tokens →
      Lexed owed ('\\' :: char :: rest) (.escaped char :: tokens)
  | plain {owed : List Char} {char : Char} {rest : Text} {tokens : List Token}
      (noMark : char ∉ ['[', '(', '%', '<', '|', ')', ']', '\\']) :
      Lexed owed rest tokens → Lexed owed (char :: rest) (.char char :: tokens)
  | opening {owed : List Char} {closing opening : Char} {rest : Text}
      {tokens : List Token} (pair : IsPair closing opening) :
      Lexed (closing :: owed) rest tokens →
      Lexed owed (opening :: rest) (.char opening :: tokens)
  | closing {owed : List Char} {closing opening : Char} {rest : Text}
      {tokens : List Token} (pair : IsPair closing opening) :
      Lexed owed rest tokens →
      Lexed (closing :: owed) (closing :: rest) (.char closing :: tokens)
  | bar {owed : List Char} {rest : Text} {tokens : List Token}
      (inChoice : ')' ∈ owed) :
      Lexed owed rest tokens → Lexed owed ('|' :: rest) (.char '|' :: tokens)
  | placeholder {owed : List Char} {written rest : Text} {tokens : List Token}
      (segment : Segment written 0) :
      Lexed owed rest tokens →
      Lexed owed ('%' :: (written ++ '%' :: rest)) (.placeholder written :: tokens)
  | slot {owed : List Char} {body rest : Text} {tokens : List Token}
      (noEnd : '>' ∉ body) :
      Lexed owed rest tokens →
      Lexed owed ('<' :: (body ++ '>' :: rest)) (.regex body :: tokens)

/-- The closing brackets that are owed behind a token, innermost first. -/
def owedBehind (owed : List Char) : Token → List Char
  | .char '(' => ')' :: owed
  | .char '[' => ']' :: owed
  | .char ')' | .char ']' => owed.tail
  | _ => owed

theorem owedBehind_plain {char : Char}
    (noMark : char ∉ ['[', '(', '%', '<', '|', ')', ']', '\\'])
    (owed : List Char) : owedBehind owed (.char char) = owed := by
  simp only [List.mem_cons, List.not_mem_nil, or_false, not_or] at noMark
  simp [owedBehind, noMark]

theorem owedBehind_opening {closing opening : Char} (pair : IsPair closing opening)
    (owed : List Char) : owedBehind owed (.char opening) = closing :: owed := by
  rcases pair with ⟨rfl, rfl⟩ | ⟨rfl, rfl⟩ <;> rfl

theorem owedBehind_closing {closing opening : Char} (pair : IsPair closing opening)
    (owed : List Char) : owedBehind (closing :: owed) (.char closing) = owed := by
  rcases pair with ⟨rfl, rfl⟩ | ⟨rfl, rfl⟩ <;> rfl

/-! ## Faults from one place to the next -/

theorem faultFrom_escaped (owed : List Char) (char : Char) (rest : Text) :
    faultFrom (.plain owed) ('\\' :: char :: rest) =
      faultFrom (.plain owed) rest := by
  cases owed <;> rfl

theorem faultFrom_plain {char : Char} (noEscape : char ≠ '\\')
    (owed : List Char) (rest : Text) :
    faultFrom (.plain owed) (char :: rest) =
      if char = '(' then faultFrom (.plain (')' :: owed)) rest
      else if char = '[' then faultFrom (.plain (']' :: owed)) rest
      else if char = ')' || char = ']' then
        match owed with
        | [] => some (.unexpectedClosing char)
        | bracket :: outer =>
            if bracket = char then faultFrom (.plain outer) rest
            else some (.unexpectedClosing char)
      else if char = '|' && !owed.contains ')' then some .barOutsideGroup
      else if char = '%' then faultFrom (.placeholderStart owed) rest
      else if char = '<' then faultFrom (.regex owed) rest
      else faultFrom (.plain owed) rest := by
  cases owed <;> simp [faultFrom, noEscape]

/-- In a valid pattern a closing bracket is the one that was owed. -/
theorem owed_of_closing {closing opening : Char} (pair : IsPair closing opening)
    {owed : List Char} {rest : Text}
    (valid : faultFrom (.plain owed) (closing :: rest) = none) :
    ∃ outer, owed = closing :: outer ∧ faultFrom (.plain outer) rest = none := by
  cases owed with
  | nil => rcases pair with ⟨rfl, rfl⟩ | ⟨rfl, rfl⟩ <;> simp [faultFrom_plain]
      at valid
  | cons bracket outer =>
      have compared : (if bracket = closing then faultFrom (.plain outer) rest
          else some (.unexpectedClosing closing)) = none := by
        rcases pair with ⟨rfl, rfl⟩ | ⟨rfl, rfl⟩ <;> simpa [faultFrom_plain]
          using valid
      by_cases same : bracket = closing
      · rw [if_pos same] at compared
        exact ⟨outer, by rw [same], compared⟩
      · rw [if_neg same] at compared
        cases compared

theorem faultFrom_placeholder {char : Char} (noEscape : char ≠ '\\')
    (owed : List Char) (rest : Text) :
    faultFrom (.placeholder owed) (char :: rest) =
      if char = '%' then faultFrom (.plain owed) rest
      else faultFrom (.placeholder owed) rest := by
  simp [faultFrom, noEscape]

theorem faultFrom_placeholder_escaped (owed : List Char) (char : Char)
    (rest : Text) :
    faultFrom (.placeholder owed) ('\\' :: char :: rest) =
      faultFrom (.placeholder owed) rest :=
  rfl

theorem faultFrom_regex (owed : List Char) (char : Char) (rest : Text) :
    faultFrom (.regex owed) (char :: rest) =
      if char = '>' then faultFrom (.plain owed) rest
          else faultFrom (.regex owed) rest :=
  rfl

theorem faultFrom_placeholderStart {owed : List Char} {rest : Text}
    (valid : faultFrom (.placeholderStart owed) rest = none) :
    faultFrom (.placeholder owed) rest = none := by
  cases rest with
  | nil => cases valid
  | cons char rest =>
      by_cases isEscape : char = '\\'
      · subst isEscape
        cases rest with
        | nil => cases valid
        | cons next rest => exact valid
      · by_cases isEnd : char = '%'
        · simp [faultFrom, isEnd] at valid
        · simpa [faultFrom, isEscape, isEnd] using valid

theorem placeholder_closed {owed : List Char} {rest : Text}
    (valid : faultFrom (.placeholder owed) rest = none) (read : Text) :
    ∃ written later, rest = written ++ '%' :: later ∧ Segment written 0 ∧
      faultFrom (.plain owed) later = none ∧
      tokensFrom (.placeholder read) rest =
        .placeholder (read ++ written) :: tokensFrom .plain later := by
  match rest with
  | [] => cases valid
  | char :: rest =>
      by_cases isEscape : char = '\\'
      · subst isEscape
        cases rest with
        | nil => cases valid
        | cons next rest =>
            rw [faultFrom_placeholder_escaped] at valid
            obtain ⟨written, later, rfl, segment, behind, tokens⟩ :=
              placeholder_closed valid (read ++ ['\\', next])
            refine ⟨'\\' :: next :: written, later, rfl, .escaped next segment,
              behind, ?_⟩
            rw [tokensFrom_placeholder_escaped, tokens]
            simp
      · rw [faultFrom_placeholder isEscape] at valid
        rw [tokensFrom_placeholder isEscape]
        by_cases isEnd : char = '%'
        · subst isEnd
          rw [if_pos rfl] at valid
          exact ⟨[], rest, rfl, .nil, valid, by simp⟩
        · rw [if_neg isEnd] at valid ⊢
          obtain ⟨written, later, rfl, segment, behind, tokens⟩ :=
            placeholder_closed valid (read ++ [char])
          refine ⟨char :: written, later, rfl, .plain isEscape isEnd segment,
            behind, ?_⟩
          simpa using tokens

theorem regex_closed {owed : List Char} {rest : Text}
    (valid : faultFrom (.regex owed) rest = none) (read : Text) :
    ∃ body later, rest = body ++ '>' :: later ∧ '>' ∉ body ∧
      faultFrom (.plain owed) later = none ∧
      tokensFrom (.regex read) rest = .regex (read ++ body) ::
        tokensFrom .plain later := by
  induction rest generalizing read with
  | nil => cases valid
  | cons char rest induction =>
      rw [faultFrom_regex] at valid
      rw [tokensFrom_regex]
      by_cases isEnd : char = '>'
      · subst isEnd
        rw [if_pos rfl] at valid
        exact ⟨[], rest, rfl, List.not_mem_nil, valid, by simp⟩
      · rw [if_neg isEnd] at valid ⊢
        obtain ⟨body, later, rfl, noEnd, behind, tokens⟩ :=
          induction valid (read ++ [char])
        refine ⟨char :: body, later, rfl, ?_, behind, by simpa using tokens⟩
        intro member
        rcases List.mem_cons.mp member with same | member
        · exact isEnd same.symm
        · exact noEnd member

/-- A valid text reads as its tokens. -/
theorem lexed_of_valid {owed : List Char} {text : Text}
    (valid : faultFrom (.plain owed) text = none) :
    Lexed owed text (tokensFrom .plain text) := by
  match text with
  | [] =>
      cases owed with
      | nil => exact .done
      | cons bracket outer => cases valid
  | char :: rest =>
      by_cases noMark : char ∉ ['[', '(', '%', '<', '|', ')', ']', '\\']
      · have others := noMark
        simp only [List.mem_cons, List.not_mem_nil, or_false, not_or] at others
        obtain ⟨noSquare, noRound, noPercent, noAngle, noBar, noRoundEnd,
            noSquareEnd, noEscape⟩ :=
          others
        rw [faultFrom_plain noEscape] at valid
        simp [noSquare, noRound, noPercent, noAngle, noBar, noRoundEnd,
          noSquareEnd] at valid
        rw [tokensFrom_plain noEscape, if_neg noPercent, if_neg noAngle]
        exact .plain noMark (lexed_of_valid valid)
      · have isMark := Decidable.not_not.mp noMark
        simp only [List.mem_cons, List.not_mem_nil, or_false] at isMark
        rcases isMark with rfl | rfl | rfl | rfl | rfl | rfl | rfl | rfl
        · rw [faultFrom_plain (by decide), if_neg (by decide), if_pos rfl] at valid
          exact .opening .square (lexed_of_valid valid)
        · rw [faultFrom_plain (by decide), if_pos rfl] at valid
          exact .opening .round (lexed_of_valid valid)
        · simp [faultFrom_plain] at valid
          obtain ⟨written, later, rfl, segment, behind, tokens⟩ :=
            placeholder_closed (faultFrom_placeholderStart valid) []
          rw [tokensFrom_plain (by decide), if_pos rfl, tokens]
          exact .placeholder segment (lexed_of_valid behind)
        · simp [faultFrom_plain] at valid
          obtain ⟨body, later, rfl, noEnd, behind, tokens⟩ := regex_closed valid []
          rw [tokensFrom_plain (by decide), if_neg (by decide), if_pos rfl, tokens]
          exact .slot noEnd (lexed_of_valid behind)
        · simp only [faultFrom_plain (show '|' ≠ '\\' by decide)] at valid
          by_cases inChoice : ')' ∈ owed
          · exact .bar inChoice (lexed_of_valid (by simpa [inChoice] using valid))
          · simp [inChoice] at valid
        · obtain ⟨outer, rfl, behind⟩ := owed_of_closing .round valid
          exact .closing .round (lexed_of_valid behind)
        · obtain ⟨outer, rfl, behind⟩ := owed_of_closing .square valid
          exact .closing .square (lexed_of_valid behind)
        · cases rest with
          | nil => cases owed <;> cases valid
          | cons next rest =>
              rw [faultFrom_escaped] at valid
              exact .escaped next (lexed_of_valid valid)
termination_by text.length

theorem lexed_of_validate {pattern : Text} (valid : validate pattern = .ok ()) :
    Lexed [] pattern (tokens pattern) := by
  apply lexed_of_valid
  unfold validate fault? at valid
  split at valid
  · assumption
  · cases valid

end Phrasebook.Pattern
