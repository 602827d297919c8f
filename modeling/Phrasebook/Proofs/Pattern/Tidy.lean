import Phrasebook.Matching
import Phrasebook.Proofs.Pattern.Token

/-!
# Tidy patterns

The walk along a pattern finds brackets and bars by scanning, and such a scan does
not know placeholders and regular expression slots.  In a tidy pattern this does
no harm: placeholders have no brackets, bars or backslashes inside, and slots of
regular expressions no percent signs.  Then the walk never gets inside of a
placeholder, and it numbers the placeholders as they are listed.
-/

namespace Phrasebook

namespace Pattern

/-- A token is tidy if it is no placeholder with a bracket, a bar or a backslash
inside and no regular expression slot with a percent sign inside. -/
def Token.Tidy : Token → Prop
  | .placeholder written => ∀ char ∈ written, char ∉ "()[]|\\".toList
  | .regex body => '%' ∉ body
  | .char _ | .escaped _ => True

instance : (token : Token) → Decidable token.Tidy
  | .placeholder written =>
      List.decidableBAll (fun char => char ∉ "()[]|\\".toList) written
  | .regex body => inferInstanceAs (Decidable ('%' ∉ body))
  | .char _ | .escaped _ => .isTrue trivial

def AllTidy (tokens : List Token) : Prop :=
  ∀ token ∈ tokens, token.Tidy

def Tidy (pattern : Text) : Prop :=
  AllTidy (tokens pattern)

instance (pattern : Text) : Decidable (Tidy pattern) :=
  inferInstanceAs (Decidable (∀ token ∈ tokens pattern, token.Tidy))

/-- What may follow in a tidy pattern behind so many unescaped percent signs:
behind an odd number of them the rest of a placeholder. -/
def Standing (count : Nat) (rest : Text) : Prop :=
  if count % 2 = 0 then
    AllTidy (tokensFrom .plain rest) ∨
    ∃ body, AllTidy (tokensFrom (.regex body) rest)
  else ∃ written, AllTidy (tokensFrom (.placeholder written) rest)

namespace AllTidy

theorem tail {token : Token} {tokens : List Token}
    (tidy : AllTidy (token :: tokens)) :
    AllTidy tokens :=
  fun other member => tidy other (List.mem_cons_of_mem token member)

theorem not_mark {written rest : Text}
    (tidy : AllTidy (tokensFrom (.placeholder written) rest)) {char : Char}
    (member : char ∈ written) : char ∉ "()[]|\\".toList := by
  obtain ⟨more, token⟩ := placeholder_mem written rest
  exact tidy _ token char (List.mem_append_left more member)

theorem not_percent {body rest : Text}
    (tidy : AllTidy (tokensFrom (.regex body) rest)) :
    '%' ∉ body := by
  intro member
  obtain ⟨more, token⟩ := regex_mem body rest
  exact tidy _ token (List.mem_append_left more member)

end AllTidy

namespace Standing

variable {count : Nat} {rest : Text}

theorem even (isEven : count % 2 = 0) :
    Standing count rest ↔
      AllTidy (tokensFrom .plain rest) ∨
      ∃ body, AllTidy (tokensFrom (.regex body) rest) := by
  rw [Standing, if_pos isEven]

theorem odd (isOdd : count % 2 = 1) :
    Standing count rest ↔ ∃ written,
      AllTidy (tokensFrom (.placeholder written) rest) := by
  rw [Standing, if_neg (by omega)]

theorem behind_regex {body : Text} {char : Char}
    (tidy : AllTidy (tokensFrom (.regex body) (char :: rest))) :
    Standing 0 rest := by
  rw [even rfl]
  rw [tokensFrom_regex] at tidy
  split at tidy
  · exact .inl tidy.tail
  · exact .inr ⟨_, tidy⟩

theorem behind_escaped {char : Char}
    (standing : Standing count ('\\' :: char :: rest)) :
    Standing count rest := by
  rcases Nat.mod_two_eq_zero_or_one count with isEven | isOdd
  · rw [even isEven] at standing ⊢
    rcases standing with plain | ⟨body, regex⟩
    · rw [tokensFrom_escaped] at plain
      exact .inl plain.tail
    · rw [tokensFrom_regex, if_neg (by decide)] at regex
      exact (even rfl).mp (behind_regex regex)
  · rw [odd isOdd] at standing
    obtain ⟨written, tidy⟩ := standing
    rw [tokensFrom_placeholder_escaped] at tidy
    have mark := tidy.not_mark (List.mem_append_right written List.mem_cons_self)
    exact absurd (by decide) mark

theorem behind_percent (standing : Standing count ('%' :: rest)) :
    Standing (count + 1) rest := by
  rcases Nat.mod_two_eq_zero_or_one count with isEven | isOdd
  · rw [even isEven] at standing
    rw [odd (by omega)]
    rcases standing with plain | ⟨body, regex⟩
    · rw [tokensFrom_plain (by decide), if_pos rfl] at plain
      exact ⟨[], plain⟩
    · rw [tokensFrom_regex, if_neg (by decide)] at regex
      exact absurd (List.mem_append_right body List.mem_cons_self) regex.not_percent
  · rw [odd isOdd] at standing
    obtain ⟨written, tidy⟩ := standing
    rw [tokensFrom_placeholder (by decide), if_pos rfl] at tidy
    rw [even (by omega)]
    exact .inl tidy.tail

theorem behind_plain {char : Char} (noEscape : char ≠ '\\') (noPercent : char ≠ '%')
    (standing : Standing count (char :: rest)) : Standing count rest := by
  rcases Nat.mod_two_eq_zero_or_one count with isEven | isOdd
  · rw [even isEven] at standing ⊢
    rcases standing with plain | ⟨body, regex⟩
    · rw [tokensFrom_plain noEscape, if_neg noPercent] at plain
      split at plain
      · exact .inr ⟨[], plain⟩
      · exact .inl plain.tail
    · exact (even rfl).mp (behind_regex regex)
  · rw [odd isOdd] at standing ⊢
    obtain ⟨written, tidy⟩ := standing
    rw [tokensFrom_placeholder noEscape, if_neg noPercent] at tidy
    exact ⟨_, tidy⟩

theorem behind {before : Text} {more : Nat} (segment : Segment before more)
    (standing : Standing count (before ++ rest)) :
    Standing (count + more) rest := by
  induction segment generalizing count with
  | nil => exact standing
  | escaped char _ induction => exact induction standing.behind_escaped
  | percent _ induction =>
      have later := induction standing.behind_percent
      rwa [Nat.add_assoc, Nat.add_comm 1] at later
  | plain noEscape noPercent _ induction =>
      exact induction (standing.behind_plain noEscape noPercent)

/-- A bracket or a bar stands outside of all placeholders. -/
theorem even_of_mark {mark : Char} (isMark : mark ∈ "()[]|".toList)
    (standing : Standing count (mark :: rest)) : count % 2 = 0 := by
  rcases Nat.mod_two_eq_zero_or_one count with isEven | isOdd
  · exact isEven
  · have inList : mark ∈ ['(', ')', '[', ']', '|'] := isMark
    have noEscape : mark ≠ '\\' := by
      rintro rfl
      simp at inList
    have noPercent : mark ≠ '%' := by
      rintro rfl
      simp at inList
    rw [odd isOdd] at standing
    obtain ⟨written, tidy⟩ := standing
    rw [tokensFrom_placeholder noEscape, if_neg noPercent] at tidy
    have noMark := tidy.not_mark (List.mem_append_right written List.mem_cons_self)
    exact absurd (List.mem_append_left ['\\'] inList) noMark

end Standing

end Pattern

end Phrasebook
