import Phrasebook.Pattern.Valid
import Phrasebook.Proofs.Pattern.Segment

/-!
# The tokens of a pattern

Read from left to right, the way in which its validity is checked, a pattern is a
sequence of characters, escaped characters, placeholders and regular expression
slots.
-/

namespace Phrasebook.Pattern

inductive Token where
  | char (char : Char)
  | escaped (char : Char)
  /-- A placeholder, with what stands between its percent signs. -/
  | placeholder (written : Text)
  /-- A regular expression slot, with what stands between its angle brackets. -/
  | regex (body : Text)
  deriving DecidableEq

/-- Where the reading of tokens is, with what was read of the token it is in. -/
inductive Stage where
  | plain
  | placeholder (written : Text)
  | regex (body : Text)

def tokensFrom : Stage → Text → List Token
  | .plain, [] => []
  | .plain, ['\\'] => [.char '\\']
  | .plain, '\\' :: char :: rest => .escaped char :: tokensFrom .plain rest
  | .plain, char :: rest =>
      if char = '%' then tokensFrom (.placeholder []) rest
      else if char = '<' then tokensFrom (.regex []) rest
      else .char char :: tokensFrom .plain rest
  | .placeholder written, [] => [.placeholder written]
  | .placeholder written, ['\\'] => [.placeholder (written ++ ['\\'])]
  | .placeholder written, '\\' :: char :: rest =>
      tokensFrom (.placeholder (written ++ ['\\', char])) rest
  | .placeholder written, char :: rest =>
      if char = '%' then .placeholder written :: tokensFrom .plain rest
      else tokensFrom (.placeholder (written ++ [char])) rest
  | .regex body, [] => [.regex body]
  | .regex body, char :: rest =>
      if char = '>' then .regex body :: tokensFrom .plain rest
      else tokensFrom (.regex (body ++ [char])) rest

def tokens (pattern : Text) : List Token :=
  tokensFrom .plain pattern

theorem tokensFrom_escaped (char : Char) (rest : Text) :
    tokensFrom .plain ('\\' :: char :: rest) =
      .escaped char :: tokensFrom .plain rest :=
  rfl

theorem tokensFrom_plain {char : Char} (noEscape : char ≠ '\\') (rest : Text) :
    tokensFrom .plain (char :: rest) =
      if char = '%' then tokensFrom (.placeholder []) rest
      else if char = '<' then tokensFrom (.regex []) rest
      else .char char :: tokensFrom .plain rest := by
  simp [tokensFrom, noEscape]

theorem tokensFrom_placeholder {char : Char} (noEscape : char ≠ '\\')
    (written rest : Text) :
    tokensFrom (.placeholder written) (char :: rest) =
      if char = '%' then .placeholder written :: tokensFrom .plain rest
      else tokensFrom (.placeholder (written ++ [char])) rest := by
  simp [tokensFrom, noEscape]

theorem tokensFrom_regex (body : Text) (char : Char) (rest : Text) :
    tokensFrom (.regex body) (char :: rest) =
      if char = '>' then .regex body :: tokensFrom .plain rest
      else tokensFrom (.regex (body ++ [char])) rest :=
  rfl

theorem tokensFrom_placeholder_escaped (written : Text) (char : Char)
    (rest : Text) :
    tokensFrom (.placeholder written) ('\\' :: char :: rest) =
      tokensFrom (.placeholder (written ++ ['\\', char])) rest :=
  rfl

theorem placeholder_mem (written : Text) : ∀ rest : Text,
    ∃ more, Token.placeholder (written ++ more) ∈
      tokensFrom (.placeholder written) rest
  | [] => ⟨[], List.mem_singleton.mpr (by rw [List.append_nil])⟩
  | char :: rest => by
      by_cases isEscape : char = '\\'
      · subst isEscape
        cases rest with
        | nil => exact ⟨['\\'], List.mem_singleton_self _⟩
        | cons next rest =>
            obtain ⟨more, member⟩ := placeholder_mem (written ++ ['\\', next]) rest
            rw [tokensFrom_placeholder_escaped]
            exact ⟨'\\' :: next :: more, by simpa using member⟩
      · rw [tokensFrom_placeholder isEscape]
        split
        · exact ⟨[], by simp⟩
        · obtain ⟨more, member⟩ := placeholder_mem (written ++ [char]) rest
          exact ⟨char :: more, by simpa using member⟩

theorem regex_mem (body rest : Text) :
    ∃ more, Token.regex (body ++ more) ∈ tokensFrom (.regex body) rest := by
  induction rest generalizing body with
  | nil => exact ⟨[], List.mem_singleton.mpr (by rw [List.append_nil])⟩
  | cons char rest induction =>
      rw [tokensFrom_regex]
      split
      · exact ⟨[], by simp⟩
      · obtain ⟨more, member⟩ := induction (body ++ [char])
        exact ⟨char :: more, by simpa using member⟩

end Phrasebook.Pattern
