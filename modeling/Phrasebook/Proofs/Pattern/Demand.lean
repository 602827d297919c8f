import Phrasebook.Matching.Demand
import Phrasebook.Proofs.Pattern.Segment

/-!
# Reading demands off a pattern

What the rest of a pattern asks for first tells how the rest begins.
-/

namespace Phrasebook

namespace Demand

/-- The characters that mean something other than themselves when they are not
escaped. -/
def marks : Text := ['[', '(', '%', '<', '|', ')', ']', ' ', '\\']

/-- How a text begins that asks for this first. -/
def Begins (text : Text) : Demand → Prop
  | .nothing => text = []
  | .optional inside => text = '[' :: inside
  | .choice inside => text = '(' :: inside
  | .placeholder inside => text = '%' :: inside
  | .capture inside => text = '<' :: inside
  | .bar inside => text = '|' :: inside
  | .closing => ∃ rest, text = ')' :: rest ∨ text = ']' :: rest
  | .space => ∃ rest, text = ' ' :: rest
  | .loneBackslash => text = ['\\']
  | .letter char length =>
      ∃ rest, (text = '\\' :: char :: rest ∧ length = 2) ∨
        (text = char :: rest ∧ length = 1 ∧ char ∉ marks)

theorem begins_ofText (text : Text) : (ofText text).Begins text := by
  fun_cases ofText text with
  | case1 => rfl
  | case2 => rfl
  | case3 escaped rest => exact ⟨rest, .inl ⟨rfl, rfl⟩⟩
  | case4 rest => rfl
  | case5 rest => rfl
  | case6 rest => rfl
  | case7 rest => rfl
  | case8 rest => rfl
  | case9 char rest lone escape _ _ _ _ _ closes =>
      have isClosing : char = ')' ∨ char = ']' := by simpa using closes
      rcases isClosing with rfl | rfl
      · exact ⟨rest, .inl rfl⟩
      · exact ⟨rest, .inr rfl⟩
  | case10 rest => exact ⟨rest, rfl⟩
  | case11 char rest lone escape notOpening notChoice notPercent notCapture
      notBar notClosing
      notSpace =>
      have noEscape : char ≠ '\\' := Pattern.noEscape_of_cases lone escape
      refine ⟨rest, .inr ⟨rfl, rfl, ?_⟩⟩
      have notClosing : char ≠ ')' ∧ char ≠ ']' := by simpa using notClosing
      simp [marks, notOpening, notChoice, notPercent, notCapture, notBar,
        notClosing, notSpace, noEscape]

theorem ofText_nil : ofText [] = .nothing := rfl

theorem ofText_optional (inside : Text) :
    ofText ('[' :: inside) = .optional inside := rfl

theorem ofText_choice (inside : Text) :
    ofText ('(' :: inside) = .choice inside := rfl

theorem ofText_placeholder (inside : Text) :
    ofText ('%' :: inside) = .placeholder inside := rfl

theorem ofText_capture (inside : Text) :
    ofText ('<' :: inside) = .capture inside := rfl

theorem ofText_bar (inside : Text) : ofText ('|' :: inside) = .bar inside := rfl

theorem ofText_closing {char : Char} (closes : char = ')' ∨ char = ']')
    (rest : Text) :
    ofText (char :: rest) = .closing := by
  rcases closes with rfl | rfl <;> rfl

theorem ofText_space (rest : Text) : ofText (' ' :: rest) = .space := rfl

theorem ofText_escaped (char : Char) (rest : Text) :
    ofText ('\\' :: char :: rest) = .letter char 2 := rfl

theorem ofText_letter {char : Char} (noMark : char ∉ marks) (rest : Text) :
    ofText (char :: rest) = .letter char 1 := by
  simp only [marks, List.mem_cons, List.not_mem_nil, or_false, not_or] at noMark
  obtain ⟨_, _, _, _, _, _, _, _, noEscape⟩ := noMark
  simp_all [ofText]

end Demand

end Phrasebook
