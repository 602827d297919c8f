import Phrasebook.Conversion
import Phrasebook.Text.LetterCase
import Phrasebook.Text.Quoted

/-!
# Written forms of numbers and texts

The decimal form of an integer and the quoted form of a text are read back as what
they were written for.  Neither of them is taken for a variable, and no blank is
stripped off their ends.
-/

namespace Phrasebook

namespace Text

/-! ## Numbers -/

theorem digitValue_of_isDigit {char : Char} (isDigit : char.isDigit = true) :
    digitValue? char = some (char.toNat - 0x30) := by
  have bounds : 0x30 ≤ char.toNat ∧ char.toNat ≤ 0x39 :=
    Char.isDigit_iff_toNat.mp isDigit
  have ascii : char.toNat < 0x80 := by omega
  simp [digitValue?, ascii, bounds]

theorem isBlank_digit {digit : Char} (isDigit : digit.isDigit = true) :
    isBlank digit = false := by
  have bounds : 0x30 ≤ digit.toNat ∧ digit.toNat ≤ 0x39 :=
    Char.isDigit_iff_toNat.mp isDigit
  simp [isBlank]
  omega

theorem digitsValue_snoc (digits : Text) (char : Char) :
    digitsValue (digits ++ [char]) = 10 * digitsValue digits +
      (digitValue? char).getD 0 := by
  rw [digitsValue, List.foldl_append]
  rfl

theorem isDigit_of_mem_ofNat {number : Nat} {char : Char}
    (member : char ∈ ofNat number) :
    char.isDigit = true :=
  Nat.isDigit_of_mem_toDigits (by decide) (by decide) member

private theorem digitValue_digitChar {digit : Nat} (small : digit < 10) :
    (digitValue? digit.digitChar).getD 0 = digit := by
  have isDigit : digit.digitChar.isDigit = true := by
    rw [Nat.isDigit_digitChar]
    exact decide_eq_true small
  rw [digitValue_of_isDigit isDigit, Nat.toNat_digitChar_of_lt_ten small,
    Option.getD_some]
  omega

private theorem digitsValue_ofNat (number : Nat) :
    digitsValue (ofNat number) = number := by
  induction number using Nat.strongRecOn with
  | ind number induction =>
      by_cases small : number < 10
      · rw [ofNat, Nat.toDigits_of_lt_base small]
        have single := digitsValue_snoc [] number.digitChar
        rw [digitValue_digitChar small] at single
        simpa [digitsValue] using single
      · have larger : 10 ≤ number := Nat.le_of_not_lt small
        have shorter := induction (number / 10) (by omega)
        rw [ofNat] at shorter
        rw [ofNat, Nat.toDigits_of_base_le (by decide) larger,
          digitsValue_snoc, shorter,
          digitValue_digitChar (Nat.mod_lt _ (by decide))]
        omega

theorem ofNat_cons (number : Nat) :
    ∃ first rest, ofNat number = first :: rest ∧ first.isDigit = true := by
  cases split : ofNat number with
  | nil => exact absurd split Nat.toDigits_ne_nil
  | cons first rest =>
      have member : first ∈ ofNat number := by
        rw [split]
        exact List.mem_cons_self
      exact ⟨first, rest, rfl, isDigit_of_mem_ofNat member⟩

private theorem readInteger_ofNat (number : Nat) (negative : Bool) :
    (if !(ofNat number).isEmpty && (ofNat number).all isDigit then
      some (signed negative (digitsValue (ofNat number))) else none) =
      some (signed negative number) := by
  have present : (ofNat number).isEmpty = false := by
    obtain ⟨first, rest, split, _⟩ := ofNat_cons number
    rw [split]
    rfl
  have digits : (ofNat number).all isDigit = true := by
    rw [List.all_eq_true]
    intro char member
    rw [isDigit, digitValue_of_isDigit (isDigit_of_mem_ofNat member)]
    rfl
  rw [present, digits, digitsValue_ofNat]
  rfl

theorem readInteger_ofInt (value : Int) :
    readInteger? (ofInt value) = some value := by
  cases value with
  | ofNat number =>
      obtain ⟨first, rest, split, isDigit⟩ := ofNat_cons number
      have unsigned : splitSign (ofNat number) = (false, ofNat number) := by
        rw [split, splitSign]
        · intro _ same
          cases same
          cases isDigit
        · intro _ same
          cases same
          cases isDigit
      rw [ofInt, readInteger?, unsigned]
      exact readInteger_ofNat number false
  | negSucc number =>
      rw [ofInt, readInteger?, splitSign]
      have same : Int.negSucc number = signed true (number + 1) := rfl
      rw [same]
      exact readInteger_ofNat (number + 1) true

/-! ## Quoted texts -/

private theorem unquoteTail_doubled (text : Text) :
    unquoteTail (doubleQuotes text ++ ['"']) = some text := by
  fun_induction doubleQuotes text with
  | case1 => rfl
  | case2 rest induction => simp [unquoteTail, induction]
  | case3 char rest notQuote induction =>
      have other : char ≠ '"' := fun same => notQuote same
      simp [unquoteTail, induction, other]

theorem unquote_quoted (text : Text) : unquote? (quoted text) = some text :=
  unquoteTail_doubled text

/-- The search for a closing quote passes over quotes that are written twice. -/
theorem closingQuote_past (text rest : Text) :
    closingQuote (doubleQuotes text ++ rest) =
      (closingQuote rest).map (· + (doubleQuotes text).length) := by
  fun_induction doubleQuotes text with
  | case1 => simp
  | case2 text induction =>
      rw [List.cons_append, List.cons_append, closingQuote, induction,
        Option.map_map]
      rfl
  | case3 char text notQuote induction =>
      have other : char ≠ '"' := fun same => notQuote same
      rw [List.cons_append, closingQuote, induction, Option.map_map]
      · rfl
      all_goals simp [other]

private theorem closingQuote_first_iff (behind : Text) :
    closingQuote ('"' :: behind) = some 0 ↔ behind.head? ≠ some '"' := by
  cases behind with
  | nil => simp [closingQuote]
  | cons char rest =>
      by_cases isQuote : char = '"'
      · subst isQuote
        simp [closingQuote]
      · simp [closingQuote, isQuote]

theorem closingQuote_split {text : Text} {offset : Nat}
    (found : closingQuote text = some offset) :
    ∃ inside behind, text = doubleQuotes inside ++ '"' :: behind ∧
      offset = (doubleQuotes inside).length ∧ behind.head? ≠ some '"' := by
  fun_induction closingQuote text generalizing offset with
  | case1 => cases found
  | case2 rest induction =>
      obtain ⟨later, next, rfl⟩ := Option.map_eq_some_iff.mp found
      obtain ⟨inside, behind, rfl, rfl, noQuote⟩ := induction next
      exact ⟨'"' :: inside, behind, rfl, rfl, noQuote⟩
  | case3 rest notDoubled =>
      cases found
      refine ⟨[], rest, rfl, rfl, ?_⟩
      intro starts
      obtain ⟨later, rfl⟩ := List.head?_eq_some_iff.mp starts
      exact notDoubled later rfl
  | case4 char rest notDoubled notQuote induction =>
      obtain ⟨later, next, rfl⟩ := Option.map_eq_some_iff.mp found
      obtain ⟨inside, behind, rfl, rfl, noQuote⟩ := induction next
      have written : doubleQuotes (char :: inside) =
          char :: doubleQuotes inside := by
        rw [doubleQuotes]
        exact notQuote
      exact ⟨char :: inside,
        behind, by rw [written]; rfl, by rw [written]; rfl, noQuote⟩

/-- The closing quote of a quoted text is found if and only if no quote stands
behind it. -/
theorem closingQuote_doubled_iff (text behind : Text) :
    closingQuote (doubleQuotes text ++ '"' :: behind) =
      some (doubleQuotes text).length ↔
      behind.head? ≠ some '"' := by
  rw [← closingQuote_first_iff, closingQuote_past]
  cases closingQuote ('"' :: behind) with
  | none => simp
  | some offset => simp

/-- A quoted text is one run, unless another quote stands behind it. -/
theorem runLength_quoted_iff (text behind : Text) :
    runLength '"' (doubleQuotes text ++ '"' :: behind) = some (quoted text).length ↔
      behind.head? ≠ some '"' := by
  have length : (quoted text).length = (doubleQuotes text).length + 2 := by
    simp [quoted]
  rw [← closingQuote_doubled_iff text behind, runLength, if_pos rfl, length]
  simp

/-! ## Letters and digits -/

theorem sameLetter_self (char : Char) : sameLetter char char = true :=
  beq_self_eq_true (lowerChar char)

/-- Taking the lower-case form keeps the ASCII characters up to the digits, and
no other one becomes one of them. -/
theorem toLower_ascii :
    ∀ code < 0x80, code ≤ 0x39 ∨ (Char.ofNat code).toLower.toNat ≤ 0x39 →
    (Char.ofNat code).toLower = Char.ofNat code := by
  decide +kernel

/-- No capital beyond ASCII has a digit for its lower-case form. -/
theorem capitals_above_digits :
    ∀ range ∈ lowCapitals ++ highCapitals,
      0x39 < (range.first : Int) + range.shift := by
  decide +kernel

private theorem ofNat_ne_low {code : Nat} {low : Char} (positive : 0 < low.toNat)
    (isLow : low.toNat ≤ 0x39) (above : 0x39 < code) : Char.ofNat code ≠ low := by
  rintro rfl
  by_cases valid : code.isValidChar
  · have same : (Char.ofNat code).toNat = code := by
      rw [Char.ofNat, dif_pos valid]
      rfl
    omega
  · have same : (Char.ofNat code).toNat = 0 := by
      rw [Char.ofNat, dif_neg valid]
      rfl
    omega

private theorem eq_of_lowerChar {letter low : Char} (positive : 0 < low.toNat)
    (isLow : low.toNat ≤ 0x39) (lowered : lowerChar letter = [low]) :
    letter = low := by
  unfold lowerChar at lowered
  by_cases ascii : letter.toNat < 0x80
  · rw [if_pos ascii, List.singleton_inj] at lowered
    have kept := toLower_ascii letter.toNat ascii
    rw [Char.ofNat_toNat, lowered] at kept
    exact (kept (.inr isLow)).symm
  · rw [if_neg ascii] at lowered
    by_cases dotted : (letter.toNat == 0x130) = true
    · rw [if_pos dotted] at lowered
      cases lowered
    · rw [if_neg dotted] at lowered
      cases found : (if letter.toNat < 0x2000 then lowCapitals
          else highCapitals).find? (·.covers letter.toNat) with
      | none =>
          simp only [found] at lowered
          exact List.singleton_inj.mp lowered
      | some range =>
          simp only [found] at lowered
          have listed : range ∈ lowCapitals ++ highCapitals := by
            have member := List.mem_of_find?_eq_some found
            split at member
            · exact List.mem_append_left _ member
            · exact List.mem_append_right _ member
          have covers : range.first ≤ letter.toNat := by
            have holds := List.find?_some found
            simp only [CapitalRange.covers, Bool.and_eq_true, decide_eq_true_eq]
              at holds
            exact holds.1.1
          have above := capitals_above_digits range listed
          have beyond : 0x39 < ((letter.toNat : Int) + range.shift).toNat := by
            omega
          exact absurd (List.singleton_inj.mp lowered)
            (ofNat_ne_low positive isLow beyond)

theorem toLower_low {low : Char} (isLow : low.toNat ≤ 0x39) :
    low.toLower = low := by
  have kept := toLower_ascii low.toNat (by omega) (.inl isLow)
  rwa [Char.ofNat_toNat] at kept

theorem sameLetter_low {letter low : Char} (positive : 0 < low.toNat)
    (isLow : low.toNat ≤ 0x39) :
    sameLetter letter low = true ↔ letter = low := by
  have ascii : low.toNat < 0x80 := by omega
  have ownForm : lowerChar low = [low] := by
    simp [lowerChar, ascii, toLower_low isLow]
  constructor
  · intro same
    rw [sameLetter, ownForm, beq_iff_eq] at same
    exact eq_of_lowerChar positive isLow same
  · rintro rfl
    exact sameLetter_self letter

theorem toLower_digit {digit : Char} (isDigit : digit.isDigit = true) :
    digit.toLower = digit :=
  toLower_low (Char.isDigit_iff_toNat.mp isDigit).2

theorem sameLetter_digit {letter digit : Char} (isDigit : digit.isDigit = true)
    (isNone : letter.isDigit = false) : sameLetter letter digit = false := by
  have bounds : 0x30 ≤ digit.toNat ∧ digit.toNat ≤ 0x39 :=
    Char.isDigit_iff_toNat.mp isDigit
  rw [← Bool.not_eq_true, sameLetter_low (by omega) bounds.2]
  rintro rfl
  rw [isDigit] at isNone
  cases isNone

/-! ## The ends of a written form -/

theorem strip_eq {text : Text} (start : ∀ char ∈ text.head?, isBlank char = false)
    (stop : ∀ char ∈ text.getLast?, isBlank char = false) : strip text = text := by
  have keepsStart : stripStart text = text := by
    cases text with
    | nil => rfl
    | cons first rest =>
        rw [stripStart, List.dropWhile_cons_of_neg]
        simpa using start first rfl
  have keepsStop : stripEnd text = text := by
    rw [stripEnd]
    cases split : text.reverse with
    | nil =>
        rw [List.reverse_eq_nil_iff.mp split]
        rfl
    | cons last rest =>
        have isLast : text.getLast? = some last := by
          rw [List.getLast?_eq_head?_reverse, split]
          rfl
        rw [List.dropWhile_cons_of_neg (by simpa using stop last isLast), ← split,
          List.reverse_reverse]
  rw [strip, keepsStart, keepsStop]

end Text

theorem Expr.readVariable_none {first : Char} {rest : Text} (type : TypeInfo)
    (noBrace : first ≠ '\x7b') (noLetter : first.toLower ∉ ['v', 't']) :
    readVariable? (first :: rest) type = none := by
  obtain ⟨noVariable, noArticle⟩ : Text.anyCase first ≠ 'v' ∧
      Text.anyCase first ≠ 't' := by
    unfold Text.anyCase
    split
    · decide
    · simpa using noLetter
  rw [readVariable?, Text.partition, if_neg noBrace]
  cases Text.partition '\x7b' rest with
  | mk before after =>
      cases after with
      | none => rfl
      | some braced => simp [noVariable, noArticle]

end Phrasebook
