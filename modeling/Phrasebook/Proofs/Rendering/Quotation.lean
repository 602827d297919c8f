import Phrasebook.Proofs.Rendering.RoundTrip

/-!
# One spelling for each text

A text has one written form, whatever quotes it holds: nothing else is read as
the text, and whoever comes upon the written form passes over it as one run.
Only a quote right behind the form would be taken for one of its own.
-/

namespace Phrasebook

namespace Text

/-- What is read up to the closing quote stands there with its quotes written
twice. -/
theorem eq_of_unquoteTail {rest value : Text}
    (reads : unquoteTail rest = some value) :
    rest = doubleQuotes value ++ ['"'] := by
  fun_induction unquoteTail rest generalizing value with
  | case1 => cases reads
  | case2 =>
      cases reads
      rfl
  | case3 rest induction =>
      obtain ⟨later, readsLater, rfl⟩ := Option.map_eq_some_iff.mp reads
      rw [induction readsLater]
      rfl
  | case4 => cases reads
  | case5 char rest notLast notDoubled notClosed induction =>
      obtain ⟨later, readsLater, rfl⟩ := Option.map_eq_some_iff.mp reads
      have other : char ≠ '"' := by
        rintro rfl
        cases rest with
        | nil => exact notLast rfl rfl
        | cons next rest => exact notClosed next rest rfl rfl
      rw [induction readsLater, doubleQuotes]
      · rfl
      · exact other

private theorem unquote_eq_some_iff {text value : Text} :
    unquote? text = some value ↔ text = quoted value := by
  constructor
  · intro reads
    unfold unquote? at reads
    split at reads
    · rw [eq_of_unquoteTail reads]
      rfl
    · cases reads
  · rintro rfl
    exact unquote_quoted value

end Text

/-- Outside of commands a text is read from its printed form and from nothing
else, and the run that starts with its printed form is that form, if and only if
no quote stands behind it. -/
theorem Literal.string_spelling :
    (∀ context, context ≠ .command → ∀ text value,
      string text context = some (.datum (.text value)) ↔
        text = Value.literalText (.datum (.text value))) ∧
    ∀ value behind, ∃ rest,
      Value.literalText (.datum (.text value)) ++ behind = '"' :: rest ∧
        (Text.runLength '"' rest =
          some (Value.literalText (.datum (.text value))).length ↔
          behind.head? ≠ some '"') := by
  constructor
  · intro context notCommand text value
    rw [string_unquoted notCommand, Option.map_eq_some_iff]
    constructor
    · rintro ⟨read, reads, same⟩
      cases same
      exact Text.unquote_eq_some_iff.mp reads
    · intro isWritten
      exact ⟨value, Text.unquote_eq_some_iff.mpr isWritten, rfl⟩
  · intro value behind
    refine ⟨Text.doubleQuotes value ++ '"' :: behind, ?_,
      Text.runLength_quoted_iff value behind⟩
    simp [Value.literalText, Text.quoted]

/-- A text of quotes alone is written with nothing but quotes. -/
theorem Literal.string_spelling_of_quotes :
    let value : Text := "\"\""
    string "\"\"\"\"\"\"" .event = some (.datum (.text value)) ∧
      Text.runLength '"' "\"\"\"\"\", \"" = some 6 := by
  intro value
  obtain ⟨reads, run⟩ := string_spelling
  obtain ⟨rest, isRest, length⟩ := run value ", \""
  cases isRest
  exact ⟨(reads .event (by decide) _ value).mpr rfl, length.mpr (by decide)⟩

end Phrasebook
