import Phrasebook.Text.LetterCase

/-!
# English nouns

Type names are nouns.  Patterns spell them in the singular or the plural, and
messages put an article before them.
-/

namespace Phrasebook

/-- How one ending of a singular noun changes in the plural. -/
structure PluralRule where
  singular : Text
  plural : Text

namespace Noun

/-- The rules, most specific first; the last one applies to every noun. -/
def pluralRules : List PluralRule :=
  [⟨"ay", "ays"⟩, ⟨"ey", "eys"⟩, ⟨"oy", "oys"⟩, ⟨"uy", "uys"⟩, ⟨"y", "ies"⟩,
   ⟨"ch", "ches"⟩, ⟨"sh", "shes"⟩, ⟨"ss", "sses"⟩, ⟨"x", "xes"⟩, ⟨"man", "men"⟩,
   ⟨"", "s"⟩]

/-- The word with as many last characters taken away as the old ending has, and
the new ending put in their place. -/
def exchangeEnding (word old new : Text) : Text :=
  word.take (word.length - old.length) ++ new

/-- Looks for the first rule that decides between singular and plural, given the
lower-case form of the word. -/
def singularBy (word lowered : Text) : List PluralRule → Text × Bool
  | [] => (word, false)
  | rule :: rules =>
      if rule.plural.isSuffixOf lowered then
        (exchangeEnding word rule.plural rule.singular, true)
      else if !rule.singular.isEmpty && rule.singular.isSuffixOf lowered then
        (word, false)
      else singularBy word lowered rules

/-- The singular form of a word, and whether the word was a plural. -/
def singular (word : Text) : Text × Bool :=
  singularBy word (Text.lower word) pluralRules

def plural (word : Text) : Text :=
  let lowered := Text.lower word
  match pluralRules.find? fun rule => !rule.singular.isEmpty &&
      rule.singular.isSuffixOf lowered with
  | some rule => exchangeEnding word rule.singular rule.plural
  | none => word ++ "s"

def withArticle (word : Text) : Text :=
  match word with
  | [] => "a "
  | first :: _ =>
      match Text.lowerChar first with
      | [letter] => if letter ∈ ("aeiou" : Text) then "an " ++ word
          else "a " ++ word
      | _ => "a " ++ word

end Noun

end Phrasebook
