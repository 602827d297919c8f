import Phrasebook.Noun

/-!
# Plurals and their singulars

Both directions go through the same rules, but a plural is looked at with its
own endings.  So the plural of a word gives the word back if it was made by a
rule with an ending of its own.  A plural that only adds an `s` does so unless
word and `s` together look like a plural of another rule, or like a singular.
-/

namespace Phrasebook

namespace Text

theorem lowerChar_ne_nil (char : Char) : lowerChar char ≠ [] := by
  unfold lowerChar
  dsimp only
  split
  · exact List.cons_ne_nil _ _
  · split
    · exact List.cons_ne_nil _ _
    · split <;> exact List.cons_ne_nil _ _

private theorem length_le_lower (text : Text) :
    text.length ≤ (lower text).length := by
  induction text with
  | nil => exact Nat.le_refl _
  | cons char rest induction =>
      have present := List.length_pos_iff.mpr (lowerChar_ne_nil char)
      have split : lower (char :: rest) = lowerChar char ++ lower rest :=
        List.flatMap_cons
      rw [split, List.length_append, List.length_cons]
      omega

/-- A text is in lower case if and only if each of its characters is. -/
theorem lower_eq_self_iff {text : Text} :
    lower text = text ↔ ∀ char ∈ text, lowerChar char = [char] := by
  induction text with
  | nil => simp [lower]
  | cons char rest induction =>
      have split : lower (char :: rest) = lowerChar char ++ lower rest :=
        List.flatMap_cons
      rw [split, List.forall_mem_cons, ← induction]
      constructor
      · intro same
        have present := List.length_pos_iff.mpr (lowerChar_ne_nil char)
        have long := length_le_lower rest
        have length := congrArg List.length same
        rw [List.length_append, List.length_cons] at length
        have single : (lowerChar char).length = [char].length := by
          rw [List.length_singleton]
          omega
        exact List.append_inj same single
      · rintro ⟨own, behind⟩
        rw [own, behind]
        rfl

end Text

namespace Noun

def endingRules : List PluralRule :=
  pluralRules.filter fun rule => !rule.singular.isEmpty

/-- No earlier rule applies to a plural that a rule with an ending of its own
has made. -/
theorem singularBy_changed {rule : PluralRule} (member : rule ∈ endingRules)
    (stem : Text) :
    singularBy (stem ++ rule.plural) (stem ++ rule.plural) pluralRules =
      (stem ++ rule.singular, true) := by
  simp [endingRules, pluralRules, -String.reduceToSingleton] at member
  rcases member with rfl | rfl | rfl | rfl | rfl | rfl | rfl | rfl | rfl | rfl <;>
    simp [singularBy, pluralRules, List.isSuffixOf, List.isPrefixOf, exchangeEnding]

theorem singularBy_doubled (stem : Text) :
    singularBy (stem ++ "ss") (stem ++ "ss") pluralRules =
      (stem ++ "ss", false) := by
  simp [singularBy, pluralRules, List.isSuffixOf, List.isPrefixOf]

/-- With an `s` behind them, these endings are those of plurals that another
rule has made. -/
def misreadEndings : List Text :=
  ["ie", "che", "she", "sse", "xe"]

/-- The endings of words that decide about the word with an `s` behind it. -/
def decidingEndings : List Text :=
  "ay" :: "ey" :: "oy" :: "uy" :: "s" :: misreadEndings

theorem singularBy_added {word : Text}
    (regular : ∀ ending ∈ decidingEndings, ¬ ending <:+ word) :
    singularBy (word ++ "s") (word ++ "s") pluralRules = (word, true) := by
  simp [decidingEndings, misreadEndings, ← List.reverse_prefix] at regular
  simp [singularBy, pluralRules, List.isSuffixOf, List.isPrefixOf,
    exchangeEnding, regular]

/-! ## Endings of one word -/

theorem misread_apart {rule : PluralRule} (member : rule ∈ endingRules)
    {ending word : Text} (misread : ending ∈ misreadEndings)
    (isEnding : ending <:+ word) :
    ¬ rule.singular <:+ word := by
  have apart : ∀ rule ∈ endingRules, ∀ ending ∈ misreadEndings,
      ¬ rule.singular <:+ ending ∧ ¬ ending <:+ rule.singular := by
    decide
  intro isOther
  obtain ⟨notLonger, notShorter⟩ := apart rule member ending misread
  rcases List.suffix_or_suffix_of_suffix isOther isEnding with longer | shorter
  · exact notLonger longer
  · exact notShorter shorter

/-- The only rule with an ending of its own for words that end in `s` is for a
double one. -/
theorem doubled_of_changed {rule : PluralRule} (member : rule ∈ endingRules)
    {word : Text} (isEnding : rule.singular <:+ word)
    (endsInS : ("s" : Text) <:+ word) :
    ("ss" : Text) <:+ word := by
  have isDouble : ∀ rule ∈ endingRules,
      rule.singular <:+ ("s" : Text) ∨ ("s" : Text) <:+ rule.singular →
      rule.singular = "ss" := by
    decide
  rw [← isDouble rule member (List.suffix_or_suffix_of_suffix isEnding endsInS)]
  exact isEnding

theorem misread_plural {ending : Text} (misread : ending ∈ misreadEndings) :
    ∃ rule ∈ endingRules, rule.plural = ending ++ "s" ∧ rule.singular ≠ ending := by
  have each : ∀ ending ∈ misreadEndings,
      ∃ rule ∈ endingRules, rule.plural = ending ++ "s" ∧
      rule.singular ≠ ending := by
    decide
  exact each ending misread

theorem deciding_cases {ending : Text} (deciding : ending ∈ decidingEndings) :
    (∃ rule ∈ endingRules, rule.singular = ending) ∨ ending ∈ misreadEndings ∨
    ending = "s" := by
  have each : ∀ ending ∈ decidingEndings,
      (∃ rule ∈ endingRules, rule.singular = ending) ∨ ending ∈ misreadEndings ∨
      ending = "s" := by
    decide
  exact each ending deciding

/-! ## The plural of a word -/

variable {word : Text}

theorem plural_cases (lowercase : Text.lower word = word) :
    (∃ rule ∈ endingRules, ∃ stem, word = stem ++ rule.singular ∧
      plural word = stem ++ rule.plural) ∨
    (∀ rule ∈ endingRules, ¬ rule.singular <:+ word) ∧
    plural word = word ++ "s" := by
  unfold plural
  rw [lowercase]
  dsimp only
  cases found : pluralRules.find? fun rule =>
      !rule.singular.isEmpty && rule.singular.isSuffixOf word with
  | some rule =>
      left
      have decides := List.find?_some found
      simp only [Bool.and_eq_true, List.isSuffixOf_iff_suffix] at decides
      obtain ⟨hasEnding, stem, rfl⟩ := decides
      refine ⟨rule, List.mem_filter.mpr ⟨List.mem_of_find?_eq_some found,
        hasEnding⟩, stem, rfl, ?_⟩
      simp [exchangeEnding]
  | none =>
      right
      refine ⟨?_, rfl⟩
      intro rule member isEnding
      obtain ⟨listed, hasEnding⟩ := List.mem_filter.mp member
      have undecided := List.find?_eq_none.mp found rule listed
      simp only [hasEnding, Bool.true_and, List.isSuffixOf_iff_suffix] at undecided
      exact undecided isEnding

theorem lower_plural (lowercase : Text.lower word = word) :
    Text.lower (plural word) = plural word := by
  have lowered := Text.lower_eq_self_iff.mp lowercase
  apply Text.lower_eq_self_iff.mpr
  rcases plural_cases lowercase with ⟨rule, member, stem, rfl, made⟩ | ⟨_, made⟩
  · rw [made, List.forall_mem_append]
    refine ⟨fun char inStem => lowered char (List.mem_append_left _ inStem), ?_⟩
    have endings : ∀ rule ∈ endingRules, Text.lower rule.plural =
        rule.plural := by decide
    exact Text.lower_eq_self_iff.mp (endings rule member)
  · rw [made, List.forall_mem_append]
    exact ⟨lowered, Text.lower_eq_self_iff.mp (by decide)⟩

private theorem singular_misread (lowercase : Text.lower word = word)
    {ending : Text} (misread : ending ∈ misreadEndings)
    (isEnding : ending <:+ word) :
    singular (plural word) ≠ (word, true) := by
  rw [singular, lower_plural lowercase]
  rcases plural_cases lowercase with ⟨rule, member, stem, rfl, _⟩ | ⟨_, made⟩
  · exact absurd (List.suffix_append stem _) (misread_apart member misread isEnding)
  · obtain ⟨rule, member, isPlural, other⟩ := misread_plural misread
    obtain ⟨stem, rfl⟩ := isEnding
    rw [made, List.append_assoc, ← isPlural, singularBy_changed member stem]
    intro same
    exact other (List.append_cancel_left (congrArg Prod.fst same))

private theorem singular_lone (lowercase : Text.lower word = word)
    (isEnding : ("s" : Text) <:+ word) (isLone : ¬ ("ss" : Text) <:+ word) :
    singular (plural word) ≠ (word, true) := by
  rw [singular, lower_plural lowercase]
  rcases plural_cases lowercase with ⟨rule, member, stem, rfl, _⟩ | ⟨_, made⟩
  · exact absurd (doubled_of_changed member (List.suffix_append stem _)
      isEnding) isLone
  · obtain ⟨stem, rfl⟩ := isEnding
    have doubled : stem ++ ("s" : Text) ++ ("s" : Text) =
        stem ++ ("ss" : Text) := by simp
    rw [made, doubled, singularBy_doubled]
    intro same
    cases congrArg Prod.snd same

/-- The plural of a word in lower case gives the word back exactly if the word
has none of the misread endings and does not end in a single `s`. -/
theorem singular_plural_iff (lowercase : Text.lower word = word) :
    singular (plural word) = (word, true) ↔
      (∀ ending ∈ misreadEndings, ¬ ending <:+ word) ∧
        ¬ (("s" : Text) <:+ word ∧ ¬ ("ss" : Text) <:+ word) := by
  constructor
  · intro returns
    constructor
    · intro ending misread isEnding
      exact singular_misread lowercase misread isEnding returns
    · rintro ⟨isEnding, isLone⟩
      exact singular_lone lowercase isEnding isLone returns
  · rintro ⟨notMisread, notLone⟩
    rw [singular, lower_plural lowercase]
    rcases plural_cases lowercase with ⟨rule, member, stem, rfl, made⟩
      | ⟨unchanged, made⟩
    · rw [made]
      exact singularBy_changed member stem
    · rw [made]
      apply singularBy_added
      intro ending deciding isEnding
      rcases deciding_cases deciding with ⟨rule, member, rfl⟩ | misread | rfl
      · exact unchanged rule member isEnding
      · exact notMisread ending misread isEnding
      · have doubled : ("ss" : Text) <:+ word :=
          Decidable.not_not.mp fun isLone => notLone ⟨isEnding, isLone⟩
        obtain ⟨rule, member, isDouble⟩ : ∃ rule ∈ endingRules, rule.singular =
            "ss" := by decide
        rw [← isDouble] at doubled
        exact unchanged rule member doubled

theorem singular_plural_of_glass :
    let glass : Text := "glass"
    let cache : Text := "cache"
    singular (plural glass) = (glass, true) ∧ singular (plural cache) ≠
      (cache, true) := by
  intro glass cache
  constructor
  · exact (singular_plural_iff (by decide)).mpr ⟨by decide, by decide⟩
  · intro returns
    have lowercase : Text.lower cache = cache := by decide
    obtain ⟨notMisread, _⟩ := (singular_plural_iff lowercase).mp returns
    exact absurd notMisread (by decide)

end Noun

end Phrasebook
