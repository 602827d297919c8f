import Phrasebook.Proofs.Rendering.Lists

/-!
# Splitting a list loses nothing

A list is split at separators outside of its quoted runs.  The items and the
separators make up the whole text, and no item can be split any further: the
search for separators in an item by itself sees nothing that it has not seen in
the whole text, since a separator in front of more text is still one.
-/

namespace Phrasebook

open Text (isBlank doubleQuotes quoted)

namespace ListText

/-! ## What separates items -/

def AllBlank (text : Text) : Prop :=
  ∀ char ∈ text, isBlank char = true

/-- The conjunction, in any case of letters, with some blanks behind it. -/
def Words (conjunction : Conjunction) (text : Text) : Prop :=
  ∃ word behind, text = word ++ behind ∧ word.map Char.toLower =
    conjunction.written ∧
    behind ≠ [] ∧ AllBlank behind

/-- A separator, with the conjunction that it carries. -/
inductive Separates : Text → Option Conjunction → Prop where
  /-- A comma, with any blanks around it. -/
  | comma {before behind : Text} : AllBlank before → AllBlank behind →
      Separates (before ++ ',' :: behind) none
  /-- A comma with any blanks around it, and then a conjunction. -/
  | commaWord {before behind phrase : Text} {conjunction : Conjunction} :
      AllBlank before →
      AllBlank behind → Words conjunction phrase →
      Separates (before ++ ',' :: (behind ++ phrase)) (some conjunction)
  /-- A conjunction behind some blanks. -/
  | word {before phrase : Text} {conjunction : Conjunction} : before ≠ [] →
      AllBlank before →
      Words conjunction phrase → Separates (before ++ phrase) (some conjunction)

private theorem letter_solid {char : Char}
    (isLetter : char.toLower ∈ ['a', 'n', 'o']) : Solid char := by
  unfold Char.toLower at isLetter
  split at isLetter
  · rename_i isUpper
    have above : 0x41 ≤ char.toNat := UInt32.le_iff_toNat_le.mp isUpper.1
    have below : char.toNat ≤ 0x5A := UInt32.le_iff_toNat_le.mp isUpper.2
    refine ⟨by simp [isBlank]; omega, ?_, ?_⟩
    · rintro rfl
      exact absurd above (by decide)
    · rintro rfl
      exact absurd above (by decide)
  · have letters : char = 'a' ∨ char = 'n' ∨ char = 'o' := by simpa using isLetter
    rcases letters with rfl | rfl | rfl <;> decide

/-- A conjunction starts with a letter, and has no quote anywhere. -/
theorem Words.starts {conjunction : Conjunction} {text : Text}
    (words : Words conjunction text) :
    ∃ first rest, text = first :: rest ∧ Solid first := by
  obtain ⟨word, behind, rfl, spelled, _⟩ := words
  cases word with
  | nil => cases conjunction <;> cases spelled
  | cons first word =>
      refine ⟨first, word ++ behind, rfl, letter_solid ?_⟩
      have isFirst : conjunction.written.head? = some first.toLower := by
        rw [← spelled]
        rfl
      cases conjunction <;> rw [← Option.some.inj isFirst] <;> decide

theorem AllBlank.noQuote {text : Text} (blank : AllBlank text) : '"' ∉ text := by
  intro member
  have isBlank := blank _ member
  cases isBlank

private theorem Words.noQuote {conjunction : Conjunction} {text : Text}
    (words : Words conjunction text) :
    '"' ∉ text := by
  obtain ⟨word, behind, rfl, spelled, _, blank⟩ := words
  intro member
  rcases List.mem_append.mp member with inWord | inBehind
  · have isLetter : '"'.toLower ∈ word.map Char.toLower :=
      List.mem_map_of_mem inWord
    rw [spelled] at isLetter
    cases conjunction <;> revert isLetter <;> decide
  · exact blank.noQuote inBehind

namespace Separates

variable {separator : Text} {word : Option Conjunction}

theorem noQuote (separates : Separates separator word) : '"' ∉ separator := by
  cases separates with
  | comma before behind => simp [before.noQuote, behind.noQuote]
  | commaWord before behind words =>
      simp [before.noQuote, behind.noQuote, words.noQuote]
  | word _ before words => simp [before.noQuote, words.noQuote]

theorem present (separates : Separates separator word) : separator ≠ [] := by
  cases separates with
  | comma => simp
  | commaWord => simp
  | word nonempty => simp [nonempty]

end Separates

/-! ## Separators that are found -/

theorem blanks_split (text : Text) :
    ∃ before behind, text = before ++ behind ∧ AllBlank before ∧
    blanks text = before.length :=
  ⟨text.takeWhile isBlank, text.dropWhile isBlank,
    List.takeWhile_append_dropWhile.symm,
    fun char member => List.all_eq_true.mp List.all_takeWhile char member, rfl⟩

theorem blanks_append {before : Text} (blank : AllBlank before) (behind : Text) :
    blanks (before ++ behind) = before.length + blanks behind := by
  rw [blanks, List.takeWhile_append_of_pos blank, List.length_append]
  rfl

private theorem leading_split {text : Text} {conjunction : Conjunction}
    (leads : Conjunction.leading? text = some conjunction) :
    ∃ word blank behind, text = word ++ blank :: behind ∧
      word.length = conjunction.written.length ∧
      word.map Char.toLower = conjunction.written ∧ isBlank blank = true := by
  have holds := List.find?_some leads
  simp only [Bool.and_eq_true, beq_iff_eq] at holds
  obtain ⟨spelled, blankNext⟩ := holds
  obtain ⟨blank, isNext, isBlank⟩ := (Option.any_eq_true _ _).mp blankNext
  obtain ⟨behind, isBehind⟩ := List.head?_eq_some_iff.mp isNext
  refine ⟨text.take conjunction.written.length, blank, behind, ?_, ?_,
    spelled, isBlank⟩
  · rw [← isBehind, List.take_append_drop]
  · simpa using congrArg List.length spelled

private theorem leadingWord_sound {text : Text} {found : Separator}
    (leads : leadingWord? text = some found) :
    ∃ conjunction phrase rest, text = phrase ++ rest ∧
    phrase.length = found.length ∧
      found.word = some conjunction ∧ Words conjunction phrase := by
  obtain ⟨conjunction, isLeading, rfl⟩ := Option.map_eq_some_iff.mp leads
  obtain ⟨word, blank, behind, rfl, length, spelled, isBlank⟩ :=
    leading_split isLeading
  obtain ⟨more, rest, split, blankMore, counted⟩ := blanks_split (blank :: behind)
  have notEmpty : more ≠ [] := by
    rintro rfl
    simp [blanks, isBlank] at counted
  refine ⟨conjunction, word ++ more, rest, ?_, ?_, rfl, word, more, rfl,
    spelled, notEmpty, blankMore⟩
  · rw [split, List.append_assoc]
  · dsimp only
    rw [← length, List.drop_left, counted, List.length_append]

theorem leadingWord_found {conjunction : Conjunction} {phrase : Text}
    (words : Words conjunction phrase) (rest : Text) :
    (leadingWord? (phrase ++ rest)).isSome = true := by
  obtain ⟨word, behind, rfl, spelled, present, blank⟩ := words
  obtain ⟨first, more, rfl⟩ := List.exists_cons_of_ne_nil present
  have length : conjunction.written.length = word.length := by
    simpa using congrArg List.length spelled.symm
  rw [leadingWord?, Option.isSome_map, Conjunction.leading?, List.find?_isSome]
  refine ⟨conjunction, by cases conjunction <;> simp, ?_⟩
  dsimp only
  rw [length, List.append_assoc, List.take_left, List.drop_left, spelled]
  simp [blank first List.mem_cons_self]

/-- What is taken for a separator is one. -/
theorem separator_sound {text : Text} {found : Separator}
    (starts : separator? text = some found) :
    ∃ separator rest, text = separator ++ rest ∧ separator.length = found.length ∧
      Separates separator found.word := by
  obtain ⟨before, behind, rfl, blank, counted⟩ := blanks_split text
  unfold separator? at starts
  dsimp only at starts
  rw [counted, List.drop_left] at starts
  split at starts
  · rename_i behindComma
    obtain ⟨more, later, rfl, blankMore, countedMore⟩ := blanks_split behindComma
    have joined : before ++ ',' :: (more ++ later) = (before ++ ',' :: more) ++
        later := by simp
    have past :
        (before ++ ',' :: (more ++ later)).drop
        (before.length + 1 + more.length) = later := by
      rw [joined]
      apply List.drop_left'
      simp
      omega
    rw [countedMore, past] at starts
    split at starts
    · rename_i word leads
      obtain ⟨conjunction, phrase, rest, rfl, length, isWord, words⟩ :=
        leadingWord_sound leads
      cases starts
      refine ⟨before ++ ',' :: (more ++ phrase), rest, by simp, ?_, ?_⟩
      · simp [← length]
        omega
      · rw [isWord]
        exact .commaWord blank blankMore words
    · cases starts
      exact ⟨before ++ ',' :: more,
        later, by simp, by simp; omega, .comma blank blankMore⟩
  · split at starts
    · cases starts
    · rename_i spaced
      obtain ⟨word, leads, rfl⟩ := Option.map_eq_some_iff.mp starts
      obtain ⟨conjunction, phrase, rest, rfl, length, isWord, words⟩ :=
        leadingWord_sound leads
      refine ⟨before ++ phrase, rest, by simp, by simp [length], ?_⟩
      rw [isWord]
      exact .word (mt List.length_eq_zero_iff.mpr spaced) blank words

private theorem comma_found {before : Text} (blank : AllBlank before)
    (rest : Text) :
    (separator? (before ++ ',' :: rest)).isSome = true := by
  have counted : blanks (before ++ ',' :: rest) = before.length := by
    rw [blanks_append blank, blanks_solid (by decide), Nat.add_zero]
  unfold separator?
  dsimp only
  rw [counted, List.drop_left]
  split
  · split <;> rfl
  · rename_i noComma
    exact absurd rfl (noComma rest)

/-- Where a separator stands one is found, whatever stands behind it. -/
theorem separator_found {separator : Text} {word : Option Conjunction}
    (separates : Separates separator word) (rest : Text) :
    (separator? (separator ++ rest)).isSome = true := by
  cases separates with
  | @comma before behind blank _ =>
      rw [List.append_assoc]
      exact comma_found blank _
  | @commaWord before behind phrase _ blank _ _ =>
      rw [List.append_assoc]
      exact comma_found blank _
  | @word before phrase _ spaced blank words =>
      have found := leadingWord_found words rest
      obtain ⟨first, more, rfl, noBlank, noComma, _⟩ := words.starts
      have counted : blanks (before ++ (first :: more ++ rest)) =
          before.length := by
        rw [blanks_append blank, List.cons_append, blanks_solid noBlank,
          Nat.add_zero]
      unfold separator?
      dsimp only
      rw [List.append_assoc, counted, List.drop_left, List.cons_append]
      split
      · rename_i same
        exact absurd (List.cons.inj same).1 noComma
      · rw [if_neg (mt List.length_eq_zero_iff.mp spaced), Option.isSome_map]
        exact found

/-- Where no separator is found, none is found in less text. -/
theorem separator_none_of_append {text behind : Text}
    (unfound : separator? (text ++ behind) = none) :
    separator? text = none := by
  cases starts : separator? text with
  | none => rfl
  | some found =>
      obtain ⟨separator, rest, rfl, _, separates⟩ := separator_sound starts
      have still := separator_found separates (rest ++ behind)
      rw [← List.append_assoc, unfound] at still
      cases still

end ListText

/-! ## Quoted runs -/

namespace Text

/-- All quoted runs of the text are closed. -/
inductive Closed : Text → Prop where
  | nil : Closed []
  | plain {char : Char} {rest : Text} : char ≠ '"' → Closed rest →
      Closed (char :: rest)
  | quoted (inside : Text) {rest : Text} : rest.head? ≠ some '"' → Closed rest →
      Closed (quoted inside ++ rest)

/-- A closed quoted run of the text, with what stands before and behind it.  It
opens where all earlier runs are closed, and no further quote stands next to
it. -/
structure QuotedRun (text before inside behind : Text) : Prop where
  whole : text = before ++ (quoted inside ++ behind)
  closed : Closed before
  opens : before.getLast? ≠ some '"'
  ends : behind.head? ≠ some '"'

private theorem count_doubleQuotes (inside : Text) :
    (doubleQuotes inside).count '"' % 2 = 0 := by
  fun_induction doubleQuotes inside with
  | case1 => rfl
  | case2 rest induction =>
      simp only [List.count_cons_self]
      omega
  | case3 char rest notQuote induction =>
      have other : char ≠ '"' := fun same => notQuote same
      rwa [List.count_cons_of_ne other]

theorem count_quoted (inside : Text) : (quoted inside).count '"' % 2 = 0 := by
  have inner := count_doubleQuotes inside
  rw [quoted, List.count_cons_self, List.count_append, List.count_singleton_self]
  omega

private theorem Closed.count_even {text : Text} (closed : Closed text) :
    text.count '"' % 2 = 0 := by
  induction closed with
  | nil => rfl
  | plain noQuote _ induction => rwa [List.count_cons_of_ne noQuote]
  | quoted inside _ _ induction =>
      have inner := count_quoted inside
      rw [List.count_append]
      omega

/-- Within a quoted text, an odd number of quotes has another quote right behind
it. -/
theorem quote_of_odd {inside first second : Text}
    (odd : first.count '"' % 2 = 1)
    (split : doubleQuotes inside ++ ['"'] = first ++ second)
    (unfinished : second ≠ []) :
    second.head? = some '"' := by
  fun_induction doubleQuotes inside generalizing first with
  | case1 =>
      cases first with
      | nil => cases odd
      | cons char first =>
          have length := congrArg List.length split
          have longer := List.length_pos_iff.mpr unfinished
          simp only [List.length_append, List.length_cons, List.length_nil]
            at length
          omega
  | case2 rest induction =>
      cases first with
      | nil => cases odd
      | cons char first =>
          obtain ⟨rfl, later⟩ := List.cons.inj split
          cases first with
          | nil =>
              obtain rfl := later
              rfl
          | cons next first =>
              obtain ⟨rfl, behind⟩ := List.cons.inj later
              refine induction ?_ behind
              simp only [List.count_cons_self] at odd
              omega
  | case3 char rest notQuote induction =>
      cases first with
      | nil => cases odd
      | cons next first =>
          obtain ⟨rfl, behind⟩ := List.cons.inj split
          refine induction ?_ behind
          rwa [List.count_cons_of_ne fun same => notQuote same] at odd

/-- A text without quotes that stands behind an even number of them lies outside
of the run. -/
theorem QuotedRun.apart {text before inside behind first middle rest : Text}
    (run : QuotedRun text before inside behind)
    (whole : text = first ++ (middle ++ rest)) (even : first.count '"' % 2 = 0)
    (noQuote : '"' ∉ middle) (present : middle ≠ []) :
    (first ++ middle).length ≤ before.length ∨
    (before ++ quoted inside).length ≤ first.length := by
  obtain ⟨next, middle, rfl⟩ := List.exists_cons_of_ne_nil present
  have notQuote : next ≠ '"' := fun same => noQuote (by simp [same])
  have evenBefore := run.closed.count_even
  have joined := run.whole
  rw [whole] at joined
  rcases List.append_eq_append_iff.mp joined with ⟨more, rfl, split⟩
    | ⟨more, rfl, split⟩
  · left
    rcases List.append_eq_append_iff.mp split with ⟨later, rfl, _⟩
      | ⟨later, isMiddle, opens⟩
    · simp
    · cases later with
      | nil => simp [isMiddle]
      | cons char later =>
          obtain ⟨rfl, _⟩ := List.cons.inj opens
          rw [isMiddle] at noQuote
          simp at noQuote
  · right
    rcases List.append_eq_append_iff.mp split with ⟨later, rfl, _⟩
      | ⟨later, isRun, isRest⟩
    · simp
    · cases later with
      | nil =>
          rw [List.append_nil] at isRun
          simp [isRun]
      | cons char later =>
          obtain ⟨rfl, _⟩ := List.cons.inj isRest
          cases more with
          | nil => exact absurd (List.cons.inj isRun).1.symm notQuote
          | cons opening more =>
              obtain ⟨rfl, isInside⟩ := List.cons.inj isRun
              rw [List.count_append, List.count_cons_self] at even
              have again := quote_of_odd (by omega) isInside
                (List.cons_ne_nil next later)
              exact absurd (Option.some.inj again) notQuote

end Text

namespace ListText

/-! ## The first item -/

/-- With this part read so far, an item and a separator behind it come next. -/
structure Breaks (part text more separator rest : Text)
    (word : Option Conjunction) : Prop where
  whole : text = more ++ (separator ++ rest)
  present : part ++ more ≠ []
  separates : Separates separator word
  even : more.count '"' % 2 = 0
  /-- The item stays whole when it is split by itself. -/
  alone : Splits part more [part ++ more] true
  divides {parts : List Text} {andList : Bool} : Splits [] rest parts andList →
    Splits part text ((part ++ more) :: parts) (word.all (· == .and) && andList)

namespace Breaks

variable {part text more separator rest : Text} {word : Option Conjunction}

theorem here {char : Char} {found : Separator} (noQuote : char ≠ '"')
    (present : part ≠ []) (starts : separator? (char :: text) = some found) :
    ∃ separator rest, Breaks part (char :: text) [] separator rest found.word := by
  obtain ⟨separator, rest, split, length, separates⟩ := separator_sound starts
  refine ⟨separator, rest, split, by simpa using present, separates, rfl, ?_, ?_⟩
  · rw [List.append_nil]
    exact .finished part
  · intro parts andList later
    have behind : (char :: text).drop found.length = rest := by
      rw [split, ← length, List.drop_left]
    rw [List.append_nil]
    apply Splits.separated present noQuote starts
    · rw [← length]
      exact List.length_pos_iff.mpr separates.present
    · rwa [behind]

theorem taken {char : Char} (noQuote : char ≠ '"')
    (unseparated : part ≠ [] → separator? (char :: text) = none)
    (breaks : Breaks (part ++ [char]) text more separator rest word) :
    Breaks part (char :: text) (char :: more) separator rest word where
  whole := by rw [breaks.whole, List.cons_append]
  present := by simp
  separates := breaks.separates
  even := by
    rw [List.count_cons_of_ne noQuote]
    exact breaks.even
  alone := by
    apply Splits.taken noQuote
    · intro present
      have unfound := unseparated present
      rw [breaks.whole, ← List.cons_append] at unfound
      exact separator_none_of_append unfound
    · simpa using breaks.alone
  divides later := by
    apply Splits.taken noQuote unseparated
    simpa using breaks.divides later

theorem quoted (inside : Text) (noQuote : text.head? ≠ some '"')
    (breaks : Breaks (part ++ Text.quoted inside) text more separator rest word) :
    Breaks part (Text.quoted inside ++ text) (Text.quoted inside ++ more)
      separator rest word where
  whole := by rw [breaks.whole, List.append_assoc]
  present := by simp [Text.quoted]
  separates := breaks.separates
  even := by
    have first := Text.count_quoted inside
    have second := breaks.even
    rw [List.count_append]
    omega
  alone := by
    apply Splits.quoted inside
    · intro starts
      obtain ⟨behind, rfl⟩ := List.head?_eq_some_iff.mp starts
      rw [breaks.whole] at noQuote
      exact noQuote rfl
    · simpa using breaks.alone
  divides later := by
    apply Splits.quoted inside noQuote
    simpa using breaks.divides later

end Breaks

/-- The rest of a text goes to the item that is being read, or a separator ends
the item. -/
theorem alone_or_breaks (part text : Text) :
    Splits part text [part ++ text] true ∨
      ∃ more separator rest word, Breaks part text more separator rest word := by
  match text with
  | [] =>
      rw [List.append_nil]
      exact .inl (.finished part)
  | char :: behind =>
      by_cases isQuote : char = '"'
      · subst isQuote
        cases found : Text.closingQuote behind with
        | none => exact .inl (.unclosed found)
        | some offset =>
            obtain ⟨inside, later, rfl, _, noQuote⟩ := Text.closingQuote_split found
            have opened :
                '"' :: (doubleQuotes inside ++ '"' :: later) =
                  quoted inside ++ later := by
              simp [quoted]
            rw [opened]
            rcases alone_or_breaks (part ++ quoted inside) later with
              alone | ⟨more, separator, rest, word, breaks⟩
            · left
              apply Splits.quoted inside noQuote
              simpa using alone
            · exact .inr ⟨_, separator, rest, word, breaks.quoted inside noQuote⟩
      · by_cases unseparated : part ≠ [] → separator? (char :: behind) = none
        · rcases alone_or_breaks (part ++ [char]) behind with
            alone | ⟨more, separator, rest, word, breaks⟩
          · left
            apply Splits.taken isQuote unseparated
            simpa using alone
          · exact .inr ⟨_, separator, rest, word, breaks.taken isQuote unseparated⟩
        · obtain ⟨present, starts⟩ := Classical.not_imp.mp unseparated
          obtain ⟨found, isFound⟩ := Option.ne_none_iff_exists'.mp starts
          obtain ⟨separator, rest, breaks⟩ := Breaks.here isQuote present isFound
          exact .inr ⟨[], separator, rest, _, breaks⟩
termination_by text.length

/-! ## The whole list -/

/-- An item with the separator behind it. -/
structure Joint where
  item : Text
  separator : Text
  word : Option Conjunction
  present : item ≠ []
  separates : Separates separator word

def Joint.text (joint : Joint) : Text :=
  joint.item ++ joint.separator

/-- The text is divided into items that can not be split further, with
separators between them. -/
structure Divides (text : Text) (joints : List Joint) (last : Text) : Prop where
  whole : text = joints.flatMap Joint.text ++ last
  splits : Splits [] text (joints.map Joint.item ++ [last])
    (joints.all fun joint => joint.word.all (· == .and))
  even : ∀ joint ∈ joints, joint.item.count '"' % 2 = 0
  alone : ∀ item ∈ joints.map Joint.item ++ [last], Splits [] item [item] true

namespace Divides

variable {text last : Text} {joints : List Joint}

theorem single (alone : Splits [] text [text] true) : Divides text [] text where
  whole := rfl
  splits := alone
  even := by simp
  alone := by simpa using alone

theorem cons {joint : Joint} {rest : Text}
    (breaks : Breaks [] text joint.item joint.separator rest joint.word)
    (later : Divides rest joints last) : Divides text (joint :: joints) last where
  whole := by
    rw [breaks.whole, later.whole, List.flatMap_cons, Joint.text, List.append_assoc,
      List.append_assoc]
  splits := breaks.divides later.splits
  even := List.forall_mem_cons.mpr ⟨breaks.even, later.even⟩
  alone := List.forall_mem_cons.mpr ⟨breaks.alone, later.alone⟩

private theorem count_even (divides : Divides text joints last) {front : List Joint}
    (among : front ⊆ joints) : (front.flatMap Joint.text).count '"' % 2 = 0 := by
  induction front with
  | nil => rfl
  | cons joint front induction =>
      obtain ⟨isJoint, others⟩ := List.cons_subset.mp among
      have inItem := divides.even joint isJoint
      have inSeparator := List.count_eq_zero.mpr joint.separates.noQuote
      have behind := induction others
      rw [List.flatMap_cons, Joint.text, List.count_append, List.count_append]
      omega

/-- Each separator stands outside of each closed quoted run. -/
theorem separator_apart {front back : List Joint} {joint : Joint}
    {before inside behind : Text}
    (divides : Divides text (front ++ joint :: back) last)
    (run : text.QuotedRun before inside behind) :
    (front.flatMap Joint.text ++ joint.item ++ joint.separator).length ≤
      before.length ∨
      (before ++ quoted inside).length ≤
        (front.flatMap Joint.text ++ joint.item).length := by
  have whole : text = front.flatMap Joint.text ++ joint.item ++
      (joint.separator ++ (back.flatMap Joint.text ++ last)) := by
    rw [divides.whole]
    simp [Joint.text]
  have inFront := divides.count_even (List.subset_append_left front (joint :: back))
  have inItem := divides.even joint (by simp)
  apply run.apart whole _ joint.separates.noQuote joint.separates.present
  rw [List.count_append]
  omega

end Divides

private theorem exists_divides (text : Text) :
    ∃ joints last, Divides text joints last := by
  rcases alone_or_breaks [] text with alone | ⟨item, separator, rest, word, breaks⟩
  · exact ⟨[], text, .single alone⟩
  · have shorter : rest.length < text.length := by
      have long := List.length_pos_iff.mpr breaks.separates.present
      rw [breaks.whole, List.length_append, List.length_append]
      omega
    obtain ⟨joints, last, divides⟩ := exists_divides rest
    let joint : Joint := ⟨item, separator, word, breaks.present, breaks.separates⟩
    exact ⟨joint :: joints, last, .cons breaks divides⟩
termination_by text.length

/-- The items and the separators make up the text.  The separators stand outside
of its closed quoted runs, and decide whether all items are meant together.  No
item can be split further. -/
theorem split_complete (text : Text) :
    ∃ (joints : List Joint) (last : Text),
      (split text).1 = joints.map Joint.item ++ [last] ∧
      text = joints.flatMap Joint.text ++ last ∧
      (∀ front joint back, joints = front ++ joint :: back →
        ∀ before inside behind, text.QuotedRun before inside behind →
          (front.flatMap Joint.text ++ joint.item ++ joint.separator).length ≤
            before.length ∨
            (before ++ quoted inside).length ≤
              (front.flatMap Joint.text ++ joint.item).length) ∧
      ((split text).2 = false ↔
        ∃ joint ∈ joints, joint.word = some .or ∨ joint.word = some .nor) ∧
      ∀ part ∈ (split text).1, split part = ([part], true) := by
  obtain ⟨joints, last, divides⟩ := exists_divides text
  have isSplit : split text = _ := divides.splits text.length (Nat.le_refl _)
  refine ⟨joints, last, by rw [isSplit], divides.whole, ?_, ?_, ?_⟩
  · rintro front joint back rfl before inside behind run
    exact divides.separator_apart run
  · have disjoins (word : Option Conjunction) :
        word.all (· == .and) = false ↔ word = some .or ∨ word = some .nor := by
      rcases word with _ | ⟨_ | _ | _⟩ <;> decide
    simp only [isSplit, List.all_eq_false, Bool.not_eq_true, disjoins]
  · rw [isSplit]
    intro part member
    exact divides.alone part member part.length (Nat.le_refl _)

/-- At the start of an item a separator does not count, and neither does one in
quotes. -/
example :
    let items : List Text := ["red", ", \"a or b\"", "blue"]
    split "red,, \"a or b\" Or blue" = (items, false) := by
  decide

end ListText

end Phrasebook
