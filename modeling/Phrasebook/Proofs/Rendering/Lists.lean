import Phrasebook.Proofs.Rendering.RoundTrip

/-!
# Lists come back

A literal of several values is printed as a list of written forms, and that list
is split and read back as the same literal.  The splitter passes over each
written form as a whole, since it is quoted or has nothing in it that could
separate items, and it finds a separator right behind it.
-/

namespace Phrasebook

open Text (isBlank doubleQuotes)

namespace ListText

/-! ## Items -/

/-- A character that the splitter takes into an item. -/
def Solid (char : Char) : Prop :=
  isBlank char = false ∧ char ≠ ',' ∧ char ≠ '"'

instance : DecidablePred Solid :=
  fun _ => inferInstanceAs (Decidable (_ ∧ _))

/-- A text that the splitter takes as one item wherever it stands: a quoted
text, or a word that does not start like a conjunction. -/
inductive Item : Text → Prop where
  | quoted (text : Text) : Item (Text.quoted text)
  | word {first : Char} {rest : Text} :
      (∀ char ∈ first :: rest, Solid char) → first.toLower ∉ ['a', 'n', 'o'] →
      Item (first :: rest)

/-- With this part read so far, the rest of the text is split into these items. -/
def Splits (part text : Text) (parts : List Text) (andList : Bool) : Prop :=
  ∀ fuel, text.length ≤ fuel → splitFrom fuel part text = (parts, andList)

namespace Splits

variable {part behind : Text} {parts : List Text} {andList : Bool}

theorem finished (part : Text) : Splits part [] [part] true := by
  intro fuel _
  cases fuel with
  | zero => rw [splitFrom, List.append_nil]
  | succ fuel => rw [splitFrom]

theorem quoted (text : Text) (noQuote : behind.head? ≠ some '"')
    (later : Splits (part ++ Text.quoted text) behind parts andList) :
    Splits part (Text.quoted text ++ behind) parts andList := by
  intro fuel enough
  have opened : Text.quoted text ++ behind =
      '"' :: (doubleQuotes text ++ '"' :: behind) := by
    simp [Text.quoted]
  have closed := (Text.closingQuote_doubled_iff text behind).mpr noQuote
  have taken : (doubleQuotes text ++ '"' :: behind).take
    ((doubleQuotes text).length + 1) =
      doubleQuotes text ++ ['"'] :=
    List.take_length_add_append 1
  have left : (doubleQuotes text ++ '"' :: behind).drop
    ((doubleQuotes text).length + 1) =
      behind :=
    List.drop_length_add_append 1
  rw [opened] at enough ⊢
  cases fuel with
  | zero => cases enough
  | succ fuel =>
      rw [splitFrom, if_pos rfl, closed]
      dsimp only
      rw [taken, left]
      apply later
      simp only [List.length_cons, List.length_append] at enough
      omega

theorem unclosed {rest : Text} (endless : Text.closingQuote rest = none) :
    Splits part ('"' :: rest) [part ++ '"' :: rest] true := by
  intro fuel enough
  cases fuel with
  | zero => cases enough
  | succ fuel => rw [splitFrom, if_pos rfl, endless]

theorem taken {char : Char} (noQuote : char ≠ '"')
    (unseparated : part ≠ [] → separator? (char :: behind) = none)
    (later : Splits (part ++ [char]) behind parts andList) :
    Splits part (char :: behind) parts andList := by
  have goesOn : (if part.isEmpty then none else separator? (char :: behind)) =
      none := by
    by_cases isStart : part = []
    · rw [if_pos (List.isEmpty_iff.mpr isStart)]
    · rw [unseparated isStart, ite_self]
  intro fuel enough
  cases fuel with
  | zero => cases enough
  | succ fuel =>
      rw [splitFrom, if_neg noQuote, goesOn]
      exact later fuel (Nat.le_of_succ_le_succ enough)

theorem solid {char : Char} (isSolid : Solid char)
    (later : Splits (part ++ [char]) behind parts andList) :
    Splits part (char :: behind) parts andList := by
  obtain ⟨noBlank, noComma, noQuote⟩ := isSolid
  apply taken noQuote _ later
  intro _
  simp [separator?, blanks, noBlank, noComma]

theorem solids {chars : Text} (areSolid : ∀ char ∈ chars, Solid char)
    (later : Splits (part ++ chars) behind parts andList) :
    Splits part (chars ++ behind) parts andList := by
  induction chars generalizing part with
  | nil => rwa [List.append_nil] at later
  | cons char chars induction =>
      apply solid (areSolid char List.mem_cons_self)
      apply induction fun other member =>
        areSolid other (List.mem_cons_of_mem char member)
      rwa [List.append_assoc]

/-- An item is taken as a whole, unless another quote stands behind it. -/
theorem item {item : Text} (isItem : Item item) (noQuote : behind.head? ≠ some '"')
    (later : Splits (part ++ item) behind parts andList) :
    Splits part (item ++ behind) parts andList := by
  cases isItem with
  | quoted text => exact quoted text noQuote later
  | word areSolid _ => exact solids areSolid later

theorem separated {char : Char} {separator : Separator} (present : part ≠ [])
    (noQuote : char ≠ '"') (found : separator? (char :: behind) = some separator)
    (long : 0 < separator.length)
    (later : Splits [] ((char :: behind).drop separator.length) parts andList) :
    Splits part (char :: behind) (part :: parts)
      (separator.word.all (· == .and) && andList) := by
  have notEmpty : part.isEmpty = false := by simpa using present
  intro fuel enough
  cases fuel with
  | zero => cases enough
  | succ fuel =>
      have shorter : ((char :: behind).drop separator.length).length ≤ fuel := by
        rw [List.length_drop]
        omega
      rw [splitFrom, if_neg noQuote, notEmpty]
      simp only [Bool.false_eq_true, if_false, found, later fuel shorter]

end Splits

/-! ## Separators -/

def StartsItem (text : Text) : Prop :=
  ∃ first rest, text = first :: rest ∧ isBlank first = false ∧
  first.toLower ∉ ['a', 'n', 'o']

theorem Item.starts {item : Text} (isItem : Item item) (behind : Text) :
    StartsItem (item ++ behind) := by
  cases isItem with
  | quoted text => exact ⟨'"', _, rfl, by decide, by decide⟩
  | word areSolid noConjunction =>
      exact ⟨_, _, rfl, (areSolid _ List.mem_cons_self).1, noConjunction⟩

theorem blanks_solid {char : Char} (noBlank : isBlank char = false) (text : Text) :
    blanks (char :: text) = 0 := by
  simp [blanks, noBlank]

theorem blanks_space (text : Text) : blanks (' ' :: text) = blanks text + 1 := by
  simp [blanks, isBlank]

theorem blanks_of_starts {text : Text} (starts : StartsItem text) :
    blanks text = 0 := by
  obtain ⟨first, rest, rfl, noBlank, _⟩ := starts
  exact blanks_solid noBlank rest

private theorem leadingWord_of_starts {text : Text} (starts : StartsItem text) :
    leadingWord? text = none := by
  obtain ⟨first, rest, rfl, _, noConjunction⟩ := starts
  simp only [List.mem_cons, List.not_mem_nil, or_false, not_or] at noConjunction
  simp [leadingWord?, Conjunction.leading?, Conjunction.written, noConjunction]

theorem separator_comma {text : Text} (starts : StartsItem text) :
    separator? (',' :: ' ' :: text) = some ⟨2, none⟩ := by
  simp [separator?, blanks_solid, blanks_space, isBlank, blanks_of_starts starts,
    leadingWord_of_starts starts]

theorem separator_and {text : Text} (starts : StartsItem text) :
    separator? (" and " ++ text) = some ⟨5, some .and⟩ := by
  simp [separator?, blanks_solid, blanks_space, isBlank, leadingWord?,
    Conjunction.leading?, Conjunction.written, blanks_of_starts starts]

theorem separator_or {text : Text} (starts : StartsItem text) :
    separator? (" or " ++ text) = some ⟨4, some .or⟩ := by
  simp [separator?, blanks_solid, blanks_space, isBlank, leadingWord?,
    Conjunction.leading?, Conjunction.written, blanks_of_starts starts]

/-! ## Splitting a written list -/

theorem join_pair (first second : Text) (andList : Bool) :
    join [first, second] andList =
      first ++ ((if andList then " and " else " or ") ++ second) := by
  simp [join, Text.join]

theorem join_cons (first second third : Text) (items : List Text) (andList : Bool) :
    join (first :: second :: third :: items) andList =
      first ++ (", " ++ join (second :: third :: items) andList) := by
  simp [join, Text.join]

theorem Item.present {item : Text} (isItem : Item item) : item ≠ [] := by
  cases isItem with
  | quoted text => exact List.cons_ne_nil _ _
  | word _ _ => exact List.cons_ne_nil _ _

/-- A written list starts with its first item. -/
theorem join_starts {first : Text} (isItem : Item first) (items : List Text)
    (andList : Bool) :
    StartsItem (join (first :: items) andList) := by
  cases items with
  | nil => simpa [join] using isItem.starts []
  | cons second items =>
      cases items with
      | nil =>
          rw [join_pair]
          exact isItem.starts _
      | cons third items =>
          rw [join_cons]
          exact isItem.starts _

theorem splits_item {item : Text} (isItem : Item item) :
    Splits [] item [item] true := by
  have taken : Splits [] (item ++ []) [item] true :=
    Splits.item isItem (by simp) (Splits.finished ([] ++ item))
  rwa [List.append_nil] at taken

private theorem splits_join {first second : Text} {items : List Text}
    (areItems : ∀ item ∈ first :: second :: items, Item item) (andList : Bool) :
    Splits [] (join (first :: second :: items) andList)
      (first :: second :: items) andList := by
  have isItem := areItems first List.mem_cons_self
  have others : ∀ item ∈ second :: items, Item item := fun item member =>
    areItems item (List.mem_cons_of_mem first member)
  induction items generalizing first second with
  | nil =>
      rw [join_pair]
      have isSecond := others second List.mem_cons_self
      have starts : StartsItem second := by simpa using isSecond.starts []
      cases andList with
      | true =>
          apply Splits.item isItem (by simp)
          exact Splits.separated isItem.present (by decide)
            (separator_and starts) (by decide) (splits_item isSecond)
      | false =>
          apply Splits.item isItem (by simp)
          exact Splits.separated isItem.present (by decide)
            (separator_or starts) (by decide) (splits_item isSecond)
  | cons third items induction =>
      have starts :=
        join_starts (others second List.mem_cons_self) (third :: items) andList
      rw [join_cons]
      apply Splits.item isItem (by simp)
      exact Splits.separated isItem.present (by decide) (separator_comma starts)
        (by decide) (induction others (others second List.mem_cons_self)
          fun item member => others item (List.mem_cons_of_mem second member))

/-- A written list is split into its items. -/
theorem split_join {items : List Text} (areItems : ∀ item ∈ items, Item item)
    (present : items ≠ []) {andList : Bool}
    (alone : items.length = 1 → andList = true) :
    split (join items andList) = (items, andList) := by
  have splits : Splits [] (join items andList) items andList := by
    cases items with
    | nil => exact absurd rfl present
    | cons first items =>
        cases items with
        | nil =>
            rw [alone rfl]
            exact splits_item (areItems first List.mem_cons_self)
        | cons second items => exact splits_join areItems andList
  exact splits _ (Nat.le_refl _)

theorem join_behind (first second : Text) (items : List Text) (andList : Bool) :
    ∃ char rest, join (first :: second :: items) andList = first ++ char :: rest ∧
      char ≠ '"' ∧ ' ' ∈ char :: rest := by
  cases items with
  | nil =>
      rw [join_pair]
      cases andList with
      | true => exact ⟨' ', "and " ++ second, rfl, by decide, List.mem_cons_self⟩
      | false => exact ⟨' ', "or " ++ second, rfl, by decide, List.mem_cons_self⟩
  | cons third items =>
      rw [join_cons]
      exact ⟨',', _, rfl, by decide, List.mem_cons_of_mem ',' List.mem_cons_self⟩

theorem Item.strip_eq {item : Text} (isItem : Item item) :
    Text.strip item = item := by
  cases isItem with
  | quoted text => exact (Filling.string text).strip_written
  | word areSolid _ =>
      apply Text.strip_eq
      · intro char isFirst
        exact (areSolid char (List.mem_of_mem_head? isFirst)).1
      · intro char isLast
        exact (areSolid char (List.mem_of_getLast? isLast)).1

end ListText

/-! ## What is no single literal -/

namespace Text

theorem space_mem_splitSign {text : Text} (spaced : ' ' ∈ text) :
    ' ' ∈ (splitSign text).2 := by
  unfold splitSign
  split
  · simpa using spaced
  · simpa using spaced
  · exact spaced

theorem not_all_digits {text : Text} (spaced : ' ' ∈ text) :
    text.all isDigit = false := by
  rw [List.all_eq_false]
  exact ⟨' ', spaced, by decide⟩

theorem readInteger_none {text : Text} (spaced : ' ' ∈ text) :
    readInteger? text = none := by
  have noDigits := not_all_digits (space_mem_splitSign spaced)
  simp [readInteger?, noDigits]

private theorem mem_partition {separator char : Char} {text whole places : Text}
    (parted : partition separator text = (whole, some places))
    (other : char ≠ separator) (member : char ∈ text) :
    char ∈ whole ∨ char ∈ places := by
  induction text generalizing whole with
  | nil => cases member
  | cons first rest induction =>
      rw [partition] at parted
      split at parted
      · rename_i isSeparator
        cases parted
        rcases List.mem_cons.mp member with rfl | later
        · exact absurd isSeparator other
        · exact .inr later
      · cases further : partition separator rest with
        | mk before after =>
            rw [further] at parted
            cases parted
            rcases List.mem_cons.mp member with rfl | later
            · exact .inl List.mem_cons_self
            · exact (induction further later).imp_left (List.mem_cons_of_mem first)

theorem readDecimal_none {text : Text} (spaced : ' ' ∈ text) :
    readDecimal? text = none := by
  have unsigned := space_mem_splitSign spaced
  unfold readDecimal?
  dsimp only
  cases parted : partition '.' (splitSign text).2 with
  | mk whole places =>
      cases places with
      | none => rfl
      | some places =>
          rcases mem_partition parted (by decide) unsigned with inWhole | inPlaces
          · simp [not_all_digits inWhole]
          · simp [not_all_digits inPlaces]

private theorem unquoteTail_none (text : Text) {char : Char}
    (noQuote : char ≠ '"') (rest : Text) :
    unquoteTail (doubleQuotes text ++ '"' :: char :: rest) = none := by
  fun_induction doubleQuotes text with
  | case1 => simp [unquoteTail]
  | case2 text induction => simpa [unquoteTail] using induction
  | case3 first text notQuote induction =>
      have other : first ≠ '"' := fun same => notQuote same
      simpa [unquoteTail, other] using induction

theorem unquote_none (text : Text) {char : Char} (noQuote : char ≠ '"')
    (rest : Text) :
    unquote? (quoted text ++ char :: rest) = none := by
  rw [quoted, List.cons_append, List.append_assoc]
  exact unquoteTail_none text noQuote rest

private theorem space_mem_lower {text : Text} (spaced : ' ' ∈ text) :
    ' ' ∈ lower text :=
  List.mem_flatMap.mpr ⟨' ', spaced, by decide⟩

end Text

namespace Literal

theorem boolean_none {text : Text} (spaced : ' ' ∈ text) (context : ParseContext) :
    boolean text context = none := by
  have other {words : List Text} (noSpace : ∀ word ∈ words, ' ' ∉ word) :
      words.contains (Text.lower text) = false := by
    rw [List.contains_eq_mem, decide_eq_false_iff_not]
    intro member
    exact noSpace _ member (Text.space_mem_lower spaced)
  have noTrue : (["true", "yes", "on"] : List Text).contains (Text.lower text) =
      false :=
    other (by decide)
  have noFalse :
      (["false", "no", "off"] : List Text).contains (Text.lower text) = false :=
    other (by decide)
  rw [boolean]
  simp only [noTrue, noFalse, Bool.false_eq_true, if_false]

end Literal

namespace RegisteredType

/-- The values of the type that are written in a form of their own. -/
inductive Writes : RegisteredType → Value → Prop where
  | string (value : Text) : Writes .string (.datum (.text value))
  | boolean (value : Bool) : Writes .boolean (.datum (.bool value))
  | integer (value : Int) : Writes .integer (.datum (.int value))
  | number (value : Int) : Writes .number (.datum (.int value))

namespace Writes

variable {type : RegisteredType} {value : Value}

private theorem integer_item (value : Int) : ListText.Item (Text.ofInt value) := by
  obtain ⟨first, digits, split, starts, areDigits⟩ := Filling.written_integer value
  have solidDigit {digit : Char} (isDigit : digit.isDigit = true) :
      ListText.Solid digit := by
    refine ⟨Text.isBlank_digit isDigit, ?_, ?_⟩
    · rintro rfl
      cases isDigit
    · rintro rfl
      cases isDigit
  rw [split]
  apply ListText.Item.word
  · intro char member
    rcases List.mem_cons.mp member with rfl | later
    · rcases starts with rfl | isDigit
      · decide
      · exact solidDigit isDigit
    · exact solidDigit (areDigits char later)
  · rcases starts with rfl | isDigit
    · decide
    · rw [Text.toLower_digit isDigit]
      intro member
      have isLetter : first = 'a' ∨ first = 'n' ∨ first = 'o' := by
        simpa using member
      rcases isLetter with rfl | rfl | rfl <;> cases isDigit

theorem item (writes : Writes type value) : ListText.Item value.literalText := by
  cases writes with
  | string value => exact .quoted value
  | boolean value =>
      have yes : ListText.Item ['t', 'r', 'u', 'e'] := by
        apply ListText.Item.word
        · simp only [List.mem_cons, List.not_mem_nil, or_false,
            forall_eq_or_imp, forall_eq]
          decide
        · decide
      have no : ListText.Item ['f', 'a', 'l', 's', 'e'] := by
        apply ListText.Item.word
        · simp only [List.mem_cons, List.not_mem_nil, or_false,
            forall_eq_or_imp, forall_eq]
          decide
        · decide
      cases value with
      | true => exact yes
      | false => exact no
  | integer value => exact integer_item value
  | number value => exact integer_item value

variable {registry : Registry} {context : ParseContext}

theorem read (writes : Writes type value) (notCommand : context ≠ .command) :
    registry.read type value.literalText context = .ok (some value) := by
  cases writes with
  | string value => exact (Filling.string value).read_written notCommand
  | boolean value => cases value <;> rfl
  | integer value => exact (Filling.integer value).read_written notCommand
  | number value =>
      rw [Registry.read, Registry.readWithin]
      change Except.ok (Literal.number (Text.ofInt value) context) = _
      rw [Literal.number, Text.readInteger_ofInt]

theorem read_none (writes : Writes type value) (notCommand : context ≠ .command)
    {char : Char} (noQuote : char ≠ '"') {rest : Text}
    (spaced : ' ' ∈ char :: rest) :
    registry.read type (value.literalText ++ char :: rest) context = .ok none := by
  have spacedText : ' ' ∈ value.literalText ++ char :: rest :=
    List.mem_append_right _ spaced
  rw [Registry.read, Registry.readWithin]
  cases writes with
  | string value =>
      change Except.ok
        (Literal.string (Text.quoted value ++ char :: rest) context) = _
      rw [Literal.string_unquoted notCommand, Text.unquote_none value noQuote rest]
      rfl
  | boolean value =>
      change Except.ok (Literal.boolean _ context) = _
      rw [Literal.boolean_none spacedText]
  | integer value =>
      change Except.ok (Literal.integer _ context) = _
      rw [Literal.integer, Text.readInteger_none spacedText]
      rfl
  | number value =>
      change Except.ok (Literal.number _ context) = _
      rw [Literal.number, Text.readInteger_none spacedText,
        Text.readDecimal_none spacedText]
      rfl

theorem notUniversal (writes : Writes type value) : type.isUniversal = false := by
  cases writes <;> rfl

end Writes

end RegisteredType

/-! ## Literals of several values -/

namespace Expr

variable {read : LiteralReading} {target : RegisteredType}
  {context : ParseContext} {text : Text}

theorem convertText_of_value {value : Value} (narrow : target.isUniversal = false)
    (reads : read target text context = .ok (some value)) :
    convertText read target context text =
      .ok (some (.literal [value] target.toTypeInfo true)) := by
  rw [convertText, narrow]
  simp only [Bool.false_eq_true, if_false, reads]
  rfl

theorem convertText_of_values {values : List Value} {parts : List Text}
    {andList : Bool} (narrow : target.isUniversal = false)
    (noValue : read target text context = .ok none)
    (splits : ListText.split text = (parts, andList))
    (several : parts.length ≠ 1)
    (reads : readAll (fun part => read target (Text.strip part) context) parts =
      .ok (some values)) :
    convertText read target context text =
      .ok (some (.literal values target.toTypeInfo andList)) := by
  rw [convertText, narrow]
  simp only [Bool.false_eq_true, if_false, noValue, splits, several, reads]
  rfl

end Expr

section Lists

variable {type : RegisteredType} {values : List Value}
  (written : ∀ value ∈ values, type.Writes value)
include written

private theorem Expr.readAll_written {registry : Registry} {context : ParseContext}
    (notCommand : context ≠ .command) :
    readAll (fun part => registry.read type (Text.strip part) context)
      (values.map Value.literalText) = .ok (some values) := by
  induction values with
  | nil => rfl
  | cons value values induction =>
      have writes := written value List.mem_cons_self
      have later := induction fun other member =>
        written other (List.mem_cons_of_mem value member)
      rw [List.map_cons, readAll, writes.item.strip_eq,
        writes.read notCommand, later]
      rfl

variable (present : values ≠ []) {andList : Bool}
  (alone : values.length = 1 → andList = true)
include present alone

private theorem Expr.split_display :
    ListText.split (literal values type.toTypeInfo andList).display =
      (values.map Value.literalText, andList) := by
  apply ListText.split_join
  · intro item member
    obtain ⟨value, isValue, rfl⟩ := List.mem_map.mp member
    exact (written value isValue).item
  · simpa using present
  · simpa using alone

/-- A literal that is printed outside of commands reads as itself: the type, the
values in their order, and whether all of them are meant together.  The text has
several items if and only if the literal has several values. -/
theorem Expr.literal_roundTrip (registry : Registry) {context : ParseContext}
    (notCommand : context ≠ .command) :
    let printed := literal values type.toTypeInfo andList
    (unparsed printed.display).convert registry registry.read type context =
      .ok (some printed) ∧
      (unparsed printed.display).isSingle = printed.isSingle := by
  intro printed
  have splits : ListText.split printed.display = _ :=
    Expr.split_display written present alone
  constructor
  · cases values with
    | nil => exact absurd rfl present
    | cons first values =>
        have writes := written first List.mem_cons_self
        cases values with
        | nil =>
            obtain rfl : andList = true := alone rfl
            exact convertText_of_value writes.notUniversal (writes.read notCommand)
        | cons second values =>
            obtain ⟨char, rest, joined, noQuote, spaced⟩ :=
              ListText.join_behind first.literalText
              second.literalText (values.map Value.literalText) andList
            have shown : printed.display = first.literalText ++ char :: rest :=
              joined
            have noValue : registry.read type printed.display context =
                .ok none := by
              rw [shown]
              exact writes.read_none notCommand noQuote spaced
            exact convertText_of_values writes.notUniversal noValue splits (by simp)
              (readAll_written written notCommand)
  · simp only [isSingle, splits, printed, List.length_map]

end Lists

/-- Quoted items may hold whatever separates items. -/
theorem Expr.roundTrip_of_remarks :
    let remarks : List Text := ["red, \"blue\" and ", " or ", ""]
    let printed := literal (remarks.map fun remark => .datum (.text remark))
      RegisteredType.string.toTypeInfo false
    printed.display = "\"red, \"\"blue\"\" and \", \" or \" or \"\"" ∧
      (unparsed printed.display).convert .builtins Registry.builtins.read
        .string .event =
        .ok (some printed) ∧
      (unparsed printed.display).isSingle = printed.isSingle := by
  intro remarks printed
  have written : ∀ value ∈ remarks.map fun remark => Value.datum (.text remark),
      RegisteredType.string.Writes value := by
    intro value member
    obtain ⟨remark, _, rfl⟩ := List.mem_map.mp member
    exact .string remark
  exact ⟨rfl, Expr.literal_roundTrip written (by simp)
    (fun alone => by cases alone) .builtins
    (by decide)⟩

end Phrasebook
