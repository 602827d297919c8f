import Mathlib.Algebra.GroupWithZero.Nat
import Phrasebook.Proofs.Builtins
import Phrasebook.Proofs.Pattern.Stepping
import Phrasebook.Proofs.Rendering.Literals

/-!
# Templates

A template is a pattern together with a value for each of its placeholders.  Its
text is the pattern with the written forms of the values put in.  The walk along
the pattern finds the values again, since it gets past no placeholder before the
written form has ended.
-/

namespace Phrasebook

open Pattern (Segment)

/-! ## Parts that stand for themselves -/

/-- The characters other than the space that a pattern does not take for
themselves. -/
def Pattern.specials : Text := ['[', ']', '(', ')', '|', '%', '<', '\\']

namespace Text

def doublesSpace : Text → Bool
  | [] => false
  | char :: rest => (char == ' ' && rest.head? == some ' ') || doublesSpace rest

/-- Whether the text, as a part of a pattern, is matched by itself. -/
def standsForItself (part : Text) : Bool :=
  part.all (fun char => !Pattern.specials.contains char) && !doublesSpace part

/-- Whether the text starts with something that could continue a value. -/
def startsLikeValue : Text → Bool
  | [] => false
  | char :: _ => char.isDigit || opensRun char

end Text

/-! ## Values and templates -/

inductive Filling where
  | integer (value : Int)
  | string (value : Text)

namespace Filling

def type : Filling → RegisteredType
  | .integer _ => .integer
  | .string _ => .string

def value : Filling → Value
  | .integer value => .datum (.int value)
  | .string value => .datum (.text value)

def written : Filling → Text
  | .integer value => Text.ofInt value
  | .string value => Text.quoted value

def expr (filling : Filling) : Expr :=
  .literal [filling.value] filling.type.toTypeInfo true

end Filling

/-- A placeholder with its value, and the part of the pattern behind it. -/
structure Gap where
  filling : Filling
  behind : Text

namespace Gap

def pattern (gap : Gap) : Text :=
  '%' :: (gap.filling.type.name ++ '%' :: gap.behind)

def text (gap : Gap) : Text :=
  gap.filling.written ++ gap.behind

end Gap

/-- A pattern with a value for each placeholder. -/
structure Template where
  lead : Text
  gaps : List Gap

namespace Template

def pattern (template : Template) : Text :=
  template.lead ++ template.gaps.flatMap Gap.pattern

def text (template : Template) : Text :=
  template.lead ++ template.gaps.flatMap Gap.text

def length (template : Template) : Nat :=
  template.lead.length + (template.gaps.map (·.behind.length)).sum

/-- The values can be told apart from what stands around them. -/
structure Proper (template : Template) : Prop where
  lead : Text.standsForItself template.lead = true
  behind : ∀ gap ∈ template.gaps, Text.standsForItself gap.behind = true
  separated : ∀ gap ∈ template.gaps.dropLast, gap.behind ≠ []
  bordered : ∀ gap ∈ template.gaps, Text.startsLikeValue gap.behind = false

end Template

/-! ## Where a written form ends -/

structure Cut.BeforeDigit (cut : Cut) : Prop where
  digit : ∃ digit rest, cut.rest = digit :: rest ∧ digit.isDigit = true
  last : ∃ last, cut.taken.getLast? = some last ∧ last ≠ ' '

theorem Text.opensRun_digit {digit : Char} (isDigit : digit.isDigit = true) :
    Text.opensRun digit = false := by
  by_cases opens : Text.opensRun digit = true
  · have isOpening : digit = '"' ∨ digit = '\x7b' := by
      simpa [Text.opensRun] using opens
    rcases isOpening with rfl | rfl <;> cases isDigit
  · simpa using opens

theorem Cut.onward_digits (taken behind : Text) {digits : Text} {next : Char}
    (started : ∃ last, taken.getLast? = some last ∧ last ≠ ' ')
    (areDigits : ∀ digit ∈ digits, digit.isDigit = true)
    (plain : Text.opensRun next = false) :
    ∃ front tail, onward .look taken (digits ++ next :: behind) =
        front ++ ⟨taken ++ digits, next :: behind⟩ :: tail ∧ ∀ cut ∈ front,
          cut.BeforeDigit := by
  induction digits generalizing taken with
  | nil =>
      refine ⟨[], onward .look (taken ++ [next]) behind, ?_, by simp⟩
      simp [onward, plain]
  | cons digit digits induction =>
      have isDigit := areDigits digit List.mem_cons_self
      have startedLater : ∃ last, (taken ++ [digit]).getLast? = some last ∧
          last ≠ ' ' := by
        refine ⟨digit, List.getLast?_concat, ?_⟩
        rintro rfl
        cases isDigit
      obtain ⟨front, tail, cuts, before⟩ :=
        induction (taken ++ [digit]) startedLater
        fun other member => areDigits other (List.mem_cons_of_mem digit member)
      refine ⟨⟨taken, digit :: (digits ++ next :: behind)⟩ :: front, tail, ?_, ?_⟩
      · simp [onward, Text.opensRun_digit isDigit, cuts]
      · intro cut member
        rcases List.mem_cons.mp member with rfl | member
        · exact ⟨⟨digit, _, rfl, isDigit⟩, started⟩
        · exact before cut member

namespace Filling

theorem written_integer (value : Int) :
    ∃ first digits, Text.ofInt value = first :: digits ∧
    (first = '-' ∨ first.isDigit = true) ∧
      ∀ digit ∈ digits, digit.isDigit = true := by
  cases value with
  | ofNat number =>
      obtain ⟨first, digits, split, isDigit⟩ := Text.ofNat_cons number
      refine ⟨first, digits, split, .inr isDigit, ?_⟩
      intro digit member
      apply Text.isDigit_of_mem_ofNat
      rw [split]
      exact List.mem_cons_of_mem first member
  | negSucc number =>
      exact ⟨'-', Text.ofNat (number + 1), rfl, .inl rfl, fun _ =>
        Text.isDigit_of_mem_ofNat⟩

theorem written_last (filling : Filling) :
    ∃ last, filling.written.getLast? = some last ∧ Text.isBlank last = false := by
  cases filling with
  | integer value =>
      obtain ⟨first, digits, split, starts, areDigits⟩ := written_integer value
      rw [written, split, List.getLast?_cons]
      refine ⟨_, rfl, ?_⟩
      cases isLast : digits.getLast? with
      | none =>
          rcases starts with rfl | isDigit
          · rfl
          · exact Text.isBlank_digit isDigit
      | some last =>
          exact Text.isBlank_digit
            (areDigits last (List.mem_of_getLast? isLast))
  | string value =>
      refine ⟨'"', ?_, rfl⟩
      rw [written, Text.quoted, ← List.cons_append, List.getLast?_concat]

theorem cuts (filling : Filling) {next : Char} {behind : Text}
    (border : Text.startsLikeValue (next :: behind) = false) :
    ∃ front tail, Cut.ofPlaceholder false (filling.written ++ next :: behind) =
        front ++ ⟨filling.written, next :: behind⟩ :: tail ∧ ∀ cut ∈ front,
          cut.BeforeDigit := by
  obtain ⟨_, plain⟩ : next.isDigit = false ∧ Text.opensRun next = false := by
    simpa [Text.startsLikeValue] using border
  cases filling with
  | integer value =>
      obtain ⟨first, digits, split, starts, areDigits⟩ := written_integer value
      have noSpace : first ≠ ' ' := by
        rcases starts with rfl | isDigit
        · decide
        · rintro rfl
          cases isDigit
      have notRun : Text.opensRun first = false := by
        rcases starts with rfl | isDigit
        · rfl
        · exact Text.opensRun_digit isDigit
      have isCut := Cut.onward_digits [first] behind ⟨first, rfl,
        noSpace⟩ areDigits plain
      simpa [written, split, Cut.ofPlaceholder, notRun] using isCut
  | string value =>
      have noQuote : (next :: behind).head? ≠ some '"' := by
        intro same
        cases same
        cases plain
      have found := (Text.runLength_quoted_iff value (next :: behind)).mpr noQuote
      have whole : Text.quoted value ++ next :: behind =
          '"' :: (Text.doubleQuotes value ++ '"' :: next :: behind) := by
        simp [Text.quoted]
      refine ⟨[], Cut.onward .look (Text.quoted value ++ [next]) behind,
        ?_, by simp⟩
      have opens : Text.opensRun '"' = true := rfl
      rw [written, whole, Cut.ofPlaceholder, if_neg Bool.false_ne_true,
        if_pos opens, found, ← whole]
      simp [Cut.onward, plain]

end Filling

/-! ## The walk along a template -/

namespace Matcher

variable {m : Type → Type} [Searching m] {matcher : Matcher m} {text : Text}
  {fuel matched : Nat}
  {before rest ahead : Text} {previous : Option Char} {position : Position}

theorem not_mark {char : Char} (noSpecial : char ∉ Pattern.specials)
    (noSpace : char ≠ ' ') :
    char ∉ Demand.marks := by
  have listed : ∀ mark ∈ Demand.marks, mark ∈ ' ' :: Pattern.specials := by
    simp [Demand.marks, Pattern.specials]
  intro isMark
  rcases List.mem_cons.mp (listed char isMark) with isSpace | isSpecial
  · exact noSpace isSpace
  · exact noSpecial isSpecial

/-- A part that stands for itself takes itself. -/
theorem walk_part {part : Text} (plain : ∀ char ∈ part, char ∉ Pattern.specials)
    (single : Text.doublesSpace part = false)
    (apart : part.head? = some ' ' → previous ≠ some ' ') :
    matcher.walk text (fuel + part.length) matched ⟨before, part ++ rest⟩
      ⟨previous, part ++ ahead⟩ =
      matcher.walk text fuel (matched + part.length) ⟨part.reverse ++ before, rest⟩
        ⟨part.getLast?.or previous, ahead⟩ := by
  induction part generalizing before previous matched with
  | nil => simp
  | cons char part induction =>
      have plainLater : ∀ other ∈ part, other ∉ Pattern.specials :=
        fun other member => plain other (List.mem_cons_of_mem char member)
      obtain ⟨separate, singleLater⟩ :
          (char = ' ' → part.head? ≠ some ' ') ∧
          Text.doublesSpace part = false := by
        simpa [Text.doublesSpace] using single
      have apartLater : part.head? = some ' ' → some char ≠ some ' ' := by
        intro isSpace same
        cases same
        exact separate rfl isSpace
      have last : (char :: part).getLast?.or previous =
          part.getLast?.or (some char) := by
        rw [List.getLast?_cons]
        cases part.getLast? <;> rfl
      have count : matched + (char :: part).length = matched + 1 + part.length := by
        rw [List.length_cons]
        omega
      have steps : fuel + (char :: part).length = fuel + part.length + 1 := rfl
      have later : matcher.walk text (fuel + part.length) (matched + 1)
          ⟨char :: before, part ++ rest⟩ ⟨some char, part ++ ahead⟩ = _ :=
        induction plainLater singleLater apartLater
      rw [last, count, steps, List.reverse_cons, List.append_assoc,
        List.singleton_append, ← later]
      by_cases isSpace : char = ' '
      · subst isSpace
        rw [List.cons_append, walk_space]
        simp [Position.takeSpace, apart rfl]
      · rw [List.cons_append,
          walk_letter (not_mark (plain char List.mem_cons_self) isSpace)]
        simp [Position.takeLetter, Text.sameLetter_self]

/-- In front of a digit the walk gets no further along a part that starts
otherwise. -/
theorem walk_beforeDigit {next : Char} {cut : Cut} (isBefore : cut.BeforeDigit)
    (noSpecial : next ∉ Pattern.specials) (noDigit : next.isDigit = false) :
    matcher.walk text fuel matched ⟨before, next :: rest⟩ (position.after cut) =
      pure none := by
  obtain ⟨⟨digit, behind, isRest, isDigit⟩, last, isLast, noSpace⟩ := isBefore
  cases fuel with
  | zero => rfl
  | succ fuel =>
      have isPosition : position.after cut = ⟨some last, digit :: behind⟩ := by
        simp [Position.after, isRest, isLast]
      by_cases isSpace : next = ' '
      · subst isSpace
        have other : digit ≠ ' ' := by
          rintro rfl
          cases isDigit
        rw [walk_space, isPosition]
        simp [Position.takeSpace, noSpace, other]
      · rw [walk_letter (not_mark noSpecial isSpace), isPosition]
        simp [Position.takeLetter, Text.sameLetter_digit isDigit noDigit]

end Matcher

namespace Filling

variable {registry : Registry} (filling : Filling)

theorem read_name (types : registry.types = RegisteredType.builtins) :
    Placeholder.read registry.normalize filling.type.name =
      .ok ⟨filling.type.name, false, 0, false⟩ := by
  have reads : Placeholder.read registry.normalize filling.type.name =
      .ok ⟨(registry.normalize filling.type.name).1,
        (registry.normalize filling.type.name).2, 0, false⟩ := by
    cases filling <;> rfl
  have known : registry.normalize filling.type.name =
      (filling.type.name, false) := by
    rw [Registry.normalize, Registry.findType?, types]
    cases filling <;> rfl
  rw [reads, known]

theorem getType_name (types : registry.types = RegisteredType.builtins) :
    registry.getType filling.type.name = .ok filling.type := by
  rw [Registry.getType, Registry.findType?, types]
  cases filling <;> rfl

theorem segment_name : Segment filling.type.name 0 := by
  have clean : (∀ char ∈ ("integer" : Text), char ≠ '\\' ∧ char ≠ '%') ∧
      ∀ char ∈ ("string" : Text), char ≠ '\\' ∧ char ≠ '%' := by simp
  cases filling with
  | integer value => exact .plain_text clean.1
  | string value => exact .plain_text clean.2

end Filling

/-- The result with the values of these gaps behind so many slots that are still
empty. -/
def Gap.result (text : Text) (empty : Nat) (gaps : List Gap) (chars : Nat) :
    MatchResult :=
  ⟨text, List.replicate empty none ++
    gaps.map (fun gap => some gap.filling.expr), [], [], chars⟩

theorem Gap.bind_result (text : Text) (empty chars : Nat) (gap : Gap)
    (gaps : List Gap) :
    (Gap.result text (empty + 1) gaps chars).bind empty gap.filling.expr =
      Gap.result text empty (gap :: gaps) chars := by
  simp [Gap.result, MatchResult.bind, List.replicate_succ']

theorem Text.standsForItself_iff {part : Text} :
    standsForItself part = true ↔
      (∀ char ∈ part, char ∉ Pattern.specials) ∧ doublesSpace part = false := by
  simp [standsForItself]

namespace Matcher

variable {m : Type → Type} [Searching m] {matcher : Matcher m} {text : Text}

theorem fit_filling (filling : Filling) :
    matcher.fit ⟨filling.type.name, false, 0, false⟩ filling.type.toTypeInfo
      filling.expr =
      pure (some filling.expr) := rfl

private theorem tryCut_filling [LawfulMonad m] {filling : Filling}
    {slot matched : Nat} {remainder : Cut → m (Option MatchResult)}
    {behind : Text} {result : MatchResult}
    (resolves : matcher.resolve filling.type filling.written =
      pure (some filling.expr))
    (remains : remainder ⟨filling.written, behind⟩ = pure (some result)) :
    matcher.tryCut slot ⟨filling.type.name, false, 0, false⟩ filling.type
      matched remainder
        ⟨filling.written, behind⟩ =
      pure (some (some (result.bind slot filling.expr))) := by
  simp only [tryCut, remains, resolves, fit_filling, pure_bind]
  rfl

/-- At a placeholder the walk takes a written form, unless the rest of the
pattern matches from some place inside of it. -/
theorem walk_filling [LawfulMonad m] {filling : Filling} {fuel matched : Nat}
    {before rest behind : Text} {position : Position} {front tail : List Cut}
    {result : MatchResult}
    (types : matcher.registry.types = RegisteredType.builtins)
    (resolves : matcher.resolve filling.type filling.written =
      pure (some filling.expr))
    (isCuts : Cut.ofPlaceholder rest.isEmpty position.rest =
      front ++ ⟨filling.written, behind⟩ :: tail)
    (present : position.rest ≠ [])
    (fails : ∀ cut ∈ front,
      matcher.walk text fuel 0
        ⟨'%' :: (filling.type.name.reverse ++ '%' :: before), rest⟩
        (position.after cut) = pure none)
    (remains : matcher.walk text fuel 0
      ⟨'%' :: (filling.type.name.reverse ++ '%' :: before), rest⟩
        (position.after ⟨filling.written, behind⟩) = pure (some result)) :
    matcher.walk text (fuel + 1) matched ⟨before,
      '%' :: (filling.type.name ++ '%' :: rest)⟩
        position =
      pure (some ((result.bind (Pattern.slotAfter before.reverse)
        filling.expr).plusChars matched)) := by
  rw [walk_placeholder filling.segment_name present (filling.read_name types)
    (filling.getType_name types), isCuts,
    Searching.firstSome_behind fun cut member => tryCut_fails (fails cut member),
    Searching.firstSome_found (tryCut_filling resolves remains), pure_bind]
  rfl

/-- From a place behind so many placeholders on, the walk finds the values of
the gaps. -/
structure Fills (matcher : Matcher m) (text : Text) (gaps : List Gap) : Prop where
  walks : ∀ fuel matched slot before previous, Segment before.reverse (2 * slot) →
    (gaps.flatMap Gap.pattern).length < fuel →
    matcher.walk text fuel matched ⟨before, gaps.flatMap Gap.pattern⟩
        ⟨previous, gaps.flatMap Gap.text⟩ =
      pure (some (Gap.result text slot gaps
        (matched + (gaps.map (·.behind.length)).sum)))

namespace Fills

variable {gaps : List Gap} {gap : Gap}

theorem behind_part (fills : matcher.Fills text gaps) {part before : Text}
    {previous : Option Char} {fuel matched slot : Nat}
    (itself : Text.standsForItself part = true)
    (apart : part.head? = some ' ' → previous ≠ some ' ')
    (segment : Segment before.reverse (2 * slot))
    (enough : (part ++ gaps.flatMap Gap.pattern).length < fuel) :
    matcher.walk text fuel matched ⟨before, part ++ gaps.flatMap Gap.pattern⟩
        ⟨previous, part ++ gaps.flatMap Gap.text⟩ =
      pure (some (Gap.result text slot gaps
        (matched + part.length + (gaps.map (·.behind.length)).sum))) := by
  obtain ⟨plain, single⟩ := Text.standsForItself_iff.mp itself
  rw [List.length_append] at enough
  have split : fuel = fuel - part.length + part.length := by omega
  have whole : Segment (part.reverse ++ before).reverse (2 * slot) := by
    have clean : Segment part 0 := .of_avoiding (by decide) (by decide) plain
    simpa using segment.append clean
  rw [split, walk_part plain single apart]
  exact fills.walks _ _ _ _ _ whole (by omega)

theorem nil : matcher.Fills text [] := by
  constructor
  intro fuel matched slot before previous segment enough
  obtain ⟨fuel, rfl⟩ : ∃ fewer, fuel = fewer + 1 := ⟨fuel - 1, by omega⟩
  have count : Pattern.placeholderCount before.reverse = slot := by
    rw [Pattern.placeholderCount, Pattern.percentCount_segment segment]
    omega
  simp [walk_finished, count, Gap.result, MatchResult.unbound]

theorem cuts (matcher : Matcher m) (text before : Text) (fuel : Nat)
    (position : Position) (itself : Text.standsForItself gap.behind = true)
    (border : Text.startsLikeValue gap.behind = false)
    (separate : gaps ≠ [] → gap.behind ≠ []) :
    ∃ front tail,
      Cut.ofPlaceholder (gap.behind ++ gaps.flatMap Gap.pattern).isEmpty
          (gap.filling.written ++ (gap.behind ++ gaps.flatMap Gap.text)) =
        front ++ ⟨gap.filling.written, gap.behind ++ gaps.flatMap Gap.text⟩ ::
          tail ∧
      ∀ cut ∈ front,
        matcher.walk text fuel 0 ⟨before,
          gap.behind ++ gaps.flatMap Gap.pattern⟩
        (position.after cut) = pure none := by
  cases split : gap.behind with
  | nil =>
      have isLast : gaps = [] := by
        by_cases isLast : gaps = []
        · exact isLast
        · exact absurd split (separate isLast)
      subst isLast
      exact ⟨[], [], by simp [Cut.ofPlaceholder], by simp⟩
  | cons next more =>
      rw [split] at itself border
      obtain ⟨noDigit, _⟩ : next.isDigit = false ∧ Text.opensRun next = false := by
        simpa [Text.startsLikeValue] using border
      have noSpecial :=
        (Text.standsForItself_iff.mp itself).1 next List.mem_cons_self
      have borderAhead :
          Text.startsLikeValue (next :: (more ++ gaps.flatMap Gap.text)) =
            false := border
      obtain ⟨front, tail, cuts, before⟩ := gap.filling.cuts borderAhead
      refine ⟨front, tail, cuts, ?_⟩
      intro cut member
      exact walk_beforeDigit (before cut member) noSpecial noDigit

theorem cons [LawfulMonad m]
    (types : matcher.registry.types = RegisteredType.builtins)
    (resolves : matcher.resolve gap.filling.type gap.filling.written =
      pure (some gap.filling.expr))
    (itself : Text.standsForItself gap.behind = true)
    (border : Text.startsLikeValue gap.behind = false)
    (separate : gaps ≠ [] → gap.behind ≠ []) (fills : matcher.Fills text gaps) :
    matcher.Fills text (gap :: gaps) := by
  constructor
  intro fuel matched slot before previous segment enough
  have pattern : (gap :: gaps).flatMap Gap.pattern =
    '%' :: (gap.filling.type.name ++
      '%' :: (gap.behind ++ gaps.flatMap Gap.pattern)) := by simp [Gap.pattern]
  have content : (gap :: gaps).flatMap Gap.text =
      gap.filling.written ++ (gap.behind ++ gaps.flatMap Gap.text) := by
        simp [Gap.text]
  obtain ⟨fuel, rfl⟩ : ∃ fewer, fuel = fewer + 1 := ⟨fuel - 1, by omega⟩
  obtain ⟨last, isLast, noBlank⟩ := gap.filling.written_last
  have present : gap.filling.written ++ (gap.behind ++ gaps.flatMap Gap.text) ≠
      [] := by
    intro nothing
    rw [(List.append_eq_nil_iff.mp nothing).1] at isLast
    cases isLast
  have numbered : Pattern.slotAfter before.reverse = slot := by
    rw [Pattern.slotAfter, Pattern.percentCount_segment segment]
    omega
  have segmentBehind :
      Segment ('%' :: (gap.filling.type.name.reverse ++ '%' :: before)).reverse
        (2 * (slot + 1)) := by
    have whole : Segment _ (2 * (slot + 1)) :=
      segment.append (.percent (gap.filling.segment_name.append .single_percent))
    simpa using whole
  have fewer : (gap.behind ++ gaps.flatMap Gap.pattern).length < fuel := by
    rw [pattern] at enough
    simp only [List.length_cons, List.length_append] at enough ⊢
    omega
  have apart : gap.behind.head? = some ' ' →
      gap.filling.written.getLast?.or previous ≠ some ' ' := by
    intro _ isSpace
    rw [isLast] at isSpace
    cases isSpace
    cases noBlank
  have remains : matcher.walk text fuel 0 _ _ = _ :=
    fills.behind_part itself apart segmentBehind fewer
  obtain ⟨front, tail, isCuts, fails⟩ := cuts matcher text
    ('%' :: (gap.filling.type.name.reverse ++ '%' :: before)) fuel
    ⟨previous, (gap :: gaps).flatMap Gap.text⟩ itself border separate
  rw [← content] at isCuts present
  have counted :
    0 + gap.behind.length + (gaps.map (·.behind.length)).sum + matched =
      matched + ((gap :: gaps).map (·.behind.length)).sum := by
    rw [List.map_cons, List.sum_cons]
    omega
  rw [pattern, walk_filling types resolves isCuts present fails remains,
    numbered, Gap.bind_result, ← counted]
  rfl

theorem of_gaps [LawfulMonad m]
    (types : matcher.registry.types = RegisteredType.builtins)
    (resolves : ∀ filling : Filling,
      matcher.resolve filling.type filling.written = pure (some filling.expr))
    (itself : ∀ gap ∈ gaps, Text.standsForItself gap.behind = true)
    (separated : ∀ gap ∈ gaps.dropLast, gap.behind ≠ [])
    (bordered : ∀ gap ∈ gaps, Text.startsLikeValue gap.behind = false) :
    matcher.Fills text gaps := by
  induction gaps with
  | nil => exact .nil
  | cons gap gaps induction =>
      have later : matcher.Fills text gaps := by
        apply induction
        · exact fun other member => itself other (List.mem_cons_of_mem gap member)
        · intro other member
          cases gaps with
          | nil => cases member
          | cons next gaps =>
              exact separated other (List.mem_cons_of_mem gap member)
        · exact fun other member => bordered other (List.mem_cons_of_mem gap member)
      have separate : gaps ≠ [] → gap.behind ≠ [] := by
        intro notLast
        apply separated
        rw [List.dropLast_cons_of_ne_nil notLast]
        exact List.mem_cons_self
      exact .cons types (resolves gap.filling) (itself gap List.mem_cons_self)
        (bordered gap List.mem_cons_self) separate later

end Fills

end Matcher

namespace Template

def result (template : Template) : MatchResult :=
  ⟨template.text, template.gaps.map (fun gap => some gap.filling.expr), [], [],
    template.length⟩

/-- A matcher that reads written forms back finds all values of a template. -/
theorem Proper.run_eq {m : Type → Type} [Searching m] [LawfulMonad m]
    {matcher : Matcher m} {template : Template} (proper : template.Proper)
    (types : matcher.registry.types = RegisteredType.builtins)
    (resolves : ∀ filling : Filling,
      matcher.resolve filling.type filling.written = pure (some filling.expr)) :
    matcher.run template.pattern template.text = pure (some template.result) := by
  have fills : matcher.Fills template.text template.gaps :=
    .of_gaps types resolves proper.behind proper.separated proper.bordered
  have whole : matcher.walk template.text (template.pattern.length + 1) 0 ⟨[],
    template.pattern⟩
      ⟨none, template.text⟩ = pure (some (Gap.result template.text 0 template.gaps
        (0 + template.lead.length + (template.gaps.map (·.behind.length)).sum))) :=
    fills.behind_part proper.lead (by simp) .nil
      (Nat.lt_succ_self template.pattern.length)
  rw [Nat.zero_add] at whole
  exact whole

end Template

end Phrasebook
