import Phrasebook.Matching
import Phrasebook.Proofs.Pattern.Demand
import Phrasebook.Proofs.Pattern.Nesting

/-!
# Steps of the walk

What the walk does first at a place of a pattern, written as an equation for each
thing that the pattern can ask for there.
-/

namespace Phrasebook

open Pattern

section Trying

variable {m : Type → Type} [Searching m] [LawfulMonad m] {α β : Type}
  {attempt : α → m (Option β)}

theorem Searching.firstSome_cons {item : α} {items : List α}
    {first later : Option β} (here : attempt item = pure first)
    (behind : Searching.firstSome attempt items = pure later) :
    Searching.firstSome attempt (item :: items) = pure (first.or later) := by
  rw [Searching.firstSome, here, pure_bind]
  cases first with
  | none => exact behind
  | some found => rfl

theorem Searching.firstSome_pure {answer : α → Option β}
    (answers : ∀ item, attempt item = pure (answer item)) (items : List α) :
    Searching.firstSome attempt items = pure (items.findSome? answer) := by
  induction items with
  | nil => rfl
  | cons item items induction =>
      rw [Searching.firstSome_cons (answers item) induction, List.findSome?_cons]
      cases answer item <;> rfl

/-- Items that give no answer and leave nothing behind may be passed over. -/
theorem Searching.firstSome_behind {front : List α}
    (fails : ∀ item ∈ front, attempt item = pure none) (items : List α) :
    Searching.firstSome attempt (front ++ items) =
      Searching.firstSome attempt items := by
  induction front with
  | nil => rfl
  | cons item front induction =>
      rw [List.cons_append, Searching.firstSome, fails item List.mem_cons_self,
        pure_bind]
      exact induction fun other member =>
        fails other (List.mem_cons_of_mem item member)

theorem Searching.firstSome_fails {items : List α}
    (fails : ∀ item ∈ items, attempt item = pure none) :
    Searching.firstSome attempt items = pure none := by
  have behind := firstSome_behind fails []
  rwa [List.append_nil] at behind

theorem Searching.firstSome_found {item : α} {answer : β}
    (found : attempt item = pure (some answer)) (items : List α) :
    Searching.firstSome attempt (item :: items) = pure (some answer) := by
  rw [Searching.firstSome, found, pure_bind]

theorem Searching.firstSome_singleton (item : α) :
    Searching.firstSome attempt [item] = attempt item := by
  refine Eq.trans (bind_congr fun found => ?_) (bind_pure _)
  cases found <;> rfl

end Trying

theorem Cursor.advance_one (before rest : Text) (char : Char) :
    (⟨before, char :: rest⟩ : Cursor).advance 1 = ⟨char :: before, rest⟩ := rfl

theorem Cursor.advance_append (before part rest : Text) :
    (⟨before, part ++ rest⟩ : Cursor).advance part.length =
      ⟨part.reverse ++ before, rest⟩ := by
  simp [Cursor.advance]

theorem Cursor.advance_enclosed (before inside rest : Text) (first last : Char) :
    (⟨before, first :: (inside ++ last :: rest)⟩ : Cursor).advance
    (inside.length + 2) =
      ⟨last :: (inside.reverse ++ first :: before), rest⟩ := by
  have moved := Cursor.advance_append before (first :: (inside ++ [last])) rest
  simpa using moved

theorem regexEndOffset_eq {body : Text} (noEnd : '>' ∉ body) (rest : Text) :
    regexEndOffset (body ++ '>' :: rest) = some body.length := by
  induction body with
  | nil => rfl
  | cons char body induction =>
      have notEnd : char ≠ '>' := fun same => noEnd (by simp [same])
      have later := induction fun member => noEnd (List.mem_cons_of_mem char member)
      rw [List.cons_append, regexEndOffset, if_neg notEnd, later]
      rfl

namespace Matcher

variable {m : Type → Type} [Searching m] {matcher : Matcher m} {text : Text}

section Cuts

variable {slot matched : Nat} {placeholder : Placeholder} {type : RegisteredType}
  {remainder : Cut → m (Option MatchResult)} {cut : Cut}

theorem tryCut_fails [LawfulMonad m] (fails : remainder cut = pure none) :
    matcher.tryCut slot placeholder type matched remainder cut = pure none := by
  rw [tryCut, fails, pure_bind]

end Cuts

theorem map_plusChars_zero (found : Option MatchResult) :
    found.map (·.plusChars 0) = found := by
  cases found <;> rfl

variable {fuel matched : Nat} {before rest : Text} {position : Position}

theorem walk_finished :
    matcher.walk text (fuel + 1) matched ⟨before, []⟩ position =
      pure (if position.rest.isEmpty then
          some (.unbound text (placeholderCount before.reverse) matched)
        else none) := by
  rw [Matcher.walk]
  simp [Demand.ofText_nil, Cursor.pattern]

theorem walk_closing {char : Char} (closes : char = ')' ∨ char = ']') :
    matcher.walk text (fuel + 1) matched ⟨before, char :: rest⟩ position =
      matcher.walk text fuel matched ⟨char :: before, rest⟩ position := by
  rw [Matcher.walk]
  simp only [Demand.ofText_closing closes]
  rfl

theorem walk_optional [LawfulMonad m] {inside : Text}
    (clean : PassesOver ']' '[' inside)
    (skipped : matcher.walk text fuel 0
      ⟨']' :: (inside.reverse ++ '[' :: before), []⟩ position =
      pure none) :
    matcher.walk text (fuel + 1) 0 ⟨before, '[' :: (inside ++ [']'])⟩ position =
      matcher.walk text fuel 0 ⟨'[' :: before, inside ++ [']']⟩ position := by
  have closed : closingOffset ']' '[' 0 (inside ++ [']']) = some inside.length := by
    rw [clean, closingOffset_cons (by decide), if_pos rfl, Option.map_some,
      Nat.zero_add]
  have nothing : (inside ++ [']']).drop (inside.length + 1) = [] := by simp
  rw [Matcher.walk]
  simp only [Demand.ofText_optional, closed, nothing, List.head?_nil,
    Option.none_beq_some,
    Bool.and_false, Bool.false_eq_true, if_false, Cursor.advance_enclosed, skipped]
  refine Eq.trans (bind_congr fun found => ?_) (bind_pure _)
  cases found <;> rfl

theorem walk_letter {char : Char} (noMark : char ∉ Demand.marks) :
    matcher.walk text (fuel + 1) matched ⟨before, char :: rest⟩ position =
      match position.takeLetter char with
      | none => pure none
      | some next =>
          matcher.walk text fuel (matched + 1) ⟨char :: before, rest⟩ next := by
  rw [Matcher.walk]
  simp only [Demand.ofText_letter noMark]
  rfl

theorem walk_space :
    matcher.walk text (fuel + 1) matched ⟨before, ' ' :: rest⟩ position =
      match position.takeSpace with
      | none => pure none
      | some (count, next) =>
          matcher.walk text fuel (matched + count) ⟨' ' :: before, rest⟩ next := by
  rw [Matcher.walk]
  simp only [Demand.ofText_space]
  rfl

/-- Tries the alternative that starts at the place, which is paired with its
index. -/
def tryAlternative (matcher : Matcher m) (text : Text) (fuel : Nat)
    (cursor : Cursor) (position : Position) (place : Nat × Nat) :
    m (Option MatchResult) := do
  let result ← matcher.walk text fuel 0 (cursor.advance (place.1 + 1)) position
  pure (result.map (·.choose place.2))

theorem walk_choice {inside : Text} {offset : Nat}
    (closed : closingOffset ')' '(' 0 inside = some offset) :
    matcher.walk text (fuel + 1) matched ⟨before, '(' :: inside⟩ position =
      (do
        let found ← Searching.firstSome
          (matcher.tryAlternative text fuel ⟨before, '(' :: inside⟩ position)
          (alternativeStarts (inside.take offset)).zipIdx
        pure (found.map (·.plusChars matched))) := by
  rw [Matcher.walk]
  simp only [Demand.ofText_choice, closed]
  rfl

theorem walk_placeholder [LawfulMonad m] {written : Text}
    {placeholder : Placeholder} {type : RegisteredType}
    (segment : Segment written 0) (present : position.rest ≠ [])
    (read : Placeholder.read matcher.registry.normalize written = .ok placeholder)
    (known : matcher.registry.getType placeholder.name = .ok type) :
    matcher.walk text (fuel + 1) matched ⟨before,
      '%' :: (written ++ '%' :: rest)⟩ position =
      (do
        let found ← Searching.firstSome
          (matcher.tryCut (slotAfter before.reverse) placeholder type
            matched fun cut =>
            matcher.walk text fuel 0 ⟨'%' :: (written.reverse ++ '%' :: before),
              rest⟩
              (position.after cut))
          (Cut.ofPlaceholder rest.isEmpty position.rest)
        pure ((found.getD none).map (·.plusChars matched))) := by
  have notEnd : position.rest.isEmpty = false := by simpa using present
  rw [Matcher.walk]
  simp only [Demand.ofText_placeholder, notEnd, Bool.false_eq_true, if_false,
    unescapedOffset_eq segment rfl, List.take_left, read, known,
    Cursor.advance_enclosed, Searching.lift, pure_bind]
  rfl

theorem walk_regex {body : Text} {program : RegexProgram} (noEnd : '>' ∉ body)
    (compiles : matcher.registry.regexes.compile body = .ok program) :
    matcher.walk text (fuel + 1) matched ⟨before, '<' :: (body ++ '>' :: rest)⟩
      position =
      (do
        let found ← Searching.firstSome
          (tryCapture program fun cut =>
            matcher.walk text fuel 0 ⟨'>' :: (body.reverse ++ '<' :: before), rest⟩
              (position.after cut))
          (Cut.nonempty position.rest)
        pure (found.map (·.plusChars matched))) := by
  rw [Matcher.walk]
  simp only [Demand.ofText_capture, regexEndOffset_eq noEnd,
    List.take_left, compiles, Cursor.advance_enclosed]

end Matcher

end Phrasebook
