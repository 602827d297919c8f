import Phrasebook.Pattern.Scan

/-!
# Segments of a pattern

All scans of a pattern pass over escaped characters in pairs.  A segment is a
part of a pattern that such a scan takes as a whole: it does not end between a
backslash and the character that it escapes.  Every place that a scan finds
stands behind a segment, and the percent signs and placeholders of a pattern can
be counted segment by segment.
-/

namespace Phrasebook.Pattern

/-- A text that is scanned as a whole and has so many unescaped percent signs. -/
inductive Segment : Text → Nat → Prop where
  | nil : Segment [] 0
  | escaped (char : Char) {rest : Text} {count : Nat} :
      Segment rest count → Segment ('\\' :: char :: rest) count
  | percent {rest : Text} {count : Nat} : Segment rest count →
      Segment ('%' :: rest) (count + 1)
  | plain {char : Char} {rest : Text} {count : Nat} (noEscape : char ≠ '\\')
      (noPercent : char ≠ '%') : Segment rest count → Segment (char :: rest) count

namespace Segment

theorem append {first second : Text} {left right : Nat} (head : Segment first left)
    (tail : Segment second right) : Segment (first ++ second) (left + right) := by
  induction head with
  | nil => simpa using tail
  | escaped char _ induction => exact .escaped char induction
  | percent _ induction =>
      rw [Nat.add_right_comm]
      exact .percent induction
  | plain noEscape noPercent _ induction =>
      exact .plain noEscape noPercent induction

theorem single {char : Char} (noEscape : char ≠ '\\') (noPercent : char ≠ '%') :
    Segment [char] 0 :=
  .plain noEscape noPercent .nil

theorem single_percent : Segment ['%'] 1 :=
  .percent .nil

theorem single_mark {mark : Char} (isMark : mark ∈ "()[]|".toList) :
    Segment [mark] 0 := by
  apply single
  · rintro rfl
    simp at isMark
  · rintro rfl
    simp at isMark

theorem plain_text {text : Text} (clean : ∀ char ∈ text, char ≠ '\\' ∧ char ≠ '%') :
    Segment text 0 := by
  induction text with
  | nil => exact .nil
  | cons char text induction =>
      obtain ⟨noEscape, noPercent⟩ := clean char List.mem_cons_self
      exact .plain noEscape noPercent
        (induction fun other member =>
          clean other (List.mem_cons_of_mem char member))

theorem of_avoiding {avoided text : Text} (escape : '\\' ∈ avoided)
    (percent : '%' ∈ avoided) (clean : ∀ char ∈ text, char ∉ avoided) :
    Segment text 0 := by
  apply plain_text
  intro char member
  constructor
  · rintro rfl
    exact clean _ member escape
  · rintro rfl
    exact clean _ member percent

theorem cons {char : Char} {rest : Text} {count : Nat} (noEscape : char ≠ '\\')
    (segment : Segment rest count) : ∃ more, Segment (char :: rest) more := by
  by_cases isPercent : char = '%'
  · subst isPercent
    exact ⟨count + 1, .percent segment⟩
  · exact ⟨count, .plain noEscape isPercent segment⟩

end Segment

/-! ## Counting percent signs -/

theorem noEscape_of_cases {char : Char} {rest : Text}
    (lone : char = '\\' → rest = [] → False)
    (escape : ∀ next later, char = '\\' → rest = next :: later → False) :
    char ≠ '\\' := by
  intro isEscape
  cases rest with
  | nil => exact lone isEscape rfl
  | cons next later => exact escape next later isEscape rfl

theorem percentCount_escaped (char : Char) (rest : Text) :
    percentCount ('\\' :: char :: rest) = percentCount rest :=
  rfl

theorem percentCount_cons {char : Char} (noEscape : char ≠ '\\') (rest : Text) :
    percentCount (char :: rest) = (if char = '%' then 1 else 0) +
      percentCount rest := by
  simp [percentCount, noEscape]

theorem percentCount_append {first : Text} {count : Nat}
    (segment : Segment first count) (second : Text) :
    percentCount (first ++ second) = count + percentCount second := by
  induction segment with
  | nil => simp
  | escaped char _ induction => simpa [percentCount_escaped] using induction
  | percent _ induction =>
      rw [List.cons_append, percentCount_cons (by decide), induction]
      simp
      omega
  | plain noEscape noPercent _ induction =>
      rw [List.cons_append, percentCount_cons noEscape, induction]
      simp [noPercent]

theorem percentCount_segment {text : Text} {count : Nat}
    (segment : Segment text count) :
    percentCount text = count := by
  have counted := percentCount_append segment []
  rw [List.append_nil] at counted
  exact counted

/-! ## The pieces between percent signs -/

theorem percentPieces_escaped (char : Char) {rest piece : Text} {pieces : List Text}
    (split : percentPieces rest = piece :: pieces) :
    percentPieces ('\\' :: char :: rest) = ('\\' :: char :: piece) :: pieces := by
  simp [percentPieces, split]

theorem percentPieces_percent (rest : Text) :
    percentPieces ('%' :: rest) = [] :: percentPieces rest :=
  rfl

theorem percentPieces_plain {char : Char} (noEscape : char ≠ '\\')
    (noPercent : char ≠ '%') {rest piece : Text} {pieces : List Text}
    (split : percentPieces rest = piece :: pieces) :
    percentPieces (char :: rest) = (char :: piece) :: pieces := by
  simp [percentPieces, noEscape, noPercent, split]

/-- Splitting a text behind a segment splits the segment first. -/
theorem percentPieces_append {first : Text} {count : Nat}
    (segment : Segment first count) :
    ∃ earlier last, earlier.length = count ∧
      ∀ rest piece pieces, percentPieces rest = piece :: pieces →
        percentPieces (first ++ rest) = earlier ++ (last ++ piece) :: pieces := by
  induction segment with
  | nil => exact ⟨[], [], rfl, fun _ _ _ split => split⟩
  | escaped char _ induction =>
      obtain ⟨earlier, last, length, behind⟩ := induction
      cases earlier with
      | nil =>
          refine ⟨[], '\\' :: char :: last, length, ?_⟩
          intro rest piece pieces split
          exact percentPieces_escaped char (behind rest piece pieces split)
      | cons head earlier =>
          refine ⟨('\\' :: char :: head) :: earlier, last, length, ?_⟩
          intro rest piece pieces split
          exact percentPieces_escaped char (behind rest piece pieces split)
  | percent _ induction =>
      obtain ⟨earlier, last, length, behind⟩ := induction
      refine ⟨[] :: earlier, last, by simp [length], ?_⟩
      intro rest piece pieces split
      rw [List.cons_append, percentPieces_percent, behind rest piece pieces split]
      rfl
  | @plain char _ _ noEscape noPercent _ induction =>
      obtain ⟨earlier, last, length, behind⟩ := induction
      cases earlier with
      | nil =>
          refine ⟨[], char :: last, length, ?_⟩
          intro rest piece pieces split
          exact percentPieces_plain noEscape noPercent
            (behind rest piece pieces split)
      | cons head earlier =>
          refine ⟨(char :: head) :: earlier, last, length, ?_⟩
          intro rest piece pieces split
          exact percentPieces_plain noEscape noPercent
            (behind rest piece pieces split)

theorem percentPieces_piece {piece : Text} {count : Nat}
    (segment : Segment piece count) (none : count = 0) (rest : Text) :
    percentPieces (piece ++ '%' :: rest) = piece :: percentPieces rest := by
  induction segment with
  | nil => exact percentPieces_percent rest
  | escaped char _ induction => exact percentPieces_escaped char (induction none)
  | percent _ _ => cases none
  | plain noEscape noPercent _ induction =>
      exact percentPieces_plain noEscape noPercent (induction none)

private theorem percentPieces_ne_nil (text : Text) : percentPieces text ≠ [] := by
  fun_induction percentPieces text <;> simp_all

theorem length_percentPieces (text : Text) :
    (percentPieces text).length = percentCount text + 1 := by
  fun_induction percentPieces text with
  | case1 => rfl
  | case2 => rfl
  | case3 char rest empty => exact absurd empty (percentPieces_ne_nil rest)
  | case4 char rest piece pieces split induction =>
      rw [percentCount_escaped, ← induction, split]
      simp
  | case5 rest _ _ induction =>
      rw [percentCount_cons (by decide), List.length_cons, induction]
      simp
      omega
  | case6 char rest _ _ noPercent empty =>
      exact absurd empty (percentPieces_ne_nil rest)
  | case7 char rest lone escape noPercent piece pieces split induction =>
      have noEscape : char ≠ '\\' := noEscape_of_cases lone escape
      rw [split] at induction
      simpa [percentCount_cons noEscape, noPercent] using induction

/-! ## Placeholders -/

private theorem length_enclosedPieces (pieces : List Text) :
    (enclosedPieces pieces).length = (pieces.length - 1) / 2 := by
  fun_induction enclosedPieces pieces with
  | case1 first inside after rest induction =>
      simp only [List.length_cons, induction]
      omega
  | case2 pieces short =>
      match pieces with
      | [] | [_] | [_, _] => simp
      | first :: inside :: after :: rest =>
          exact absurd rfl (short first inside after rest)

private theorem getElem_enclosedPieces {pieces : List Text} {slot : Nat}
    (closed : 2 * slot + 2 < pieces.length) :
    (enclosedPieces pieces)[slot]? = pieces[2 * slot + 1]? := by
  fun_induction enclosedPieces pieces generalizing slot with
  | case1 first inside after rest induction =>
      cases slot with
      | zero => simp
      | succ slot =>
          simp only [List.length_cons] at closed induction
          have later : (enclosedPieces (after :: rest))[slot]? =
              (after :: rest)[2 * slot + 1]? :=
            induction (by omega)
          have index : 2 * (slot + 1) + 1 = (2 * slot + 1) + 2 := by omega
          rw [List.getElem?_cons_succ, later, index]
          rfl
  | case2 pieces short =>
      match pieces with
      | [] | [_] | [_, _] =>
          simp only [List.length_nil, List.length_cons] at closed
          omega
      | first :: inside :: after :: rest =>
          exact absurd rfl (short first inside after rest)

theorem length_placeholders (pattern : Text) :
    (placeholders pattern).length = placeholderCount pattern := by
  rw [placeholders, length_enclosedPieces, length_percentPieces]
  rfl

/-- A placeholder that stands behind an even number of percent signs is listed
in its slot. -/
theorem placeholders_at {before inside rest : Text} {slot : Nat}
    (segment : Segment before (2 * slot)) (piece : Segment inside 0) :
    (placeholders (before ++ '%' :: (inside ++ '%' :: rest)))[slot]? =
      some inside := by
  obtain ⟨earlier, last, length, behind⟩ := percentPieces_append segment
  have split : percentPieces ('%' :: (inside ++ '%' :: rest)) =
      [] :: inside :: percentPieces rest := by
    rw [percentPieces_percent, percentPieces_piece piece rfl]
  have pieces := behind _ _ _ split
  have more : 0 < (percentPieces rest).length := by
    rw [length_percentPieces]
    omega
  rw [placeholders, pieces, getElem_enclosedPieces]
  · rw [List.getElem?_append_right (by omega), length]
    simp
  · simp only [List.length_append, List.length_cons]
    omega

/-! ## What scans find -/

theorem unescapedOffset_percent {text : Text} {offset : Nat}
    (found : unescapedOffset '%' text = some offset) :
    ∃ inside rest, text = inside ++ '%' :: rest ∧ inside.length = offset ∧
    Segment inside 0 := by
  fun_induction unescapedOffset '%' text generalizing offset with
  | case1 => cases found
  | case2 => cases found
  | case3 char rest induction =>
      obtain ⟨later, next, rfl⟩ := Option.map_eq_some_iff.mp found
      obtain ⟨inside, behind, rfl, rfl, segment⟩ := induction next
      exact ⟨'\\' :: char :: inside, behind, rfl, rfl, .escaped char segment⟩
  | case4 rest =>
      cases found
      exact ⟨[], rest, rfl, rfl, .nil⟩
  | case5 char rest lone escape other induction =>
      obtain ⟨later, next, rfl⟩ := Option.map_eq_some_iff.mp found
      obtain ⟨inside, behind, rfl, rfl, segment⟩ := induction next
      have noEscape : char ≠ '\\' := noEscape_of_cases lone escape
      exact ⟨char :: inside, behind, rfl, rfl, .plain noEscape other segment⟩

theorem unescapedOffset_eq {inside : Text} {count : Nat}
    (segment : Segment inside count) (none : count = 0) (rest : Text) :
    unescapedOffset '%' (inside ++ '%' :: rest) = some inside.length := by
  induction segment with
  | nil => simp [unescapedOffset]
  | escaped char _ induction => simp [unescapedOffset, induction none]
  | percent _ _ => cases none
  | plain noEscape noPercent _ induction =>
      simp [unescapedOffset, noEscape, noPercent, induction none]

/-- The character stands at the offset of the text, behind a segment. -/
def StandsAt (target : Char) (text : Text) (offset : Nat) : Prop :=
  ∃ inside rest count, text = inside ++ target :: rest ∧ inside.length = offset ∧
    Segment inside count

namespace StandsAt

variable {target : Char} {text : Text} {offset : Nat}

theorem escaped (char : Char) (stands : StandsAt target text offset) :
    StandsAt target ('\\' :: char :: text) (offset + 2) := by
  obtain ⟨inside, rest, count, rfl, rfl, segment⟩ := stands
  exact ⟨'\\' :: char :: inside, rest, count, rfl, rfl, .escaped char segment⟩

theorem cons {char : Char} (noEscape : char ≠ '\\')
    (stands : StandsAt target text offset) :
    StandsAt target (char :: text) (offset + 1) := by
  obtain ⟨inside, rest, count, rfl, rfl, segment⟩ := stands
  obtain ⟨more, segment⟩ := segment.cons noEscape
  exact ⟨char :: inside, rest, more, rfl, rfl, segment⟩

end StandsAt

/-- A closing bracket is found behind a segment. -/
theorem closingOffset_stands {closing opening : Char} {depth : Nat}
    {text : Text} {offset : Nat}
    (found : closingOffset closing opening depth text = some offset) :
    StandsAt closing text offset := by
  fun_induction closingOffset closing opening depth text generalizing offset with
  | case1 => cases found
  | case2 => cases found
  | case3 depth char rest induction =>
      obtain ⟨later, next, rfl⟩ := Option.map_eq_some_iff.mp found
      exact (induction next).escaped char
  | case4 rest =>
      cases found
      exact ⟨[], rest, 0, rfl, rfl, .nil⟩
  | case5 rest depth lone escape induction =>
      obtain ⟨later, next, rfl⟩ := Option.map_eq_some_iff.mp found
      exact (induction next).cons (noEscape_of_cases lone escape)
  | case6 depth rest lone escape other induction =>
      obtain ⟨later, next, rfl⟩ := Option.map_eq_some_iff.mp found
      exact (induction next).cons (noEscape_of_cases lone escape)
  | case7 depth char rest lone escape other another induction =>
      obtain ⟨later, next, rfl⟩ := Option.map_eq_some_iff.mp found
      exact (induction next).cons (noEscape_of_cases lone escape)

theorem barOffsets_stands {depth : Int} {offset start : Nat} {text : Text}
    (found : start ∈ barOffsets depth offset text) :
    ∃ inside, StandsAt '|' text inside ∧ start = offset + inside + 1 := by
  fun_induction barOffsets depth offset text with
  | case1 => cases found
  | case2 => cases found
  | case3 depth offset char rest induction =>
      obtain ⟨inside, stands, rfl⟩ := induction found
      exact ⟨inside + 2, stands.escaped char, by omega⟩
  | case4 depth offset char rest lone escape bracket induction =>
      obtain ⟨inside, stands, rfl⟩ := induction found
      exact ⟨inside + 1, stands.cons (noEscape_of_cases lone escape), by omega⟩
  | case5 depth offset char rest lone escape _ bracket induction =>
      obtain ⟨inside, stands, rfl⟩ := induction found
      exact ⟨inside + 1, stands.cons (noEscape_of_cases lone escape), by omega⟩
  | case6 depth offset char rest lone escape _ _ bar induction =>
      rcases List.mem_cons.mp found with rfl | found
      · obtain ⟨rfl, _⟩ : char = '|' ∧ depth = 0 := by simpa using bar
        exact ⟨0, ⟨[], rest, 0, rfl, rfl, .nil⟩, rfl⟩
      · obtain ⟨inside, stands, rfl⟩ := induction found
        exact ⟨inside + 1, stands.cons (noEscape_of_cases lone escape), by omega⟩
  | case7 depth offset char rest lone escape _ _ _ induction =>
      obtain ⟨inside, stands, rfl⟩ := induction found
      exact ⟨inside + 1, stands.cons (noEscape_of_cases lone escape), by omega⟩

/-! ## Slots of regular expressions -/

theorem segment_snoc {last : Char} (noEscape : last ≠ '\\')
    (noPercent : last ≠ '%') :
    ∀ text : Text, '%' ∉ text → Segment (text ++ [last]) 0
  | [], _ => .single noEscape noPercent
  | char :: rest, clean => by
      have notFirst : '%' ≠ char := List.ne_of_not_mem_cons clean
      have behind : '%' ∉ rest := List.not_mem_of_not_mem_cons clean
      by_cases isEscape : char = '\\'
      · subst isEscape
        cases rest with
        | nil => exact .escaped last .nil
        | cons next rest =>
            have later : '%' ∉ rest := List.not_mem_of_not_mem_cons behind
            exact .escaped next (segment_snoc noEscape noPercent rest later)
      · exact .plain isEscape (Ne.symm notFirst)
          (segment_snoc noEscape noPercent rest behind)

/-- A text and a character behind it that does not escape are scanned as a
whole, even if the text ends in a backslash. -/
theorem segment_closed {last : Char} (noEscape : last ≠ '\\') :
    ∀ text : Text, ∃ count, Segment (text ++ [last]) count
  | [] => Segment.nil.cons noEscape
  | char :: rest => by
      by_cases isEscape : char = '\\'
      · subst isEscape
        cases rest with
        | nil => exact ⟨0, .escaped last .nil⟩
        | cons next rest =>
            obtain ⟨count, later⟩ := segment_closed noEscape rest
            exact ⟨count, .escaped next later⟩
      · obtain ⟨count, later⟩ := segment_closed noEscape rest
        exact later.cons isEscape

theorem regexEndOffset_split {text : Text} {offset : Nat}
    (found : regexEndOffset text = some offset) :
    ∃ body rest, text = body ++ '>' :: rest ∧ body.length = offset ∧
    '>' ∉ body := by
  induction text generalizing offset with
  | nil => cases found
  | cons char text induction =>
      rw [regexEndOffset] at found
      by_cases isEnd : char = '>'
      · subst isEnd
        cases found
        exact ⟨[], text, rfl, rfl, List.not_mem_nil⟩
      · rw [if_neg isEnd] at found
        obtain ⟨later, next, rfl⟩ := Option.map_eq_some_iff.mp found
        obtain ⟨body, rest, rfl, rfl, noEnd⟩ := induction next
        refine ⟨char :: body, rest, rfl, rfl, ?_⟩
        intro member
        rcases List.mem_cons.mp member with same | member
        · exact isEnd same.symm
        · exact noEnd member

end Phrasebook.Pattern
