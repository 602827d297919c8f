import Phrasebook.Script

/-!
# Lines of a script

A line is skipped, or it stands at the margin, or it is indented.  That alone
decides how the analysis goes on.  The span of a line that is not skipped covers
its text without the blanks around it, no more and no less.
-/

namespace Phrasebook

/-- A line of a script with its number. -/
abbrev NumberedLine := Text × Nat

namespace NumberedLine

def Skipped (line : NumberedLine) : Prop :=
  Text.strip line.1 = [] ∨ (Text.strip line.1).head? = some '#'

def Indented (line : NumberedLine) : Prop :=
  line.1.head? = some ' ' ∨ line.1.head? = some '\t'

/-- The line can only be the header of a trigger: it is not skipped and not
indented. -/
def AtMargin (line : NumberedLine) : Prop :=
  ¬line.Skipped ∧ ¬line.Indented

/-- The header is the nearest line above at the margin. -/
def Nearest (earlier : List NumberedLine) (header : NumberedLine) : Prop :=
  ∃ before between, earlier = before ++ header :: between ∧ header.AtMargin ∧
    ∀ line ∈ between, ¬line.AtMargin

def span (file : Text) (line : NumberedLine) : Span :=
  .ofLine file line.2 line.1

@[simp] theorem span_startLine (file : Text) (line : NumberedLine) :
    (line.span file).startLine = line.2 := by
  unfold span Span.ofLine
  simp only
  split <;> rfl

@[simp] theorem span_file (file : Text) (line : NumberedLine) :
    (line.span file).file = file := by
  unfold span Span.ofLine
  simp only
  split <;> rfl

theorem class_cases (line : NumberedLine) :
    match LineClass.ofLine line.1 with
    | .skipped => line.Skipped
    | .header _ | .strayText _ => line.AtMargin
    | .indented _ => ¬line.Skipped ∧ line.Indented := by
  have skipped :
    ((Text.strip line.1).isEmpty || (Text.strip line.1).head? == some '#') =
      true ↔
      line.Skipped := by
    simp [Skipped]
  have indented : (line.1.head? == some ' ' || line.1.head? == some '\t') = true ↔
      line.Indented := by
    simp [Indented]
  unfold LineClass.ofLine
  by_cases isSkipped : line.Skipped
  · rw [if_pos (skipped.mpr isSkipped)]
    exact isSkipped
  rw [if_neg (mt skipped.mp isSkipped)]
  by_cases isIndented : line.Indented
  · rw [if_pos (indented.mpr isIndented)]
    exact ⟨isSkipped, isIndented⟩
  rw [if_neg (mt indented.mp isIndented)]
  cases (Text.strip line.1).getLast? == some ':' with
  | true => exact ⟨isSkipped, isIndented⟩
  | false => exact ⟨isSkipped, isIndented⟩

theorem Nearest.skip {earlier : List NumberedLine} {header line : NumberedLine}
    (nearest : Nearest earlier header) (within : ¬line.AtMargin) :
    Nearest (earlier ++ [line]) header := by
  obtain ⟨before, between, split, atMargin, noOther⟩ := nearest
  refine ⟨before, between ++ [line], by simp [split], atMargin, ?_⟩
  intro other member
  rcases List.mem_append.mp member with inner | last
  · exact noOther other inner
  · rw [List.mem_singleton.mp last]
    exact within

theorem Nearest.self {line : NumberedLine} (earlier : List NumberedLine)
    (atMargin : line.AtMargin) : Nearest (earlier ++ [line]) line :=
  ⟨earlier, [], rfl, atMargin, fun _ member => nomatch member⟩

end NumberedLine

/-! ## The text that a span covers -/

/-- The text that a span within one line of a file covers. -/
def Span.excerpt (source : SourceFile) (span : Span) : Text :=
  ((source.lineAt span.startLine).take span.endColumn.toNat).drop
    (span.startColumn.toNat - 1)

theorem Text.take_drop_of_split {line blanks text behind : Text}
    (split : line = blanks ++ text ++ behind) :
    (line.take (blanks ++ text).length).drop blanks.length = text := by
  rw [split, List.take_left, List.drop_left]

/-- A text is what is left of it when it is stripped, between the blanks on both
sides. -/
theorem Text.strip_split (text : Text) :
    ∃ blanks behind, text = blanks ++ strip text ++ behind ∧
      (∀ char ∈ blanks, isBlank char = true) ∧
        blanks.length + (stripStart text).length = text.length := by
  have start : text.takeWhile isBlank ++ stripStart text = text :=
    List.takeWhile_append_dropWhile
  have stripped : strip text <+: stripStart text := by
    have turned := List.reverse_prefix.mpr
      (List.dropWhile_suffix (l := (stripStart text).reverse) isBlank)
    rwa [List.reverse_reverse] at turned
  obtain ⟨behind, ended⟩ := stripped
  refine ⟨text.takeWhile isBlank, behind, ?_, ?_, ?_⟩
  · rw [List.append_assoc, ended, start]
  · intro char member
    exact List.all_eq_true.mp List.all_takeWhile char member
  · rw [← List.length_append, start]

namespace NumberedLine

/-- The lines of a source, numbered from 1. -/
def all (source : Text) : List NumberedLine :=
  (Text.lines source).zipIdx 1

theorem all_increasing (source : Text) : (all source).Pairwise (·.2 < ·.2) := by
  have numbers : (all source).map Prod.snd =
      List.range' 1 (Text.lines source).length :=
    List.zipIdx_map_snd 1 (Text.lines source)
  apply List.pairwise_map.mp
  rw [numbers]
  exact List.pairwise_lt_range'

theorem spans_increasing (source file : Text) :
    ((all source).map (span file)).Pairwise (·.startLine < ·.startLine) := by
  apply List.pairwise_map.mpr
  apply (all_increasing source).imp
  intro upper lower less
  simp only [span_startLine]
  omega

theorem lineAt_of_mem {source : Text} {line : NumberedLine}
    (member : line ∈ all source) :
    (⟨source⟩ : SourceFile).lineAt line.2 = line.1 := by
  obtain ⟨text, number⟩ := line
  obtain ⟨low, found⟩ := List.mk_mem_zipIdx_iff_le_and_getElem?_sub.mp member
  have notBefore : ¬(number : Int) < 1 := by omega
  simp [SourceFile.lineAt, SourceFile.lines, notBefore, found]

theorem span_eq {line : NumberedLine} (present : Text.strip line.1 ≠ []) :
    ∃ blanks behind, line.1 = blanks ++ Text.strip line.1 ++ behind ∧
      (∀ char ∈ blanks, Text.isBlank char = true) ∧
        ∀ file, line.span file = ⟨file, line.2, blanks.length + 1, line.2,
          blanks.length + (Text.strip line.1).length⟩ := by
  obtain ⟨blanks, behind, split, blank, lengths⟩ := Text.strip_split line.1
  have notEmpty : (Text.strip line.1).isEmpty = false := by simpa using present
  have positive := List.length_pos_iff.mpr present
  have start : line.1.length - (Text.stripStart line.1).length =
      blanks.length := by omega
  refine ⟨blanks, behind, split, blank, fun file => ?_⟩
  simp only [span, Span.ofLine, notEmpty, start]
  simp
  omega

/-- The span of a line that is not skipped covers exactly what is left of the
line when it is stripped. -/
theorem excerpt_span {source file : Text} {line : NumberedLine}
    (member : line ∈ all source) (present : ¬line.Skipped) :
    (line.span file).startLine = line.2 ∧ (line.span file).endLine = line.2 ∧
      (line.span file).excerpt ⟨source⟩ = Text.strip line.1 := by
  have nonempty : Text.strip line.1 ≠ [] := fun blank => present (.inl blank)
  obtain ⟨blanks, behind, split, _, isSpan⟩ := span_eq nonempty
  refine ⟨by rw [isSpan], by rw [isSpan], ?_⟩
  have first : ((blanks.length : Int) + 1).toNat - 1 = blanks.length := by omega
  have last : ((blanks.length : Int) + (Text.strip line.1).length).toNat =
      (blanks ++ Text.strip line.1).length := by
    rw [List.length_append]
    omega
  rw [isSpan]
  simp only [Span.excerpt, first, last, lineAt_of_mem member]
  exact Text.take_drop_of_split split

end NumberedLine

end Phrasebook
