import Phrasebook.Highlight.PatternLexer
import Phrasebook.Highlight.ScriptLexer
import Phrasebook.Proofs.Highlight.Tiling

/-!
# Highlighting loses nothing

Every rule of the two lexers takes tokens that tile what it reads, also where
optional parts of it are absent.  So the tokens of a pattern or a script make up
the text that was prepared for highlighting, whether or not a quoted text is
left open at its end.
-/

namespace Phrasebook.Highlight

variable {text rest : Text} {taken : Taken}

/-! ## What is read -/

theorem run_reads {admits : Char → Bool} {read : Text}
    (isRun : text.takeWhile admits = read) :
    read ++ text.dropWhile admits = text := by
  rw [← isRun, List.takeWhile_append_dropWhile]

/-- What is read up to a closing character. -/
theorem closed_reads {admits : Char → Bool} {closing : Char} {after : Text}
    (opening : Char) (stops : rest.dropWhile admits = closing :: after) :
    opening :: rest.takeWhile admits ++ [closing] ++ after = opening :: rest := by
  rw [List.append_assoc, List.singleton_append, ← stops, List.cons_append,
    List.takeWhile_append_dropWhile]

/-! ## Scans of either lexer -/

namespace Scan

theorem char_tiles (kind : TokenKind) (admits : Char → Bool) :
    (char kind admits).Tiles := by
  intro previous text taken scanned
  cases text with
  | nil => cases scanned
  | cons first rest =>
      rw [char, Option.ite_none_right_eq_some] at scanned
      obtain ⟨_, same⟩ := scanned
      cases same
      exact .char kind first rest

theorem run_tiles (kind : TokenKind) (admits : Char → Bool) :
    (run kind admits).Tiles := by
  intro previous text taken scanned
  unfold run at scanned
  split at scanned
  · cases scanned
  · rename_i isRun
    cases scanned
    exact .single kind (List.cons_ne_nil _ _) (run_reads isRun)

end Scan

/-! ## Patterns -/

namespace PatternScan

theorem escape_tiles : escape.Tiles := by
  intro previous text taken scanned
  unfold escape at scanned
  split at scanned
  · split at scanned
    · cases scanned
    · cases scanned
      exact .single .stringEscape (List.cons_ne_nil _ _) rfl
  · cases scanned

def IsTimeState (time : Text) : Prop :=
  ∃ sign digits, (sign = [] ∨ sign = ['-']) ∧ digits ≠ [] ∧
  digits.all Text.isDigit ∧
    time = '@' :: sign ++ digits

/-- The groups from a type's name to the end of a placeholder; the time state
may be absent. -/
inductive NameGroups : List Token → Prop where
  | mk {name time : Text} (named : name ≠ []) (plain : name.all inTypeName)
      (timed : time = [] ∨ IsTimeState time) :
      NameGroups [⟨.nameClass, name⟩, ⟨.integer, time⟩, ⟨.punctuation, ['%']⟩]

/-- The groups of a placeholder; the dash may be absent, too. -/
inductive PlaceholderGroups : List Token → Prop where
  | mk {dash : Text} {groups : List Token} (dashed : dash = [] ∨ dash = ['-'])
      (named : NameGroups groups) :
      PlaceholderGroups (⟨.punctuation, ['%']⟩ :: ⟨.operator, dash⟩ :: groups)

private theorem timeEnd_groups {sign : Text} (signed : sign = [] ∨ sign = ['-'])
    (found : timeEnd ('@' :: sign) text = some taken) :
    ∃ time, IsTimeState time ∧
      taken.OfGroups [⟨.integer, time⟩, ⟨.punctuation, ['%']⟩]
        ('@' :: sign ++ text) := by
  unfold timeEnd at found
  split at found
  · rename_i digit digits rest isRun behind
    cases found
    have decimal : (digit :: digits).all Text.isDigit := isRun ▸ List.all_takeWhile
    have reads : '@' :: sign ++ digit :: digits ++ '%' :: rest =
        '@' :: sign ++ text := by
      rw [List.append_assoc, ← behind, run_reads isRun]
    exact ⟨_, ⟨sign, digit :: digits, signed, List.cons_ne_nil _ _, decimal, rfl⟩,
      (Taken.OfGroups.char .punctuation '%' rest).present
        (List.cons_ne_nil _ _) reads⟩
  · cases found

private theorem placeholderEnd_groups (found : placeholderEnd text = some taken) :
    ∃ time, (time = [] ∨ IsTimeState time) ∧
      taken.OfGroups [⟨.integer, time⟩, ⟨.punctuation, ['%']⟩] text := by
  unfold placeholderEnd at found
  split at found
  · cases found
    exact ⟨[], .inl rfl, (Taken.OfGroups.char .punctuation '%' _).absent .integer⟩
  · obtain ⟨time, timed, has⟩ := timeEnd_groups (.inr rfl) found
    exact ⟨time, .inr timed, has⟩
  · obtain ⟨time, timed, has⟩ := timeEnd_groups (.inl rfl) found
    exact ⟨time, .inr timed, has⟩
  · cases found

private theorem typeName_groups (found : typeName text = some taken) :
    ∃ groups, NameGroups groups ∧ taken.OfGroups groups text := by
  unfold typeName at found
  split at found
  · cases found
  · rename_i first name isName
    obtain ⟨ended, isEnd, rfl⟩ := Option.map_eq_some_iff.mp found
    obtain ⟨time, timed, has⟩ := placeholderEnd_groups isEnd
    have named : first :: name ≠ [] := List.cons_ne_nil _ _
    have plain : (first :: name).all inTypeName := isName ▸ List.all_takeWhile
    exact ⟨_, .mk named plain timed, has.present named (run_reads isName)⟩

private theorem placeholderBody_groups (found : placeholderBody text = some taken) :
    ∃ groups, PlaceholderGroups (⟨.punctuation, ['%']⟩ :: groups) ∧
      taken.OfGroups groups text := by
  have undashed (found : typeName text = some taken) :
      ∃ groups, PlaceholderGroups (⟨.punctuation, ['%']⟩ :: groups) ∧
        taken.OfGroups groups text := by
    obtain ⟨groups, named, has⟩ := typeName_groups found
    exact ⟨_, .mk (.inl rfl) named, has.absent .operator⟩
  unfold placeholderBody at found
  split at found
  · split at found
    · rename_i named
      cases found
      obtain ⟨groups, named, has⟩ := typeName_groups named
      exact ⟨_, .mk (.inr rfl) named, has.present (List.cons_ne_nil _ _) rfl⟩
    · exact undashed found
  · exact undashed found

private theorem placeholder_groups {previous : Option Char}
    (scanned : placeholder previous text = some taken) :
    ∃ groups, PlaceholderGroups groups ∧ taken.OfGroups groups text := by
  unfold placeholder at scanned
  split at scanned
  · obtain ⟨body, found, rfl⟩ := Option.map_eq_some_iff.mp scanned
    obtain ⟨groups, isPlaceholder, has⟩ := placeholderBody_groups found
    exact ⟨_, isPlaceholder, has.present (List.cons_ne_nil _ _) rfl⟩
  · cases scanned

theorem placeholder_tiles : placeholder.Tiles := by
  intro previous text taken scanned
  obtain ⟨groups, ⟨_, _⟩, has⟩ := placeholder_groups scanned
  exact has.tiles (List.cons_ne_nil _ _)

theorem regex_tiles : regex.Tiles := by
  intro previous text taken scanned
  unfold regex at scanned
  split at scanned
  · split at scanned
    · rename_i stops
      cases scanned
      exact .single .stringRegex (List.cons_ne_nil _ _) (closed_reads '<' stops)
    · cases scanned
  · cases scanned

theorem all_tiles : ∀ scan ∈ all, scan.Tiles := by
  simp only [all, List.forall_mem_cons, List.not_mem_nil, false_implies,
    implies_true, and_true]
  exact ⟨escape_tiles, placeholder_tiles, regex_tiles, Scan.char_tiles .keyword _,
    Scan.char_tiles .punctuation _, Scan.char_tiles .operator _,
    Scan.run_tiles .text _, Scan.run_tiles .text _⟩

end PatternScan

theorem patternLexer_tiles : patternLexer.Tiles := by
  intro state rule listed
  obtain ⟨scan, member, rfl⟩ := List.mem_map.mp listed
  exact PatternScan.all_tiles scan member

/-! ## Scripts -/

namespace ScriptScan

theorem comment_tiles : comment.Tiles := by
  intro previous text taken scanned
  unfold comment at scanned
  split at scanned
  · cases scanned
    exact .single .comment (List.cons_ne_nil _ _)
      (congrArg ('#' :: ·) List.takeWhile_append_dropWhile)
  · cases scanned

/-- The groups of a trigger's name and the colon behind it. -/
inductive NameGroups : List Token → Prop where
  | mk {first : Char} {name : Text} (starts : ¬(Text.isBlank first || first == '#'))
      (plain : name.all inTriggerName) :
      NameGroups [⟨.nameFunction, first :: name⟩, ⟨.punctuation, [':']⟩]

/-- The groups of a header; the introducing word may be absent. -/
inductive HeaderGroups : List Token → Prop where
  | mk {on : Text} {groups : List Token} (introduced : on = [] ∨
      on = ['o', 'n', ' '])
      (named : NameGroups groups) : HeaderGroups
      (⟨.keywordDeclaration, on⟩ :: groups)

private theorem triggerName_groups (found : triggerName text = some taken) :
    ∃ groups, NameGroups groups ∧ taken.OfGroups groups text := by
  unfold triggerName at found
  split at found
  · cases found
  · rename_i first rest
    rw [Option.ite_none_left_eq_some] at found
    obtain ⟨starts, found⟩ := found
    split at found
    · rename_i after stops
      rw [Option.ite_none_right_eq_some] at found
      obtain ⟨_, same⟩ := found
      cases same
      have colon := Taken.OfGroups.char .punctuation ':' after
      have reads : first :: rest.takeWhile inTriggerName ++ ':' :: after =
          first :: rest := by
        rw [← stops, List.cons_append, List.takeWhile_append_dropWhile]
      exact ⟨_, .mk starts List.all_takeWhile,
        colon.present (List.cons_ne_nil _ _) reads⟩
    · cases found

private theorem header_groups {previous : Option Char}
    (scanned : header previous text = some taken) :
    ∃ groups, HeaderGroups groups ∧ taken.OfGroups groups text := by
  have alone (found : triggerName text = some taken) :
      ∃ groups, HeaderGroups groups ∧ taken.OfGroups groups text := by
    obtain ⟨groups, named, has⟩ := triggerName_groups found
    exact ⟨_, .mk (.inl rfl) named, has.absent .keywordDeclaration⟩
  unfold header at scanned
  rw [Option.ite_none_right_eq_some] at scanned
  obtain ⟨_, scanned⟩ := scanned
  split at scanned
  · split at scanned
    · rename_i named
      cases scanned
      obtain ⟨groups, named, has⟩ := triggerName_groups named
      exact ⟨_, .mk (.inr rfl) named, has.present (List.cons_ne_nil _ _) rfl⟩
    · exact alone scanned
  · exact alone scanned

theorem header_tiles : header.Tiles := by
  intro previous text taken scanned
  obtain ⟨groups, ⟨_, ⟨_⟩⟩, has⟩ := header_groups scanned
  exact has.tiles (List.append_ne_nil_of_right_ne_nil _ (List.cons_ne_nil _ _))

theorem braced_tiles : braced.Tiles := by
  intro previous text taken scanned
  unfold braced at scanned
  split at scanned
  · split at scanned
    · rename_i stops
      cases scanned
      exact .single .nameVariable (List.cons_ne_nil _ _) (closed_reads '\x7b' stops)
    · cases scanned
  · cases scanned

theorem float_tiles : float.Tiles := by
  intro previous text taken scanned
  unfold float at scanned
  split at scanned
  · rename_i digit digits rest isRun behind
    split at scanned
    · cases scanned
    · rename_i place places isPlaces
      cases scanned
      refine .single .float (List.cons_ne_nil _ _) ?_
      calc
        digit :: digits ++ '.' :: place :: places ++ rest.dropWhile isBasicDigit =
            digit :: digits ++
              '.' :: (place :: places ++ rest.dropWhile isBasicDigit) := by
          rw [List.append_assoc]
          rfl
        _ = text := by rw [run_reads isPlaces, ← behind, run_reads isRun]
  · cases scanned

theorem word_tiles (kind : TokenKind) {words : List Text}
    (present : ∀ word ∈ words, word ≠ []) :
    (word kind words).Tiles := by
  intro previous text taken scanned
  unfold word at scanned
  rw [Option.ite_none_left_eq_some] at scanned
  obtain ⟨written, listed, found⟩ := List.exists_of_findSome?_eq_some scanned.2
  simp only [Option.ite_none_right_eq_some, Bool.and_eq_true] at found
  obtain ⟨⟨starts, _⟩, same⟩ := found
  cases same
  have stands : written <+: text := List.isPrefixOf_iff_prefix.mp starts
  exact .single kind (present written listed) (List.prefix_iff_eq_append.mp stands)

theorem name_tiles : name.Tiles := by
  intro previous text taken scanned
  cases text with
  | nil => cases scanned
  | cons first rest =>
      rw [name, Option.ite_none_right_eq_some] at scanned
      obtain ⟨_, same⟩ := scanned
      cases same
      exact .single .name (List.cons_ne_nil _ _)
        (congrArg (first :: ·) List.takeWhile_append_dropWhile)

theorem doubledQuote_tiles : doubledQuote.Tiles := by
  intro previous text taken scanned
  unfold doubledQuote at scanned
  split at scanned
  · cases scanned
    exact .single .stringEscape (List.cons_ne_nil _ _) rfl
  · cases scanned

theorem lineRules_tiles : ∀ rule ∈ lineRules, rule.scan.Tiles := by
  simp only [lineRules, List.forall_mem_cons, List.not_mem_nil, false_implies,
    implies_true, and_true]
  exact ⟨Scan.run_tiles .text _, comment_tiles, header_tiles, braced_tiles,
    Scan.char_tiles .string _, float_tiles, Scan.run_tiles .integer _,
    word_tiles .keywordConstant (by decide), word_tiles .keyword (by decide),
    name_tiles, Scan.char_tiles .punctuation _, Scan.char_tiles .text _⟩

theorem quotedRules_tiles : ∀ rule ∈ quotedRules, rule.scan.Tiles := by
  simp only [quotedRules, List.forall_mem_cons, List.not_mem_nil, false_implies,
    implies_true, and_true]
  exact ⟨doubledQuote_tiles, Scan.run_tiles .string _, Scan.char_tiles .string _⟩

end ScriptScan

theorem scriptLexer_tiles : scriptLexer.Tiles := by
  intro state
  cases state with
  | line => exact ScriptScan.lineRules_tiles
  | quoted => exact ScriptScan.quotedRules_tiles

/-! ## Prepared texts -/

/-- A text without the newlines at its two ends. -/
structure Stripped (text body : Text) : Prop where
  split : ∃ above below, text = List.replicate above '\n' ++ body ++
    List.replicate below '\n'
  start : body.head? ≠ some '\n'
  stop : body.getLast? ≠ some '\n'

theorem takeWhile_eq_replicate (target : Char) (text : Text) :
    ∃ count, text.takeWhile (· == target) = List.replicate count target :=
  ⟨_, List.eq_replicate_of_mem fun char member =>
    beq_iff_eq.mp (List.all_eq_true.mp List.all_takeWhile char member)⟩

theorem head?_dropWhile_ne (target : Char) (text : Text) :
    (text.dropWhile (· == target)).head? ≠ some target := by
  intro isTarget
  have stops := List.head?_dropWhile_not (· == target) text
  rw [isTarget] at stops
  simp at stops

private theorem dropTrailing_split (target : Char) (text : Text) :
    ∃ count, text = Text.dropTrailing target text ++
      List.replicate count target := by
  obtain ⟨count, isRun⟩ := takeWhile_eq_replicate target text.reverse
  have split : List.replicate count target ++ text.reverse.dropWhile (· == target) =
      text.reverse := run_reads isRun
  refine ⟨count, ?_⟩
  calc
    text = (List.replicate count target ++
      text.reverse.dropWhile (· == target)).reverse := by
      rw [split, List.reverse_reverse]
    _ = Text.dropTrailing target text ++ List.replicate count target := by
      rw [List.reverse_append, List.reverse_replicate]
      rfl

private theorem getLast?_dropTrailing_ne (target : Char) (text : Text) :
    (Text.dropTrailing target text).getLast? ≠ some target := by
  rw [Text.dropTrailing, List.getLast?_reverse]
  exact head?_dropWhile_ne target text.reverse

/-- Nothing but newlines at its ends is missing from a prepared text, and it
ends with one. -/
theorem prepare_stripped (text : Text) :
    ∃ body, Stripped (Text.normalizeLineEnds (withoutMark text)) body ∧
      prepare text = body ++ ['\n'] := by
  generalize clean : Text.normalizeLineEnds (withoutMark text) = normal
  obtain ⟨above, isAbove⟩ := takeWhile_eq_replicate '\n' normal
  obtain ⟨below, isBelow⟩ := dropTrailing_split '\n' (normal.dropWhile (· == '\n'))
  refine ⟨Text.dropTrailing '\n' (normal.dropWhile (· == '\n')),
    ?_, by rw [prepare, clean]⟩
  constructor
  · refine ⟨above, below, ?_⟩
    rw [List.append_assoc, ← isBelow]
    exact (run_reads isAbove).symm
  · intro isNewline
    apply head?_dropWhile_ne '\n' normal
    rw [isBelow, List.head?_append, isNewline]
    rfl
  · exact getLast?_dropTrailing_ne '\n' _

/-- The two lexers lose nothing.  Every rule of theirs reads at least one
character and takes tokens that tile what it reads, so their loops end, and the
tokens of any text are the prepared text cut into pieces. -/
theorem lexers_lossless (text : Text) :
    patternLexer.Tiles ∧ scriptLexer.Tiles ∧
      patternLexer.Lossless (prepare text) (patternTokens text) ∧
      scriptLexer.Lossless (prepare text) (scriptTokens text) ∧
      ∃ body, Stripped (Text.normalizeLineEnds (withoutMark text)) body ∧
        prepare text = body ++ ['\n'] :=
  ⟨patternLexer_tiles, scriptLexer_tiles, patternLexer_tiles.lossless _,
    scriptLexer_tiles.lossless _, prepare_stripped text⟩

/-- A quoted text that is left open takes all that follows, with the newline at
the end. -/
example : scriptTokens "say \"hi\n# no" =
    [⟨.name, "say"⟩, ⟨.text, " "⟩, ⟨.string, "\""⟩, ⟨.string, "hi\n# no\n"⟩] := by
  cbv

end Phrasebook.Highlight
