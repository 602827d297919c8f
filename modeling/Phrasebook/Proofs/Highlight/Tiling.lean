import Mathlib.Data.List.Basic
import Phrasebook.Highlight.Token

/-!
# Tokens that tile a text

A lexer is a table of rules, and its loop tries them in order at each position.
If each rule takes tokens that tile what the rule has read, then the loop ends
on every text, in whatever state it starts, and its tokens tile all of the text.
The loop is given here as a relation in which nothing guards against a rule that
reads nothing: such a rule would leave it without an outcome.  `tokensFrom`
computes the only one.
-/

namespace Phrasebook.Highlight

variable {State : Type} {lexer : Lexer State} {state next : State}
  {previous : Option Char}
  {text before : Text} {taken : Taken} {tokens : List Token}

namespace Token

def spelled (tokens : List Token) : Text :=
  tokens.flatMap Token.text

/-- The tokens of the groups of a match: a group that is absent gives none. -/
def ofGroups (groups : List Token) : List Token :=
  groups.filter (·.text ≠ [])

end Token

/-- What has been taken off a text tiles what has been read of it. -/
structure Taken.Tiles (taken : Taken) (text : Text) : Prop where
  /-- The tokens make up all that has been read. -/
  whole : Token.spelled taken.tokens ++ taken.rest = text
  /-- There is no token for a part that is absent. -/
  filled : ∀ token ∈ taken.tokens, token.text ≠ []
  /-- At least one character has been read. -/
  consumes : taken.rest.length < text.length

/-- The groups give the tokens that have been taken, and they cover what has
been read. -/
structure Taken.OfGroups (taken : Taken) (groups : List Token) (text : Text) :
    Prop where
  tokens_eq : taken.tokens = Token.ofGroups groups
  covers : Token.spelled groups ++ taken.rest = text

/-- Wherever the scan applies, its tokens tile what it reads. -/
def Scan.Tiles (scan : Scan) : Prop :=
  ∀ ⦃previous text taken⦄, scan previous text = some taken → taken.Tiles text

namespace Lexer

/-- Every rule of every state takes tokens that tile what it reads. -/
def Tiles (lexer : Lexer State) : Prop :=
  ∀ state, ∀ rule ∈ lexer.rules state, rule.scan.Tiles

/-- What is taken at a position of a text, given the character before it, and
the state after it. -/
inductive Steps (lexer : Lexer State) (previous : Option Char) (state : State) :
    Text → Taken → State → Prop where
  /-- The first rule that applies takes its tokens. -/
  | rule {text : Text} {first later : List (Rule State)} {rule : Rule State}
      {taken : Taken} (order : lexer.rules state = first ++ rule :: later)
      (passed : ∀ earlier ∈ first, earlier.scan previous text = none)
      (applies : rule.scan previous text = some taken) :
      Steps lexer previous state text taken rule.next
  /-- A newline that no rule takes leads back to the root. -/
  | newline {rest : Text}
      (unmatched : ∀ rule ∈ lexer.rules state,
        rule.scan previous ('\n' :: rest) = none) :
      Steps lexer previous state ('\n' :: rest) ⟨[⟨.whitespace, ['\n']⟩],
        rest⟩ lexer.root
  /-- Any other character that no rule takes is an error. -/
  | error {char : Char} {rest : Text}
      (unmatched : ∀ rule ∈ lexer.rules state,
        rule.scan previous (char :: rest) = none)
      (other : char ≠ '\n') :
      Steps lexer previous state (char :: rest) ⟨[⟨.error, [char]⟩], rest⟩ state

/-- In a state, with some text before the position and the rest of the text
behind it, the loop ends with these tokens. -/
inductive Lexes (lexer : Lexer State) :
    State → Text → Text → List Token → Prop where
  /-- The text is over, and no rule takes the empty text. -/
  | done {state : State} {before : Text}
      (unmatched : ∀ rule ∈ lexer.rules state,
        rule.scan before.getLast? [] = none) :
      Lexes lexer state before [] []
  /-- The loop goes on behind what has been read. -/
  | step {state next : State} {before read text : Text} {taken : Taken}
      {tokens : List Token}
      (steps : lexer.Steps before.getLast? state text taken next)
      (reads : text = read ++ taken.rest)
      (onward : Lexes lexer next (before ++ read) taken.rest tokens) :
      Lexes lexer state before text (taken.tokens ++ tokens)

/-- The loop ends on the text with these tokens and with no others, and they
make up the text. -/
structure Lossless (lexer : Lexer State) (text : Text) (tokens : List Token) :
    Prop where
  ends : lexer.Lexes lexer.root [] text tokens
  only : ∀ others, lexer.Lexes lexer.root [] text others → others = tokens
  whole : Token.spelled tokens = text

end Lexer

/-! ## What has been taken off a text -/

namespace Token

variable {group : Token} {groups : List Token}

theorem spelled_cons (group : Token) (groups : List Token) :
    spelled (group :: groups) = group.text ++ spelled groups :=
  List.flatMap_cons

theorem spelled_append (left right : List Token) :
    spelled (left ++ right) = spelled left ++ spelled right :=
  List.flatMap_append

theorem spelled_singleton (token : Token) : spelled [token] = token.text :=
  List.flatMap_singleton _ _

theorem ofGroups_present (present : group.text ≠ []) (groups : List Token) :
    ofGroups (group :: groups) = group :: ofGroups groups :=
  List.filter_cons_of_pos (decide_eq_true present)

theorem ofGroups_absent (absent : group.text = []) (groups : List Token) :
    ofGroups (group :: groups) = ofGroups groups :=
  List.filter_cons_of_neg (by simp [absent])

theorem spelled_ofGroups (groups : List Token) :
    spelled (ofGroups groups) = spelled groups := by
  induction groups with
  | nil => rfl
  | cons group groups induction =>
      by_cases absent : group.text = []
      · rw [ofGroups_absent absent, induction, spelled_cons, absent,
          List.nil_append]
      · rw [ofGroups_present absent, spelled_cons, induction, spelled_cons]

end Token

namespace Taken.OfGroups

variable {groups : List Token}

theorem single {read rest : Text} (kind : TokenKind) (present : read ≠ [])
    (reads : read ++ rest = text) :
    OfGroups ⟨[⟨kind, read⟩], rest⟩ [⟨kind, read⟩] text where
  tokens_eq := (Token.ofGroups_present present []).symm
  covers := by rw [Token.spelled_singleton, reads]

theorem char (kind : TokenKind) (char : Char) (rest : Text) :
    OfGroups ⟨[⟨kind, [char]⟩], rest⟩ [⟨kind, [char]⟩] (char :: rest) :=
  .single kind (List.cons_ne_nil _ _) rfl

theorem present {group : Token} {behind : Text} (has : taken.OfGroups groups behind)
    (present : group.text ≠ []) (reads : group.text ++ behind = text) :
    (taken.prepend group).OfGroups (group :: groups) text where
  tokens_eq := by
    rw [Token.ofGroups_present present, ← has.tokens_eq]
    rfl
  covers := by
    rw [Token.spelled_cons, List.append_assoc, ← reads, ← has.covers]
    rfl

theorem absent (has : taken.OfGroups groups text) (kind : TokenKind) :
    taken.OfGroups (⟨kind, []⟩ :: groups) text where
  tokens_eq := by rw [Token.ofGroups_absent rfl, has.tokens_eq]
  covers := has.covers

theorem tiles (has : taken.OfGroups groups text)
    (consumes : Token.spelled groups ≠ []) :
    taken.Tiles text where
  whole := by rw [has.tokens_eq, Token.spelled_ofGroups, has.covers]
  filled token member := by
    rw [has.tokens_eq] at member
    exact of_decide_eq_true (List.mem_filter.mp member).2
  consumes := by
    rw [← has.covers, List.length_append]
    exact Nat.lt_add_of_pos_left (List.length_pos_of_ne_nil consumes)

end Taken.OfGroups

namespace Taken.Tiles

theorem single {read rest : Text} (kind : TokenKind) (present : read ≠ [])
    (reads : read ++ rest = text) : Tiles ⟨[⟨kind, read⟩], rest⟩ text := by
  apply (OfGroups.single kind present reads).tiles
  rwa [Token.spelled_singleton]

theorem char (kind : TokenKind) (char : Char) (rest : Text) :
    Tiles ⟨[⟨kind, [char]⟩], rest⟩ (char :: rest) :=
  .single kind (List.cons_ne_nil _ _) rfl

theorem present (tiles : taken.Tiles text) : taken.tokens ≠ [] := by
  intro absent
  have nothing : taken.rest = text := by
    have whole := tiles.whole
    rwa [absent] at whole
  exact Nat.lt_irrefl _ (nothing ▸ tiles.consumes)

theorem reads_eq (tiles : taken.Tiles text) {read : Text}
    (reads : text = read ++ taken.rest) :
    read = Token.spelled taken.tokens :=
  List.append_cancel_right (reads.symm.trans tiles.whole.symm)

/-- The last character of the last token is the character before the rest of the
text. -/
theorem lastChar?_eq (tiles : taken.Tiles text) (before : Text) :
    taken.lastChar? = (before ++ Token.spelled taken.tokens).getLast? := by
  obtain ⟨first, last, isTokens⟩ :=
    (List.eq_nil_or_concat taken.tokens).resolve_left tiles.present
  rw [List.concat_eq_append] at isTokens
  have filled : last.text ≠ [] := tiles.filled last (by simp [isTokens])
  rw [Taken.lastChar?, isTokens, List.getLast?_concat, Token.spelled_append,
    Token.spelled_singleton, ← List.append_assoc,
    List.getLast?_append_of_ne_nil _ filled]
  rfl

end Taken.Tiles

theorem Scan.Tiles.none_at_end {scan : Scan} (tiles : scan.Tiles)
    (previous : Option Char) :
    scan previous [] = none := by
  cases scanned : scan previous [] with
  | none => rfl
  | some taken => exact absurd (tiles scanned).consumes (Nat.not_lt_zero _)

/-! ## One step of the loop -/

namespace Lexer

private theorem step_of_rule {first later : List (Rule State)}
    {rule : Rule State} {char : Char} {rest : Text}
    (order : lexer.rules state = first ++ rule :: later)
    (passed : ∀ earlier ∈ first, earlier.scan previous (char :: rest) = none)
    (applies : rule.scan previous (char :: rest) = some taken) :
    lexer.step state previous char rest = (taken, rule.next) := by
  have found : ((lexer.rules state).findSome? fun rule =>
      (rule.scan previous (char :: rest)).map fun taken => (taken, rule.next)) =
        some (taken, rule.next) := by
    refine List.findSome?_eq_some_iff.mpr ⟨first, rule, later, order, ?_, ?_⟩
    · rw [applies, Option.map_some]
    · intro earlier member
      rw [passed earlier member, Option.map_none]
  rw [step, found, Option.getD_some]

private theorem step_of_unmatched {char : Char} {rest : Text}
    (unmatched : ∀ rule ∈ lexer.rules state,
      rule.scan previous (char :: rest) = none) :
    lexer.step state previous char rest = lexer.unmatched state char rest := by
  have found : ((lexer.rules state).findSome? fun rule =>
      (rule.scan previous (char :: rest)).map fun taken =>
        (taken, rule.next)) = none := by
    refine List.findSome?_eq_none_iff.mpr fun rule member => ?_
    rw [unmatched rule member, Option.map_none]
  rw [step, found, Option.getD_none]

/-- The first rule that applies decides the step, or else the character. -/
theorem steps_iff {char : Char} {rest : Text} :
    lexer.Steps previous state (char :: rest) taken next ↔
      lexer.step state previous char rest = (taken, next) := by
  constructor
  · intro steps
    cases steps with
    | rule order passed applies => exact step_of_rule order passed applies
    | newline unmatched =>
        rw [step_of_unmatched unmatched, Lexer.unmatched, if_pos rfl]
    | error unmatched other =>
        rw [step_of_unmatched unmatched, Lexer.unmatched, if_neg other]
  · intro outcome
    cases found : (lexer.rules state).findSome? fun rule =>
        (rule.scan previous (char :: rest)).map fun taken => (taken, rule.next) with
    | some result =>
        obtain ⟨first, rule, later, order, applied, passed⟩ :=
          List.findSome?_eq_some_iff.mp found
        obtain ⟨own, applies, rfl⟩ := Option.map_eq_some_iff.mp applied
        have passed : ∀ earlier ∈ first,
            earlier.scan previous (char :: rest) = none :=
          fun earlier member => Option.map_eq_none_iff.mp (passed earlier member)
        cases (step_of_rule order passed applies).symm.trans outcome
        exact .rule order passed applies
    | none =>
        have unmatched : ∀ rule ∈ lexer.rules state,
            rule.scan previous (char :: rest) = none :=
          fun rule member =>
            Option.map_eq_none_iff.mp
              (List.findSome?_eq_none_iff.mp found rule member)
        rw [step_of_unmatched unmatched, Lexer.unmatched] at outcome
        by_cases isNewline : char = '\n'
        · subst isNewline
          cases outcome
          exact .newline unmatched
        · rw [if_neg isNewline] at outcome
          cases outcome
          exact .error unmatched isNewline

theorem Tiles.of_steps (tiles : lexer.Tiles)
    (steps : lexer.Steps previous state text taken next) :
    taken.Tiles text := by
  cases steps with
  | @rule _ first later rule _ order passed applies =>
      have listed : rule ∈ lexer.rules state := by simp [order]
      exact tiles state rule listed applies
  | newline => exact .char .whitespace _ _
  | error => exact .char .error _ _

/-! ## Whole runs of the loop -/

/-- What `tokensFrom` does at a position is what the loop does there. -/
theorem Tiles.tokensFrom_eq (tiles : lexer.Tiles)
    (steps : lexer.Steps before.getLast? state text taken next) :
    lexer.tokensFrom state before.getLast? text = taken.tokens ++
      lexer.tokensFrom next (before ++ Token.spelled taken.tokens).getLast?
        taken.rest := by
  have tiled := tiles.of_steps steps
  cases text with
  | nil => exact absurd tiled.consumes (Nat.not_lt_zero _)
  | cons char rest =>
      rw [tokensFrom, steps_iff.mp steps]
      simp only [tiled.consumes, ↓reduceDIte, tiled.lastChar?_eq before]

/-- From any state and at any position, the loop ends, and `tokensFrom` has its
tokens. -/
theorem Tiles.lexes (tiles : lexer.Tiles) (state : State) (before text : Text) :
    lexer.Lexes state before text
      (lexer.tokensFrom state before.getLast? text) := by
  induction length : text.length using Nat.strongRecOn
      generalizing state before text with
  | ind bound induction =>
      cases text with
      | nil =>
          rw [tokensFrom]
          exact .done fun rule member => (tiles state rule member).none_at_end _
      | cons char rest =>
          have steps := steps_iff.mpr
            (Prod.eta (lexer.step state before.getLast? char rest)).symm
          have tiled := tiles.of_steps steps
          rw [tiles.tokensFrom_eq steps]
          have shorter := length ▸ tiled.consumes
          exact .step steps tiled.whole.symm (induction _ shorter _ _ _ rfl)

/-- The loop has no other outcome. -/
theorem Lexes.eq_tokensFrom (tiles : lexer.Tiles)
    (run : lexer.Lexes state before text tokens) :
    tokens = lexer.tokensFrom state before.getLast? text := by
  induction run with
  | done => rw [tokensFrom]
  | step steps reads onward induction =>
      rw [tiles.tokensFrom_eq steps, induction,
        (tiles.of_steps steps).reads_eq reads]

/-- Whatever the loop ends with makes up the text. -/
theorem Lexes.spelled_eq (tiles : lexer.Tiles)
    (run : lexer.Lexes state before text tokens) :
    Token.spelled tokens = text := by
  induction run with
  | done => rfl
  | step steps reads onward induction =>
      rw [Token.spelled_append, induction]
      exact (tiles.of_steps steps).whole

/-- If the rules of a lexer tile what they read, then nothing of a text is lost. -/
theorem Tiles.lossless (tiles : lexer.Tiles) (text : Text) :
    lexer.Lossless text (lexer.tokens text) := by
  have ends : lexer.Lexes lexer.root [] text (lexer.tokens text) :=
    tiles.lexes lexer.root [] text
  exact ⟨ends, fun others run => run.eq_tokensFrom tiles, ends.spelled_eq tiles⟩

end Lexer

end Phrasebook.Highlight
