import Phrasebook.Matching.Boundary
import Phrasebook.Matching.Demand
import Phrasebook.Registry
import Phrasebook.Search

/-!
# Matching

The matcher walks along a pattern and an input together.  It takes the pattern
as it is written and finds the ends of groups by scanning when it needs them.
Where there is a choice, the ways are tried in order, and a way that fails
leaves no trace but its error records.
-/

namespace Phrasebook

/-- A place in a pattern: what lies before it, nearest character first, and what
lies ahead. -/
structure Cursor where
  before : Text
  rest : Text

/-- A place in the input: the character just before it, and what lies ahead. -/
structure Position where
  previous : Option Char
  rest : Text

/-- What a match depends on besides the pattern and the input. -/
structure Matcher (m : Type → Type) where
  registry : Registry
  context : ParseContext
  /-- The number of literal characters from which on a failed placeholder is worth
  an error record of its own. -/
  minErrorChars : Int
  /-- How the text taken by a placeholder becomes an expression. -/
  resolve : RegisteredType → Text → m (Option Expr)

namespace Cursor

def start (pattern : Text) : Cursor := ⟨[], pattern⟩

def pattern (cursor : Cursor) : Text :=
  cursor.before.reverse ++ cursor.rest

def advance (cursor : Cursor) (count : Nat) : Cursor :=
  ⟨(cursor.rest.take count).reverse ++ cursor.before, cursor.rest.drop count⟩

/-- Whether a group opened here takes the space after it along when it is skipped:
only opening brackets, or a space, may stand before it. -/
def absorbsSpace (cursor : Cursor) : Bool :=
  Pattern.hasOnly "[(" cursor.before || cursor.before.head? == some ' '

/-- The slot of a placeholder that starts here. -/
def slot (cursor : Cursor) : Nat :=
  Pattern.slotAfter cursor.before.reverse

end Cursor

namespace Position

def start (text : Text) : Position := ⟨none, text⟩

def after (position : Position) (cut : Cut) : Position :=
  ⟨cut.taken.getLast?.or position.previous, cut.rest⟩

/-- What becomes of the input at a space of the pattern: nothing is taken at the
end or after a space, and otherwise a space has to be taken. -/
def takeSpace (position : Position) : Option (Nat × Position) :=
  match position.rest with
  | [] => some (0, position)
  | char :: rest =>
      if position.previous = some ' ' then some (0, position)
      else if char = ' ' then some (1, ⟨some char, rest⟩)
      else none

/-- Takes a character that equals the given one up to the case of letters. -/
def takeLetter (position : Position) (letter : Char) : Option Position :=
  match position.rest with
  | [] => none
  | char :: rest => if Text.sameLetter letter char then some ⟨some char, rest⟩
      else none

end Position

namespace ErrorMessage

def notA (text : Text) (type : TypeInfo) : Text :=
  "'" ++ text ++ "' is not " ++ Noun.withArticle type.displayName

def wrongType (expr : Expr) (type : TypeInfo) : Text :=
  expr.display ++ (if expr.isSingle then " is" else " are") ++ " not " ++
    Noun.withArticle type.displayName

def onlySingle (context : ParseContext) (type : TypeInfo) : Text :=
  match context with
  | .command => "this command can only accept a single " ++ type.displayName ++ "!"
  | _ =>
      "this expression can only accept a single " ++ type.displayName ++
        ", but multiple are given."

def noTimeState (expr : Expr) (time : Int) : Text :=
  expr.display ++ " does not have " ++
    Noun.withArticle (if time < 0 then "past" else "future") ++ " state"

end ErrorMessage

namespace Matcher

variable {m : Type → Type} [Searching m]

/-- A fault of the pattern found during the walk. -/
def malformed {α : Type} (cursor : Cursor) (fault : PatternFault) : m α :=
  Searching.fail (.malformedPattern cursor.pattern fault)

/-- Checks that a resolved expression fits its placeholder in number and time, and
answers with the expression to bind. -/
def fit (matcher : Matcher m) (placeholder : Placeholder) (type : TypeInfo)
    (expr : Expr) :
    m (Option Expr) :=
  if !placeholder.plural && !expr.isUnparsed && !expr.isSingle then do
    Searching.record .semantic (ErrorMessage.onlySingle matcher.context type)
    pure none
  else if placeholder.time = 0 then pure (some expr)
  else if expr.isUnparsed then pure none
  else
    match expr.setTime placeholder.time with
    | some timed => pure (some timed)
    | none => do
        Searching.record .semantic (ErrorMessage.noTimeState expr placeholder.time)
        pure none

/-- Leaves a record of a text that did not resolve, if the rest of the pattern
matched enough literal characters. -/
def complain (matcher : Matcher m) (type : TypeInfo) (taken : Text)
    (chars : Nat) : m Unit :=
  if matcher.minErrorChars ≤ (chars : Int) then
    Searching.record .notAnExpression (ErrorMessage.notA taken type)
  else pure ()

/-- Tries one cut of the input for a placeholder: first the rest of the pattern has
to match, then the taken text has to resolve.  An answer ends the search for
other cuts, also when the expression does not fit. -/
def tryCut (matcher : Matcher m) (slot : Nat) (placeholder : Placeholder)
    (type : RegisteredType) (matched : Nat)
    (remainder : Cut → m (Option MatchResult)) (cut : Cut) :
    m (Option (Option MatchResult)) := do
  match ← remainder cut with
  | none => pure none
  | some result =>
      match ← matcher.resolve type cut.taken with
      | some expr =>
          let fitted ← matcher.fit placeholder type.toTypeInfo expr
          pure (some (fitted.map (result.bind slot)))
      | none => do
          matcher.complain type.toTypeInfo cut.taken (result.matchedChars + matched)
          pure none

/-- Tries one cut of the input for a regular expression slot: first the rest of the
pattern has to match, then the expression has to match the taken text. -/
def tryCapture (program : RegexProgram) (remainder : Cut → m (Option MatchResult))
    (cut : Cut) : m (Option MatchResult) := do
  match ← remainder cut with
  | none => pure none
  | some result =>
      pure ((program.fullMatch? cut.taken).map fun captured =>
        result.capture ⟨cut.taken, captured⟩)

/-- Matches the rest of a pattern against the rest of the input.  The text is the
whole input, and `matched` counts the literal characters since the last choice.
The fuel has to exceed the length of the rest of the pattern. -/
def walk (matcher : Matcher m) (text : Text) :
    Nat → Nat → Cursor → Position → m (Option MatchResult)
  | 0, _, _, _ => pure none
  | fuel + 1, matched, cursor, position =>
      match Demand.ofText cursor.rest with
      | .nothing =>
          pure <|
            if position.rest.isEmpty then
              some (.unbound text (Pattern.placeholderCount cursor.pattern) matched)
            else none
      | .optional inside => do
          match ← matcher.walk text fuel 0 (cursor.advance 1) position with
          | some result => pure (some (result.plusChars matched))
          | none =>
              match Pattern.closingOffset ']' '[' 0 inside with
              | none => malformed cursor (.missingClosing ']')
              | some offset =>
                  let spaced := (inside.drop (offset + 1)).head? == some ' '
                  let skipped := if cursor.absorbsSpace && spaced then
                    offset + 3 else offset + 2
                  matcher.walk text fuel matched (cursor.advance skipped) position
      | .choice inside =>
          match Pattern.closingOffset ')' '(' 0 inside with
          | none => malformed cursor (.missingClosing ')')
          | some offset => do
              let starts := Pattern.alternativeStarts (inside.take offset)
              let found ← Searching.firstSome (fun (start, index) => do
                let result ← matcher.walk text fuel 0
                  (cursor.advance (start + 1)) position
                pure (result.map (·.choose index))) starts.zipIdx
              pure (found.map (·.plusChars matched))
      | .placeholder inside =>
          if position.rest.isEmpty then pure none
          else
            match Pattern.unescapedOffset '%' inside with
            | none => malformed cursor .oddPercents
            | some offset => do
                let placeholder ←
                  Searching.lift
                    (Placeholder.read matcher.registry.normalize
                      (inside.take offset))
                let type ← Searching.lift
                  (matcher.registry.getType placeholder.name)
                let after := cursor.advance (offset + 2)
                let cuts := Cut.ofPlaceholder after.rest.isEmpty position.rest
                let remainder (cut : Cut) :=
                  matcher.walk text fuel 0 after (position.after cut)
                let found ← Searching.firstSome
                  (matcher.tryCut cursor.slot placeholder type matched
                    remainder) cuts
                pure ((found.getD none).map (·.plusChars matched))
      | .capture inside =>
          match Pattern.regexEndOffset inside with
          | none => malformed cursor .missingRegexEnd
          | some offset =>
              let body := inside.take offset
              match matcher.registry.regexes.compile body with
              | .error reason => malformed cursor (.badRegex body reason)
              | .ok program => do
                  let after := cursor.advance (offset + 2)
                  let remainder (cut : Cut) :=
                    matcher.walk text fuel 0 after (position.after cut)
                  let found ← Searching.firstSome (tryCapture program remainder)
                    (Cut.nonempty position.rest)
                  pure (found.map (·.plusChars matched))
      | .bar inside =>
          match Pattern.closingOffset ')' '(' 0 inside with
          | none => malformed cursor (.missingClosing ')')
          | some offset =>
              matcher.walk text fuel matched (cursor.advance (offset + 2))
                position
      | .closing => matcher.walk text fuel matched (cursor.advance 1) position
      | .space =>
          match position.takeSpace with
          | none => pure none
          | some (count, position) =>
              matcher.walk text fuel (matched + count) (cursor.advance 1) position
      | .loneBackslash => malformed cursor .trailingBackslash
      | .letter letter length =>
          match position.takeLetter letter with
          | none => pure none
          | some position =>
              matcher.walk text fuel (matched + 1) (cursor.advance length) position

def run (matcher : Matcher m) (pattern text : Text) : m (Option MatchResult) :=
  matcher.walk text (pattern.length + 1) 0 (.start pattern) (.start text)

end Matcher

end Phrasebook
