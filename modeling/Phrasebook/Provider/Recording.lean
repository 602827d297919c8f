import Phrasebook.Descriptor

/-!
# Recording providers

A recording provider keeps what its initialiser was given, and logs and accepts
as it was told to.  It shows what a registry hands to a provider.
-/

namespace Phrasebook

/-- How a recording provider behaves. -/
structure Recording where
  cls : ElementClass
  accepts : Bool
  /-- The patterns, by index, whose matches are rejected. -/
  rejectedPatterns : List Nat
  /-- What is logged for every match. -/
  entries : List LogEntry
  /-- Attributes besides those that every recording has. -/
  extraAttributes : List (Text × Attribute)
  single : Bool
  /-- The values computed, for expressions. -/
  values : List Value
  /-- The time states besides the present one. -/
  times : List Int
  /-- Whether elements can be checked in a world; then they hold in every one. -/
  alwaysHolds : Bool

namespace Recording

/-- A provider that accepts everything and logs nothing. -/
def plain (cls : ElementClass) : Recording :=
  ⟨cls, true, [], [], [], true, [], [], false⟩

/-- The text of a recording: the class, the text of each expression with a dash for
an empty slot, and a time state other than the present. -/
def shown (name : Text) (exprs : List (Option Expr)) (time : Int) : Text :=
  let written := exprs.map fun expr => (expr.map Expr.display).getD "-"
  name ++ "(" ++ Text.join ", " written ++ ")" ++
    (if time = 0 then [] else '@' :: Text.ofInt time)

/-- What a recording keeps of a match. -/
def kept (pattern : Nat) (result : MatchResult) (time : Int) :
    List (Text × Attribute) :=
  [("exprs", .exprs result.exprs),
    ("matched_pattern", .value (.datum (.int pattern))),
    ("time", .value (.datum (.int time))), ("captures",
      .value (.datum
        (.list (result.captures.map fun capture => .text capture.whole)))),
    ("choices",
      .value (.datum
        (.list (result.choices.map fun (choice : Nat) => .int choice)))),
    ("matched_chars", .value (.datum (.int result.matchedChars)))]

def element (recording : Recording) (pattern : Nat) (result : MatchResult) :
    Element :=
  { Element.inert recording.cls none [] with
    hasTime := fun time => time == 0 || recording.times.contains time
    shownAt := fun time => some (shown recording.cls.name result.exprs time)
    attributesAt := fun time =>
      kept pattern result time ++ recording.extraAttributes
    single := recording.single
    getAt := fun _ _ => recording.values
    check := if recording.alwaysHolds then some fun _ => true else none }

/-- Logs the entries and then accepts or rejects. -/
def init (recording : Recording) (pattern : Nat) (result : MatchResult) : Verdict :=
  ⟨recording.entries,
    if recording.accepts && !recording.rejectedPatterns.contains pattern then
      some (recording.element pattern result)
    else none⟩

def descriptor (recording : Recording) (patterns : List Text)
    (metadata : List (Text × Text)) :
    Descriptor :=
  ⟨recording.cls, patterns, metadata, .plain, recording.init⟩

end Recording

end Phrasebook
