import Phrasebook.Text.Escaped

/-!
# Ranked errors

Backtracking produces many partial failures, and only one of them is worth
telling.  Failures are ranked by quality; the first one of the highest quality
is kept.
-/

namespace Phrasebook

/-- How useful a failure message is, least first. -/
inductive ErrorQuality where
  | none
  | notAnExpression
  | wrongType
  | semantic
  deriving DecidableEq

/-- A failure message with its quality. -/
structure ErrorRecord where
  quality : ErrorQuality
  message : Text
  deriving DecidableEq

/-- The best failure seen so far. -/
structure BestError where
  quality : ErrorQuality
  message : Option Text
  deriving DecidableEq

namespace ErrorQuality

/-- The rank of a quality; a higher one wins. -/
def rank : ErrorQuality → Nat
  | .none => 0
  | .notAnExpression => 1
  | .wrongType => 2
  | .semantic => 3

def code : ErrorQuality → Text
  | .none => "E100"
  | .notAnExpression => "E101"
  | .wrongType => "E102"
  | .semantic => "E103"

def all : List ErrorQuality :=
  [.none, .notAnExpression, .wrongType, .semantic]

def name : ErrorQuality → Text
  | .none => "NONE"
  | .notAnExpression => "NOT_AN_EXPRESSION"
  | .wrongType => "EXPRESSION_OF_WRONG_TYPE"
  | .semantic => "SEMANTIC_ERROR"

end ErrorQuality

namespace BestError

/-- Nothing seen yet. -/
def empty : BestError := ⟨.none, none⟩

/-- Takes one more failure into account; it has to be strictly better. -/
def record (best : BestError) (failure : ErrorRecord) : BestError :=
  if best.quality.rank < failure.quality.rank then
    ⟨failure.quality, some failure.message⟩
  else best

/-- The best of a list of failures in the order they happened. -/
def ofRecords (failures : List ErrorRecord) : BestError :=
  failures.foldl record empty

/-- The kept failure, if there is one. -/
def record? (best : BestError) : Option ErrorRecord :=
  best.message.map fun message => ⟨best.quality, message⟩

/-- Takes the best failure of another attempt into account. -/
def merge (best other : BestError) : BestError :=
  match other.record? with
  | some failure => best.record failure
  | none => best

def listed (best : BestError) : Text :=
  "BestError(" ++ best.quality.name ++ ", " ++
    (best.message.map Text.escaped).getD "None" ++ ")"

end BestError

end Phrasebook
