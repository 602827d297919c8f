import Phrasebook.Number.Binary64
import Phrasebook.Number.Shortest

/-!
# Data

The plain data that scripts compute with, and the small world they compute in.
A world is deliberately tiny: it has players, blocks and item types.  Its
players are numbered residents, so that everything which refers to one of them
sees the same player change.
-/

namespace Phrasebook

/-- A kind of item. -/
structure ItemType where
  name : Text
  solid : Bool
  deriving DecidableEq

/-- A player and what has happened to it. -/
structure Player where
  name : Text
  blocking : Bool
  dead : Bool
  messages : List Text
  deriving DecidableEq

/-- A plain datum. -/
inductive Datum where
  | null
  | int (value : Int)
  | fraction (value : Binary64)
  | text (value : Text)
  | bool (value : Bool)
  | item (value : ItemType)
  /-- A player who is only named and lives in no world. -/
  | player (value : Player)
  /-- The resident of the world with this number. -/
  | resident (number : Nat)
  | block (kind : Datum) (temperature : Binary64)
  | thrownPotion (kind : Datum)
  | list (items : List Datum)

instance : Inhabited Datum := ⟨.null⟩

/-- What expressions are evaluated against: variables, the values of the current
event by type and time, and the objects that can be looked at by name. -/
structure World where
  residents : List Player
  objects : List (Text × Datum)
  bindings : List (Text × Datum)
  values : List ((Text × Int) × Datum)

namespace World

def empty : World := ⟨[], [], [], []⟩

def player? (world : World) : Datum → Option Player
  | .player value => some value
  | .resident number => world.residents[number]?
  | _ => none

/-- The datum with a resident replaced by the player as it is now. -/
def look (world : World) : Datum → Datum
  | .resident number =>
      match world.residents[number]? with
      | some player => .player player
      | none => .null
  | datum => datum

/-- The world after a change of one player.  Only residents can change. -/
def changePlayer (world : World) (change : Player → Player) : Datum → World
  | .resident number =>
      { world with residents := world.residents.modify number change }
  | _ => world

/-- The value of a variable, if it is set. -/
def variableValue? (world : World) (name : Text) : Option Datum :=
  match world.bindings.lookup name with
  | some .null => none
  | found => found

/-- A value of the current event.  A time for which the event has no value of
its own gives the present one. -/
def eventValue (world : World) (type : Text) (time : Int) : Datum :=
  match world.values.lookup (type, time) with
  | some datum => datum
  | none => (world.values.lookup (type, 0)).getD .null

end World

namespace Datum

def isNull : Datum → Bool
  | .null => true
  | _ => false

/-- The elements of a list, or the datum alone. -/
def items : Datum → List Datum
  | .list items => items
  | datum => [datum]

/-- The number behind a datum that counts as one, when it is an integer.  A truth
value counts as 0 or 1. -/
def integer? : Datum → Option Int
  | .int value => some value
  | .bool value => some (if value then 1 else 0)
  | _ => none

def sameNumber (left right : Datum) : Bool :=
  match left.integer?, right.integer?, left, right with
  | some left, some right, _, _ => left == right
  | some left, none, _, .fraction right => right.isInt left
  | none, some right, .fraction left, _ => left.isInt right
  | none, none, .fraction left, .fraction right => left.sameAs right
  | _, _, _, _ => false

mutual

/-- Equality of data as scripts see it: numbers of different kinds may be equal,
and players are compared by what is known of them. -/
def same (world : World) : Datum → Datum → Bool
  | .null, .null => true
  | .text left, .text right => left == right
  | .item left, .item right => left == right
  | .block left leftTemperature, .block right rightTemperature =>
      same world left right && leftTemperature.sameAs rightTemperature
  | .thrownPotion left, .thrownPotion right => same world left right
  | .list left, .list right => sameList world left right
  | left, right =>
      match world.player? left, world.player? right with
      | some left, some right => left == right
      | _, _ => sameNumber left right

def sameList (world : World) : List Datum → List Datum → Bool
  | [], [] => true
  | left :: lefts, right :: rights =>
      same world left right && sameList world lefts rights
  | _, _ => false

end

end Datum

end Phrasebook
