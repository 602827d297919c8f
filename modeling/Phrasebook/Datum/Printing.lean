import Phrasebook.Datum
import Phrasebook.Text.Escaped

/-!
# Printing data

A datum has a plain form, which messages show, and a listed form, which shows it
inside of lists and records.
-/

namespace Phrasebook

namespace Text

def ofBool (value : Bool) : Text :=
  if value then "True" else "False"

/-- A list of written items between square brackets. -/
def bracketed (items : List Text) : Text :=
  "[" ++ join ", " items ++ "]"

end Text

namespace ItemType

def listed (item : ItemType) : Text :=
  "ItemType(name=" ++ Text.escaped item.name ++ ", solid=" ++
    Text.ofBool item.solid ++ ")"

end ItemType

namespace Player

def listed (player : Player) : Text :=
  "Player(name=" ++ Text.escaped player.name ++ ", blocking=" ++
    Text.ofBool player.blocking ++
    ", dead=" ++ Text.ofBool player.dead ++ ", messages=" ++
    Text.bracketed (player.messages.map Text.escaped) ++ ")"

end Player

namespace Datum

mutual

def listed (world : World) : Datum → Text
  | .null => "None"
  | .int value => Text.ofInt value
  | .fraction value => value.toText
  | .text value => Text.escaped value
  | .bool value => Text.ofBool value
  | .item value => value.listed
  | .player value => value.listed
  | .resident number => (world.residents[number]?.map Player.listed).getD "None"
  | .block kind temperature =>
      "Block(type=" ++ listed world kind ++ ", temperature=" ++
        temperature.toText ++ ")"
  | .thrownPotion kind => "ThrownPotion(item=" ++ listed world kind ++ ")"
  | .list items => Text.bracketed (listedAll world items)

def listedAll (world : World) : List Datum → List Text
  | [] => []
  | first :: rest => listed world first :: listedAll world rest

end

/-- The plain form of a datum: texts and item types stand for themselves. -/
def plain (world : World) : Datum → Text
  | .text value => value
  | .item value => value.name
  | datum => datum.listed world

end Datum

end Phrasebook
