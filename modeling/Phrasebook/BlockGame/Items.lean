import Phrasebook.Builtin
import Phrasebook.Text.Blank

/-!
# Items and players of the block game

The item types that scripts can name, and how items and players are named.
-/

namespace Phrasebook.BlockGame

/-- An ordinary potion. -/
def potion : ItemType := ⟨"potion", false⟩

/-- A potion that is thrown and bursts. -/
def splashPotion : ItemType := ⟨"splash potion", false⟩

/-- A potion that is thrown and stays in the air. -/
def lingeringPotion : ItemType := ⟨"lingering potion", false⟩

def itemTypes : List ItemType :=
  [⟨"stone", true⟩, ⟨"grass block", true⟩, ⟨"water", false⟩, ⟨"torch", false⟩,
   potion, splashPotion, lingeringPotion]

def itemNamed? (name : Text) : Option ItemType :=
  itemTypes.find? (·.name == name)

def dropArticle (name : Text) : Text :=
  if ("a " : Text).isPrefixOf name then name.drop 2
  else if ("an " : Text).isPrefixOf name then name.drop 3
  else name

/-- The item type that a text names, in any case of letters, with or without an
article, in the singular or the plural. -/
def readItemType? (text : Text) : Option ItemType :=
  let name := dropArticle (Text.lower (Text.strip text))
  match itemNamed? name with
  | some item => some item
  | none =>
      let (singular, isPlural) := Noun.singular name
      if isPlural then itemNamed? singular else none

def itemLiteral (text : Text) (_context : ParseContext) : Option Value :=
  (readItemType? text).map fun item => .datum (.item item)

/-- Reads a player.  Players can be named in the arguments of commands only. -/
def playerLiteral (text : Text) (context : ParseContext) : Option Value :=
  match context with
  | .command =>
      if text.isEmpty || text.contains ' ' then none
      else some (.datum (.player ⟨text, false, false, []⟩))
  | _ => none

end Phrasebook.BlockGame
