import Phrasebook.BlockGame.Items
import Phrasebook.Provider.Converters
import Phrasebook.Provider.EventValue
import Phrasebook.Provider.Property

/-!
# The syntax of the block game

Conditions, effects, expressions, kinds of entities and events over the small
world of players, blocks and items.
-/

namespace Phrasebook.BlockGame

def cls (name : Text) : ElementClass := ⟨name, 0⟩

def firstSlot (result : MatchResult) : Option Expr :=
  result.exprs.head?.join

/-- The values of a slot in a world; an empty slot has none. -/
def slotValues (world : World) (slot : Option Expr) : List Value :=
  (slot.map (·.values world)).getD []

def slotText (slot : Option Expr) : Text :=
  (slot.map Expr.display).getD "None"

/-! ## Event values -/

/-- The player of the event, also before and after it. -/
def eventPlayer : EventValue := ⟨cls "ExprEventPlayer", "player", true, true⟩

def eventBlock : EventValue := ⟨cls "ExprEventBlock", "block", false, true⟩

/-! ## Conditions -/

def isBlocking : PropertyTest where
  cls := cls "CondIsBlocking"
  property := "blocking"
  holds := fun world value =>
    ((value.datum?.bind world.player?).map (·.blocking)).getD false

/-- Whether a datum is a solid item. -/
def isSolidItem : Value → Bool
  | .datum (.item item) => item.solid
  | _ => false

def isSolid : PropertyTest where
  cls := cls "CondIsSolid"
  property := "solid"
  holds := fun _ value => isSolidItem value

/-! ## Effects -/

/-- The world after a change of all players among the values. -/
def changePlayers (change : Player → Player) (world : World)
    (values : List Value) : World :=
  values.foldl
    (fun world value =>
      match value.datum? with
      | some datum => world.changePlayer change datum
      | none => world)
    world

def respawn (result : MatchResult) : Element :=
  let players := firstSlot result
  { Element.inert (cls "EffRespawn") (some ("respawn " ++ slotText players))
      [("players", .expr players)] with
    execute := some fun world =>
      changePlayers (fun player => { player with dead := false }) world
        (slotValues world players) }

def message (result : MatchResult) : Element :=
  let messages := firstSlot result
  let recipients := firstSlot { result with exprs := result.exprs.drop 1 }
  { Element.inert (cls "EffMessage")
      (some ("send " ++ slotText messages ++ " to " ++ slotText recipients))
      [("messages", .expr messages), ("recipients", .expr recipients)] with
    execute := some fun world =>
      let texts := (slotValues world messages).map (·.plain world)
      changePlayers (fun player =>
        { player with messages := player.messages ++ texts }) world
        (slotValues world recipients) }

/-! ## Expressions -/

def temperatureOf (_world : World) : Value → Option Value
  | .datum (.block _ temperature) => some (.datum (.fraction temperature))
  | _ => none

/-- The temperatures at blocks. -/
def temperature :
    PropertyValue := ⟨cls "ExprTemperature", "temperature", temperatureOf⟩

def nameOf (world : World) (value : Value) : Option Value :=
  (value.datum?.bind world.player?).map fun player => .datum (.text player.name)

def playerName : PropertyValue := ⟨cls "ExprName", "name", nameOf⟩

/-! ## Kinds of entities -/

/-- The kind of syntax that describes entities. -/
def entityKind : Text := "entitydata"

def thrownForm : Value → Option ItemType
  | .datum (.item item) =>
      if item = potion then some splashPotion
      else if item = splashPotion || item = lingeringPotion then some item
      else none
  | _ => none

/-- Thrown potions of the given types. -/
def thrownPotions (types : List ItemType) : Element :=
  { Element.inert (cls "ThrownPotionData")
      (some ("thrown potion of " ++ Text.join " or " (types.map (·.name))))
      [("types", .value (.datum (.list (types.map .item))))] with
    describes := fun
      | .thrownPotion (.item item) => types.contains item
      | _ => false }

/-- Describes thrown potions.  Things that cannot be thrown as potions are left out,
and a description of nothing else is rejected without an error, since other
things can be thrown too. -/
def describePotions (_pattern : Nat) (result : MatchResult) : Verdict :=
  match firstSlot result with
  | none => .accept (thrownPotions [splashPotion])
  | some items =>
      let types := (items.values World.empty).filterMap thrownForm
      ⟨[], if types.isEmpty then none else some (thrownPotions types)⟩

/-! ## Events -/

/-- An event that nothing more is known of. -/
def simpleEvent : Element :=
  { Element.inert (cls "EvtSimple") none [] with check := some fun _ => true }

/-- A click with a button on a kind of block, or on anything. -/
def clickEvent (result : MatchResult) : Element :=
  let button : Text := if result.choices = [1] then "left" else "right"
  let items := firstSlot result
  { Element.inert (cls "EvtClick") none
      [("button", .value (.datum (.text button))), ("items", .expr items)] with
    check := some fun world =>
      match items with
      | none => true
      | some items =>
          match world.eventValue "block" 0 with
          | .block kind _ =>
              (items.values world).any fun value =>
                value.datum?.any (kind.same world)
          | _ => false }

/-- The spawning of an entity of a kind, or of any entity. -/
def spawnEvent (result : MatchResult) : Element :=
  let kinds := firstSlot result
  { Element.inert (cls "EvtSpawn") none [("datas", .expr kinds)] with
    check := some fun world =>
      match kinds with
      | none => true
      | some kinds =>
          let entity := world.eventValue "entity" 0
          (kinds.values world).any fun
            | .element kind => kind.describes entity
            | .datum _ => false }

/-! ## Registration -/

/-- A descriptor of this library, which accepts every match. -/
def descriptor (name : Text) (patterns : List Text)
    (build : MatchResult → Element) :
    Descriptor :=
  ⟨cls name, patterns, [], .plain, fun _ result => .accept (build result)⟩

def types : List RegisteredType :=
  [⟨{ TypeInfo.named "itemtype" .item with displayName := "item type" },
      .function itemLiteral, none⟩,
    ⟨.named "block" .block, .none, some eventBlock.element⟩,
    ⟨.named "player" .player, .function playerLiteral, some eventPlayer.element⟩,
    ⟨{ TypeInfo.named entityKind .entityKind with
        plural := "entitydatas", displayName := "entity type" },
      .syntaxes entityKind, none⟩]

/-- Installs the types and the syntax of the block game. -/
def register (registry : Registry) : Except SetupError Registry := do
  let registry ← registry.registerTypes types
  let registry ← registry.registerConverter ⟨"block", "itemtype", "block kind",
    Converter.blockKind⟩
  let registry ← registry.registerSyntax entityKind
    ⟨cls "ThrownPotionData", ["thrown potion[s] [of %-itemtypes%]"], [], .plain,
      describePotions⟩
  let registry ← registry.registerCondition <| isBlocking.descriptor <|
    PropertyTest.patterns "(blocking|defending) [with [a] shield]" "players"
  let registry ← registry.registerCondition <| isSolid.descriptor <|
    PropertyTest.patterns "solid" "itemtypes"
  let registry ← registry.registerEffect <|
    descriptor "EffRespawn" ["force %players% to respawn"] respawn
  let registry ← registry.registerEffect <|
    descriptor "EffMessage"
      ["(message|send [message]) %strings% [to %players%]"] message
  let registry ← registry.registerExpression "number" <| temperature.descriptor <|
    PropertyValue.patterns "temperature[s]" "blocks"
  let registry ← registry.registerExpression "string" <| playerName.descriptor <|
    PropertyValue.patterns "name[s]" "players"
  let registry ← registry.registerExpression "player" <|
    eventPlayer.descriptor ["[the] [event-]player"]
  let registry ← registry.registerExpression "block" <|
    eventBlock.descriptor ["[the] [event-]block"]
  let registry ← registry.registerEvent "death" <|
    descriptor "EvtSimple" ["death"] fun _ => simpleEvent
  let registry ← registry.registerEvent "respawn" <|
    descriptor "EvtSimple" ["respawn[ing]"] fun _ => simpleEvent
  let registry ← registry.registerEvent "click" <|
    descriptor "EvtClick" ["[(right|left)[ ]]click[ing] [on %-itemtypes%]"]
      clickEvent
  registry.registerEvent "spawn" <|
    descriptor "EvtSpawn" ["spawn[ing] [of %-entitydatas%]"] spawnEvent

/-- A registry with the built-in types and the block game, still open. -/
def registry : Except SetupError Registry := do
  register (← Registry.withBuiltins)

def syntaxNamed? (name : Text) : Option Descriptor :=
  match registry with
  | .ok registry => (registry.syntaxes.flatMap (·.2)).find? (·.cls.name == name)
  | .error _ => none

end Phrasebook.BlockGame
