import Phrasebook.Descriptor

/-!
# Event values

An event comes with values, such as its player.  The expression for one of them
reads it from the world, and it is also the default expression of its type.
-/

namespace Phrasebook

/-- A value of the current event. -/
structure EventValue where
  cls : ElementClass
  /-- The type of the value. -/
  type : Text
  /-- Whether the event also keeps past and future versions of the value. -/
  timeStates : Bool
  single : Bool

namespace EventValue

/-- The word before the value for the states next to the present. -/
def timeWord (time : Int) : Text :=
  if time = -1 then "past " else if time = 1 then "future " else ""

def element (value : EventValue) : Element :=
  { Element.inert value.cls none [] with
    hasTime := fun time => time == 0 || value.timeStates
    shownAt := fun time => some ("the " ++ timeWord time ++ "event-" ++ value.type)
    attributesAt := fun time => [("time", .value (.datum (.int time)))]
    single := value.single
    getAt := fun time world =>
      let found := world.eventValue value.type time
      if found.isNull then [] else found.items.map .datum }

def descriptor (value : EventValue) (patterns : List Text) : Descriptor :=
  ⟨value.cls, patterns, [], .plain, fun _ _ => .accept value.element⟩

end EventValue

end Phrasebook
