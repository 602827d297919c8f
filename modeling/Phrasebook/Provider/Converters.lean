import Phrasebook.Expr

/-!
# Ready-made converters

Simple functions that a registry may use to lead from one type to another.
-/

namespace Phrasebook.Converter

def plainText : Converter := fun world value =>
  some (.datum (.text (value.plain world)))

/-- The number of characters of a text, or of items of a list. -/
def length : Converter
  | _, .datum (.text text) => some (.datum (.int text.length))
  | _, .datum (.list items) => some (.datum (.int items.length))
  | _, _ => none

def negate : Converter
  | _, .datum (.fraction number) => some (.datum (.fraction number.neg))
  | _, .datum data => data.integer?.map fun number => .datum (.int (-number))
  | _, _ => none

def nothing : Converter := fun _ _ => none

def positive : Converter
  | _, .datum (.fraction number) =>
      if number.isPositive then some (.datum (.fraction number)) else none
  | _, .datum data =>
      if data.integer?.any (0 < ·) then some (.datum data) else none
  | _, _ => none

/-- The kind of item that a block is made of. -/
def blockKind : Converter
  | _, .datum (.block kind _) => if kind.isNull then none else some (.datum kind)
  | _, _ => none

def solidity : Converter
  | _, .datum (.item item) => some (.datum (.bool item.solid))
  | _, _ => none

/-- The partner of a datum in a list of pairs, if it has one. -/
def ofPairs (pairs : List (Datum × Datum)) : Converter
  | world, .datum data =>
      ((pairs.find? fun pair => data.same world pair.1).map fun pair =>
        .datum pair.2).filter
        fun value => !value.isNull
  | _, _ => none

/-- Whether a value is one of the given data. -/
def isOneOf (listed : List Datum) (world : World) (value : Value) : Bool :=
  value.datum?.any fun data => listed.any (data.same world)

end Phrasebook.Converter
