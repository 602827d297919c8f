import Phrasebook.Datum.Printing
import Phrasebook.ListText
import Phrasebook.TypeInfo

/-!
# Expressions and elements

A placeholder is bound to an expression: a reference to a variable, a list of
literal values, a literal whose type is not known yet, or a value that a syntax
element computes.  Elements are what syntax providers build.  To the rest of the
library an element is known by its abilities alone.
-/

namespace Phrasebook

/-- The class of an element.  Classes of one name are told apart by their serial
numbers. -/
structure ElementClass where
  name : Text
  serial : Nat
  deriving DecidableEq

mutual

/-- A value: plain data, or an element that stands for a kind of thing. -/
inductive Value where
  | datum (datum : Datum)
  | element (element : Element)

/-- What a placeholder is bound to. -/
inductive Expr where
  /-- The variable of this name, holding values of the type. -/
  | variable (name : Text) (type : TypeInfo)
  /-- Literal values of the type.  The flag says whether all of them are meant
  together rather than one of them. -/
  | literal (values : List Value) (type : TypeInfo) (andList : Bool)
  /-- A text that has not been read as a literal of any type. -/
  | unparsed (text : Text)
  /-- What the element computes.  After a conversion the converted values, given
  for every time state, take the place of the element's own. -/
  | computed (element : Element) (type : TypeInfo)
      (converted : Option (Int → World → List Value))

/-- The value of one attribute of an element. -/
inductive Attribute where
  | value (value : Value)
  | expr (expr : Option Expr)
  | exprs (exprs : List (Option Expr))

/-- Anything that a pattern can produce.  What an element shows and computes may
depend on the time state that it is bound to. -/
structure Element where
  cls : ElementClass
  /-- The time state: negative in the past, positive in the future, 0 now. -/
  time : Int
  /-- Whether the element can be bound to a time state. -/
  hasTime : Int → Bool
  /-- The text of the element, if its class has one. -/
  shownAt : Int → Option Text
  attributesAt : Int → List (Text × Attribute)
  /-- Whether the element computes a single value. -/
  single : Bool
  /-- The values that the element computes in a world. -/
  getAt : Int → World → List Value
  /-- For conditions and events: whether they hold in a world. -/
  check : Option (World → Bool)
  /-- For effects: the world afterwards. -/
  execute : Option (World → World)
  /-- For kinds of entities: whether a datum is of the kind. -/
  describes : Datum → Bool

end

/-- A function from values to values; it may have no result for a value. -/
abbrev Converter := World → Value → Option Value

namespace Value

def isNull : Value → Bool
  | .datum data => data.isNull
  | .element _ => false

def datum? : Value → Option Datum
  | .datum data => some data
  | .element _ => none

end Value

namespace Element

/-- An element of the class that has no abilities. -/
def inert (cls : ElementClass) (shown : Option Text)
    (attributes : List (Text × Attribute)) :
    Element where
  cls := cls
  time := 0
  hasTime := fun time => time == 0
  shownAt := fun _ => shown
  attributesAt := fun _ => attributes
  single := true
  getAt := fun _ _ => []
  check := none
  execute := none
  describes := fun _ => false

def shown (element : Element) : Option Text :=
  element.shownAt element.time

def attributes (element : Element) : List (Text × Attribute) :=
  element.attributesAt element.time

/-- The values that the element computes in a world. -/
def get (element : Element) (world : World) : List Value :=
  element.getAt element.time world

/-- The element bound to a time state, if it has that state. -/
def setTime (element : Element) (time : Int) : Option Element :=
  if element.hasTime time then some { element with time := time } else none

/-- One attribute of the element as it is listed. -/
def listedAttribute : Text × Attribute → Text
  | (name, .value (.datum datum)) =>
      Text.escaped name ++ ": " ++ datum.listed World.empty
  | (name, .value (.element element)) =>
      Text.escaped name ++ ": " ++ element.cls.name
  | (name, .expr none) => Text.escaped name ++ ": None"
  | (name, .expr (some _)) => Text.escaped name ++ ": Expression"
  | (name, .exprs _) => Text.escaped name ++ ": Expressions"

/-- The text of the element; a class without one shows the attributes. -/
def display (element : Element) : Text :=
  match element.shown with
  | some shown => shown
  | none =>
      element.cls.name ++ "(\x7b" ++
        Text.join ", " (element.attributes.map listedAttribute) ++ "\x7d)"

end Element

namespace Value

/-- The plain form of a value. -/
def plain (world : World) : Value → Text
  | .datum data => data.plain world
  | .element kind => kind.display

/-- A value as it is written in a script. -/
def literalText : Value → Text
  | .datum (.text text) => Text.quoted text
  | .datum (.bool value) => if value then "true" else "false"
  | value => value.plain World.empty

end Value

namespace Expr

def type : Expr → TypeInfo
  | .variable _ type | .literal _ type _ | .computed _ type _ => type
  | .unparsed _ => .object

def kindName : Expr → Text
  | .variable _ _ => "variable"
  | .literal _ _ _ => "literal"
  | .unparsed _ => "unparsed"
  | .computed _ _ _ => "computed"

/-- The name of a variable, or the text of a literal of unknown type. -/
def sourceText : Expr → Text
  | .variable name _ => name
  | .unparsed text => text
  | _ => []

def literalValues : Expr → List Value
  | .literal values _ _ => values
  | _ => []

/-- Whether all values are meant together rather than one of them. -/
def meansAll : Expr → Bool
  | .literal _ _ andList => andList
  | _ => true

/-- The element that computes the values, if there is one. -/
def element? : Expr → Option Element
  | .computed element _ _ => some element
  | _ => none

/-- Whether the values are converted from those that the element computes. -/
def isConverted : Expr → Bool
  | .computed _ _ converted => converted.isSome
  | _ => false

/-- Whether the expression is a literal of unknown type. -/
def isUnparsed : Expr → Bool
  | .unparsed _ => true
  | _ => false

/-- Whether the expression has at most one value.  The name of a list variable
ends in `::*`. -/
def isSingle : Expr → Bool
  | .variable name _ => !("::*" : Text).isSuffixOf name
  | .literal values _ _ => values.length == 1
  | .unparsed text => (ListText.split text).1.length == 1
  | .computed element _ _ => element.single

/-- The expression bound to a time state.  Only computed ones have states other
than the present. -/
def setTime (time : Int) : Expr → Option Expr
  | .computed element type converted =>
      if time = 0 then some (.computed element type converted)
      else (element.setTime time).map fun element =>
        .computed element type converted
  | expr => if time = 0 then some expr else none

def withType (type : TypeInfo) : Expr → Expr
  | .variable name _ => .variable name type
  | .literal values _ andList => .literal values type andList
  | .unparsed text => .unparsed text
  | .computed element _ converted => .computed element type converted

def values (world : World) : Expr → List Value
  | .literal values _ _ => values
  | .unparsed text => [.datum (.text text)]
  | .variable name type =>
      let items := ((world.variableValue? name).map Datum.items).getD []
      let admitted := if type.isUniversal then items
        else items.filter type.domain.admits
      admitted.map .datum
  | .computed element _ converted =>
      (converted.getD element.getAt element.time world).filter fun value =>
        !value.isNull

def display : Expr → Text
  | .variable name _ => "\x7b" ++ name ++ "\x7d"
  | .literal values _ andList =>
      ListText.join (values.map Value.literalText) andList
  | .unparsed text => text
  | .computed element _ _ => element.display

end Expr

end Phrasebook
