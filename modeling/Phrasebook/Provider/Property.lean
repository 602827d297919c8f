import Phrasebook.Descriptor

/-!
# Properties

Many conditions and expressions are about one property of some things, such as
`<things> are <property>` and `the <property> of <things>`.
-/

namespace Phrasebook

/-- A property that things may have. -/
structure PropertyTest where
  cls : ElementClass
  property : Text
  holds : World → Value → Bool

/-- A property whose value can be asked for. -/
structure PropertyValue where
  cls : ElementClass
  property : Text
  valueOf : Converter

namespace PropertyTest

def patterns (property types : Text) : List Text :=
  ["%" ++ types ++ "% (is|are) " ++ property,
    "%" ++ types ++ "% (isn't|is not|aren't|are not) " ++ property]

/-- The condition that all things have the property, or its negation.  Of no things
at all the positive condition does not hold. -/
def element (test : PropertyTest) (things : Option Expr) (negated : Bool) :
    Element :=
  let single := things.all Expr.isSingle
  let shown := (things.map Expr.display).getD "None" ++
    (if single then " is" else " are") ++
    (if negated then " not " else " ") ++ test.property
  { Element.inert test.cls (some shown)
      [("expr", .expr things), ("negated", .value (.datum (.bool negated)))] with
    check := some fun world =>
      let values := (things.map (·.values world)).getD []
      (!values.isEmpty && values.all (test.holds world)) != negated }

/-- Accepts every match; the second pattern is the negation. -/
def init (test : PropertyTest) (pattern : Nat) (result : MatchResult) : Verdict :=
  .accept (test.element (result.exprs.head?.join) (pattern == 1))

def descriptor (test : PropertyTest) (patterns : List Text) : Descriptor :=
  ⟨test.cls, patterns, [], .plain, test.init⟩

end PropertyTest

namespace PropertyValue

def patterns (property types : Text) : List Text :=
  ["[the] " ++ property ++ " of %" ++ types ++ "%",
    "%" ++ types ++ "%'[s] " ++ property]

/-- The expression for the values of the property.  Things without a value are left
out. -/
def element (property : PropertyValue) (things : Option Expr) : Element :=
  let shown := "the " ++ property.property ++ " of " ++
    (things.map Expr.display).getD "None"
  { Element.inert property.cls (some shown) [("expr", .expr things)] with
    single := things.all Expr.isSingle
    getAt := fun _ world =>
      ((things.map (·.values world)).getD []).filterMap fun value =>
        (property.valueOf world value).filter fun value => !value.isNull }

/-- Accepts every match. -/
def init (property : PropertyValue) (_pattern : Nat) (result : MatchResult) :
    Verdict :=
  .accept (property.element (result.exprs.head?.join))

def descriptor (property : PropertyValue) (patterns : List Text) : Descriptor :=
  ⟨property.cls, patterns, [], .plain, property.init⟩

end PropertyValue

end Phrasebook
