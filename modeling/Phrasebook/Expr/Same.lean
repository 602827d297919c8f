import Phrasebook.Descriptor

/-!
# Sameness of elements and expressions

Two elements are the same when they are of one class and all of their attributes
are the same.  Two expressions are the same when they have the same form, type and
content; a conversion that is still to be applied to computed values does not
count.
-/

namespace Phrasebook

mutual

def Value.same (world : World) : Value → Value → Bool
  | .datum left, .datum right => left.same world right
  | .element left, .element right => left.same world right
  | _, _ => false
termination_by structural left => left

def Value.sameAll (world : World) : List Value → List Value → Bool
  | [], [] => true
  | left :: lefts, right :: rights =>
      Value.same world left right && Value.sameAll world lefts rights
  | _, _ => false
termination_by structural left => left

def Expr.same (world : World) : Expr → Expr → Bool
  | .variable left leftType, .variable right rightType =>
      left == right && leftType == rightType
  | .literal left leftType leftAnd, .literal right rightType rightAnd =>
      Value.sameAll world left right && leftType == rightType && leftAnd == rightAnd
  | .unparsed left, .unparsed right => left == right
  | .computed left leftType _, .computed right rightType _ =>
      left.same world right && leftType == rightType
  | _, _ => false
termination_by structural left => left

def Expr.sameSlot (world : World) : Option Expr → Option Expr → Bool
  | none, none => true
  | some left, some right => left.same world right
  | _, _ => false
termination_by structural left => left

def Expr.sameSlots (world : World) : List (Option Expr) → List (Option Expr) → Bool
  | [], [] => true
  | left :: lefts, right :: rights =>
      Expr.sameSlot world left right && Expr.sameSlots world lefts rights
  | _, _ => false
termination_by structural left => left

def Attribute.same (world : World) : Attribute → Attribute → Bool
  | .value left, .value right => left.same world right
  | .expr left, .expr right => Expr.sameSlot world left right
  | .exprs left, .exprs right => Expr.sameSlots world left right
  | _, _ => false
termination_by structural left => left

def Attribute.sameNamed (world : World) : Text × Attribute → Text × Attribute → Bool
  | (leftName, left), (rightName, right) =>
      leftName == rightName && left.same world right
termination_by structural left => left

def Attribute.sameAll (world : World) :
    List (Text × Attribute) → List (Text × Attribute) → Bool
  | [], [] => true
  | left :: lefts, right :: rights =>
      Attribute.sameNamed world left right && Attribute.sameAll world lefts rights
  | _, _ => false
termination_by structural left => left

def Element.same (world : World) : Element → Element → Bool
  | ⟨leftClass, leftTime, _, _, left, _, _, _, _, _⟩,
      ⟨rightClass, rightTime, _, _, right, _, _, _, _, _⟩ =>
      leftClass == rightClass &&
        Attribute.sameAll world (left leftTime) (right rightTime)
termination_by structural left => left

end

namespace MatchResult

/-- Sameness of match results.  The captures do not count. -/
def same (world : World) (left right : MatchResult) : Bool :=
  left.text == right.text && Expr.sameSlots world left.exprs right.exprs &&
    left.choices == right.choices && left.matchedChars == right.matchedChars

end MatchResult

end Phrasebook
