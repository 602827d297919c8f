import Phrasebook.Registry

/-!
# Conversion of expressions

An expression takes the type that a placeholder asks for.  A text of unknown type
is read as a literal, or as a list of literals; everything else goes along the
supertypes or through a registered converter.
-/

namespace Phrasebook

/-- How texts are read as literals of registered types. -/
abbrev LiteralReading :=
  RegisteredType → Text → ParseContext → Except SetupError (Option Value)

/-- The result of a converter for a value, if there is one.  Nothing at all is
no result. -/
def Converter.result? (convert : Converter) (world : World) (value : Value) :
    Option Value :=
  (convert world value).filter fun result => !result.isNull

/-- The small letter that a character stands for where the case of letters does
not matter.  An I with a dot and one without both stand for the plain letter. -/
def Text.anyCase (char : Char) : Char :=
  if char = 'ı' || char = 'İ' then 'i' else char.toLower

namespace Expr

/-- The variable that a text names: a name between braces, which the words `the`
and `variable` may introduce. -/
def readVariable? (text : Text) (type : TypeInfo) : Option Expr :=
  match Text.partition '{' text with
  | (_, none) => none
  | (introduction, some braced) =>
      let name := braced.dropLast
      let introductions : List Text :=
        ["", "var ", "variable ", "the var ", "the variable "]
      if introductions.contains (introduction.map Text.anyCase) &&
          braced.getLast? == some '}' && !name.isEmpty && !name.contains '\n' then
        some (.variable name type)
      else none

/-- Reads texts one after the other, as long as all of them are literals. -/
def readAll (read : Text → Except SetupError (Option Value)) :
    List Text → Except SetupError (Option (List Value))
  | [] => .ok (some [])
  | text :: texts => do
      match ← read text with
      | none => pure none
      | some value => pure ((← readAll read texts).map (value :: ·))

/-- A text as a literal of the type: one value, or else a list of at least two. -/
def convertText (read : LiteralReading) (target : RegisteredType)
    (context : ParseContext) (text : Text) : Except SetupError (Option Expr) :=
  if target.isUniversal then .ok (some (.unparsed text))
  else do
    match ← read target text context with
    | some value => pure (some (.literal [value] target.toTypeInfo true))
    | none =>
        let (parts, andList) := ListText.split text
        if parts.length = 1 then pure none
        else
          let values ← readAll (fun part =>
            read target (Text.strip part) context) parts
          pure (values.map fun values => .literal values target.toTypeInfo andList)

/-- The expression with its values sent through a converter.  Literals are
converted at once, and each of their values has to have a result.  A converter
given to a computed expression works on the element's own values. -/
def applyConverter (convert : Converter) (target : TypeInfo) : Expr → Option Expr
  | .literal values _ andList =>
      (values.mapM (convert.result? World.empty)).map fun values =>
        .literal values target andList
  | .computed element _ _ =>
      some (.computed element target
        (some fun time world =>
          (element.getAt time world).filterMap (convert.result? world)))
  | expr => some (expr.withType target)

/-- The expression as one of another type: of a wider one as it is, and
otherwise sent through a converter, if one is registered. -/
def adapt (registry : Registry) (target : TypeInfo) (expr : Expr) :
    Except SetupError (Option Expr) := do
  if ← registry.isSubtype expr.type target then
    pure (some (expr.withType target))
  else
    match ← registry.conversion? expr.type target with
    | none => pure none
    | some conversion => pure (expr.applyConverter conversion.convert target)

/-- The expression as one of the target type, if that is possible. -/
def convert (registry : Registry) (read : LiteralReading) (target : RegisteredType)
    (context : ParseContext) (expr : Expr) : Except SetupError (Option Expr) :=
  match expr with
  | .unparsed text => convertText read target context text
  | .variable .. =>
      .ok (some (if target.isUniversal then expr
        else expr.withType target.toTypeInfo))
  | .literal .. | .computed .. =>
      if target.isUniversal then .ok (some expr)
        else expr.adapt registry target.toTypeInfo

end Expr

end Phrasebook
