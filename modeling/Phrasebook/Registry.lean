import Phrasebook.Descriptor
import Phrasebook.Pattern.Placeholder
import Phrasebook.Pattern.Scan
import Phrasebook.Pattern.Valid
import Phrasebook.Regex.Standard

/-!
# The registry

The registry holds the types, the converters between them and the syntax
descriptors.  It is filled before any parsing and then frozen.  Descriptors are
tried in the order of their registration, so an earlier one wins over a later
one that matches as well.
-/

namespace Phrasebook

/-- How the literals of a type are read. -/
inductive LiteralReader where
  /-- The type has no literals. -/
  | none
  | function (read : Text → ParseContext → Option Value)
  /-- The literals are the elements that the syntaxes of this kind describe. -/
  | syntaxes (kind : Text)

/-- A type with its literals and the expression that stands in for a placeholder
left out of the text. -/
structure RegisteredType extends TypeInfo where
  reader : LiteralReader
  default : Option Element

/-- A converter with the two types it leads between. -/
structure Conversion where
  source : Text
  target : Text
  /-- The name of the converter. -/
  label : Text
  convert : Converter

/-- Types, converters and syntax descriptors. -/
structure Registry where
  /-- In the order of registration. -/
  types : List RegisteredType
  /-- The type that each plural stands for, the latest registration first. -/
  plurals : List (Text × Text)
  /-- In the order in which the pairs of types were first registered. -/
  conversions : List Conversion
  /-- The descriptors of each kind, in the order of registration. -/
  syntaxes : List (Text × List Descriptor)
  frozen : Bool
  /-- Compiles the regular expressions in patterns; the registries of one program
  share it. -/
  regexes : RegexEngine

namespace Registry

def conditionKind : Text := "condition"

def effectKind : Text := "effect"

def expressionKind : Text := "expression"

def eventKind : Text := "event"

/-- A registry without types, open for registration. -/
def blank (regexes : RegexEngine) : Registry where
  types := []
  plurals := []
  conversions := []
  syntaxes := [conditionKind, effectKind, expressionKind, eventKind].map (·, [])
  frozen := false
  regexes

def empty : Registry :=
  blank .standard

/-- The registry, closed for registration. -/
def freeze (registry : Registry) : Registry :=
  { registry with frozen := true }

/-- Fails if the registry is frozen. -/
def checkOpen (registry : Registry) : Except SetupError Unit :=
  if registry.frozen then .error .registrationClosed else .ok ()

/-! ## Types -/

def findType? (registry : Registry) (name : Text) : Option RegisteredType :=
  registry.types.find? (·.name == name)

def getType (registry : Registry) (name : Text) :
    Except SetupError RegisteredType :=
  match registry.findType? name with
  | some type => .ok type
  | none => .error (.unknownType name)

/-- Registers a type under a name that is not taken. -/
def registerType (registry : Registry) (type : RegisteredType) :
    Except SetupError Registry := do
  registry.checkOpen
  if (registry.findType? type.name).isSome then throw (.duplicateType type.name)
  pure { registry with
    types := registry.types ++ [type]
    plurals := (type.plural, type.name) :: registry.plurals }

/-- The singular of a type name as it is written in a pattern, and whether it was
written in the plural.  Names that the registry knows go before the rules of
English. -/
def normalize (registry : Registry) (written : Text) : Text × Bool :=
  if (registry.findType? written).isSome then (written, false)
  else
    match registry.plurals.lookup written with
    | some name => (name, true)
    | none => Noun.singular written

def default? (registry : Registry) (name : Text) : Option Element :=
  (registry.findType? name).bind (·.default)

/-- Whether the first type is the second one or lies below it.  Supertypes are
followed at most as many steps as the fuel says. -/
def isSubtypeWithin (registry : Registry) :
    Nat → TypeInfo → TypeInfo → Except SetupError Bool
  | 0, _, _ => .error .endlessNesting
  | fuel + 1, lower, upper =>
      if upper.isUniversal || lower.name == upper.name then .ok true
      else
        lower.supertypes.anyM fun parent => do
          registry.isSubtypeWithin fuel (← registry.getType parent).toTypeInfo upper

/-- Whether the first type is the second one or lies below it. -/
def isSubtype (registry : Registry) (lower upper : TypeInfo) :
    Except SetupError Bool :=
  registry.isSubtypeWithin (registry.types.length + 2) lower upper

/-! ## Converters -/

/-- Puts a conversion in the place of an earlier one between the same types, or
else at the end. -/
def putConversion (conversion : Conversion) : List Conversion → List Conversion
  | [] => [conversion]
  | earlier :: rest =>
      if earlier.source == conversion.source &&
          earlier.target == conversion.target then
        conversion :: rest
      else earlier :: putConversion conversion rest

/-- Registers a converter between two registered types. -/
def registerConverter (registry : Registry) (conversion : Conversion) :
    Except SetupError Registry := do
  registry.checkOpen
  let _ ← registry.getType conversion.source
  let _ ← registry.getType conversion.target
  pure { registry with
    conversions := putConversion conversion registry.conversions }

/-- The first conversion that starts at the first type or above it and ends at the
second type or below it. -/
def firstConversion? (registry : Registry) (source target : TypeInfo) :
    List Conversion → Except SetupError (Option Conversion)
  | [] => .ok none
  | conversion :: rest => do
      let above ← registry.getType conversion.source
      if ← registry.isSubtype source above.toTypeInfo then
        let below ← registry.getType conversion.target
        if ← registry.isSubtype below.toTypeInfo target then return some conversion
      registry.firstConversion? source target rest

/-- The conversion from one type to another: the one registered for exactly these
types, or else the first that fits. -/
def conversion? (registry : Registry) (source target : TypeInfo) :
    Except SetupError (Option Conversion) :=
  match registry.conversions.find? fun conversion =>
    conversion.source == source.name && conversion.target == target.name with
  | some direct => .ok (some direct)
  | none => registry.firstConversion? source target registry.conversions

/-! ## Syntax descriptors -/

/-- Checks that a placeholder names a registered type. -/
def checkPlaceholder (registry : Registry) (written : Text) :
    Except SetupError Unit := do
  let placeholder ← Placeholder.read registry.normalize written
  let _ ← registry.getType placeholder.name
  pure ()

/-- Checks that a pattern is valid and that its placeholders name registered
types. -/
def checkPattern (registry : Registry) (pattern : Text) :
    Except SetupError Unit := do
  Pattern.validate pattern
  (Pattern.placeholders pattern).forM registry.checkPlaceholder

/-- Checks the patterns of a descriptor; there has to be one. -/
def checkPatterns (registry : Registry) (patterns : List Text) :
    Except SetupError Unit :=
  if patterns.isEmpty then .error .noPatterns
  else patterns.forM registry.checkPattern

/-- Puts a descriptor behind all others of its kind. -/
def appendSyntax (kind : Text) (descriptor : Descriptor) :
    List (Text × List Descriptor) → List (Text × List Descriptor)
  | [] => [(kind, [descriptor])]
  | (name, descriptors) :: rest =>
      if name == kind then (name, descriptors ++ [descriptor]) :: rest
      else (name, descriptors) :: appendSyntax kind descriptor rest

/-- Registers a descriptor under any kind. -/
def registerSyntax (registry : Registry) (kind : Text) (descriptor : Descriptor) :
    Except SetupError Registry := do
  registry.checkOpen
  registry.checkPatterns descriptor.patterns
  pure { registry with syntaxes := appendSyntax kind descriptor registry.syntaxes }

/-- Registers a condition. -/
def registerCondition (registry : Registry) (descriptor : Descriptor) :
    Except SetupError Registry :=
  registry.registerSyntax conditionKind { descriptor with role := .plain }

/-- Registers an effect. -/
def registerEffect (registry : Registry) (descriptor : Descriptor) :
    Except SetupError Registry :=
  registry.registerSyntax effectKind { descriptor with role := .plain }

/-- Registers an expression, the type of which has to be registered. -/
def registerExpression (registry : Registry) (returnType : Text)
    (descriptor : Descriptor) :
    Except SetupError Registry := do
  let _ ← registry.getType returnType
  registry.registerSyntax expressionKind
    { descriptor with role := .expression returnType }

/-- Registers an event under its name. -/
def registerEvent (registry : Registry) (name : Text) (descriptor : Descriptor) :
    Except SetupError Registry :=
  registry.registerSyntax eventKind { descriptor with role := .event name }

/-- The descriptors of a kind. -/
def syntaxesOf (registry : Registry) (kind : Text) : List Descriptor :=
  (registry.syntaxes.lookup kind).getD []

def conditions (registry : Registry) : List Descriptor :=
  registry.syntaxesOf conditionKind

def effects (registry : Registry) : List Descriptor :=
  registry.syntaxesOf effectKind

def expressions (registry : Registry) : List Descriptor :=
  registry.syntaxesOf expressionKind

def events (registry : Registry) : List Descriptor :=
  registry.syntaxesOf eventKind

/-- The conditions and then the effects, the order in which lines are tried. -/
def statements (registry : Registry) : List Descriptor :=
  registry.conditions ++ registry.effects

def kinds (registry : Registry) : List Text :=
  registry.syntaxes.map (·.1)

end Registry

end Phrasebook
