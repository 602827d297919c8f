import Phrasebook.Parsing

/-!
# Commands

A command has a fixed list of typed arguments.  It is declared by a usage such as
`<player> [<number=1>]`.  Arguments inside of square brackets, and those with a
default, may be left out.
-/

namespace Phrasebook

/-- One argument of a command and the values it holds at present. -/
structure Argument where
  index : Nat
  typeName : Text
  default : Option Expr
  optional : Bool
  single : Bool
  current : List Value

structure Command where
  name : Text
  pattern : Text
  arguments : List Argument

/-- An argument as a usage declares it: the name of its type and the text of its
default. -/
structure Declaration where
  typeName : Text
  default : Option Text
  /-- The number of characters it takes up. -/
  length : Nat

namespace Declaration

def isNameChar (char : Char) : Bool :=
  char != '<' && char != '>' && char != '='

def isDefaultChar (char : Char) : Bool :=
  char != '<' && char != '>'

/-- The declaration that starts just after an opening angle bracket: a name,
perhaps a default after an equals sign, and a closing angle bracket. -/
def read? (text : Text) : Option Declaration :=
  let name := text.takeWhile isNameChar
  if name.isEmpty then none
  else
    match text.drop name.length with
    | '>' :: _ => some ⟨name, none, name.length + 2⟩
    | '=' :: rest =>
        let default := rest.takeWhile isDefaultChar
        if (rest.drop default.length).head? == some '>' then
          some ⟨name, some default, name.length + default.length + 3⟩
        else none
    | _ => none

end Declaration

namespace Argument

def display (argument : Argument) : Text :=
  let written := "<" ++ argument.typeName ++ ">"
  if argument.optional then "[" ++ written ++ "]" else written

/-- The argument with the values of an expression, or else of its default. -/
def assign (world : World) (argument : Argument) (expr : Option Expr) : Argument :=
  match expr.or argument.default with
  | some expr => { argument with current := expr.values world }
  | none => { argument with current := [] }

end Argument

namespace Command

/-- A command with required single arguments for the slots of a pattern. -/
def ofPattern (name pattern : Text) (typeNames : List Text) : Command :=
  ⟨name, pattern, typeNames.zipIdx.map fun (typeName, index) =>
    ⟨index, typeName, none, false, true, []⟩⟩

/-- A usage in the making: the arguments and the pattern so far, and the number of
square brackets open. -/
structure Draft where
  arguments : List Argument
  pattern : Text
  depth : Int

namespace Draft

/-- The default of an argument, read as a literal in a command. -/
def readDefault (registry : Registry) (command : Text) (position : Nat)
    (type : RegisteredType) (written : Text) : Except SetupError Expr := do
  match ← (Expr.unparsed (Text.strip written)).convert registry registry.read
      type .command with
  | some expr => pure expr
  | none => throw (.badArgumentDefault written position command)

/-- Adds a declared argument. -/
def addArgument (registry : Registry) (command : Text) (draft : Draft)
    (declaration : Declaration) : Except SetupError Draft := do
  let written := Text.strip declaration.typeName
  let (typeName, plural) := registry.normalize written
  let type ← registry.getType typeName
  let optional := 0 < draft.depth || declaration.default.isSome
  let count := draft.arguments.length
  let default ←
    match declaration.default with
    | none => pure none
    | some text => some <$> readDefault registry command (count + 1) type text
  let argument : Argument := ⟨count, typeName, default, optional, !plural, []⟩
  let placeholder := (if optional then "%-" else "%") ++ written ++ "%"
  pure { draft with
    arguments := draft.arguments ++ [argument]
    pattern := draft.pattern ++ placeholder }

def addChar (draft : Draft) (char : Char) : Draft :=
  { draft with pattern := draft.pattern ++ [char] }

def countBrackets (draft : Draft) (text : Text) : Draft :=
  { draft with depth := draft.depth + text.count '[' - text.count ']' }

end Draft

/-- Reads the rest of a usage; the fuel has to exceed its length. -/
def readUsage (registry : Registry) (command : Text) :
    Nat → Draft → Text → Except SetupError Draft
  | 0, draft, _ => .ok draft
  | _ + 1, draft, [] => .ok draft
  | fuel + 1, draft, char :: rest =>
      match (if char = '<' then Declaration.read? rest else none) with
      | some declaration => do
          let next ← draft.addArgument registry command declaration
          let taken := (char :: rest).take declaration.length
          readUsage registry command fuel (next.countBrackets taken)
            ((char :: rest).drop declaration.length)
      | none =>
          readUsage registry command fuel
            ((draft.countBrackets [char]).addChar char) rest

/-- The command that a usage declares.  Its types have to be registered, and its
defaults have to be literals of their types. -/
def ofUsage (registry : Registry) (name usage : Text) :
    Except SetupError Command := do
  let draft ← readUsage registry name (usage.length + 1) ⟨[], [], 0⟩ usage
  Pattern.validate draft.pattern
  pure ⟨name, draft.pattern, draft.arguments⟩

/-- The value of each single argument, and the list of values of each other one. -/
def values (command : Command) : List (Option Value ⊕ List Value) :=
  command.arguments.map fun argument =>
    if argument.single then .inl argument.current.head? else .inr argument.current

/-- The command with its arguments set from the slots of a match. -/
def assign (world : World) (command : Command) (exprs : List (Option Expr)) :
    Command :=
  { command with
    arguments := command.arguments.zipWith (fun argument expr =>
      argument.assign world expr) exprs }

end Command

namespace Parser

/-- Matches the text of arguments against a command.  When it matches, the answer
is the command with its arguments set; otherwise the command stays as it is. -/
def parseArguments (parser : Parser) (log : ParseLog) (world : World)
    (command : Command) (text : Text) :
    Except SetupError (Option Command) × ParseLog :=
  let ending :=
    ((parser.matcher .command true).run command.pattern text).attempt log
  match ending.answer with
  | .error error => (.error error, ending.log)
  | .ok none => (.ok none, ending.log.forwardError ending.held none)
  | .ok (some result) =>
      if command.arguments.length ≠ result.exprs.length then
        (.error (.argumentCount command.name command.arguments.length
          result.exprs.length), ending.log)
      else (.ok (some (command.assign world result.exprs)),
        ending.log.forward ending.held)

end Parser

end Phrasebook
