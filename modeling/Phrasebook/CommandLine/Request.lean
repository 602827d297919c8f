import Phrasebook.CommandLine.Usage
import Phrasebook.Registry

/-!
# Requests

What can be asked of the program: to match one pattern, to parse one text, to
check script files, or to list the patterns that are registered.
-/

namespace Phrasebook.CommandLine

/-- What a text is parsed as. -/
inductive ParseKind where
  | statement
  | expression
  | event
  | static
  deriving DecidableEq

/-- Work that the program does. -/
inductive Task where
  | matchPattern (pattern text : Text) (literalOnly : Bool)
  | parse (text : Text) (kind : ParseKind) (type : Text)
  | check (files : List Text)
  /-- The kinds of syntax to list, and whether to colour them. -/
  | patterns (kinds : List Text) (colored : Bool)
  deriving DecidableEq

/-- A request to the program: to tell its version, or to do work. -/
inductive Request where
  | version
  | work (task : Task)
  deriving DecidableEq

namespace ParseKind

def byName : List (Text × ParseKind) :=
  [("statement", .statement), ("expression", .expression), ("event", .event),
    ("static", .static)]

end ParseKind

/-- The kinds of syntax that are listed. -/
def listedKinds : List Text :=
  [Registry.conditionKind, Registry.effectKind, Registry.expressionKind,
    Registry.eventKind]

def matchSubcommand : Subcommand :=
  ⟨"match", [⟨"--literal-only", .flag⟩], ["PATTERN", "TEXT"], false⟩

def parseSubcommand : Subcommand :=
  ⟨"parse", [⟨"--kind", .choice (ParseKind.byName.map (·.1))⟩,
    ⟨"--type", .word⟩], ["TEXT"], false⟩

def checkSubcommand : Subcommand :=
  ⟨"check", [], ["FILES..."], true⟩

def patternsSubcommand : Subcommand :=
  ⟨"patterns", [⟨"--kind", .choice (listedKinds ++ [("all" : Text)])⟩,
    ⟨"--color", .flag⟩, ⟨"--no-color", .flag⟩], [], false⟩

namespace Task

def ofMatch (given : Given) : Task :=
  .matchPattern (given.arguments[0]?.getD []) (given.arguments[1]?.getD [])
    (given.has "--literal-only")

/-- The task to parse a text: by default as a statement, and as an expression of
any type. -/
def ofParse (given : Given) : Task :=
  let kind := ((given.value? "--kind").bind fun name =>
    ParseKind.byName.lookup name).getD .statement
  .parse (given.arguments[0]?.getD []) kind
    ((given.value? "--type").getD TypeInfo.universalName)

/-- The task to list patterns: by default of all kinds, and in colours.  Of the two
options about colours the last one counts. -/
def ofPatterns (given : Given) : Task :=
  let kinds := match given.value? "--kind" with
    | some kind => if kind = "all" then listedKinds else [kind]
    | none => listedKinds
  let colored := match given.named ["--color", "--no-color"] with
    | (option, _) :: _ => option.written == "--color"
    | [] => true
  .patterns kinds colored

/-- The task that a subcommand and its words set. -/
def ofSubcommand (tree : FileTree) (name : Text) (words : List Text) :
    Except Refusal Task :=
  if name = matchSubcommand.name then (matchSubcommand.read tree words).map ofMatch
  else if name = parseSubcommand.name then
    (parseSubcommand.read tree words).map ofParse
  else if name = checkSubcommand.name then
    (checkSubcommand.read tree words).map fun given => .check given.arguments
  else if name = patternsSubcommand.name then
    (patternsSubcommand.read tree words).map ofPatterns
  else .error ⟨none, .unknownCommand name⟩

end Task

namespace Request

/-- The request of a command line.  Options before the subcommand are the program's
own; the only one asks for its version, whatever follows. -/
def ofWords (tree : FileTree) (askedForVersion : Bool) :
    List Text → Except Refusal Request
  | [] => if askedForVersion then .ok .version else .error ⟨none, .missingCommand⟩
  | word :: rest =>
      if word = "--version" then ofWords tree true rest
      else if isOption word && word != "--" then
        let (name, _) := Text.partition '=' word
        if name = "--version" then .error ⟨none, .unwantedValue name⟩
        else .error ⟨none, unknown word name⟩
      else if askedForVersion then .ok .version
      else if word = "--" then
        match rest with
        | [] => .error ⟨none, .missingCommand⟩
        | name :: words => (Task.ofSubcommand tree name words).map .work
      else (Task.ofSubcommand tree word rest).map .work

end Request

end Phrasebook.CommandLine
