import Phrasebook.FileTree

/-!
# Usage of the command line

The words of a command line name a subcommand, its options and its arguments.
Words that do not fit are refused with the usage of the subcommand and one error.
-/

namespace Phrasebook.CommandLine

/-- What an option asks for. -/
inductive OptionKind where
  /-- Nothing but to be there. -/
  | flag
  /-- One of these words. -/
  | choice (allowed : List Text)
  /-- Any word. -/
  | word
  deriving DecidableEq

/-- An option as it is written, with its dashes. -/
structure OptionSpec where
  written : Text
  kind : OptionKind
  deriving DecidableEq

/-- A subcommand: its options and the names of its arguments. -/
structure Subcommand where
  name : Text
  options : List OptionSpec
  arguments : List Text
  /-- Whether there may be more than one of the last argument, all of them files. -/
  takesFiles : Bool
  deriving DecidableEq

/-- The words of a subcommand, sorted. -/
structure Given where
  /-- The options with their values, in the order they were given. -/
  options : List (OptionSpec × Text)
  arguments : List Text
  deriving DecidableEq

/-- Why words are refused. -/
inductive UsageFault where
  | missingCommand
  | unknownCommand (name : Text)
  | unknownOption (written : Text)
  | missingValue (written : Text)
  | unwantedValue (written : Text)
  | notAllowed (written value : Text) (allowed : List Text)
  | missingArgument (name : Text)
  | missingFile (name path : Text)
  | directory (name path : Text)
  | extraArguments (arguments : List Text)
  deriving DecidableEq

/-- Refused words: what was wrong, and the subcommand if it was known. -/
structure Refusal where
  subcommand : Option Subcommand
  fault : UsageFault
  deriving DecidableEq

def programName : Text := "syntaxmatch"

namespace UsageFault

def message : UsageFault → Text
  | .missingCommand => "Missing command."
  | .unknownCommand name => "No such command " ++ Text.escaped name ++ "."
  | .unknownOption written => "No such option " ++ Text.escaped written ++ "."
  | .missingValue written =>
      "Option " ++ Text.escaped written ++ " requires an argument."
  | .unwantedValue written =>
      "Option " ++ Text.escaped written ++ " does not take a value."
  | .notAllowed written value allowed =>
      "Invalid value for '" ++ written ++ "': " ++ Text.escaped value ++
        " is not one of " ++
        Text.join ", " (allowed.map Text.escaped) ++ "."
  | .missingArgument name => "Missing argument '" ++ name ++ "'."
  | .missingFile name path =>
      "Invalid value for '" ++ name ++ "': File " ++ Text.escaped path ++
        " does not exist."
  | .directory name path =>
      "Invalid value for '" ++ name ++ "': File " ++ Text.escaped path ++
        " is a directory."
  | .extraArguments arguments =>
      (if arguments.length = 1 then "Got unexpected extra argument ("
        else "Got unexpected extra arguments (") ++ Text.join " " arguments ++ ")"

end UsageFault

namespace Refusal

/-- How the program, or the subcommand, is called. -/
def callName (refusal : Refusal) : Text :=
  match refusal.subcommand with
  | some subcommand => programName ++ " " ++ subcommand.name
  | none => programName

/-- The words that follow the name in a call. -/
def callWords (refusal : Refusal) : List Text :=
  match refusal.subcommand with
  | some subcommand => ("[OPTIONS]" : Text) :: subcommand.arguments
  | none => ["[OPTIONS]", "COMMAND", "[ARGS]..."]

/-- The usage, and what was wrong. -/
def message (refusal : Refusal) : Text :=
  "Usage: " ++ Text.join " " (refusal.callName :: refusal.callWords) ++ "\nTry '" ++
    refusal.callName ++ " --help' for help.\n\nError: " ++ refusal.fault.message

end Refusal

namespace Given

def nothing : Given := ⟨[], []⟩

def addOption (given : Given) (option : OptionSpec) (value : Text) : Given :=
  { given with options := given.options ++ [(option, value)] }

def addArguments (given : Given) (arguments : List Text) : Given :=
  { given with arguments := given.arguments ++ arguments }

/-- The options given under one of the names, the last one first. -/
def named (given : Given) (names : List Text) : List (OptionSpec × Text) :=
  given.options.reverse.filter fun (option, _) => names.contains option.written

def has (given : Given) (written : Text) : Bool :=
  !(given.named [written]).isEmpty

/-- The value of an option; of several the last one counts. -/
def value? (given : Given) (written : Text) : Option Text :=
  (given.named [written]).head?.map (·.2)

/-- Checks that the value of a given option is allowed. -/
def checkOption (given : Given) (option : OptionSpec) : Except UsageFault Unit :=
  match option.kind, given.value? option.written with
  | .choice allowed, some value =>
      if allowed.contains value then .ok ()
        else .error (.notAllowed option.written value allowed)
  | _, _ => .ok ()

end Given

/-- Whether the word is an option. -/
def isOption (word : Text) : Bool :=
  word.head? == some '-' && 1 < word.length

/-- What is told of an unknown option: its name, or the first letter behind a single
dash. -/
def unknown (word name : Text) : UsageFault :=
  .unknownOption (if ("--" : Text).isPrefixOf word then name else word.take 2)

namespace Subcommand

/-- Sorts words into options and arguments, which may stand in any order.
Behind two dashes there are only arguments. -/
def sort (subcommand : Subcommand) (given : Given) :
    List Text → Except UsageFault Given
  | [] => .ok given
  | word :: rest =>
      if word = "--" then .ok (given.addArguments rest)
      else if !isOption word then subcommand.sort (given.addArguments [word]) rest
      else
        let (name, value) := Text.partition '=' word
        match subcommand.options.find? (·.written == name) with
        | none => .error (unknown word name)
        | some option =>
            match option.kind, value with
            | .flag, none => subcommand.sort (given.addOption option []) rest
            | .flag, some _ => .error (.unwantedValue name)
            | _, some value => subcommand.sort (given.addOption option value) rest
            | _, none =>
                match rest with
                | [] => .error (.missingValue name)
                | value :: others =>
                    subcommand.sort (given.addOption option value) others

/-- Checks that a path leads to a file. -/
def checkFile (tree : FileTree) (name path : Text) : Except UsageFault Unit :=
  match tree.find path with
  | .ok (.file _) => .ok ()
  | .ok .directory => .error (.directory name path)
  | .error _ => .error (.missingFile name path)

/-- Checks the arguments: none may be missing, and if files are wanted, all of the
last ones have to be files. -/
def checkArguments (subcommand : Subcommand) (tree : FileTree)
    (arguments : List Text) :
    Except UsageFault Unit :=
  match subcommand.arguments[arguments.length]? with
  | some name => .error (.missingArgument name)
  | none =>
      if subcommand.takesFiles then
        arguments.forM (checkFile tree (subcommand.arguments.getLast?.getD []))
      else
        match arguments.drop subcommand.arguments.length with
        | [] => .ok ()
        | extra => .error (.extraArguments extra)

/-- Sorts and checks the words of the subcommand: its options in the order they were
given, and then its arguments. -/
def read (subcommand : Subcommand) (tree : FileTree) (words : List Text) :
    Except Refusal Given :=
  (do
    let given ← subcommand.sort .nothing words
    given.options.forM fun (option, _) => given.checkOption option
    subcommand.checkArguments tree given.arguments
    pure given).mapError fun fault => ⟨some subcommand, fault⟩

end Subcommand

end Phrasebook.CommandLine
