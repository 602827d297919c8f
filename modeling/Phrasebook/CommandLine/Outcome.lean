import Phrasebook.CommandLine.Request
import Phrasebook.Highlight.Terminal
import Phrasebook.Provision
import Phrasebook.Report
import Phrasebook.Script.File

/-!
# Outcomes

What the program prints for a request, and the code that it exits with.
-/

namespace Phrasebook.CommandLine

structure Outcome where
  exitCode : Nat
  /-- What is printed as the answer. -/
  output : Text
  /-- What is printed as complaints. -/
  complaints : Text
  /-- What ended the run early, if anything did. -/
  failure : Option ScriptFault
  deriving DecidableEq

def version : Text := "0.1.0"

/-- Printed lines, without escape sequences. -/
def printed (lines : List Text) : Text :=
  lines.flatMap fun line => Text.withoutSequences line ++ ['\n']

namespace Outcome

def success (lines : List Text) : Outcome :=
  ⟨0, printed lines, [], none⟩

/-- Failure with complaints. -/
def complaint (lines : List Text) : Outcome :=
  ⟨1, [], printed lines, none⟩

def error (message : Text) : Outcome :=
  complaint ["error: " ++ message]

def refused (refusal : Refusal) : Outcome :=
  ⟨2, [], printed [refusal.message], none⟩

end Outcome

def reports (reporter : Reporter) (tree : FileTree)
    (diagnostics : List Diagnostic) :
    List Text × Reporter :=
  diagnostics.foldl
    (fun (lines, reporter) diagnostic =>
      let (line, reporter) := reporter.report tree diagnostic
      (lines ++ [line], reporter))
    ([], reporter)

/-- The complaints that a log leads to. -/
def complaintsOf (tree : FileTree) (log : ParseLog) : List Text :=
  (reports (.start true) tree log.diagnostics).1

/-! ## Matching -/

def slotLine (slot : Nat) (expr : Option Expr) : Text :=
  let value : Text := match expr with
    | some expr => expr.display ++ " (" ++ expr.type.name ++ ")"
    | none => "<unbound>"
  "  %" ++ Text.ofNat slot ++ ": " ++ value

def captureLine (index : Nat) (capture : Capture) : Text :=
  "  <" ++ Text.ofNat index ++ ">: " ++ capture.whole

def matchLines (result : MatchResult) : List Text :=
  let choices : List Text :=
    if result.choices.isEmpty then []
    else ["  choices: " ++ Text.join ", " (result.choices.map Text.ofNat)]
  ("matched" : Text) :: (result.exprs.zipIdx.map fun (expr, slot) =>
    slotLine slot expr) ++
    (result.captures.zipIdx.map fun (capture, index) =>
      captureLine index capture) ++ choices ++
    ["  matched chars: " ++ Text.ofNat result.matchedChars]

def runMatch (parser : Parser) (tree : FileTree) (pattern text : Text)
    (literalOnly : Bool) :
    Outcome :=
  match parser.matchPattern .empty pattern text literalOnly with
  | (.error error, _) => .error error.message
  | (.ok none, log) => .complaint (complaintsOf tree log ++ [("no match" : Text)])
  | (.ok (some result), _) => .success (matchLines result)

/-! ## Parsing -/

/-- What a text was parsed as: the name of the class, and the text. -/
def foundLine (name text : Text) : Text :=
  name ++ ": " ++ text

def elementLine (accepted : Accepted) : Text :=
  foundLine accepted.element.cls.name accepted.element.display

/-- Parses a text as a line about what was found. -/
def parseLine (parser : Parser) (text : Text) (kind : ParseKind) (type : Text) :
    Except SetupError (Option Text) × ParseLog :=
  let default := some parser.options.defaultError
  match kind with
  | .statement =>
      let (found, log) := parser.parseStatement .empty text none
      (found.map (·.map elementLine), log)
  | .expression =>
      let (found, log) := parser.parseExpression .empty text type default
      (found.map (·.map fun expr => foundLine "Expression" expr.display), log)
  | .event =>
      let (found, log) := parser.parseEvent .empty text default
      (found.map (·.map elementLine), log)
  | .static =>
      let (found, log) :=
        parser.parseStatic .empty text parser.registry.statements default
      (found.map (·.map elementLine), log)

def runParse (parser : Parser) (tree : FileTree) (text : Text)
    (kind : ParseKind) (type : Text) :
    Outcome :=
  match parseLine parser text kind type with
  | (.error error, _) => .error error.message
  | (.ok none, log) => .complaint (complaintsOf tree log)
  | (.ok (some line), _) => .success [line]

/-! ## Checking -/

/-- The state of a check between two files. -/
structure CheckState where
  reporter : Reporter
  complaints : List Text
  hasErrors : Bool
  failure : Option ScriptFault

/-- Checks one file, unless the check has ended. -/
def CheckState.addFile (parser : Parser) (tree : FileTree) (state : CheckState)
    (path : Text) :
    CheckState :=
  match state.failure with
  | some _ => state
  | none =>
      match parser.analyzeFile tree path with
      | .error fault => { state with failure := some fault }
      | .ok report =>
          let (lines, reporter) := reports state.reporter tree report.diagnostics
          ⟨reporter, state.complaints ++ lines, state.hasErrors || !report.ok, none⟩

def runCheck (parser : Parser) (tree : FileTree) (files : List Text) : Outcome :=
  let state := files.foldl (CheckState.addFile parser tree) ⟨.start true,
    [], false, none⟩
  let complaints := printed state.complaints
  if state.hasErrors || state.failure.isSome then ⟨1, [], complaints, state.failure⟩
  else
    let summary := "checked " ++ Text.ofNat files.length ++ " file(s), no errors"
    ⟨0, printed [summary], complaints, none⟩

/-! ## Listing -/

def patternLine (colored : Bool) (pattern : Text) : Text :=
  if colored then "    " ++ Highlight.paintedPattern pattern ++ "\n"
  else printed ["    " ++ pattern]

def descriptorLines (colored : Bool) (descriptor : Descriptor) : Text :=
  printed ["  " ++ descriptor.cls.name] ++ descriptor.patterns.flatMap
    (patternLine colored)

/-- Lists the patterns of some kinds of syntax. -/
def runPatterns (registry : Registry) (kinds : List Text) (colored : Bool) :
    Outcome :=
  let output := kinds.flatMap fun kind =>
    printed [kind ++ "s:"] ++ (registry.syntaxesOf kind).flatMap
      (descriptorLines colored)
  ⟨0, output, [], none⟩

/-! ## All requests -/

/-- The path whose configuration a task is done under. -/
def Task.configPath : Task → Text
  | .check (file :: _) => file
  | _ => ['.']

/-- Does a task with the parser that its configuration describes. -/
def perform (tree : FileTree) (modules : List ProviderModule) (task : Task) :
    Outcome :=
  match (tree.configOf task.configPath).parser modules with
  | .error fault => .error fault.message
  | .ok parser =>
      match task with
      | .matchPattern pattern text literalOnly =>
          runMatch parser tree pattern text literalOnly
      | .parse text kind type => runParse parser tree text kind type
      | .check files => runCheck parser tree files
      | .patterns kinds colored => runPatterns parser.registry kinds colored

/-- Runs the program on the words of a command line. -/
def run (tree : FileTree) (modules : List ProviderModule) (words : List Text) :
    Outcome :=
  match Request.ofWords tree false words with
  | .error refusal => .refused refusal
  | .ok .version => .success [programName ++ ", version " ++ version]
  | .ok (.work task) => perform tree modules task

end Phrasebook.CommandLine
