import Phrasebook.Parsing

/-!
# Scripts

A script is a list of triggers:

    on death:
        force the player to respawn
        message "welcome back"

A line without indentation that ends in a colon is the header of a trigger and is
parsed as an event.  The indented lines below it are statements.  Every line that
cannot be parsed contributes one diagnostic, which points at the line.
-/

namespace Phrasebook

/-- A parsed line of a trigger. -/
structure Statement where
  element : Element
  span : Span

/-- A trigger: its event and the statements below the header. -/
structure Trigger where
  /-- The name of the event. -/
  name : Text
  event : Element
  span : Span
  statements : List Statement

/-- What is known of a script: its triggers and its diagnostics. -/
structure ScriptReport where
  file : Text
  triggers : List Trigger
  diagnostics : List Diagnostic

inductive ParsedLine where
  | trigger (trigger : Trigger)
  | statement (statement : Statement)

/-- A class of lines, as the analysis treats them. -/
inductive LineClass where
  /-- Blank, or a comment. -/
  | skipped
  /-- Without indentation, and ending in a colon; the part before the colon. -/
  | header (text : Text)
  /-- Without indentation or colon. -/
  | strayText (text : Text)
  | indented (text : Text)
  deriving DecidableEq

namespace LineClass

/-- The event that a header names: the word `on` before it is left out. -/
def eventText (header : Text) : Text :=
  if ("on " : Text).isPrefixOf (Text.lower header) then
    Text.strip (header.drop 3) else header

/-- The class of a line. -/
def ofLine (line : Text) : LineClass :=
  let stripped := Text.strip line
  if stripped.isEmpty || stripped.head? == some '#' then .skipped
  else if line.head? == some ' ' || line.head? == some '\t' then .indented stripped
  else if stripped.getLast? == some ':' then
    .header (eventText (Text.strip stripped.dropLast))
  else .strayText stripped

end LineClass

namespace Trigger

def addStatement (trigger : Trigger) (statement : Statement) : Trigger :=
  { trigger with statements := trigger.statements ++ [statement] }

/-- The statement that was parsed from a line. -/
def statementAt? (trigger : Trigger) (line : Int) : Option Statement :=
  trigger.statements.find? (·.span.startLine == line)

end Trigger

namespace ScriptReport

/-- Whether there is no error. -/
def ok (report : ScriptReport) : Bool :=
  !report.diagnostics.any Diagnostic.isError

def errors (report : ScriptReport) : List Diagnostic :=
  report.diagnostics.filter Diagnostic.isError

/-- The trigger or the statement that was parsed from a line. -/
def lineAt? (report : ScriptReport) (line : Int) : Option ParsedLine :=
  report.triggers.findSome? fun trigger =>
    if trigger.span.startLine == line then some (.trigger trigger)
    else (trigger.statementAt? line).map .statement

end ScriptReport

namespace ParsedLine

def span : ParsedLine → Span
  | .trigger parsed => parsed.span
  | .statement parsed => parsed.span

/-- What the line was parsed as, in Markdown. -/
def description : ParsedLine → Text
  | .trigger parsed =>
      "**event** `" ++ parsed.name ++ "` (" ++ parsed.event.cls.name ++ ")"
  | .statement parsed =>
      "**" ++ parsed.element.cls.name ++ "** `" ++ parsed.element.display ++ "`"

end ParsedLine

/-- The state of an analysis between two lines. -/
structure Analysis where
  log : ParseLog
  /-- The finished triggers. -/
  finished : List Trigger
  /-- The trigger that statements belong to. -/
  current : Option Trigger
  diagnostics : List Diagnostic

namespace Analysis

/-- Before the first line. -/
def start : Analysis := ⟨.empty, [], none, []⟩

def triggers (analysis : Analysis) : List Trigger :=
  analysis.finished ++ analysis.current.toList

/-- Ends the current trigger. -/
def close (analysis : Analysis) : Analysis :=
  { analysis with finished := analysis.triggers, current := none }

/-- Logs an error of the most general kind. -/
def complain (analysis : Analysis) (message : Text) : Analysis :=
  { analysis with log := analysis.log.add ⟨.error, message, "E100"⟩ }

/-- Turns what the log holds into diagnostics that point at a line. -/
def collect (analysis : Analysis) (span : Span) : Analysis :=
  let (found, log) := analysis.log.takeDiagnostics
  { analysis with
    log := log
    diagnostics := analysis.diagnostics ++ found.map (Diagnostic.addLabel span) }

/-- Opens a trigger if the header is an event. -/
def openTrigger (parser : Parser) (analysis : Analysis) (span : Span)
    (header : Text) :
    Except SetupError Analysis :=
  let fallback := "can't understand this event: '" ++ header ++ "'"
  match parser.parseEvent analysis.log header (some fallback) with
  | (.error error, _) => .error error
  | (.ok none, log) => .ok { analysis with log := log }
  | (.ok (some accepted), log) =>
      let trigger : Trigger :=
        ⟨accepted.descriptor.eventName, accepted.element, span, []⟩
      .ok { analysis with log := log, current := some trigger }

/-- Adds a statement to the current trigger if the line is one. -/
def addStatement (parser : Parser) (analysis : Analysis) (trigger : Trigger)
    (span : Span) (text : Text) : Except SetupError Analysis :=
  match parser.parseStatement analysis.log text none with
  | (.error error, _) => .error error
  | (.ok none, log) => .ok { analysis with log := log }
  | (.ok (some accepted), log) =>
      .ok { analysis with
        log := log
        current := some (trigger.addStatement ⟨accepted.element, span⟩) }

/-- Takes one line into account. -/
def step (parser : Parser) (file : Text) (analysis : Analysis) (line : Text × Nat) :
    Except SetupError Analysis :=
  let span := Span.ofLine file line.2 line.1
  match LineClass.ofLine line.1 with
  | .skipped => .ok analysis
  | .header header => do
      let opened ← analysis.close.openTrigger parser span header
      pure (opened.collect span)
  | .strayText text =>
      .ok ((analysis.close.complain
        ("'" ++ text ++ "' is not a trigger header")).collect span)
  | .indented text =>
      match analysis.current with
      | none =>
          .ok ((analysis.complain "statements must belong to a trigger").collect
            span)
      | some trigger => do
          let added ← analysis.addStatement parser trigger span text
          pure (added.collect span)

end Analysis

namespace Parser

/-- Parses every trigger and statement of a script. -/
def analyzeScript (parser : Parser) (source file : Text) :
    Except SetupError ScriptReport := do
  let analysis ← ((Text.lines source).zipIdx 1).foldlM
    (Analysis.step parser file) .start
  pure ⟨file, analysis.triggers, analysis.diagnostics⟩

end Parser

end Phrasebook
