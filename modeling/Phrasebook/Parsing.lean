import Phrasebook.Candidate

/-!
# Parsing

The parser's entry points take a text and a parse log.  Each of them works inside
a capture scope of its own: a call that succeeds forwards what the accepted
element's provider logged, and a call that fails reports at most one error.
-/

namespace Phrasebook

/-- Settings of a parser. -/
structure ParserOptions where
  minErrorChars : Int
  /-- The error for a line about which nothing better can be said. -/
  defaultError : Text

/-- A parser for one registry. -/
structure Parser where
  registry : Registry
  options : ParserOptions

namespace ParserOptions

def standard : ParserOptions :=
  ⟨5, "can't understand this line"⟩

end ParserOptions

namespace ParseLog

/-- Makes an attempt inside a capture scope and then forwards everything the
scope has held back, or only the error when the attempt has failed.  A setup
error drops the scope. -/
def conclude {α : Type} (log : ParseLog) (defaultError : Option Text)
    (search : Tracked (Option α)) : Except SetupError (Option α) × ParseLog :=
  let ending := search.attempt log
  match ending.answer with
  | .error error => (.error error, ending.log)
  | .ok (some answer) => (.ok (some answer), ending.log.forward ending.held)
  | .ok none => (.ok none, ending.log.forwardError ending.held defaultError)

end ParseLog

namespace Parser

def attempt (parser : Parser) (context : ParseContext) (literalOnly : Bool) :
    Attempt :=
  ⟨parser.registry, context, literalOnly, parser.options.minErrorChars⟩

def matcher (parser : Parser) (context : ParseContext) (literalOnly : Bool) :
    Matcher Tracked :=
  (parser.attempt context literalOnly).tracked

/-! ## Syntax elements -/

def parse (parser : Parser) (log : ParseLog) (text : Text)
    (source : List Descriptor) (defaultError : Option Text) :
    Except SetupError (Option Accepted) × ParseLog :=
  log.conclude defaultError
    ((parser.matcher .script false).trySource true text source)

/-- Parses a text as one of the described elements; placeholders are bound to
literals only. -/
def parseStatic (parser : Parser) (log : ParseLog) (text : Text)
    (source : List Descriptor) (defaultError : Option Text) :
    Except SetupError (Option Accepted) × ParseLog :=
  log.conclude defaultError
    ((parser.matcher .script true).trySource true text source)

/-- Parses a line of a script as a condition or, failing that, an effect. -/
def parseStatement (parser : Parser) (log : ParseLog) (text : Text)
    (defaultError : Option Text) : Except SetupError (Option Accepted) × ParseLog :=
  parser.parse log text parser.registry.statements
    (some (defaultError.getD parser.options.defaultError))

/-- Parses the header of a trigger.  Its placeholders are bound to literals only,
and empty slots stay empty. -/
def parseEvent (parser : Parser) (log : ParseLog) (text : Text)
    (defaultError : Option Text) :
    Except SetupError (Option Accepted) × ParseLog :=
  log.conclude defaultError
    ((parser.matcher .event true).trySource false text parser.registry.events)

/-! ## Expressions -/

/-- The search for an expression of a type; whatever went wrong, a failure leaves a
record. -/
def searchExpression {m : Type → Type} [Searching m] (parser : Parser)
    (type : RegisteredType) (text : Text) : m (Option Expr) := do
  let matcher := (parser.attempt .script false).matcherIn m
  let found ← (if text.isEmpty then pure none else matcher.resolve type text)
  match found with
  | some expr => pure (some expr)
  | none => do
      Searching.record .notAnExpression (ErrorMessage.notA text type.toTypeInfo)
      pure none

/-- Parses a text as a variable, a registered expression or a literal. -/
def parseExpression (parser : Parser) (log : ParseLog) (text typeName : Text)
    (defaultError : Option Text) : Except SetupError (Option Expr) × ParseLog :=
  match parser.registry.getType typeName with
  | .error error => (.error error, log)
  | .ok type =>
      log.conclude defaultError (parser.searchExpression type (Text.strip text))

/-- Parses a text as a literal of a type.  Nothing is logged. -/
def parseLiteral (parser : Parser) (text typeName : Text) :
    Except SetupError (Option Expr) :=
  let stripped := Text.strip text
  if stripped.isEmpty then .ok none
  else do
    let type ← parser.registry.getType typeName
    (Expr.unparsed stripped).convert parser.registry parser.registry.read
      type .script

/-! ## Single patterns -/

/-- Matches a single pattern, which has to be valid, and reports the best error of
a failure. -/
def matchPattern (parser : Parser) (log : ParseLog) (pattern text : Text)
    (literalOnly : Bool) :
    Except SetupError (Option MatchResult) × ParseLog :=
  match Pattern.validate pattern with
  | .error error => (.error error, log)
  | .ok () =>
      log.conclude none ((parser.matcher .script literalOnly).run pattern text)

end Parser

/-- Matches a single pattern, which has to be valid, and discards all errors. -/
def matchQuietly (registry : Registry) (context : ParseContext) (literalOnly : Bool)
    (pattern text : Text) : Except SetupError (Option MatchResult) := do
  Pattern.validate pattern
  let attempt : Attempt :=
    ⟨registry, context, literalOnly, ParserOptions.standard.minErrorChars⟩
  match attempt.ready.run pattern text with
  | .error error => .error error
  | .ok (_, result) => .ok result

end Phrasebook
