import Phrasebook.DefaultExpr
import Phrasebook.Resolution
import Phrasebook.Tracking

/-!
# Selection of candidates

A text is parsed by trying the patterns of all descriptors in order.  The first
pattern that matches, and whose provider accepts, decides.  Expressions inside of
a placeholder are parsed in the same way, against the registered expressions.
-/

namespace Phrasebook

/-- An element that a provider has accepted. -/
structure Accepted where
  descriptor : Descriptor
  /-- The index of the pattern that matched. -/
  pattern : Nat
  element : Element
  /-- What the provider logged. -/
  entries : List LogEntry

/-- The circumstances of one parse attempt. -/
structure Attempt where
  registry : Registry
  context : ParseContext
  literalOnly : Bool
  minErrorChars : Int

namespace Accepted

def computed (accepted : Accepted) : ComputedElement :=
  ⟨accepted.element, accepted.descriptor.returnType⟩

end Accepted

variable {m : Type → Type} [Searching m]

namespace Attempt

/-- The matcher of the attempt, given how expressions and literals are parsed. -/
def matcher (attempt : Attempt) (parseNested : Text → m (Option ComputedElement))
    (read : LiteralReading) : Matcher m where
  registry := attempt.registry
  context := attempt.context
  minErrorChars := attempt.minErrorChars
  resolve :=
    Resolver.resolve ⟨attempt.registry, attempt.context, attempt.literalOnly,
      parseNested, read⟩

end Attempt

namespace Matcher

/-- Asks the provider of a matched pattern for its verdict.  What an accepting
provider logs is forwarded; the last error that a rejecting provider logs counts
as a semantic error. -/
def consult (descriptor : Descriptor) (index : Nat) (result : MatchResult) :
    m (Option Accepted) := do
  let verdict ← Searching.ask descriptor index result
  match verdict.element with
  | some element => do
      Searching.forward verdict.entries
      pure (some ⟨descriptor, index, element, verdict.entries⟩)
  | none =>
      match LogEntry.lastError? verdict.entries with
      | some entry => do
          Searching.record .semantic entry.message
          pure none
      | none => pure none

/-- The result of a match as its provider gets it.  Slots left empty are filled by
default expressions if `fill` says so. -/
def complete (matcher : Matcher m) (fill : Bool) (pattern : Text)
    (result : MatchResult) :
    Except SetupError MatchResult :=
  if fill then matcher.registry.fillDefaults pattern result else .ok result

def tryPattern (matcher : Matcher m) (fill : Bool) (text : Text)
    (descriptor : Descriptor) (pattern : Text × Nat) : m (Option Accepted) := do
  match ← matcher.run pattern.1 text with
  | none => pure none
  | some result =>
      let filled ← Searching.lift (matcher.complete fill pattern.1 result)
      consult descriptor pattern.2 filled

def tryDescriptor (matcher : Matcher m) (fill : Bool) (text : Text)
    (descriptor : Descriptor) :
    m (Option Accepted) :=
  Searching.firstSome (matcher.tryPattern fill text descriptor)
    descriptor.patterns.zipIdx

def trySource (matcher : Matcher m) (fill : Bool) (text : Text)
    (source : List Descriptor) :
    m (Option Accepted) :=
  Searching.firstSome (matcher.tryDescriptor fill text) source

end Matcher

namespace Registry

/-- Reads a text as a literal of a type.  Types whose literals are syntax elements
are parsed with literals alone; the fuel bounds how deep such parses may be
nested. -/
def readWithin (registry : Registry) : Nat → LiteralReading
  | 0, _, _, _ => .error .endlessNesting
  | fuel + 1, type, text, context =>
      match type.reader with
      | .none => .ok none
      | .function read => .ok (read text context)
      | .syntaxes kind =>
          let attempt : Attempt := ⟨registry, .script, true, 5⟩
          let matcher : Matcher Search :=
            attempt.matcher (fun _ => pure none) (registry.readWithin fuel)
          match matcher.trySource true text (registry.syntaxesOf kind) with
          | .error error => .error error
          | .ok (_, found) =>
              .ok (found.map fun accepted => .element accepted.element)

/-- Reads a text as a literal of a type.  A parse nested in another one has a
shorter text or another type, unless it would never end. -/
def read (registry : Registry) : LiteralReading := fun type text context =>
  registry.readWithin ((text.length + 1) * (registry.types.length + 1) + 1)
    type text context

/-- An attempt of its own to find an element that computes values. -/
def nestedElement (parse : m (Option Accepted)) : m (Option ComputedElement) := do
  let found ← Searching.nested parse
  pure (found.map Accepted.computed)

/-- Parses a text against the registered expressions.  The fuel bounds the depth of
nesting. -/
def parseNestedWithin (registry : Registry) (minErrorChars : Int) :
    Nat → Text → m (Option Accepted)
  | 0, _ => Searching.fail .endlessNesting
  | fuel + 1, text =>
      let attempt : Attempt := ⟨registry, .script, false, minErrorChars⟩
      let matcher := attempt.matcher
        (fun text => nestedElement
          (registry.parseNestedWithin minErrorChars fuel text)) registry.read
      matcher.trySource true text registry.expressions

/-- Parses a text against the registered expressions, as an attempt of its own.
A parse nested in another one has a shorter text, unless it would never end. -/
def parseNested (registry : Registry) (minErrorChars : Int) (text : Text) :
    m (Option ComputedElement) :=
  nestedElement (registry.parseNestedWithin minErrorChars (text.length + 1) text)

end Registry

namespace Attempt

/-- The matcher of the attempt with the registered expressions and types, for
any way to carry out its searches. -/
def matcherIn (attempt : Attempt) (m : Type → Type) [Searching m] : Matcher m :=
  attempt.matcher (attempt.registry.parseNested attempt.minErrorChars)
    attempt.registry.read

/-- The matcher of the attempt that lists all error records. -/
def ready (attempt : Attempt) : Matcher Search :=
  attempt.matcherIn Search

/-- The matcher of the attempt that keeps track of the best error and of the log. -/
def tracked (attempt : Attempt) : Matcher Tracked :=
  attempt.matcherIn Tracked

end Attempt

end Phrasebook
