import Phrasebook.Expr
import Phrasebook.ParseLog

/-!
# Syntax descriptors

A descriptor is one registered kind of syntax: its patterns, and how an element
is built from what a pattern has bound.
-/

namespace Phrasebook

/-- The text that a regular expression slot took, and the texts of its groups. -/
structure Capture where
  whole : Text
  groups : List (Option Text)
  deriving DecidableEq

/-- What a successful match has bound: one slot per placeholder, the captures of
the regular expression slots, and the alternatives taken. -/
structure MatchResult where
  text : Text
  exprs : List (Option Expr)
  captures : List Capture
  choices : List Nat
  /-- The number of literal characters matched. -/
  matchedChars : Nat

/-- What a provider makes of a match: the entries it logs, and the element it
accepts with, if it does. -/
structure Verdict where
  entries : List LogEntry
  element : Option Element

/-- What a descriptor describes besides its patterns. -/
inductive Role where
  | plain
  | expression (returnType : Text)
  | event (name : Text)
  deriving DecidableEq

/-- One registered kind of syntax. -/
structure Descriptor where
  cls : ElementClass
  patterns : List Text
  /-- Remarks that the library only keeps. -/
  metadata : List (Text × Text)
  role : Role
  /-- Builds an element, given the index of the pattern that matched. -/
  init : Nat → MatchResult → Verdict

namespace MatchResult

/-- The result of matching a whole text in which nothing is bound yet. -/
def unbound (text : Text) (slots matchedChars : Nat) : MatchResult :=
  ⟨text, List.replicate slots none, [], [], matchedChars⟩

def bind (result : MatchResult) (slot : Nat) (expr : Expr) : MatchResult :=
  { result with exprs := result.exprs.set slot (some expr) }

def plusChars (result : MatchResult) (count : Nat) : MatchResult :=
  { result with matchedChars := result.matchedChars + count }

def choose (result : MatchResult) (index : Nat) : MatchResult :=
  { result with choices := index :: result.choices }

def capture (result : MatchResult) (capture : Capture) : MatchResult :=
  { result with captures := capture :: result.captures }

end MatchResult

namespace Verdict

def accept (element : Element) : Verdict :=
  ⟨[], some element⟩

end Verdict

namespace Descriptor

/-- The type of the values that the described expressions compute. -/
def returnType (descriptor : Descriptor) : Text :=
  match descriptor.role with
  | .expression returnType => returnType
  | _ => TypeInfo.universalName

def eventName (descriptor : Descriptor) : Text :=
  match descriptor.role with
  | .event name => name
  | _ => []

end Descriptor

end Phrasebook
