import Phrasebook.Text

/-!
# Renditions

A terminal changes how it shows a text, its rendition, when it meets an escape
sequence.  A text that goes elsewhere has its escape sequences removed.
-/

namespace Phrasebook

namespace Text

def escapeStart : Char := Char.ofNat 0x1B

/-- The escape sequence that selects a rendition. -/
def rendition (parameters : Text) : Text :=
  escapeStart :: '[' :: (parameters ++ ['m'])

/-- Whether the character can be a parameter of an escape sequence. -/
def isSequenceParameter (char : Char) : Bool :=
  ('0' ≤ char && char ≤ '9') || char == ';' || char == '?'

/-- Whether the character ends an escape sequence. -/
def endsSequence (char : Char) : Bool :=
  ('a' ≤ char && char ≤ 'z') || ('A' ≤ char && char ≤ 'Z')

/-- The length of the escape sequence that begins here, from just after its first
character. -/
def sequenceLength? : Text → Option Nat
  | '[' :: rest =>
      match rest.dropWhile isSequenceParameter with
      | last :: _ =>
          if endsSequence last then
            some ((rest.takeWhile isSequenceParameter).length + 2)
          else none
      | [] => none
  | _ => none

/-- The text without its escape sequences, after a number of characters that are to
be left out. -/
def dropSequences : Nat → Text → Text
  | _, [] => []
  | skipped + 1, _ :: rest => dropSequences skipped rest
  | 0, first :: rest =>
      match if first = escapeStart then sequenceLength? rest else none with
      | some length => dropSequences length rest
      | none => first :: dropSequences 0 rest

def withoutSequences (text : Text) : Text :=
  dropSequences 0 text

end Text

end Phrasebook
