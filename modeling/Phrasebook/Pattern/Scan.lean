import Phrasebook.Text

/-!
# Scanning patterns

A pattern is a text with brackets, placeholders between percent signs, regular
expressions between angle brackets, and escapes.  The functions here find the
places that matter in it.  All of them pass over escaped characters, and all of
them answer with offsets into the text they are given.
-/

namespace Phrasebook.Pattern

/-- The offset of the closing bracket that matches one opened before the text;
pairs of the same kind inside, at first `depth` of them open, are passed over. -/
def closingOffset (closing opening : Char) : Nat → Text → Option Nat
  | _, [] => none
  | _, ['\\'] => none
  | depth, '\\' :: _ :: rest =>
      (closingOffset closing opening depth rest).map (· + 2)
  | depth, char :: rest =>
      if char = closing then
        match depth with
        | 0 => some 0
        | depth + 1 => (closingOffset closing opening depth rest).map (· + 1)
      else if char = opening then
        (closingOffset closing opening (depth + 1) rest).map (· + 1)
      else (closingOffset closing opening depth rest).map (· + 1)

/-- The offset of the first unescaped occurrence of the character. -/
def unescapedOffset (target : Char) : Text → Option Nat
  | [] => none
  | ['\\'] => none
  | '\\' :: _ :: rest => (unescapedOffset target rest).map (· + 2)
  | char :: rest =>
      if char = target then some 0 else (unescapedOffset target rest).map (· + 1)

/-- The offset of the first `>`.  Escapes mean nothing inside a regular
expression slot. -/
def regexEndOffset : Text → Option Nat
  | [] => none
  | char :: rest => if char = '>' then some 0 else (regexEndOffset rest).map (· + 1)

/-- The offsets just after the bars that stand outside of all brackets, where
`depth` brackets are open at the start of the text and `offset` is the offset of
that start. -/
def barOffsets : Int → Nat → Text → List Nat
  | _, _, [] => []
  | _, _, ['\\'] => []
  | depth, offset, '\\' :: _ :: rest => barOffsets depth (offset + 2) rest
  | depth, offset, char :: rest =>
      if char = '(' || char = '[' then barOffsets (depth + 1) (offset + 1) rest
      else if char = ')' || char = ']' then barOffsets (depth - 1) (offset + 1) rest
      else if char = '|' && depth = 0 then
        (offset + 1) :: barOffsets depth (offset + 1) rest
      else barOffsets depth (offset + 1) rest

/-- The offsets at which the alternatives start that the text holds. -/
def alternativeStarts (inside : Text) : List Nat :=
  0 :: barOffsets 0 0 inside

/-- The pieces between the unescaped percent signs; never an empty list. -/
def percentPieces : Text → List Text
  | [] => [[]]
  | ['\\'] => [['\\']]
  | '\\' :: char :: rest =>
      match percentPieces rest with
      | [] => [['\\', char]]
      | piece :: pieces => ('\\' :: char :: piece) :: pieces
  | char :: rest =>
      if char = '%' then [] :: percentPieces rest
      else
        match percentPieces rest with
        | [] => [[char]]
        | piece :: pieces => (char :: piece) :: pieces

/-- Every second piece, as long as another one follows it. -/
def enclosedPieces : List Text → List Text
  | _ :: inside :: after :: rest => inside :: enclosedPieces (after :: rest)
  | _ => []

/-- The number of unescaped percent signs. -/
def percentCount : Text → Nat
  | [] => 0
  | ['\\'] => 0
  | '\\' :: _ :: rest => percentCount rest
  | char :: rest => (if char = '%' then 1 else 0) + percentCount rest

/-- The number of placeholders, two percent signs making one. -/
def placeholderCount (pattern : Text) : Nat :=
  percentCount pattern / 2

/-- The slot of a placeholder that starts after the given part of its pattern. -/
def slotAfter (before : Text) : Nat :=
  percentCount before / 2

/-- The texts between the percent signs of each placeholder, left to right. -/
def placeholders (pattern : Text) : List Text :=
  enclosedPieces (percentPieces pattern)

/-- Whether the text holds none but the given characters. -/
def hasOnly (allowed text : Text) : Bool :=
  text.all (allowed.contains ·)

end Phrasebook.Pattern
