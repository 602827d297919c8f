/-!
# Texts

Everything that is scanned, matched or printed is a `Text`, the list of its
code points.  Offsets, columns and lengths count code points, so they are
plain natural numbers into that list.
-/

namespace Phrasebook

/-- A text is the list of its code points. -/
abbrev Text := List Char

/-- String literals may stand wherever a text is wanted. -/
instance : Coe String Text := ⟨String.toList⟩

namespace Text

def ofNat (number : Nat) : Text :=
  Nat.toDigits 10 number

/-- The decimal form of an integer, with a minus sign when it is negative.  Numbers
of any length are written here and read by `readInteger?`: the limit of 4300 digits
at which both may be set to fail is left out. -/
def ofInt : Int → Text
  | .ofNat number => ofNat number
  | .negSucc number => '-' :: ofNat (number + 1)

/-- The texts in order, with the separator between neighbours. -/
def join (separator : Text) : List Text → Text
  | [] => []
  | [last] => last
  | part :: rest => part ++ separator ++ join separator rest

/-- The text before the first occurrence of the character and, if there is an
occurrence, the text after it. -/
def partition (separator : Char) : Text → Text × Option Text
  | [] => ([], none)
  | char :: rest =>
      if char = separator then ([], some rest)
      else
        let (before, after) := partition separator rest
        (char :: before, after)

/-- The pieces between the occurrences of the character; never an empty list. -/
def splitOnChar (separator : Char) : Text → List Text
  | [] => [[]]
  | char :: rest =>
      if char = separator then [] :: splitOnChar separator rest
      else
        match splitOnChar separator rest with
        | [] => [[char]]
        | piece :: pieces => (char :: piece) :: pieces

/-- The text, preceded by enough blanks to reach the width. -/
def padLeft (width : Nat) (text : Text) : Text :=
  List.replicate (width - text.length) ' ' ++ text

/-- Drops every trailing occurrence of the character. -/
def dropTrailing (target : Char) (text : Text) : Text :=
  (text.reverse.dropWhile (· == target)).reverse

/-- Whether the text is ordered before another by code points. -/
def lexBefore : Text → Text → Bool
  | [], [] => false
  | [], _ :: _ => true
  | _ :: _, [] => false
  | left :: lefts, right :: rights =>
      if left = right then lexBefore lefts rights else left < right

end Text

end Phrasebook
