import Phrasebook.Text

/-!
# Lines

Two notions of line meet in this library.  A script is cut at every line
boundary that Unicode knows (`lines`).  A file is read with its line ends
brought to the newline (`normalizeLineEnds`).
-/

namespace Phrasebook.Text

/-- The characters that end a line: newline, carriage return, the two vertical
moves, three of the information separators, next line, and the line and
paragraph separators. -/
def endsLine (char : Char) : Bool :=
  let code := char.toNat
  (0x0A ≤ code && code ≤ 0x0D) || (0x1C ≤ code && code ≤ 0x1E) ||
    code == 0x85 || code == 0x2028 || code == 0x2029

/-- The character, put in front of the first line. -/
def consLine (char : Char) : List Text → List Text
  | [] => [[char]]
  | line :: rest => (char :: line) :: rest

/-- The lines of a text, without their ends.  A carriage return and the newline
after it end one line together, and a final line end opens no further line. -/
def lines : Text → List Text
  | [] => []
  | '\r' :: '\n' :: rest => [] :: lines rest
  | char :: rest =>
      if endsLine char then [] :: lines rest else consLine char (lines rest)

/-- The text with every carriage return, alone or before a newline, turned into
a newline. -/
def normalizeLineEnds : Text → Text
  | [] => []
  | '\r' :: '\n' :: rest => '\n' :: normalizeLineEnds rest
  | '\r' :: rest => '\n' :: normalizeLineEnds rest
  | char :: rest => char :: normalizeLineEnds rest

end Phrasebook.Text
