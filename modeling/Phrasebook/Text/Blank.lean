import Phrasebook.Text

/-!
# Blanks

The blank characters are the Unicode white space together with the four
information separators.  Stripping a text removes them from its ends.
-/

namespace Phrasebook.Text

/-- White space and the information separators U+001C to U+001F.  The zero-width
space and the byte order mark are not blank. -/
def isBlank (char : Char) : Bool :=
  let code := char.toNat
  (0x09 ≤ code && code ≤ 0x0D) || (0x1C ≤ code && code ≤ 0x20) ||
    code == 0x85 || code == 0xA0 || code == 0x1680 ||
    (0x2000 ≤ code && code ≤ 0x200A) || code == 0x2028 || code == 0x2029 ||
    code == 0x202F || code == 0x205F || code == 0x3000

def stripStart (text : Text) : Text :=
  text.dropWhile isBlank

def stripEnd (text : Text) : Text :=
  (text.reverse.dropWhile isBlank).reverse

def strip (text : Text) : Text :=
  stripEnd (stripStart text)

end Phrasebook.Text
