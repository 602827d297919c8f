import Phrasebook.Text

/-!
# Escaped texts

In a listing of attributes a text stands between single quotes, or between
double quotes when it holds a single quote and no double one.
-/

namespace Phrasebook.Text

/-- The hexadecimal form of a code point in at least the given number of digits. -/
def hexOf (width code : Nat) : Text :=
  let digits := Nat.toDigits 16 code
  List.replicate (width - digits.length) '0' ++ digits

/-- The code points, from first to last, that leave no mark of their own when
they are printed: controls, format characters, separators and private
characters. -/
def unprintableRanges : List (Nat × Nat) :=
  [(0x00, 0x1F), (0x7F, 0xA0), (0xAD, 0xAD), (0x600, 0x605), (0x61C, 0x61C),
   (0x6DD, 0x6DD), (0x70F, 0x70F), (0x890, 0x891), (0x8E2, 0x8E2),
   (0x1680, 0x1680), (0x180E, 0x180E), (0x2000, 0x200F), (0x2028, 0x202F),
   (0x205F, 0x2064), (0x2066, 0x206F), (0x3000, 0x3000), (0xE000, 0xF8FF),
   (0xFEFF, 0xFEFF), (0xFFF9, 0xFFFB), (0x110BD, 0x110BD), (0x110CD, 0x110CD),
   (0x13430, 0x1343F), (0x1BCA0, 0x1BCA3), (0x1D173, 0x1D17A),
   (0xE0001, 0xE0001), (0xE0020, 0xE007F), (0xF0000, 0x10FFFF)]

/-- Whether the character leaves a mark when it is printed. -/
def isPrintable (char : Char) : Bool :=
  !unprintableRanges.any fun (first, last) => first ≤ char.toNat &&
    char.toNat ≤ last

/-- One character inside of quotes. -/
def escapeChar (quote char : Char) : Text :=
  if char = quote || char = '\\' then ['\\', char]
  else if char = '\n' then "\\n"
  else if char = '\r' then "\\r"
  else if char = '\t' then "\\t"
  else if isPrintable char then [char]
  else
    let code := char.toNat
    if code < 0x100 then "\\x" ++ hexOf 2 code
    else if code < 0x10000 then "\\u" ++ hexOf 4 code
    else "\\U" ++ hexOf 8 code

/-- The text between quotes, with escapes for what would be misread. -/
def escaped (text : Text) : Text :=
  let quote := if text.contains '\'' && !text.contains '"' then '"' else '\''
  quote :: (text.flatMap (escapeChar quote) ++ [quote])

end Phrasebook.Text
