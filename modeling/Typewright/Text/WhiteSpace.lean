import Typewright.Text.CharClass

/-!
# White space

The characters of the Unicode property White_Space.
-/

namespace Typewright.Text

def whiteSpaceBounds : Boundaries :=
  [0x85, 0x86, 0xa0, 0xa1, 0x1680, 0x1681, 0x2000, 0x200b, 0x2028, 0x202a, 0x202f, 0x2030, 0x205f, 0x2060, 0x3000,
   0x3001]

def isWhiteSpace (c : Char) : Bool :=
  if isAscii c then c == ' ' || ('\t' ≤ c && c ≤ '\r') else whiteSpaceBounds.contains c.toNat

end Typewright.Text
