/-!
Blank characters: the characters with the Unicode property White_Space, and the cutting of them
from both ends of a text.
-/
namespace LinkLocal.Text

/-- Whether a character has the Unicode property White_Space. -/
def isBlank (c : Char) : Bool :=
  let n := c.toNat
  (9 ≤ n && n ≤ 13) || n == 0x20 || n == 0x85 || n == 0xA0 || n == 0x1680 ||
    (0x2000 ≤ n && n ≤ 0x200A) || n == 0x2028 || n == 0x2029 || n == 0x202F || n == 0x205F ||
    n == 0x3000

def trimBlanks (cs : List Char) : List Char :=
  ((cs.dropWhile isBlank).reverse.dropWhile isBlank).reverse

/-- A text in small letters, where only the letters of ASCII have a small form. -/
def lowercase (s : String) : String := s.map Char.toLower

end LinkLocal.Text
