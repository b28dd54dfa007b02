/-!
# Blank characters

The characters with the Unicode property `White_Space`, and the removal of them
from the ends of a text.
-/

set_option autoImplicit false

namespace WebApplication.Text

/-- The `White_Space` property of Unicode. -/
def isBlank (c : Char) : Bool :=
  let n := c.toNat
  (9 ≤ n && n ≤ 13) || n == 0x20 || n == 0x85 || n == 0xA0 || n == 0x1680 ||
    (0x2000 ≤ n && n ≤ 0x200A) || n == 0x2028 || n == 0x2029 || n == 0x202F ||
    n == 0x205F || n == 0x3000

def trimStartChars (cs : List Char) : List Char := cs.dropWhile isBlank

def trimEndChars (cs : List Char) : List Char := (cs.reverse.dropWhile isBlank).reverse

def trimChars (cs : List Char) : List Char := trimEndChars (trimStartChars cs)

def trim (text : String) : String := String.ofList (trimChars text.toList)

def dropEnd (c : Char) (text : String) : String :=
  String.ofList (text.toList.reverse.dropWhile (· == c)).reverse

def lowerAscii (text : String) : String := String.ofList (text.toList.map Char.toLower)

end WebApplication.Text
