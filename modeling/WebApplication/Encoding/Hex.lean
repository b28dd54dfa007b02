/-!
# Hexadecimal digits

Bytes are written with two lower case digits each. Both cases of a digit are read.
-/

set_option autoImplicit false

namespace WebApplication.Encoding

def hexDigit (n : Nat) : Char := if n < 10 then Char.ofNat (48+n) else Char.ofNat (87+n)

def hexValue? (c : Char) : Option Nat :=
  if c.isDigit then some (c.toNat-48)
  else if 'a' ≤ c && c ≤ 'f' then some (c.toNat-87)
  else if 'A' ≤ c && c ≤ 'F' then some (c.toNat-55)
  else none

/-- The number that digits spell; none of them spell zero. -/
def hexNumber? (cs : List Char) : Option Nat :=
  cs.foldlM (fun n c => (hexValue? c).map (n*16+·)) 0

def hexLower (bytes : List UInt8) : String :=
  String.ofList (bytes.flatMap fun b => [hexDigit (b.toNat/16), hexDigit (b.toNat % 16)])

end WebApplication.Encoding
