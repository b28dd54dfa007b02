/-!
# Base64

Three bytes are four characters; fewer bytes at the end are padded with `=`. The
unused bits of a padded block must be zero. A padded block may stand anywhere.
-/

set_option autoImplicit false

namespace WebApplication.Encoding.Base64

def digit (n : Nat) : Char :=
  if n < 26 then Char.ofNat (65+n)
  else if n < 52 then Char.ofNat (71+n)
  else if n < 62 then Char.ofNat (n-4)
  else if n = 62 then '+'
  else '/'

def value? (c : Char) : Option Nat :=
  let n := c.toNat
  if 65 ≤ n && n ≤ 90 then some (n-65)
  else if 97 ≤ n && n ≤ 122 then some (n-71)
  else if 48 ≤ n && n ≤ 57 then some (n+4)
  else if c = '+' then some 62
  else if c = '/' then some 63
  else none

def encode : List UInt8 → List Char
  | [] => []
  | [a] => [digit (a.toNat/4), digit (a.toNat % 4*16), '=', '=']
  | [a, b] =>
    [digit (a.toNat/4), digit (a.toNat % 4*16+b.toNat/16), digit (b.toNat % 16*4), '=']
  | a::b::c::rest =>
    digit (a.toNat/4)::digit (a.toNat % 4*16+b.toNat/16)::
      digit (b.toNat % 16*4+c.toNat/64)::digit (c.toNat % 64)::encode rest

def block? (a b c d : Char) : Option (List UInt8) := do
  let x ← value? a
  let y ← value? b
  let first := (x*4+y/16).toUInt8
  if c = '=' && d = '=' then
    if y % 16 = 0 then some [first] else none
  else
    let z ← value? c
    let second := (y % 16*16+z/4).toUInt8
    if d = '=' then
      if z % 4 = 0 then some [first, second] else none
    else
      let w ← value? d
      some [first, second, (z % 4*64+w).toUInt8]

def decode? : List Char → Option (List UInt8)
  | [] => some []
  | a::b::c::d::rest => do some ((← block? a b c d)++(← decode? rest))
  | _ => none

end WebApplication.Encoding.Base64
