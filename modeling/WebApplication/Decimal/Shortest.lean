import WebApplication.Decimal.Binary

/-!
# Shortest decimal text of a binary number

A number is written with the fewest digits that read back as it, the nearest
such decimal if there are several. The search goes from coarse decimal grids to
fine ones and stops at the first grid with a point that reads back. Between two
points at the same distance a family of numbers has a rule of its own.
-/

set_option autoImplicit false

namespace WebApplication.Decimal

structure Numeral where
  digits : Nat
  exponent : Int
  deriving DecidableEq, Repr

/-- Decimals strictly between `low` and `high`, both ends included if `closed`,
read back as `value`; the three are in quarters of `2 ^ exponent`. -/
structure Interval where
  low : Nat
  value : Nat
  high : Nat
  exponent : Int
  closed : Bool

inductive Tie where
  | away
  | even
  deriving DecidableEq, Repr

def Tie.takesLower (tie : Tie) (below rest step : Nat) : Bool :=
  2*rest < step || (2*rest == step && tie == .even && below % 2 == 0)

def Interval.ofParts (mantissa : Nat) (exponent : Int) (tight : Bool) : Interval :=
  ⟨4*mantissa-(if tight then 1 else 2), 4*mantissa, 4*mantissa+2, exponent-2, mantissa % 2 == 0⟩

namespace Interval

def binaryScale (i : Interval) (k : Int) : Nat := twoTo i.exponent.toNat*tenTo (-k).toNat

def decimalScale (i : Interval) (k : Int) : Nat := tenTo k.toNat*twoTo (-i.exponent).toNat

def holds (i : Interval) (d : Nat) (k : Int) : Bool :=
  let x := d*i.decimalScale k
  let a := i.binaryScale k
  if i.closed then i.low*a ≤ x && x ≤ i.high*a else i.low*a < x && x < i.high*a

def point? (tie : Tie) (i : Interval) (k : Int) : Option Nat :=
  let a := i.binaryScale k
  let b := i.decimalScale k
  let below := i.value*a / b
  match i.holds below k, i.holds (below+1) k with
  | true, true => some (if tie.takesLower below (i.value*a % b) b then below else below+1)
  | true, false => some below
  | false, true => some (below+1)
  | false, false => none

def search (tie : Tie) (i : Interval) : Nat → Int → Numeral
  | 0, k => ⟨i.value*i.binaryScale k / i.decimalScale k, k⟩
  | steps+1, k =>
    match i.point? tie k with
    | some d => ⟨d, k⟩
    | none => search tie i steps (k-1)

end Interval

def Numeral.strip : Nat → Numeral → Numeral
  | 0, d => d
  | steps+1, d =>
    if d.digits % 10 == 0 && d.digits != 0 then strip steps ⟨d.digits/10, d.exponent+1⟩ else d

/-- The grid two above the number's own size is too coarse to hold a point. -/
def shortest (tie : Tie) (mantissa : Nat) (exponent : Int) (tight : Bool) : Numeral :=
  let size : Int := (exponent+(mantissa.log2 : Int)+1)*30103/100000
  ((Interval.ofParts mantissa exponent tight).search tie 24 (size+2)).strip 24

def digitChars (n : Nat) : List Char := Nat.toDigits 10 n

def zeros (n : Nat) : List Char := List.replicate n '0'

def Numeral.positional (d : Numeral) : List Char :=
  let ds := digitChars d.digits
  let point : Int := (ds.length : Int)+d.exponent
  if 0 ≤ d.exponent then ds++zeros d.exponent.toNat
  else if 0 < point then ds.take point.toNat ++ '.' :: ds.drop point.toNat
  else '0' :: '.' :: zeros (-point).toNat++ds

def Numeral.scientific (d : Numeral) : List Char :=
  let ds := digitChars d.digits
  let exponent : Int := (ds.length : Int)+d.exponent-1
  let fraction := ds.drop 1
  ds.take 1++(if fraction.isEmpty then [] else '.' :: fraction) ++ 'e' ::
    (if exponent < 0 then '-' else '+')::digitChars exponent.natAbs

/-- How a family of numbers is written: positionally while the point stands from
`positionalFrom` to `positionalTo` places behind the start of the digits, with an exponent
otherwise. -/
structure Layout where
  tie : Tie
  positionalFrom : Option Int
  positionalTo : Option Int
  wholeSuffix : List Char
  nan : String
  infinity : String

/-- The text of properties: always positional; a tie goes away from zero. -/
def Layout.plain : Layout := ⟨.away, none, none, [], "NaN", "inf"⟩

/-- The text of JSON numbers: a whole number keeps `.0`, an exponent is written below
`1e-5` and from `1e16` on, and a tie goes to the even digit. -/
def Layout.json : Layout := ⟨.even, some (-4), some 16, ['.', '0'], "null", "null"⟩

def Layout.digits (layout : Layout) (d : Numeral) : List Char :=
  let point : Int := ((digitChars d.digits).length : Int)+d.exponent
  if layout.positionalFrom.all (· ≤ point) && layout.positionalTo.all (point ≤ ·) then
    d.positional++(if 0 ≤ d.exponent then layout.wholeSuffix else [])
  else d.scientific

def Layout.write (layout : Layout) (format : Format) (bits : Nat) : String :=
  let signed (negative : Bool) (cs : List Char) : String :=
    String.ofList (if negative then '-'::cs else cs)
  match format.parts bits with
  | .nan => layout.nan
  | .infinite negative => signed negative layout.infinity.toList
  | .finite negative 0 _ _ => signed negative ('0'::layout.wholeSuffix)
  | .finite negative m e tight =>
    signed negative (layout.digits (shortest layout.tie m e tight))

end WebApplication.Decimal
