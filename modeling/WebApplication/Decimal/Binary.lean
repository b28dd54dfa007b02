/-!
# Binary floating point numbers

A finite number of a binary format is a signed mantissa times a power of two.
This module takes such numbers apart and builds the one nearest to a decimal.
-/

set_option autoImplicit false

namespace WebApplication.Decimal

def twoTo (n : Nat) : Nat := Nat.pow 2 n

def tenTo (n : Nat) : Nat := Nat.pow 10 n

/-- A format keeps `precision` bits; its numbers are multiples of `2 ^ minExponent`,
and their exponents stay below `2 ^ (width - 1)`. -/
structure Format where
  precision : Nat
  width : Nat
  minExponent : Int

def double : Format := ⟨53, 11, -1074⟩

def single : Format := ⟨24, 8, -149⟩

/-- `tight` marks a power of two, whose lower neighbour is half as far as its upper one. -/
inductive Parts where
  | nan
  | infinite (negative : Bool)
  | finite (negative : Bool) (mantissa : Nat) (exponent : Int) (tight : Bool)

namespace Format

def fractionBits (f : Format) : Nat := f.precision-1

def parts (f : Format) (bits : Nat) : Parts :=
  let fraction := bits % twoTo f.fractionBits
  let exponent := bits / twoTo f.fractionBits % twoTo f.width
  let negative := bits / twoTo (f.fractionBits+f.width) % 2 == 1
  if exponent == twoTo f.width-1 then
    if fraction == 0 then .infinite negative else .nan
  else if exponent == 0 then .finite negative fraction f.minExponent false
  else .finite negative (twoTo f.fractionBits+fraction) (f.minExponent+(exponent-1 : Nat))
    (fraction == 0 && 1 < exponent)

def signBit (f : Format) (negative : Bool) : Nat :=
  if negative then twoTo (f.fractionBits+f.width) else 0

def infinity (f : Format) (negative : Bool) : Nat :=
  f.signBit negative+(twoTo f.width-1)*twoTo f.fractionBits

def quietNan (f : Format) : Nat := f.infinity false+twoTo (f.fractionBits-1)

/-- Rounds to the nearest integer, a half to the even one. -/
def roundDiv (num den : Nat) : Nat :=
  let q := num / den
  let twice := 2*(num % den)
  if twice < den || (twice == den && q % 2 == 0) then q else q+1

def nearestRatio (f : Format) (negative : Bool) (num den : Nat) : Nat :=
  if num == 0 then f.signBit negative
  else
    let guess : Int := (num.log2 : Int)-den.log2-f.precision
    let exponent := max guess f.minExponent
    let scaled (e : Int) : Nat := roundDiv (num*twoTo (-e).toNat) (den*twoTo e.toNat)
    let exponent := if twoTo f.precision ≤ num*twoTo (-exponent).toNat / (den*twoTo exponent.toNat)
      then exponent+1 else exponent
    let mantissa := scaled exponent
    let (mantissa, exponent) :=
      if mantissa == twoTo f.precision then (mantissa/2, exponent+1) else (mantissa, exponent)
    let biased := (exponent-f.minExponent).toNat+1
    if mantissa < twoTo f.fractionBits then f.signBit negative+mantissa
    else if twoTo f.width-1 ≤ biased then f.infinity negative
    else f.signBit negative+biased*twoTo f.fractionBits+(mantissa-twoTo f.fractionBits)

/-- The number nearest to `digits * 10 ^ exponent`. Powers far outside the range are
not computed: the answer is infinity or zero there. -/
def nearest (f : Format) (negative : Bool) (digits : Nat) (exponent : Int) : Nat :=
  let size : Int := exponent+(digits.log2 : Int)*30103/100000
  if digits == 0 then f.signBit negative
  else if 400 < size then f.infinity negative
  else if size < -400 then f.signBit negative
  else f.nearestRatio negative (digits*tenTo exponent.toNat) (tenTo (-exponent).toNat)

end Format

end WebApplication.Decimal
