import WebApplication.Decimal.Binary

/-!
# Scalars written as text

Integers are decimal digits after an optional sign, without blanks. Floating point
numbers also take a fraction, an exponent, and the words for infinity and not-a-number.
-/

set_option autoImplicit false

namespace WebApplication.Property

def digitValue (c : Char) : Option Nat := if c.isDigit then some (c.toNat-48) else none

def digitsFrom (n : Nat) (cs : List Char) : Option Nat :=
  cs.foldlM (fun n c => (digitValue c).map (n*10+·)) n

def digits? (cs : List Char) : Option Nat := if cs.isEmpty then none else digitsFrom 0 cs

/-- Only signed integers may have a minus sign. -/
def integer? (signed : Bool) : List Char → Option Int
  | '+'::cs => (digits? cs).map Int.ofNat
  | '-'::cs => if signed then (digits? cs).map fun n => -(n : Int) else none
  | cs => (digits? cs).map Int.ofNat

def word? (text : String) : Option Nat :=
  match integer? false text.toList with
  | some n => if n < 0x10000000000000000 then some n.toNat else none
  | none => none

def signOf : List Char → Bool × List Char
  | '-'::cs => (true, cs)
  | '+'::cs => (false, cs)
  | cs => (false, cs)

def exponent? (cs : List Char) : Option Int :=
  let (negative, cs) := signOf cs
  (digits? cs).map fun n => if negative then -(n : Int) else n

/-- The digits of a decimal without its point, and the power of ten they are to be
multiplied with. -/
def decimal? (cs : List Char) : Option (Nat × Int) := do
  let whole := cs.takeWhile Char.isDigit
  let rest := cs.dropWhile Char.isDigit
  let (fraction, rest) := match rest with
    | '.'::after => (after.takeWhile Char.isDigit, after.dropWhile Char.isDigit)
    | other => ([], other)
  let n ← digits? (whole++fraction)
  match rest with
  | [] => some (n, -(fraction.length : Int))
  | c::after =>
    if c.toLower = 'e' then
      let e ← exponent? after
      some (n, e-(fraction.length : Int))
    else none

def binary? (format : Decimal.Format) (cs : List Char) : Option Nat :=
  let (negative, cs) := signOf cs
  let word := cs.map Char.toLower
  if word = "inf".toList || word = "infinity".toList then some (format.infinity negative)
  else if word = "nan".toList then some (format.signBit negative+format.quietNan)
  else (decimal? cs).map fun (n, e) => format.nearest negative n e

end WebApplication.Property
