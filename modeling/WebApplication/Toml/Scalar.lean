import WebApplication.Decimal.Binary
import WebApplication.Toml.Moment
import WebApplication.Toml.Text

/-!
# TOML numbers and truth values

Digits may be grouped with single underscores. Integers have 64 bits.
-/

set_option autoImplicit false

namespace WebApplication.Toml

def grouped (isDigit : Char → Bool) : Nat → Reader (List Char)
  | 0, _ => none
  | _+1, [] => none
  | steps+1, c::cs =>
    if !isDigit c then none
    else
      let next := match cs with
        | '_'::more => grouped isDigit steps more
        | d::_ => if isDigit d then grouped isDigit steps cs else some ([], cs)
        | [] => some ([], cs)
      next.map fun (ds, rest) => (c::ds, rest)

def digits (isDigit : Char → Bool) (cs : List Char) : Option (List Char × List Char) :=
  grouped isDigit (cs.length+1) cs

def isHex (c : Char) : Bool := (Encoding.hexValue? c).isSome

def isOctal (c : Char) : Bool := '0' ≤ c && c ≤ '7'

def isBinary (c : Char) : Bool := c = '0' || c = '1'

def signed : List Char → Bool × List Char
  | '-'::cs => (true, cs)
  | '+'::cs => (false, cs)
  | cs => (false, cs)

def wholeDigits (cs : List Char) : Option (List Char × List Char) := do
  let (ds, rest) ← digits Char.isDigit cs
  if ds.length > 1 && ds.head? = some '0' then none else some (ds, rest)

def isWide (n : Int) : Bool := n < -0x8000000000000000 || 0x7FFFFFFFFFFFFFFF < n

def based (base : Nat) (isDigit : Char → Bool) (cs : List Char) : Option (Value × List Char) := do
  let (ds, rest) ← digits isDigit cs
  let n := valueIn base ds
  if isWide n then none else some (.integer n, rest)

def integer : Reader Value
  | '0' :: 'x' :: cs => based 16 isHex cs
  | '0' :: 'o' :: cs => based 8 isOctal cs
  | '0' :: 'b' :: cs => based 2 isBinary cs
  | cs => do
    let (negative, cs) := signed cs
    let (ds, rest) ← wholeDigits cs
    let n : Int := if negative then -(valueIn 10 ds : Int) else valueIn 10 ds
    if isWide n then none else some (.integer n, rest)

def fraction : List Char → Option (List Char × List Char)
  | '.'::cs => digits Char.isDigit cs
  | _ => none

def exponent : List Char → Option (Int × List Char)
  | c::cs =>
    if c = 'e' || c = 'E' then do
      let (negative, cs) := signed cs
      let (ds, rest) ← digits Char.isDigit cs
      some (if negative then -(valueIn 10 ds : Int) else valueIn 10 ds, rest)
    else none
  | [] => none

def specialFloat (negative : Bool) : Reader Value
  | 'i' :: 'n' :: 'f' :: cs => some (.float (Decimal.double.infinity negative), cs)
  | 'n' :: 'a' :: 'n' :: cs =>
    some (.float (Decimal.double.signBit negative+Decimal.double.quietNan), cs)
  | _ => none

/-- A number with a fraction or an exponent. One too large for the format is refused. -/
def float (cs : List Char) : Option (Value × List Char) :=
  let (negative, cs) := signed cs
  (specialFloat negative cs).or do
    let (whole, rest) ← wholeDigits cs
    let (ds, power, rest) ← match fraction rest with
      | some (ds, rest) =>
        match exponent rest with
        | some (e, rest) => some (ds, e, rest)
        | none => some (ds, 0, rest)
      | none => (exponent rest).map fun (e, rest) => ([], e, rest)
    let bits := Decimal.double.nearest negative (valueIn 10 (whole++ds)) (power-(ds.length : Int))
    if bits = Decimal.double.infinity false then none else some (.float bits, rest)

def word (letters : String) (value : Value) (cs : List Char) : Option (Value × List Char) :=
  if letters.toList.isPrefixOf cs then some (value, cs.drop letters.length) else none

def scalar (cs : List Char) : Option (Value × List Char) :=
  (word "true" (.bool true) cs).or <| (word "false" (.bool false) cs).or <|
    (moment cs).or <| (float cs).or (integer cs)

end WebApplication.Toml
