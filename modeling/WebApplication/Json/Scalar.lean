import WebApplication.Decimal.Binary
import WebApplication.Encoding.Hex
import WebApplication.Json.Cursor
import WebApplication.Json.Value

/-!
# Reading JSON words, numbers and strings

A number without a fraction or an exponent is an integer while it fits 64 bits.
Any other number is its leading 64 bits of digits scaled by a power of ten in
binary64 arithmetic; one beyond the range of binary64 is refused.
-/

set_option autoImplicit false

namespace WebApplication.Json

open Cursor (faultNext)

def readWord : List Char → Cursor → Except Fault Cursor
  | [], c => .ok c
  | letter::letters, c =>
    match c.peek with
    | none => .error (c.fault "EOF while parsing a value")
    | some byte =>
      if byte = byteOf letter then readWord letters c.skip
      else .error (c.skip.fault "expected ident")

/-! ## Numbers -/

def maxSignificand : Nat := 0xFFFFFFFFFFFFFFFF

def digitOf (byte : UInt8) : Nat := byte.toNat-48

/-- Takes digits into the significand while it fits 64 bits; the others are left. -/
def fill : Nat → List UInt8 → Nat × List UInt8
  | significand, [] => (significand, [])
  | significand, byte::rest =>
    let next := significand*10+digitOf byte
    if maxSignificand < next then (significand, byte::rest) else fill next rest

def tenTo (n : Nat) : Float := Float.ofBits (Decimal.double.nearest false 1 n).toUInt64

/-- Divides by `10 ^ n` in steps of `10 ^ 308`; three steps take any significand to zero. -/
def divideByTens : Nat → Float → Nat → Float
  | 0, _, _ => 0
  | steps+1, x, n => if n ≤ 308 then x / tenTo n else divideByTens steps (x / tenTo 308) (n-308)

def scale (significand : Nat) (exponent : Int) : Option Float :=
  let x := significand.toUInt64.toFloat
  if exponent < 0 then some (divideByTens 4 x exponent.natAbs)
  else if exponent ≤ 308 then
    let y := x*tenTo exponent.toNat
    if y.isInf then none else some y
  else if significand = 0 then some x
  else none

def takeDigits (c : Cursor) : List UInt8 × Cursor := (c.rest.takeWhile isDigit, c.skipWhile isDigit)

def scaled (positive : Bool) (significand : Nat) (exponent : Int) : Reader Number := fun c =>
  match scale significand exponent with
  | none => .error (c.fault "number out of range")
  | some x => .ok (.binary (if positive then x else -x), c)

def maxExponent : Nat := 0x7FFFFFFF

/-- Reads exponent digits while they fit 31 bits; `none` marks a greater exponent,
with the cursor after the first digit too many. -/
def exponentDigits : Nat → Bytes → Position → Option Nat × Cursor
  | n, [], p => (some n, ⟨[], p⟩)
  | n, byte::rest, p =>
    if isDigit byte then
      let next := n*10+digitOf byte
      if maxExponent < next then (none, ⟨rest, p.after byte⟩)
      else exponentDigits next rest (p.after byte)
    else (some n, ⟨byte::rest, p⟩)

def readExponent (positive : Bool) (significand : Nat) (start : Int) : Reader Number := fun c =>
  let c := c.skip
  let (up, c) := match c.peek with
    | some 43 => (true, c.skip)
    | some 45 => (false, c.skip)
    | _ => (true, c)
  match c.peek with
  | none => .error (c.fault "EOF while parsing a value")
  | some byte =>
    if !isDigit byte then .error (c.skip.fault "invalid number")
    else match exponentDigits 0 c.rest c.position with
      | (some n, c) =>
        scaled positive significand (if up then start+(n : Int) else start-(n : Int)) c
      | (none, c) =>
        if significand ≠ 0 && up then .error (c.fault "number out of range")
        else .ok (.binary (if positive then 0.0 else -0.0), c.skipWhile isDigit)

def isExponentLetter (byte : Option UInt8) : Bool := byte == some 101 || byte == some 69

/-- Reads from the point on; `dropped` integer digits did not fit the significand. -/
def readFraction (positive : Bool) (significand dropped : Nat) : Reader Number := fun c =>
  let c := c.skip
  let (digits, after) := takeDigits c
  if digits.isEmpty then
    match c.peek with
    | none => .error (c.fault "EOF while parsing a value")
    | some _ => .error (c.faultNext "invalid number")
  else
    let (significand, left) := fill significand digits
    let exponent : Int := (dropped : Int)-((digits.length-left.length : Nat) : Int)
    if isExponentLetter after.peek then readExponent positive significand exponent after
    else scaled positive significand exponent after

def readUnsigned (positive : Bool) : Reader Number := fun c =>
  match c.peek with
  | none => .error (c.fault "EOF while parsing a value")
  | some byte =>
    if !isDigit byte then .error (c.skip.fault "invalid number")
    else
      let (digits, after) := if byte = 48 then ([byte], c.skip) else takeDigits c
      if byte = 48 && after.peek.any isDigit then .error (after.faultNext "invalid number")
      else
        let (significand, left) := fill 0 digits
        if after.peek == some 46 then readFraction positive significand left.length after
        else if isExponentLetter after.peek then
          readExponent positive significand left.length after
        else if !left.isEmpty then scaled positive significand left.length after
        else if positive then .ok (.integer significand, after)
        else if significand = 0 || 0x8000000000000000 < significand then
          .ok (.binary (-significand.toUInt64.toFloat), after)
        else .ok (.integer (-significand), after)

def readNumber : Reader Number := fun c =>
  if c.peek == some 45 then readUnsigned false c.skip else readUnsigned true c

/-! ## Strings -/

/-- Where a string reader stands: among plain characters, after a backslash, among
hexadecimal digits (after a leading surrogate, perhaps), or between the two halves
of a surrogate pair. -/
inductive StringState where
  | plain
  | escape
  | hex (seen : List UInt8) (leading : Option Nat)
  | pairBackslash (leading : Nat)
  | pairLetter (leading : Nat)

def charOf (byte : UInt8) : Char := Char.ofNat byte.toNat

def utf8 (code : Nat) : List UInt8 := (String.singleton (Char.ofNat code)).toUTF8.toList

def simpleEscape (byte : UInt8) : Option UInt8 :=
  if byte = 34 || byte = 92 || byte = 47 then some byte
  else if byte = 98 then some 8
  else if byte = 102 then some 12
  else if byte = 110 then some 10
  else if byte = 114 then some 13
  else if byte = 116 then some 9
  else none

inductive HexMeaning where
  | text (code : Nat)
  | leading (code : Nat)
  | lone

def HexMeaning.ofCode (code : Nat) (leading : Option Nat) : HexMeaning :=
  match leading with
  | none =>
    if 0xDC00 ≤ code && code ≤ 0xDFFF then .lone
    else if 0xD800 ≤ code && code ≤ 0xDBFF then .leading code
    else .text code
  | some high =>
    if 0xDC00 ≤ code && code ≤ 0xDFFF then
      .text ((high-0xD800)*0x400+(code-0xDC00)+0x10000)
    else .lone

/-- Reads the rest of a string after its opening quote; `acc` holds its bytes backwards.
A lenient reader, which skips a member nobody asked for, lets any surrogate pass. -/
def stringBytes (lenient : Bool) : StringState → List UInt8 → Bytes → Position →
    Except Fault (List UInt8 × Cursor)
  | _, _, [], p => .error ⟨"EOF while parsing a string", some p⟩
  | .plain, acc, byte::rest, p =>
    let after := p.after byte
    if byte = 34 then .ok (acc, ⟨rest, after⟩)
    else if byte = 92 then stringBytes lenient .escape acc rest after
    else if byte < 32 then
      .error ⟨"control character (\\u0000-\\u001F) found while parsing a string",
        some (if lenient then p else after)⟩
    else stringBytes lenient .plain (byte::acc) rest after
  | .escape, acc, byte::rest, p =>
    let after := p.after byte
    if byte = 117 then stringBytes lenient (.hex [] none) acc rest after
    else match simpleEscape byte with
      | some plain => stringBytes lenient .plain (plain::acc) rest after
      | none => .error ⟨"invalid escape", some after⟩
  | .hex seen leading, acc, byte::rest, p =>
    let after := p.after byte
    let seen := seen++[byte]
    if seen.length < 4 then stringBytes lenient (.hex seen leading) acc rest after
    else match Encoding.hexNumber? (seen.map charOf) with
      | none => .error ⟨"invalid escape", some after⟩
      | some code =>
        if lenient then stringBytes lenient .plain acc rest after
        else match HexMeaning.ofCode code leading with
          | .text code => stringBytes lenient .plain ((utf8 code).reverse++acc) rest after
          | .leading code => stringBytes lenient (.pairBackslash code) acc rest after
          | .lone => .error ⟨"lone leading surrogate in hex escape", some after⟩
  | .pairBackslash high, acc, byte::rest, p =>
    let after := p.after byte
    if byte = 92 then stringBytes lenient (.pairLetter high) acc rest after
    else .error ⟨"unexpected end of hex escape", some after⟩
  | .pairLetter high, acc, byte::rest, p =>
    let after := p.after byte
    if byte = 117 then stringBytes lenient (.hex [] (some high)) acc rest after
    else .error ⟨"unexpected end of hex escape", some after⟩

def textOfBytes (bytes : List UInt8) : Option String := String.fromUTF8? ⟨bytes.toArray⟩

/-- How many bytes from the start are text, whole characters only. The steps are bounded
by the length. -/
def textLength : Nat → List UInt8 → Nat
  | 0, _ => 0
  | _+1, [] => 0
  | steps+1, bytes =>
    match [1, 2, 3, 4].find? fun n => (textOfBytes (bytes.take n)).isSome with
    | some n => n+textLength steps (bytes.drop n)
    | none => 0

def Cursor.before (c : Cursor) (count : Nat) : Position :=
  { c.position with column := c.position.column-count }

/-- Reads a string after its opening quote. Bytes that are no text are a fault, placed as
far before the end of the string as bytes are left from the first such one. -/
def readStringRest : Reader String := fun c => do
  let (acc, after) ← stringBytes false .plain [] c.rest c.position
  match textOfBytes acc.reverse with
  | some text => .ok (text, after)
  | none =>
    let count := acc.length-textLength acc.length acc.reverse
    .error ⟨"invalid unicode code point", some (after.before count)⟩

def skipStringRest (c : Cursor) : Except Fault Cursor := do
  let (_, after) ← stringBytes true .plain [] c.rest c.position
  .ok after

end WebApplication.Json
