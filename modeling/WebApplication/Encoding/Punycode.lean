/-!
# Code points as ASCII letters and digits

A text is its ASCII characters, a hyphen if there are any, and then the others in the
order of their code points. For each of them a number says how far it is from the one
before, counted in steps of code point and place. The digits of a number, the lowest
first, have thresholds that follow the sizes of the numbers so far.
-/

set_option autoImplicit false

namespace WebApplication.Encoding.Punycode

def digit (n : Nat) : Char := if n < 26 then Char.ofNat (97+n) else Char.ofNat (22+n)

def value? (c : Char) : Option Nat :=
  if 'a' ≤ c && c ≤ 'z' then some (c.toNat-97)
  else if 'A' ≤ c && c ≤ 'Z' then some (c.toNat-65)
  else if c.isDigit then some (c.toNat-22)
  else none

def isAscii (c : Char) : Bool := c.toNat < 128

/-- A digit below the threshold of its place ends a number. -/
def threshold (place bias : Nat) : Nat :=
  if place ≤ bias then 1 else if bias+26 ≤ place then 26 else place-bias

theorem threshold_pos (place bias : Nat) : 1 ≤ threshold place bias := by
  unfold threshold
  split
  · omega
  · split <;> omega

/-- Makes a difference small; the bias grows by 36 for each division. -/
def shrink : Nat → Nat → Nat → Nat
  | 0, bias, _ => bias
  | steps+1, bias, delta =>
    if 455 < delta then shrink steps (bias+36) (delta/35) else bias+36*delta/(delta+38)

def adapt (delta count : Nat) (first : Bool) : Nat :=
  let delta := if first then delta/700 else delta/2
  let delta := delta+delta/count
  shrink (delta.log2+1) 0 delta

/-! ## Writing -/

def digits (bias place n : Nat) : List Char :=
  let t := threshold place bias
  if n < t then [digit n]
  else digit (t+(n-t) % (36-t))::digits bias (place+36) ((n-t)/(36-t))
termination_by n
decreasing_by
  have := threshold_pos place bias
  calc (n-threshold place bias)/(36-threshold place bias)
      ≤ n-threshold place bias := Nat.div_le_self _ _
    _ < n := by omega

/-- The text written, the steps since its last number, and how many characters are placed. -/
structure Progress where
  text : List Char
  delta : Nat
  bias : Nat
  count : Nat

def Progress.pass (ascii code : Nat) (p : Progress) (c : Char) : Progress :=
  if c.toNat < code then { p with delta := p.delta+1 }
  else if c.toNat = code then
    ⟨p.text++digits p.bias 36 p.delta, 0, adapt p.delta (p.count+1) (p.count == ascii), p.count+1⟩
  else p

/-- Places the characters of rising code points, of which the first may be `next`. -/
def Progress.place (source : List Char) (ascii : Nat) : List Nat → Nat → Progress → Progress
  | [], _, p => p
  | code::codes, next, p =>
    let p := source.foldl (Progress.pass ascii code)
      { p with delta := p.delta+(code-next)*(p.count+1) }
    place source ascii codes (code+1) { p with delta := p.delta+1 }

def encode (source : List Char) : List Char :=
  let basic := source.filter isAscii
  let codes := (((source.filter fun c => !isAscii c).map Char.toNat).eraseDups).mergeSort
  let start := if basic.isEmpty then [] else basic++['-']
  (Progress.place source basic.length codes 128 ⟨start, 0, 72, basic.length⟩).text

/-! ## Reading -/

def number? (bias : Nat) : List Char → Nat → Nat → Nat → Option (Nat × List Char)
  | [], _, _, _ => none
  | c::rest, place, weight, n => do
    let d ← value? c
    let t := threshold place bias
    if d < t then some (n+d*weight, rest)
    else number? bias rest (place+36) (weight*(36-t)) (n+d*weight)

def scalar? (code : Nat) : Option Char :=
  if h : code.isValidChar then some (Char.ofNatAux code h) else none

/-- Puts characters into a text, from the code point and the place reached on. A number
has at least one digit, so the length of the source bounds the steps. -/
def insertAll : Nat → Nat → Nat → Nat → List Char → List Char → Option (List Char)
  | _, _, _, _, text, [] => some text
  | 0, _, _, _, _, _ => none
  | steps+1, bias, code, start, text, source => do
    let (n, rest) ← number? bias source 36 1 start
    let count := text.length+1
    let next := code+n/count
    let text := text.insertIdx (n % count) (← scalar? next)
    insertAll steps (adapt (n-start) count (start == 0)) next (n % count+1) text rest

/-- Cuts at the last hyphen, unless there is none or nothing stands before it. -/
def parts (source : List Char) : List Char × List Char :=
  let numbers := (source.reverse.takeWhile (· ≠ '-')).reverse
  let basic := (source.take (source.length-numbers.length)).dropLast
  if basic.isEmpty then ([], source) else (basic, numbers)

def decode? (source : List Char) : Option (List Char) :=
  let (basic, numbers) := parts source
  if source.all isAscii then insertAll source.length 72 128 0 basic numbers else none

end WebApplication.Encoding.Punycode
