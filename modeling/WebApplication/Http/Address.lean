import WebApplication.Encoding.Hex
import WebApplication.Property.Scalar
import WebApplication.Text.Split

/-!
# Numeric addresses of hosts

An address of four bytes is written with dots between one to four numbers, the last of
which fills all bytes that are left. An address of sixteen bytes is eight pieces with
colons between them; two colons stand for the longest run of zeros.
-/

set_option autoImplicit false

namespace WebApplication.Http.Address

/-! ## Four bytes -/

def octal? (cs : List Char) : Option Nat :=
  cs.foldlM (fun n c => if '0' ≤ c && c ≤ '7' then some (n*8+(c.toNat-48)) else none) 0

/-- A number, which may be octal or hexadecimal. -/
def number? : List Char → Option Nat
  | [] => none
  | '0'::x::rest => if x = 'x' || x = 'X' then Encoding.hexNumber? rest else octal? (x::rest)
  | cs => Property.digits? cs

def value? : Nat → List Nat → Option Nat
  | left, [n] => if n < Nat.pow 256 left then some n else none
  | left+1, n::rest => do
    let tail ← value? left rest
    if n < 256 then some (n*Nat.pow 256 left+tail) else none
  | _, _ => none

def dotted? (cs : List Char) : Option Nat :=
  let parts := Text.splitChars '.' cs
  if parts.length ≤ 4 then (parts.mapM number?).bind (value? 4) else none

def dottedText (n : Nat) : String :=
  ".".intercalate ([n/0x1000000, n/0x10000 % 256, n/0x100 % 256, n % 256].map toString)

/-! ## Sixteen bytes -/

def byte? (cs : List Char) : Option Nat :=
  if 1 < cs.length && cs.head? = some '0' then none
  else match Property.digits? cs with
    | some n => if n < 256 then some n else none
    | none => none

def dottedPieces? (cs : List Char) : Option (List Nat) := do
  match ← (Text.splitChars '.' cs).mapM byte? with
  | [a, b, c, d] => some [a*256+b, c*256+d]
  | _ => none

def piece? (cs : List Char) : Option Nat :=
  if cs.isEmpty || 4 < cs.length then none else Encoding.hexNumber? cs

def groups? : List (List Char) → Option (List Nat)
  | [] => some []
  | [last] => if last.contains '.' then dottedPieces? last else (piece? last).map fun n => [n]
  | first::rest => do some ((← piece? first)::(← groups? rest))

def side? (cs : List Char) : Option (List Nat) :=
  if cs.isEmpty then some [] else groups? (Text.splitChars ':' cs)

def cutGap : List Char → Option (List Char × List Char)
  | [] => none
  | c::cs =>
    if c = ':' && cs.head? = some ':' then some ([], cs.drop 1)
    else (cutGap cs).map fun (before, after) => (c::before, after)

/-- The eight pieces of an address. A gap stands for one zero at least, and dots may only
stand at the end. -/
def pieces? (cs : List Char) : Option (List Nat) :=
  match cutGap cs with
  | none => (side? cs).filter (·.length = 8)
  | some (before, after) => do
    let front ← side? before
    let back ← side? after
    if before.contains '.' || 7 < front.length+back.length then none
    else some (front++List.replicate (8-front.length-back.length) 0++back)

/-- Start and length of the longest run of zeros, the first if there are several. -/
def longestGap : List Nat → Nat → Nat × Nat
  | [], _ => (0, 0)
  | n::rest, start =>
    let found := longestGap rest (start+1)
    let run := ((n::rest).takeWhile (· == 0)).length
    if 0 < run && found.2 ≤ run then (start, run) else found

def hexText (n : Nat) : String := String.ofList (Nat.toDigits 16 n)

def piecesText (pieces : List Nat) : String :=
  let (start, run) := longestGap pieces 0
  let text (ns : List Nat) : String := ":".intercalate (ns.map hexText)
  if run < 2 then text pieces
  else text (pieces.take start)++"::"++text (pieces.drop (start+run))

end WebApplication.Http.Address
