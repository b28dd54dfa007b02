/-!
# Positions in JSON text

A cursor is the unread rest of a text together with the line and column reached,
counted in bytes from line one and column zero.
-/

set_option autoImplicit false

namespace WebApplication.Json

abbrev Bytes := List UInt8

structure Position where
  line : Nat
  column : Nat
  deriving DecidableEq, Repr

def Position.after (p : Position) (byte : UInt8) : Position :=
  if byte = 10 then ⟨p.line+1, 0⟩ else ⟨p.line, p.column+1⟩

structure Cursor where
  rest : Bytes
  position : Position

structure Fault where
  message : String
  position : Option Position

def Fault.describe (f : Fault) : String :=
  match f.position with
  | none => f.message
  | some p => s!"{f.message} at line {p.line} column {p.column}"

namespace Cursor

def start (text : Bytes) : Cursor := ⟨text, ⟨1, 0⟩⟩

def peek (c : Cursor) : Option UInt8 := c.rest.head?

def skip (c : Cursor) : Cursor :=
  match c.rest with
  | [] => c
  | byte::rest => ⟨rest, c.position.after byte⟩

def skipWhileFrom (p : UInt8 → Bool) : Bytes → Position → Cursor
  | [], position => ⟨[], position⟩
  | byte::rest, position =>
    if p byte then skipWhileFrom p rest (position.after byte) else ⟨byte::rest, position⟩

def skipWhile (p : UInt8 → Bool) (c : Cursor) : Cursor := skipWhileFrom p c.rest c.position

def isBlank (byte : UInt8) : Bool := byte == 32 || byte == 10 || byte == 13 || byte == 9

def skipBlanks (c : Cursor) : Cursor := c.skipWhile isBlank

def fault (c : Cursor) (message : String) : Fault := ⟨message, some c.position⟩

/-- A fault seen on the next byte, which counts as read. -/
def faultNext (c : Cursor) (message : String) : Fault := ⟨message, some c.skip.position⟩

end Cursor

abbrev Reader (α : Type) := Cursor → Except Fault (α × Cursor)

def isDigit (byte : UInt8) : Bool := 48 ≤ byte && byte ≤ 57

def byteOf (c : Char) : UInt8 := c.toNat.toUInt8

end WebApplication.Json
