import WebApplication.Json.Scalar
import WebApplication.Json.Writer
import WebApplication.Schema.Shape

/-!
# JSON values that are not asked for

Where one kind of value is expected and another one is found, a message names both.
Scalars are read before they are refused, so a fault in them comes first.
-/

set_option autoImplicit false

namespace WebApplication.Json

open Schema

def foundNumber : Number → String
  | .integer n => s!"integer `{n}`"
  | .binary x => s!"floating point `{(Number.binary x).write}`"

def refuseWord (letters : List Char) (found expected : String) (c : Cursor) : Fault :=
  match readWord letters c.skip with
  | .error f => f
  | .ok after => after.fault (invalidType found expected)

def refuse (expected : String) (c : Cursor) : Fault :=
  match c.peek with
  | none => c.faultNext "EOF while parsing a value"
  | some byte =>
    if byte = 110 then refuseWord ['u', 'l', 'l'] "null" expected c
    else if byte = 116 then refuseWord ['r', 'u', 'e'] "boolean `true`" expected c
    else if byte = 102 then refuseWord ['a', 'l', 's', 'e'] "boolean `false`" expected c
    else if byte = 45 || isDigit byte then
      match readNumber c with
      | .error f => f
      | .ok (n, after) => after.fault (invalidType (foundNumber n) expected)
    else if byte = 34 then
      match readStringRest c.skip with
      | .error f => f
      | .ok (text, after) => after.fault (invalidType (foundText text) expected)
    else if byte = 91 then c.fault (invalidType "sequence" expected)
    else if byte = 123 then c.fault (invalidType "map" expected)
    else c.faultNext "expected value"

def readText (expected : String) : Reader String := fun c =>
  if c.peek == some 34 then readStringRest c.skip else .error (refuse expected c)

end WebApplication.Json
