import WebApplication.Decimal.Shortest
import WebApplication.Encoding.Hex
import WebApplication.Json.Value

/-!
# Compact JSON text

Values are written without blanks, members in the order in which an object holds them.
-/

set_option autoImplicit false

namespace WebApplication.Json

def escapeChar (c : Char) : List Char :=
  if c = '"' then ['\\', '"']
  else if c = '\\' then ['\\', '\\']
  else if c = '\n' then ['\\', 'n']
  else if c = '\r' then ['\\', 'r']
  else if c = '\t' then ['\\', 't']
  else if c.toNat = 8 then ['\\', 'b']
  else if c.toNat = 12 then ['\\', 'f']
  else if c.toNat < 32 then
    ['\\', 'u', '0', '0', Encoding.hexDigit (c.toNat/16), Encoding.hexDigit (c.toNat % 16)]
  else [c]

def quote (text : String) : String :=
  String.ofList ('"'::text.toList.flatMap escapeChar++['"'])

def Number.write : Number → String
  | .integer n => toString n
  | .binary x => Decimal.Layout.json.write Decimal.double x.toBits.toNat

mutual

def Value.write : Value → String
  | .null => "null"
  | .bool b => if b then "true" else "false"
  | .number n => n.write
  | .string s => quote s
  | .array items => "["++",".intercalate (writeItems items)++"]"
  | .object members => "\x7b"++",".intercalate (writeMembers members)++"\x7d"

def writeItems : List Value → List String
  | [] => []
  | v::vs => v.write::writeItems vs

def writeMembers : List (String × Value) → List String
  | [] => []
  | (name, v)::rest => (quote name++":"++v.write)::writeMembers rest

end

end WebApplication.Json
