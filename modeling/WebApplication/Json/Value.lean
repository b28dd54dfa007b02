import WebApplication.SortedTable

/-!
# JSON values

Numbers are integers while they fit 64 bits and binary64 numbers otherwise. An
object that was read is a sorted table, in which the last member of a name won;
a record lists its members in field order instead.
-/

set_option autoImplicit false

namespace WebApplication.Json

inductive Number where
  | integer (value : Int)
  | binary (value : Float)

inductive Value where
  | null
  | bool (value : Bool)
  | number (value : Number)
  | string (text : String)
  | array (items : List Value)
  | object (members : List (String × Value))
  deriving Inhabited

abbrev Members := SortedTable Value

namespace Value

def ofNat (n : Nat) : Value := .number (.integer n)

def ofInt (n : Int) : Value := .number (.integer n)

def ofOption (value : Option String) : Value :=
  match value with
  | some text => .string text
  | none => .null

def sorted (members : Members) : Value := .object (SortedTable.ofList members)

def get? (value : Value) (name : String) : Option Value :=
  match value with
  | .object members => members.lookup name
  | _ => none

end Value

end WebApplication.Json
