import WebApplication.Decimal.Shortest
import WebApplication.Property.Source
import WebApplication.Toml.Parser

/-!
# Property files

A property file is a TOML document. Tables nest with dots, and an item of an array
has its index as the last part of its key.
-/

set_option autoImplicit false

namespace WebApplication.Property

mutual

def flatten (key : String) : Toml.Value → List (String × String)
  | .text s => [(key, s)]
  | .integer n => [(key, toString n)]
  | .float bits => [(key, Decimal.Layout.plain.write Decimal.double bits)]
  | .bool b => [(key, if b then "true" else "false")]
  | .moment s => [(key, s)]
  | .array items => flattenItems key 0 items
  | .table entries => flattenEntries (key++".") entries

def flattenItems (key : String) (index : Nat) : List Toml.Value → List (String × String)
  | [] => []
  | v::vs => flatten (key++"."++toString index) v++flattenItems key (index+1) vs

def flattenEntries (front : String) : List (String × Toml.Value) → List (String × String)
  | [] => []
  | (key, v)::rest => flatten (front++key) v++flattenEntries front rest

end

namespace Source

def ofList (entries : List (String × String)) : Source :=
  entries.foldl (fun source (key, value) => source.set key value) empty

def ofTable (table : Toml.Table) : Source := ofList (flattenEntries "" table)

def ofText? (content : String) : Option Source := (Toml.parse? content).map ofTable

end Source

end WebApplication.Property
