import WebApplication.Toml.Moment

/-!
# Tables in the order of their keys

The tables of a document are read in the order in which their entries came to them, and
kept in the order of their keys. A table whose first entry has the key of moments stands
for the moment in the text of that entry; its other entries do not count.
-/

set_option autoImplicit false

namespace WebApplication.Toml

def momentKey : String := "$__toml_private_datetime"

namespace Value

mutual

def sorted : Value → Option Value
  | array items => (sortedItems items).map array
  | table ((key, value)::rest) =>
    if key = momentKey then
      match value with
      | text s => momentOfText? s
      | _ => none
    else do
      let value ← sorted value
      some (table (SortedTable.insert key value (← sortedEntries rest)))
  | table [] => some (table [])
  | other => some other

def sortedItems : List Value → Option (List Value)
  | [] => some []
  | item::items => do some ((← sorted item)::(← sortedItems items))

/-- The entries of a table that is none for a moment, as that of a whole document. -/
def sortedEntries : List (String × Value) → Option Table
  | [] => some []
  | (key, value)::rest => do
    let value ← sorted value
    some (SortedTable.insert key value (← sortedEntries rest))

end

end Value

end WebApplication.Toml
