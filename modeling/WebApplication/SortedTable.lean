/-!
# Tables sorted by name

An association list with one entry for each name, in the order of the names. Every
operation of this module keeps that order.
-/

set_option autoImplicit false

namespace WebApplication

abbrev SortedTable (α : Type) := List (String × α)

namespace SortedTable

variable {α : Type}

def alter (name : String) (f : Option α → α) : SortedTable α → SortedTable α
  | [] => [(name, f none)]
  | (other, old)::rest =>
    if name = other then (name, f (some old))::rest
    else if name < other then (name, f none)::(other, old)::rest
    else (other, old)::alter name f rest

def insert (name : String) (value : α) (table : SortedTable α) : SortedTable α :=
  table.alter name fun _ => value

def ofList (entries : List (String × α)) : SortedTable α :=
  entries.foldl (fun table (name, value) => insert name value table) []

def overlay (lower upper : SortedTable α) : SortedTable α :=
  upper.foldl (fun table (name, value) => insert name value table) lower

end SortedTable

end WebApplication
