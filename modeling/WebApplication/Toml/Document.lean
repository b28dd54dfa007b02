import WebApplication.Toml.Value

/-!
# Tables of a TOML document

A document adds keys to one table at a time. A table that was only passed through
on the way to another may still be opened by its own header; one made by dotted keys
may only be extended by dotted keys; one with a header of its own is closed to both.
-/

set_option autoImplicit false

namespace WebApplication.Toml

inductive Origin where
  | header
  | passed
  | dotted
  deriving DecidableEq, Repr

inductive Item where
  | value (value : Value)
  | table (origin : Origin) (items : List (String × Item))
  /-- Tables under a repeated header, the newest first. -/
  | tables (newest : List (String × Item)) (older : List (List (String × Item)))
  deriving Inhabited

abbrev Items := List (String × Item)

namespace Items

def set (key : String) (item : Item) : Items → Items
  | [] => [(key, item)]
  | (other, old)::rest =>
    if other = key then (key, item)::rest else (other, old)::set key item rest

/-- Applies a change to the table at a path, making the tables on the way. Dotted keys
may not pass through a table with a header of its own. -/
def change (dotted : Bool) (f : Origin → Items → Option Items) :
    Origin → List String → Items → Option Items
  | origin, [], items => f origin items
  | _, key::path, items =>
    match items.lookup key with
    | none => do
      let origin : Origin := if dotted then .dotted else .passed
      let inner ← change dotted f origin path []
      some (Items.set key (.table origin inner) items)
    | some (.value _) => none
    | some (.tables newest older) => do
      let inner ← change dotted f .header path newest
      some (Items.set key (.tables inner older) items)
    | some (.table origin inner) =>
      if dotted && origin = .header then none
      else do
        let inner ← change dotted f origin path inner
        some (Items.set key (.table origin inner) items)

def put (key : String) (value : Value) (origin : Origin) (path : List String) (items : Items) :
    Option Items :=
  change true (fun origin inner =>
    if (decide (origin = .dotted)) == path.isEmpty || (inner.lookup key).isSome then none
    else some (Items.set key (.value value) inner)) origin path items

mutual

def itemToValue : Item → Value
  | .value v => v
  | .table _ items => .table (itemsToEntries items)
  | .tables newest older => .array (tablesToValues older++[.table (itemsToEntries newest)])

def itemsToEntries : List (String × Item) → List (String × Value)
  | [] => []
  | (key, item)::rest => (key, itemToValue item)::itemsToEntries rest

/-- Oldest first. -/
def tablesToValues : List (List (String × Item)) → List Value
  | [] => []
  | items::older => tablesToValues older++[.table (itemsToEntries items)]

end

end Items

/-- The tables finished so far and the one that keys go to. -/
structure Document where
  root : Items
  path : List String
  repeated : Bool
  current : Items

namespace Document

def start : Document := ⟨[], [], false, []⟩

def setKey (doc : Document) (path : List String) (key : String) (value : Value) :
    Option Document := do
  some { doc with current := ← Items.put key value .header path doc.current }

def finish (doc : Document) : Option Items :=
  match doc.path.getLast? with
  | none => some doc.current
  | some key =>
    Items.change false (fun _ parent =>
      match parent.lookup key, doc.repeated with
      | none, true => some (Items.set key (.tables doc.current []) parent)
      | some (.tables newest older), true =>
        some (Items.set key (.tables doc.current (newest::older)) parent)
      | none, false => some (Items.set key (.table .header doc.current) parent)
      | _, _ => none) .header doc.path.dropLast doc.root

def tableAt : Items → List String → Option Items
  | items, [] => some items
  | items, key::path =>
    match items.lookup key with
    | none => some []
    | some (.value _) => none
    | some (.table _ inner) => tableAt inner path
    | some (.tables newest _) => tableAt newest path

/-- Opens the table of a header. One that was passed through keeps what it has. -/
def openTable (doc : Document) (path : List String) : Option Document := do
  let root ← doc.finish
  let key ← path.getLast?
  let parent ← tableAt root path.dropLast
  match parent.lookup key with
  | none => some ⟨root, path, false, []⟩
  | some (.table .passed inner) =>
    let root ← Items.change false (fun _ parent => some (parent.filter (·.1 ≠ key))) .header
      path.dropLast root
    some ⟨root, path, false, inner⟩
  | some _ => none

def openRepeated (doc : Document) (path : List String) : Option Document := do
  some ⟨← doc.finish, path, true, []⟩

end Document

end WebApplication.Toml
