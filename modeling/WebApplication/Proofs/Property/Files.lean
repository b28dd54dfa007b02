import WebApplication.Proofs.Property.Assignments
import WebApplication.Proofs.Property.Leaves

/-!
# What a property file sets

A file sets one key for each leaf of its document, in their order: the names along the path
to the leaf, joined with dots. What holds no leaf sets nothing.
-/

set_option autoImplicit false

namespace WebApplication.Property

open Toml (Value)

variable {table : Toml.Table} {key : String}

def written : Value → String
  | .text s => s
  | .integer n => toString n
  | .float bits => Decimal.Layout.plain.write Decimal.double bits
  | .bool b => if b then "true" else "false"
  | .moment s => s
  | .array _ => ""
  | .table _ => ""

def setting (front : String) (leaf : List String × Value) : String × String :=
  (front++Text.join '.' leaf.1, written leaf.2)

def settingsOf (table : Toml.Table) : List (String × String) :=
  (Value.table table).leaves.map (setting "")

theorem map_setting_under (front name : String) (leaves : List (List String × Value)) :
    (leaves.map (Value.under name)).map (setting front) =
      leaves.map fun leaf => (Text.join '.' ((front++name)::leaf.1), written leaf.2) := by
  rw [List.map_map]
  refine List.map_congr_left fun leaf _ => ?_
  rw [Text.join_append_first]
  rfl

theorem map_setting_behind {value : Value} (h : value.isLeaf = false) (key : String) :
    value.leaves.map (setting (key++".")) =
      value.leaves.map fun leaf => (Text.join '.' (key::leaf.1), written leaf.2) := by
  refine List.map_congr_left fun leaf hl => ?_
  obtain ⟨name, path, hpath⟩ := List.exists_cons_of_ne_nil (Value.ne_nil_of_mem_leaves h hl)
  rw [setting, hpath, Text.join_cons_cons]
  rfl

mutual

theorem flatten_eq : (value : Value) → (key : String) → flatten key value =
    value.leaves.map fun leaf => (Text.join '.' (key::leaf.1), written leaf.2)
  | .array items, key => by
    rw [flatten, flattenItems_eq, ← map_setting_behind rfl, Value.leaves]
  | .table entries, key => by
    rw [flatten, flattenEntries_eq, ← map_setting_behind rfl, Value.leaves]
  | .text _, key => by simp [flatten, Value.leaves, written]
  | .integer _, key => by simp [flatten, Value.leaves, written]
  | .float _, key => by simp [flatten, Value.leaves, written]
  | .bool _, key => by simp [flatten, Value.leaves, written]
  | .moment _, key => by simp [flatten, Value.leaves, written]

theorem flattenItems_eq : (items : List Value) → (key : String) → (index : Nat) →
    flattenItems key index items = (Value.itemLeaves index items).map (setting (key++"."))
  | [], key, index => by rw [flattenItems, Value.itemLeaves]; rfl
  | item::items, key, index => by
    rw [flattenItems, Value.itemLeaves, List.map_append, map_setting_under, flatten_eq,
      flattenItems_eq]

theorem flattenEntries_eq : (entries : List (String × Value)) → (front : String) →
    flattenEntries front entries = (Value.entryLeaves entries).map (setting front)
  | [], front => by rw [flattenEntries, Value.entryLeaves]; rfl
  | (key, value)::rest, front => by
    rw [flattenEntries, Value.entryLeaves, List.map_append, map_setting_under, flatten_eq,
      flattenEntries_eq]

end

theorem made_ofTable (table : Toml.Table) : Made (settingsOf table) (Source.ofTable table) := by
  have hpairs : settingsOf table = flattenEntries "" table := by
    rw [flattenEntries_eq, settingsOf, Value.leaves]
  rw [hpairs]
  exact made_ofList _

theorem ofText?_of_parse {content : String} (h : Toml.parse? content = some table) :
    Source.ofText? content = some (Source.ofTable table) := by
  rw [Source.ofText?, h]
  rfl

/-! ## Values under keys -/

/-- The value that a document has under a key in its normal form. The last one counts. -/
def valueAt (table : Toml.Table) (key : String) : Option Value :=
  ((Value.table table).leaves.filter fun leaf =>
    normalize (Text.join '.' leaf.1) = key).getLast?.map Prod.snd

theorem valueAt_eq_none_iff : valueAt table key = none ↔
    ∀ leaf ∈ (Value.table table).leaves, normalize (Text.join '.' leaf.1) ≠ key := by
  rw [valueAt, Option.map_eq_none_iff, List.getLast?_eq_none_iff, List.filter_eq_nil_iff]
  simp

theorem latest_settingsOf (table : Toml.Table) (key : String) :
    latest (settingsOf table) key = (valueAt table key).map written := by
  have hkeys : (fun pair : String × String => decide (normalize pair.1 = key)) ∘ setting "" =
      fun leaf => decide (normalize (Text.join '.' leaf.1) = key) := by
    funext leaf
    rw [Function.comp_apply, setting, String.empty_append]
  rw [latest, settingsOf, List.filter_map, hkeys, List.getLast?_map, valueAt, Option.map_map,
    Option.map_map]
  rfl

end WebApplication.Property
