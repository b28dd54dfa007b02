import Mathlib.Data.List.Nodup
import WebApplication.Proofs.Property.Numerals
import WebApplication.Proofs.SortedTable
import WebApplication.Toml.Parser

/-!
# What a document holds

The members of a table are its entries under their keys, and those of an array its items
under their indices. A path of such names leads to one value, as the tables of a document that
was read are in the order of their keys. The leaves of a value are what has no members of its
own, each with the path to it.
-/

set_option autoImplicit false

namespace WebApplication.Toml.Value

variable {value member leaf : Value} {name : String} {path : List String}

/-! ## Paths -/

def isLeaf : Value → Bool
  | .array _ => false
  | .table _ => false
  | _ => true

def members : Value → List (String × Value)
  | .array items => items.zipIdx.map fun (item, index) => (toString index, item)
  | .table entries => entries
  | _ => []

def at? : Value → List String → Option Value
  | value, [] => some value
  | value, name::path => (value.members.lookup name).bind fun member => at? member path

theorem at?_nil (value : Value) : value.at? [] = some value := rfl

theorem at?_cons (value : Value) (name : String) (path : List String) :
    value.at? (name::path) = (value.members.lookup name).bind fun member => member.at? path := rfl

theorem at?_append (value : Value) (path more : List String) :
    value.at? (path++more) = (value.at? path).bind fun found => found.at? more := by
  induction path generalizing value with
  | nil => rfl
  | cons name path ih =>
    rw [List.cons_append, at?_cons, at?_cons]
    cases value.members.lookup name with
    | none => rfl
    | some member => exact ih member

theorem members_of_isLeaf (h : value.isLeaf = true) : value.members = [] := by
  cases value <;> first | rfl | cases h

/-! ## Leaves -/

def under (name : String) (leaf : List String × Value) : List String × Value :=
  (name::leaf.1, leaf.2)

mutual

def leaves : Value → List (List String × Value)
  | .array items => itemLeaves 0 items
  | .table entries => entryLeaves entries
  | value => [([], value)]

def itemLeaves (index : Nat) : List Value → List (List String × Value)
  | [] => []
  | item::items => item.leaves.map (under (toString index))++itemLeaves (index+1) items

def entryLeaves : List (String × Value) → List (List String × Value)
  | [] => []
  | (key, value)::rest => value.leaves.map (under key)++entryLeaves rest

end

theorem leaves_of_isLeaf (h : value.isLeaf = true) : value.leaves = [([], value)] := by
  cases value with
  | array items => cases h
  | table entries => cases h
  | text => rw [leaves] <;> rintro _ ⟨⟩
  | integer => rw [leaves] <;> rintro _ ⟨⟩
  | float => rw [leaves] <;> rintro _ ⟨⟩
  | bool => rw [leaves] <;> rintro _ ⟨⟩
  | moment => rw [leaves] <;> rintro _ ⟨⟩

theorem itemLeaves_eq (items : List Value) (index : Nat) :
    itemLeaves index items = (items.zipIdx index).flatMap fun (item, index) =>
      item.leaves.map (under (toString index)) := by
  induction items generalizing index with
  | nil => rw [itemLeaves]; rfl
  | cons item items ih => rw [itemLeaves, ih]; rfl

theorem entryLeaves_eq (entries : List (String × Value)) :
    entryLeaves entries = entries.flatMap fun (key, value) => value.leaves.map (under key) := by
  induction entries with
  | nil => rw [entryLeaves]; rfl
  | cons entry rest ih => rw [entryLeaves, ih]; rfl

theorem leaves_eq (h : value.isLeaf = false) :
    value.leaves = value.members.flatMap fun (name, member) => member.leaves.map (under name) := by
  cases value with
  | array items => rw [leaves, itemLeaves_eq, members, List.flatMap_map]
  | table entries => rw [leaves, entryLeaves_eq, members]
  | text => cases h
  | integer => cases h
  | float => cases h
  | bool => cases h
  | moment => cases h

theorem ne_nil_of_mem_leaves (h : value.isLeaf = false) {leaf : List String × Value}
    (hl : leaf ∈ value.leaves) : leaf.1 ≠ [] := by
  rw [leaves_eq h] at hl
  obtain ⟨entry, -, hl⟩ := List.mem_flatMap.mp hl
  obtain ⟨found, -, rfl⟩ := List.mem_map.mp hl
  exact List.cons_ne_nil entry.1 found.1

/-! ## Tables in order -/

inductive Ordered : Value → Prop
  | leaf {value : Value} (h : value.isLeaf = true) : Ordered value
  | array {items : List Value} (members : ∀ item ∈ items, Ordered item) : Ordered (.array items)
  | table {entries : Table} (names : SortedTable.Ordered entries)
      (members : ∀ entry ∈ entries, Ordered entry.2) : Ordered (.table entries)

theorem Ordered.of_item {items : List Value} (h : (Value.array items).Ordered) {item : Value}
    (hi : item ∈ items) : item.Ordered := by
  cases h with
  | leaf h => cases h
  | array members => exact members item hi

theorem isLeaf_of_moment {text : String} (h : momentOfText? text = some value) :
    value.isLeaf = true := by
  unfold momentOfText? at h
  dsimp only at h
  split at h
  · split at h
    · cases h
      rfl
    · cases h
  · obtain ⟨⟨day, rest⟩, -, h⟩ := Option.bind_eq_some_iff.mp h
    split at h
    · obtain ⟨⟨time, rest⟩, -, h⟩ := Option.bind_eq_some_iff.mp h
      obtain ⟨offset, -, h⟩ := Option.bind_eq_some_iff.mp h
      cases h
      rfl
    · obtain ⟨⟨time, rest⟩, -, h⟩ := Option.bind_eq_some_iff.mp h
      obtain ⟨offset, -, h⟩ := Option.bind_eq_some_iff.mp h
      cases h
      rfl

theorem Ordered.insert {entries : Table} (h : (Value.table entries).Ordered)
    (hv : value.Ordered) (key : String) :
    (Value.table (SortedTable.insert key value entries)).Ordered := by
  cases h with
  | leaf h => cases h
  | table names members =>
    refine .table (names.insert key value) fun entry he => ?_
    have hlookup := (SortedTable.mem_iff_lookup (names.insert key value)).mp he
    rw [SortedTable.lookup_insert] at hlookup
    split at hlookup
    · exact Option.some.inj hlookup ▸ hv
    · exact members entry ((SortedTable.mem_iff_lookup names).mpr hlookup)

mutual

/-- Sorting puts every table in order. -/
theorem ordered_of_sorted : {value found : Value} → sorted value = some found → found.Ordered
  | .array items, found, h => by
    rw [sorted] at h
    obtain ⟨sorted, hs, rfl⟩ := Option.map_eq_some_iff.mp h
    exact .array (ordered_of_sortedItems hs)
  | .table [], found, h => by
    rw [sorted] at h
    cases h
    exact .table .nil (by simp)
  | .table ((key, value)::rest), found, h => by
    rw [sorted.eq_def] at h
    dsimp only at h
    split at h
    · split at h
      · exact .leaf (isLeaf_of_moment h)
      · cases h
    · obtain ⟨value', hv, h⟩ := Option.bind_eq_some_iff.mp h
      obtain ⟨rest', hr, h⟩ := Option.bind_eq_some_iff.mp h
      cases h
      exact (ordered_of_sortedEntries hr).insert (ordered_of_sorted hv) key
  | .text _, found, h => by cases h; exact .leaf rfl
  | .integer _, found, h => by cases h; exact .leaf rfl
  | .float _, found, h => by cases h; exact .leaf rfl
  | .bool _, found, h => by cases h; exact .leaf rfl
  | .moment _, found, h => by cases h; exact .leaf rfl

theorem ordered_of_sortedItems : {items found : List Value} → sortedItems items = some found →
    ∀ item ∈ found, item.Ordered
  | [], found, h => by cases h; simp
  | item::items, found, h => by
    rw [sortedItems] at h
    obtain ⟨item', hi, h⟩ := Option.bind_eq_some_iff.mp h
    obtain ⟨items', hs, h⟩ := Option.bind_eq_some_iff.mp h
    cases h
    exact List.forall_mem_cons.mpr ⟨ordered_of_sorted hi, ordered_of_sortedItems hs⟩

theorem ordered_of_sortedEntries : {entries : List (String × Value)} → {found : Table} →
    sortedEntries entries = some found → (Value.table found).Ordered
  | [], found, h => by cases h; exact .table .nil (by simp)
  | (key, value)::rest, found, h => by
    rw [sortedEntries] at h
    obtain ⟨value', hv, h⟩ := Option.bind_eq_some_iff.mp h
    obtain ⟨rest', hr, h⟩ := Option.bind_eq_some_iff.mp h
    cases h
    exact (ordered_of_sortedEntries hr).insert (ordered_of_sorted hv) key

end

theorem ordered_of_parse {content : String} {table : Table} (h : parse? content = some table) :
    (Value.table table).Ordered := by
  obtain ⟨doc, -, h⟩ := Option.bind_eq_some_iff.mp h
  obtain ⟨root, -, h⟩ := Option.bind_eq_some_iff.mp h
  exact ordered_of_sortedEntries h

/-! ## Paths to leaves -/

theorem Ordered.nodup_members (h : value.Ordered) : (value.members.map Prod.fst).Nodup := by
  cases h with
  | leaf h => rw [members_of_isLeaf h]; exact .nil
  | @array items =>
    have hnames : (Value.array items).members.map Prod.fst =
        (items.zipIdx.map Prod.snd).map fun index : Nat => toString index := by
      rw [Value.members, List.map_map, List.map_map]
      rfl
    rw [hnames, List.zipIdx_map_snd]
    exact List.Nodup.map Property.toString_injective (List.nodup_range' 1)
  | table names _ => exact List.pairwise_map.mpr (List.Pairwise.imp ne_of_lt names)

theorem Ordered.mem_members_iff (h : value.Ordered) :
    (name, member) ∈ value.members ↔ value.members.lookup name = some member := by
  rw [List.lookup_eq_some_iff]
  constructor
  · intro hin
    obtain ⟨front, back, hsplit⟩ := List.append_of_mem hin
    refine ⟨front, back, hsplit, fun entry he => ?_⟩
    have hnodup := h.nodup_members
    rw [hsplit, List.map_append, List.nodup_append] at hnodup
    simpa using (hnodup.2.2 _ (List.mem_map_of_mem he) name (by simp)).symm
  · rintro ⟨front, back, hsplit, -⟩
    rw [hsplit]
    exact List.mem_append_right front List.mem_cons_self

theorem Ordered.of_mem (h : value.Ordered) (hm : (name, member) ∈ value.members) :
    member.Ordered := by
  cases h with
  | leaf h =>
    rw [members_of_isLeaf h] at hm
    cases hm
  | array members =>
    obtain ⟨entry, hin, he⟩ := List.mem_map.mp hm
    cases he
    exact members entry.1 (List.fst_mem_of_mem_zipIdx hin)
  | table names members => exact members _ hm

/-- The leaves are what stands at the end of a path. -/
theorem Ordered.mem_leaves_iff (h : value.Ordered) :
    (path, leaf) ∈ value.leaves ↔ value.at? path = some leaf ∧ leaf.isLeaf = true := by
  induction path generalizing value with
  | nil =>
    cases hl : value.isLeaf with
    | true =>
      rw [leaves_of_isLeaf hl, at?_nil]
      constructor
      · intro hin
        cases List.mem_singleton.mp hin
        exact ⟨rfl, hl⟩
      · rintro ⟨he, -⟩
        cases he
        exact List.mem_singleton.mpr rfl
    | false =>
      rw [leaves_eq hl, at?_nil]
      constructor
      · intro hin
        obtain ⟨entry, -, hin⟩ := List.mem_flatMap.mp hin
        obtain ⟨found, -, he⟩ := List.mem_map.mp hin
        cases he
      · rintro ⟨he, hleaf⟩
        cases he
        rw [hl] at hleaf
        cases hleaf
  | cons name path ih =>
    rw [at?_cons, Option.bind_eq_some_iff]
    cases hl : value.isLeaf with
    | true =>
      rw [leaves_of_isLeaf hl, members_of_isLeaf hl]
      simp
    | false =>
      rw [leaves_eq hl]
      constructor
      · intro hin
        obtain ⟨⟨first, member⟩, hm, hin⟩ := List.mem_flatMap.mp hin
        obtain ⟨found, hf, he⟩ := List.mem_map.mp hin
        cases he
        obtain ⟨hat, hleaf⟩ := (ih (h.of_mem hm)).mp hf
        exact ⟨⟨member, h.mem_members_iff.mp hm, hat⟩, hleaf⟩
      · rintro ⟨⟨member, hlookup, hat⟩, hleaf⟩
        have hm := h.mem_members_iff.mpr hlookup
        refine List.mem_flatMap.mpr ⟨(name, member), hm, List.mem_map.mpr ⟨(path, leaf), ?_, rfl⟩⟩
        exact (ih (h.of_mem hm)).mpr ⟨hat, hleaf⟩

theorem Ordered.at? (h : value.Ordered) {found : Value} (hat : value.at? path = some found) :
    found.Ordered := by
  induction path generalizing value with
  | nil => exact Option.some.inj hat ▸ h
  | cons name path ih =>
    rw [at?_cons, Option.bind_eq_some_iff] at hat
    obtain ⟨member, hlookup, hat⟩ := hat
    exact ih (h.of_mem (h.mem_members_iff.mpr hlookup)) hat

theorem Ordered.mem_leaves_behind (h : value.Ordered) {found : Value} {front : List String}
    (hat : value.at? front = some found) :
    (front++path, leaf) ∈ value.leaves ↔ (path, leaf) ∈ found.leaves := by
  rw [h.mem_leaves_iff, (h.at? hat).mem_leaves_iff, at?_append, hat]
  rfl

theorem Ordered.notMem_leaves_behind (h : value.Ordered) (hl : (path, leaf) ∈ value.leaves)
    (next : String) (rest : List String) (other : Value) :
    (path++next::rest, other) ∉ value.leaves := by
  obtain ⟨hat, hleaf⟩ := h.mem_leaves_iff.mp hl
  rw [h.mem_leaves_behind hat, leaves_of_isLeaf hleaf]
  simp

end WebApplication.Toml.Value
