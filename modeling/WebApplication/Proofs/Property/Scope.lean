import Mathlib.Data.List.Lex
import WebApplication.Proofs.Property.Tree
import WebApplication.Proofs.Text.Split

/-!
# What a prefix sees

In an ordered source the keys in a scope stand together, so the scan over them finds all
of them. The tree under a prefix has a value at a path exactly if the source has one at
the key, and none at any key below.
-/

set_option autoImplicit false

namespace WebApplication.Property

/-! ## Keys in a scope stand together -/

theorem dropPrefix_eq_some_iff {front cs rest : List Char} :
    dropPrefix front cs = some rest ↔ cs = front++rest := by
  induction front generalizing cs with
  | nil => simp [dropPrefix]
  | cons p front ih =>
    cases cs with
    | nil => simp [dropPrefix]
    | cons c cs =>
      rw [dropPrefix]
      by_cases h : p = c
      · simp [h, ih]
      · simp [h, Ne.symm h]

theorem prefix_of_between {front cs rest : List Char} (h : ¬cs < front)
    (hr : cs < front++rest) : front <+: cs := by
  induction front generalizing cs with
  | nil => exact List.nil_prefix
  | cons p front ih =>
    cases cs with
    | nil => exact absurd (List.nil_lt_cons p front) h
    | cons c cs =>
      rw [List.cons_append, List.cons_lt_cons_iff] at hr
      rw [List.cons_lt_cons_iff] at h
      obtain ⟨hne, hlt⟩ := not_or.mp h
      rcases hr with hr | ⟨rfl, hr⟩
      · exact absurd hr hne
      · exact List.cons_prefix_cons.mpr ⟨rfl, ih (fun hl => hlt ⟨rfl, hl⟩) hr⟩

theorem not_append_lt (front rest : List Char) : ¬front++rest < front := by
  induction front with
  | nil => exact List.not_lt_nil rest
  | cons p front ih =>
    rw [List.cons_append, List.cons_lt_cons_iff]
    rintro (h | ⟨-, h⟩)
    · exact absurd h (lt_irrefl p)
    · exact ih h

namespace Source

variable {scope : String} {values : SortedTable String}

def inScope (scope : String) (entry : String × String) : Option (String × String) :=
  (dropPrefix scope.toList entry.1.toList).map fun cs => (String.ofList cs, entry.2)

theorem inScope_eq_some_iff {entry : String × String} {rest value : String} :
    inScope scope entry = some (rest, value) ↔ entry = (scope++rest, value) := by
  obtain ⟨key, found⟩ := entry
  simp only [inScope, Option.map_eq_some_iff, dropPrefix_eq_some_iff, Prod.mk.injEq]
  constructor
  · rintro ⟨cs, hk, rfl, rfl⟩
    refine ⟨?_, rfl⟩
    rw [← String.toList_inj, hk, String.toList_append, String.toList_ofList]
  · rintro ⟨rfl, rfl⟩
    exact ⟨rest.toList, String.toList_append, String.ofList_toList, rfl⟩

theorem inScope_eq_none_of_lt {entry : String × String} (h : entry.1 < scope) :
    inScope scope entry = none := by
  rw [Option.eq_none_iff_forall_ne_some]
  rintro ⟨rest, value⟩ hs
  rw [inScope_eq_some_iff.mp hs, String.lt_iff_toList_lt, String.toList_append] at h
  exact not_append_lt _ _ h

theorem inScope_eq_none_of_after {entry next : String × String} (h : ¬entry.1 < scope)
    (hout : inScope scope entry = none) (hn : entry.1 < next.1) : inScope scope next = none := by
  rw [Option.eq_none_iff_forall_ne_some]
  rintro ⟨rest, value⟩ hs
  rw [inScope_eq_some_iff.mp hs, String.lt_iff_toList_lt, String.toList_append] at hn
  rw [String.lt_iff_toList_lt] at h
  obtain ⟨more, hm⟩ := prefix_of_between h hn
  have hin : inScope scope entry = some (String.ofList more, entry.2) := by
    rw [inScope, dropPrefix_eq_some_iff.mpr hm.symm]
    rfl
  rw [hout] at hin
  cases hin

theorem scan_of_lt {entry : String × String} {rest : SortedTable String}
    (h : entry.1 < scope) : scan scope (entry::rest) = scan scope rest := by
  rw [scan, scan, List.dropWhile_cons_of_pos (by simpa using h)]

theorem dropWhile_of_not_lt (h : ∀ entry ∈ values, ¬entry.1 < scope) :
    (values.dropWhile fun entry => entry.1 < scope) = values := by
  cases values with
  | nil => rfl
  | cons entry rest => exact List.dropWhile_cons_of_neg (by simpa using h entry (by simp))

theorem scan_of_some {entry found : String × String} {rest : SortedTable String}
    (h : ∀ next ∈ entry::rest, ¬next.1 < scope) (hin : inScope scope entry = some found) :
    scan scope (entry::rest) = found::scan scope rest := by
  obtain ⟨cs, hcs, rfl⟩ := Option.map_eq_some_iff.mp hin
  rw [scan, scan, dropWhile_of_not_lt h,
    dropWhile_of_not_lt fun next hn => h next (List.mem_cons_of_mem _ hn)]
  simp [hcs]

theorem scan_of_none {entry : String × String} {rest : SortedTable String}
    (h : ¬entry.1 < scope) (hout : inScope scope entry = none) :
    scan scope (entry::rest) = [] := by
  have hcs := Option.map_eq_none_iff.mp hout
  rw [scan, List.dropWhile_cons_of_neg (by simpa using h)]
  simp [hcs]

/-- The scan finds all keys in the scope. -/
theorem scan_eq (h : SortedTable.Ordered values) :
    scan scope values = values.filterMap (inScope scope) := by
  induction values with
  | nil => rfl
  | cons entry rest ih =>
    obtain ⟨hlt, hrest⟩ := SortedTable.ordered_cons.mp h
    by_cases hl : entry.1 < scope
    · rw [scan_of_lt hl, List.filterMap_cons_none (inScope_eq_none_of_lt hl), ih hrest]
    · cases hin : inScope scope entry with
      | some found =>
        have hno : ∀ next ∈ entry::rest, ¬next.1 < scope := by
          intro next hn
          rcases List.mem_cons.mp hn with rfl | hn
          · exact hl
          · exact fun hs => hl ((hlt next hn).trans hs)
        rw [scan_of_some hno hin, List.filterMap_cons_some hin, ih hrest]
      | none =>
        have hno : ∀ next ∈ rest, inScope scope next = none :=
          fun next hn => inScope_eq_none_of_after hl hin (hlt next hn)
        rw [scan_of_none hl hin, List.filterMap_cons_none hin,
          List.filterMap_eq_nil_iff.mpr hno]

/-! ## The tree under a prefix -/

variable {source : Source} {root key value : String}

theorem mem_entriesUnder (h : source.values.Ordered) {rest : String} :
    (rest, value) ∈ source.entriesUnder root ↔
      source.values.lookup (scopeOf root++rest) = some value := by
  rw [entriesUnder, scan_eq h, List.mem_filterMap, ← SortedTable.mem_iff_lookup h]
  simp only [inScope_eq_some_iff]
  exact exists_eq_right

def pathsUnder (source : Source) (root : String) : List (List String × String) :=
  (source.entriesUnder root).map fun entry => (Text.split '.' entry.1, entry.2)

theorem nodup_pathsUnder (h : source.values.Ordered) (root : String) :
    ((source.pathsUnder root).map Prod.fst).Nodup := by
  rw [List.Nodup, pathsUnder, List.map_map, List.pairwise_map, entriesUnder, scan_eq h,
    List.pairwise_filterMap]
  refine h.imp fun {entry next} hlt found hf found' hf' he => ?_
  have hsame : found.1 = found'.1 := Text.split_injective he
  rw [inScope_eq_some_iff.mp hf, inScope_eq_some_iff.mp hf', hsame] at hlt
  exact lt_irrefl _ hlt

theorem grown_tree (h : source.values.Ordered) (root : String) :
    Tree.Grown (source.pathsUnder root) (source.tree root) := by
  have hn : (([]++source.pathsUnder root).map Prod.fst).Nodup := nodup_pathsUnder h root
  have htree : (source.pathsUnder root).foldl (fun tree entry => tree.insert entry.1 entry.2)
      Tree.empty = source.tree root := List.foldl_map
  rw [← htree]
  exact Tree.grown_empty.inserts hn

theorem mem_pathsUnder (h : source.values.Ordered) {path : List String} :
    (path, value) ∈ source.pathsUnder root ↔
      ∃ rest, path = Text.split '.' rest ∧
        source.values.lookup (scopeOf root++rest) = some value := by
  rw [pathsUnder, List.mem_map]
  constructor
  · rintro ⟨⟨rest, found⟩, hin, he⟩
    obtain ⟨rfl, rfl⟩ := Prod.mk.inj he
    exact ⟨rest, rfl, (mem_entriesUnder h).mp hin⟩
  · rintro ⟨rest, rfl, hl⟩
    exact ⟨(rest, value), (mem_entriesUnder h).mpr hl, rfl⟩

theorem branches_tree_iff (h : source.values.Ordered) :
    (source.tree root).Branches (Text.split '.' key) ↔
      ∃ below value, source.values.lookup (scopeOf root++(key++"."++below)) = some value := by
  rw [(grown_tree h root).branches]
  constructor
  · intro hb
    obtain ⟨⟨path, value⟩, hin, hlonger⟩ := hb
    obtain ⟨rest, rfl, hl⟩ := (mem_pathsUnder h).mp hin
    obtain ⟨below, rfl⟩ := Text.split_longer_iff.mp hlonger
    exact ⟨below, value, hl⟩
  · intro hb
    obtain ⟨below, value, hl⟩ := hb
    exact ⟨(_, value), (mem_pathsUnder h).mpr ⟨_, rfl, hl⟩, Text.split_longer_iff.mpr ⟨below, rfl⟩⟩

theorem leaf_tree_iff (h : source.values.Ordered) :
    (source.tree root).at? (Text.split '.' key) = some (.leaf value) ↔
      source.values.lookup (scopeOf root++key) = some value ∧
        ∀ below, source.values.lookup (scopeOf root++(key++"."++below)) = none := by
  rw [(grown_tree h root).leaves, mem_pathsUnder h, branches_tree_iff h]
  have hkey : (∃ rest, Text.split '.' key = Text.split '.' rest ∧
      source.values.lookup (scopeOf root++rest) = some value) ↔
      source.values.lookup (scopeOf root++key) = some value := by
    constructor
    · intro hr
      obtain ⟨rest, hs, hl⟩ := hr
      rwa [Text.split_injective hs]
    · intro hl
      exact ⟨key, rfl, hl⟩
  simp only [hkey, not_exists, Option.eq_none_iff_forall_ne_some]

end Source

end WebApplication.Property
