import WebApplication.Proofs.Property.Files
import WebApplication.Proofs.Property.Records

/-!
# Arrays of property files

Where the keys of a file are plain, each leaf of its document has a key of its own, and the
tree under a prefix shows the value that stands there: the same leaves, and nodes only on the
way to them. An array of texts, integers or such arrays is therefore bound to the list of what
its items are bound to, in their order, however many digits the indices have. An array that
holds nothing leaves no key behind: it is missing as an item, and as a field.
-/

set_option autoImplicit false

namespace WebApplication.Property

open Schema Toml

variable {table : Table} {root name : String} {front path : List String} {value leaf : Value}
  {tree : Tree}

/-! ## Plain keys -/

def isPlainChar (c : Char) : Bool := c.isLower || c.isDigit || c = '_'

def isPlain (name : String) : Bool := name.toList.all isPlainChar

def PlainKeys (table : Table) : Prop :=
  ∀ leaf ∈ (Value.table table).leaves, ∀ name ∈ leaf.1, isPlain name = true

theorem range_of_plain {c : Char} (h : isPlainChar c = true ∨ c = '.') :
    c.toNat = 46 ∨ 48 ≤ c.toNat ∧ c.toNat ≤ 57 ∨ c.toNat = 95 ∨ 97 ≤ c.toNat ∧ c.toNat ≤ 122 := by
  rcases h with h | rfl
  · rw [isPlainChar, Bool.or_eq_true, Bool.or_eq_true] at h
    rcases h with (h | h) | h
    · obtain ⟨hlow, hhigh⟩ := Bool.and_eq_true_iff.mp h
      exact .inr (.inr (.inr ⟨of_decide_eq_true hlow, of_decide_eq_true hhigh⟩))
    · exact .inr (.inl (Char.isDigit_iff_toNat.mp h))
    · cases of_decide_eq_true h
      exact .inr (.inr (.inl rfl))
  · exact .inl rfl

theorem toLower_of_plain {c : Char} (h : isPlainChar c = true ∨ c = '.') :
    (if c = '-' then '_' else c.toLower) = c := by
  have hrange := range_of_plain h
  have hdash : c ≠ '-' := by
    rintro rfl
    exact absurd hrange (by decide)
  have hupper : ¬(c.val ≥ 'A'.val ∧ c.val ≤ 'Z'.val) := by
    rintro ⟨hl, hu⟩
    have hl' : 65 ≤ c.toNat := hl
    have hu' : c.toNat ≤ 90 := hu
    omega
  rw [if_neg hdash]
  exact dif_neg hupper

theorem not_isBlank_of_plain {c : Char} (h : isPlainChar c = true ∨ c = '.') :
    Text.isBlank c = false := by
  have hrange := range_of_plain h
  exact Text.not_isBlank_of_printable (by omega)

theorem normalize_of_plain {key : String}
    (h : ∀ c ∈ key.toList, isPlainChar c = true ∨ c = '.') : normalize key = key := by
  rw [← String.toList_inj, toList_normalize fun c hc => not_isBlank_of_plain (h c hc)]
  exact (List.map_congr_left fun c hc => toLower_of_plain (h c hc)).trans (List.map_id _)

theorem dot_notMem_of_plain (h : isPlain name = true) : '.' ∉ name.toList := by
  intro hd
  exact absurd (List.all_eq_true.mp h '.' hd) (by decide)

theorem normalize_join (h : ∀ name ∈ path, isPlain name = true) :
    normalize (Text.join '.' path) = Text.join '.' path := by
  refine normalize_of_plain fun c hc => ?_
  obtain rfl | ⟨part, hp, hc⟩ := Text.mem_join hc
  · exact .inr rfl
  · exact .inl (List.all_eq_true.mp (h part hp) c hc)

theorem path_of_key (hplain : PlainKeys table) {found : List String × Value}
    (hf : found ∈ (Value.table table).leaves) (hpath : path ≠ [])
    (hdots : ∀ name ∈ path, '.' ∉ name.toList)
    (hkey : normalize (Text.join '.' found.1) = Text.join '.' path) : found.1 = path := by
  have hsplit : Text.split '.' (Text.join '.' found.1) = found.1 :=
    Text.split_join (Value.ne_nil_of_mem_leaves rfl hf)
      fun name hn => dot_notMem_of_plain (hplain found hf name hn)
  rw [normalize_join (hplain found hf)] at hkey
  rw [← hsplit, hkey, Text.split_join hpath hdots]

/-- Each leaf stands alone under its key. -/
theorem valueAt_join (ho : (Value.table table).Ordered) (hplain : PlainKeys table)
    (hpath : path ≠ []) (hdots : ∀ name ∈ path, '.' ∉ name.toList) :
    valueAt table (Text.join '.' path) = some leaf ↔ (path, leaf) ∈ (Value.table table).leaves := by
  have hlast : ∀ found, valueAt table (Text.join '.' path) = some found →
      (path, found) ∈ (Value.table table).leaves := by
    intro found hv
    obtain ⟨last, hl, rfl⟩ := Option.map_eq_some_iff.mp hv
    obtain ⟨hin, hkey⟩ := List.mem_filter.mp (List.mem_of_getLast? hl)
    have hp := path_of_key hplain hin hpath hdots (of_decide_eq_true hkey)
    exact hp ▸ hin
  refine ⟨hlast leaf, fun hin => ?_⟩
  cases hv : valueAt table (Text.join '.' path) with
  | none =>
    exact absurd (normalize_join (hplain _ hin)) (valueAt_eq_none_iff.mp hv _ hin)
  | some found =>
    have hfound := (ho.mem_leaves_iff.mp (hlast found hv)).1
    rw [(ho.mem_leaves_iff.mp hin).1] at hfound
    exact hfound.symm

/-! ## What a prefix shows -/

structure Names (root : String) (front : List String) : Prop where
  key : normalize root = Text.join '.' front
  ne_nil : front ≠ []
  plain : ∀ name ∈ front, isPlain name = true

theorem Names.scopeOf_append (h : Names root front) (rest : String) :
    Source.scopeOf root++rest = Text.join '.' (front++Text.split '.' rest) := by
  rw [Text.join_append h.ne_nil (Text.split_ne_nil rest), Text.join_split, Source.scopeOf, h.key]
  rfl

theorem entry_iff (ho : (Value.table table).Ordered) (hplain : PlainKeys table)
    (hn : Names root front) {text : String} :
    Entry (settingsOf table) root path text ↔
      path ≠ [] ∧ ∃ leaf, (front++path, leaf) ∈ (Value.table table).leaves ∧
        written leaf = text := by
  have hrest : ∀ rest text, latest (settingsOf table) (Source.scopeOf root++rest) = some text ↔
      ∃ leaf, (front++Text.split '.' rest, leaf) ∈ (Value.table table).leaves ∧
        written leaf = text := by
    intro rest text
    have hdots : ∀ name ∈ front++Text.split '.' rest, '.' ∉ name.toList :=
      List.forall_mem_append.mpr ⟨fun name hf => dot_notMem_of_plain (hn.plain name hf),
        fun name hs => Text.not_mem_of_mem_split hs⟩
    rw [latest_settingsOf, hn.scopeOf_append, Option.map_eq_some_iff]
    refine exists_congr fun leaf => and_congr_left' ?_
    exact valueAt_join ho hplain (by simp [hn.ne_nil]) hdots
  constructor
  · rintro ⟨rest, rfl, hl⟩
    exact ⟨Text.split_ne_nil rest, (hrest rest text).mp hl⟩
  · rintro ⟨hpath, leaf, hin, hw⟩
    have hsplit : Text.split '.' (Text.join '.' path) = path := by
      refine Text.split_join hpath fun name hp => ?_
      exact dot_notMem_of_plain (hplain _ hin name (List.mem_append_right front hp))
    refine ⟨Text.join '.' path, hsplit.symm, (hrest _ text).mpr ⟨leaf, ?_, hw⟩⟩
    rwa [hsplit]

theorem goesOn_iff (ho : (Value.table table).Ordered) (hplain : PlainKeys table)
    (hn : Names root front) :
    GoesOn (settingsOf table) root path ↔
      ∃ next rest leaf, (front++(path++next::rest), leaf) ∈ (Value.table table).leaves := by
  refine exists_congr fun next => exists_congr fun rest => ?_
  simp only [entry_iff ho hplain hn]
  constructor
  · rintro ⟨text, -, leaf, hin, -⟩
    exact ⟨leaf, hin⟩
  · rintro ⟨leaf, hin⟩
    exact ⟨written leaf, by simp, leaf, hin, rfl⟩

/-- Behind a path a tree has the leaves of a value, and nodes on the way to them. -/
structure Shows (tree : Tree) (front : List String) (value : Value) : Prop where
  leaves : ∀ path text, tree.at? (front++path) = some (.leaf text) ↔
    ∃ leaf, (path, leaf) ∈ value.leaves ∧ written leaf = text
  nodes : ∀ path, tree.NodeAt (front++path) ↔
    ∃ next rest leaf, (path++next::rest, leaf) ∈ value.leaves

/-- The tree under a prefix shows the members of the table that the prefix names. -/
theorem shows_member (ho : (Value.table table).Ordered) (hplain : PlainKeys table)
    (hn : Names root front) (hat : (Value.table table).at? (front++[name]) = some value) :
    Shows ((Source.ofTable table).tree root) [name] value := by
  have hmade := made_ofTable table
  have hbehind : ∀ path leaf, (front++([name]++path), leaf) ∈ (Value.table table).leaves ↔
      (path, leaf) ∈ value.leaves := by
    intro path leaf
    rw [← List.append_assoc, ho.mem_leaves_behind hat]
  have hgoes : ∀ path, GoesOn (settingsOf table) root ([name]++path) ↔
      ∃ next rest leaf, (path++next::rest, leaf) ∈ value.leaves := by
    intro path
    rw [goesOn_iff ho hplain hn]
    simp only [List.append_assoc [name], hbehind]
  refine ⟨fun path text => ?_, fun path => ?_⟩
  · rw [hmade.leaf_tree_iff, entry_iff ho hplain hn, hgoes]
    simp only [hbehind]
    constructor
    · rintro ⟨⟨-, hleaf⟩, -⟩
      exact hleaf
    · rintro ⟨leaf, hin, hw⟩
      refine ⟨⟨List.cons_ne_nil name path, leaf, hin, hw⟩, ?_⟩
      rintro ⟨next, rest, other, hother⟩
      exact (ho.at? hat).notMem_leaves_behind hin next rest other hother
  · rw [hmade.nodeAt_tree_iff, hgoes]
    exact or_iff_right (List.cons_ne_nil name path)

theorem Shows.child (h : Shows tree [name] value) (hv : value.leaves ≠ []) :
    ∃ child, tree.children.lookup name = some child ∧ Shows child [] value := by
  have hexists : ∃ child, tree.children.lookup name = some child := by
    obtain ⟨⟨path, leaf⟩, hin⟩ := List.exists_mem_of_ne_nil _ hv
    rw [Tree.exists_member_iff]
    cases path with
    | nil => exact .inl ⟨_, (h.leaves [] _).mpr ⟨leaf, hin, rfl⟩⟩
    | cons next rest => exact .inr ((h.nodes []).mpr ⟨next, rest, leaf, hin⟩)
  obtain ⟨child, hl⟩ := hexists
  refine ⟨child, hl, fun path text => ?_, fun path => ?_⟩
  · rw [List.nil_append, ← Tree.at?_member hl]
    exact h.leaves path text
  · rw [List.nil_append, Tree.NodeAt, ← Tree.at?_member hl]
    exact h.nodes path

theorem Shows.leaves_ne_nil (h : Shows tree [name] value) {child : Tree}
    (hl : tree.children.lookup name = some child) : value.leaves ≠ [] := by
  intro hnil
  rcases Tree.exists_member_iff.mp ⟨child, hl⟩ with ⟨text, ht⟩ | hnode
  · obtain ⟨leaf, hin, -⟩ := (h.leaves [] text).mp ht
    rw [hnil] at hin
    cases hin
  · obtain ⟨next, rest, leaf, hin⟩ := (h.nodes []).mp hnode
    rw [hnil] at hin
    cases hin

theorem Shows.member (h : Shows tree [] value) (ho : value.Ordered) {member : Value}
    (hm : value.members.lookup name = some member) : Shows tree [name] member := by
  have hat : value.at? [name] = some member := by
    rw [Value.at?_cons, hm]
    rfl
  refine ⟨fun path text => ?_, fun path => ?_⟩
  · rw [← List.nil_append ([name]++path), h.leaves]
    simp only [ho.mem_leaves_behind hat]
  · rw [← List.nil_append ([name]++path), h.nodes]
    simp only [List.append_assoc [name], ho.mem_leaves_behind hat]

theorem Shows.exists_member (h : Shows tree [] value) (ho : value.Ordered) {child : Tree}
    (hl : tree.children.lookup name = some child) :
    ∃ member, value.members.lookup name = some member := by
  have hbelow : ∃ rest leaf, (name::rest, leaf) ∈ value.leaves := by
    rcases Tree.exists_member_iff.mp ⟨child, hl⟩ with ⟨text, ht⟩ | hnode
    · obtain ⟨leaf, hin, -⟩ := (h.leaves [name] text).mp ht
      exact ⟨[], leaf, hin⟩
    · obtain ⟨next, rest, leaf, hin⟩ := (h.nodes [name]).mp hnode
      exact ⟨next::rest, leaf, hin⟩
  obtain ⟨rest, leaf, hin⟩ := hbelow
  have hat := (ho.mem_leaves_iff.mp hin).1
  rw [Value.at?_cons, Option.bind_eq_some_iff] at hat
  obtain ⟨member, hm, -⟩ := hat
  exact ⟨member, hm⟩

theorem Shows.eq_leaf (h : Shows tree [] value) (hv : value.isLeaf = true) :
    tree = .leaf (written value) := by
  have hin : ([], value) ∈ value.leaves := by
    rw [Value.leaves_of_isLeaf hv]
    exact List.mem_singleton.mpr rfl
  exact Option.some.inj ((h.leaves [] _).mpr ⟨value, hin, rfl⟩)

/-! ## Texts, integers and arrays of them -/

inductive Element where
  | text
  | integer (type : IntegerType)
  | list (item : Element)

namespace Element

def shape : Element → Shape
  | .text => .text
  | .integer t => .integer t
  | .list item => .list item.shape

def Fits : Element → Value → Prop
  | .text, .text _ => True
  | .integer t, .integer n => t.holds n = true
  | .list item, .array items => items.length ≤ 0x10000000000000000 ∧ ∀ v ∈ items, item.Fits v
  | _, _ => False

end Element

mutual

def datumOf : Value → Datum
  | .integer n => .integer n
  | .array items => .list (dataOf items)
  | leaf => .text (written leaf)

def dataOf : List Value → List Datum
  | [] => []
  | item::items => datumOf item::dataOf items

end

theorem dataOf_eq (items : List Value) : dataOf items = items.map datumOf := by
  induction items with
  | nil => rw [dataOf]; rfl
  | cons item items ih => rw [dataOf, ih]; rfl

mutual

def filled : Value → Value
  | .array items => .array (filledItems items)
  | value => value

def filledItems : List Value → List Value
  | [] => []
  | item::items =>
    if item.leaves.isEmpty then filledItems items else filled item::filledItems items

end

mutual

def full : Value → Bool
  | .array items => !items.isEmpty && fullItems items
  | _ => true

def fullItems : List Value → Bool
  | [] => true
  | item::items => full item && fullItems items

end

theorem fullItems_iff {items : List Value} :
    fullItems items = true ↔ ∀ item ∈ items, full item = true := by
  induction items with
  | nil => simp [fullItems]
  | cons item items ih => simp [fullItems, ih]

def kept (items : List Value) : List (Value × Nat) :=
  items.zipIdx.filter fun entry => !entry.1.leaves.isEmpty

theorem filledItems_eq (items : List Value) :
    filledItems items = (kept items).map fun entry => filled entry.1 := by
  have hfilter : filledItems items =
      (items.filter fun item => !item.leaves.isEmpty).map filled := by
    induction items with
    | nil => rw [filledItems]; rfl
    | cons item items ih =>
      rw [filledItems, ih]
      cases h : item.leaves.isEmpty <;> simp [h]
  rw [hfilter, ← List.zipIdx_map_fst 0 items, List.filter_map, List.map_map, List.zipIdx_map_fst]
  rfl

theorem mem_kept {items : List Value} {index : Nat} :
    (value, index) ∈ kept items ↔ items[index]? = some value ∧ value.leaves ≠ [] := by
  rw [kept, List.mem_filter, List.mk_mem_zipIdx_iff_getElem?]
  simp

def keptTrees (tree : Tree) (items : List Value) : List (Nat × Tree) :=
  (kept items).map fun entry => (entry.2, tree.child (toString entry.2))

theorem inOrder_keptTrees (tree : Tree) (items : List Value) : InOrder (keptTrees tree items) := by
  have hindices : items.zipIdx.Pairwise fun a b => a.2 < b.2 := by
    rw [← List.pairwise_map (f := Prod.snd), List.zipIdx_map_snd]
    exact List.pairwise_lt_range' 1
  exact List.pairwise_map.mpr (hindices.filter _)

theorem addressed_keptTrees (tree : Tree) {items : List Value}
    (h : items.length ≤ 0x10000000000000000) : Addressed (keptTrees tree items) := by
  intro found hf
  obtain ⟨⟨value, index⟩, he, rfl⟩ := List.mem_map.mp hf
  obtain ⟨hget, -⟩ := mem_kept.mp he
  exact (List.getElem?_eq_some_iff.mp hget).1.trans_le h

theorem lookup_members_array {items : List Value} {member : Value}
    (ho : (Value.array items).Ordered) :
    (Value.array items).members.lookup name = some member ↔
      ∃ index : Nat, items[index]? = some member ∧ name = toString index := by
  rw [← ho.mem_members_iff, Value.members, List.mem_map]
  constructor
  · rintro ⟨⟨item, index⟩, hin, he⟩
    cases he
    exact ⟨index, List.mk_mem_zipIdx_iff_getElem?.mp hin, rfl⟩
  · rintro ⟨index, hget, rfl⟩
    exact ⟨(member, index), List.mk_mem_zipIdx_iff_getElem?.mpr hget, rfl⟩

/-- A tree that shows an array has a member for each item that holds something. -/
theorem Shows.mem_keptTrees {items : List Value} (h : Shows tree [] (.array items))
    (ho : (Value.array items).Ordered) (ht : tree.Ordered) (child : Tree) :
    (name, child) ∈ tree.children ↔
      ∃ index, (index, child) ∈ keptTrees tree items ∧ name = toString index := by
  rw [SortedTable.mem_iff_lookup ht.children]
  constructor
  · intro hl
    obtain ⟨member, hm⟩ := h.exists_member ho hl
    obtain ⟨index, hget, rfl⟩ := (lookup_members_array ho).mp hm
    have hne := (h.member ho hm).leaves_ne_nil hl
    refine ⟨index, List.mem_map.mpr ⟨(member, index), mem_kept.mpr ⟨hget, hne⟩, ?_⟩, rfl⟩
    rw [Tree.child, hl]
    rfl
  · rintro ⟨index, hin, rfl⟩
    obtain ⟨⟨member, found⟩, he, hc⟩ := List.mem_map.mp hin
    cases hc
    obtain ⟨hget, hne⟩ := mem_kept.mp he
    have hm := (lookup_members_array ho).mpr ⟨found, hget, rfl⟩
    obtain ⟨child, hl, -⟩ := (h.member ho hm).child hne
    rw [Tree.child, hl]
    rfl

/-- An array is bound to the list of what its items are bound to, but for those that hold
nothing. -/
theorem bindTree_array {items : List Value} {item : Shape} (ht : tree.Ordered)
    (ho : (Value.array items).Ordered) (h : Shows tree [] (.array items))
    (hlength : items.length ≤ 0x10000000000000000) (hne : (Value.array items).leaves ≠ [])
    (hitems : ∀ member ∈ items, ∀ child : Tree, child.Ordered → Shows child [] member →
      member.leaves ≠ [] → bindTree item child = .ok (datumOf (filled member))) :
    bindTree (.list item) tree = .ok (datumOf (filled (.array items))) := by
  have hkept : ((keptTrees tree items).map Prod.snd).mapM (bindTree item) =
      .ok ((kept items).map fun entry => datumOf (filled entry.1)) := by
    rw [mapM_ok_iff, keptTrees, List.map_map, List.forall₂_map_left_iff,
      List.forall₂_map_right_iff, List.forall₂_same]
    rintro ⟨member, index⟩ he
    obtain ⟨hget, hmember⟩ := mem_kept.mp he
    have hm := (lookup_members_array ho).mpr ⟨index, hget, rfl⟩
    obtain ⟨child, hl, hshows⟩ := (h.member ho hm).child hmember
    show bindTree item (tree.child (toString index)) = _
    rw [Tree.child, hl]
    exact hitems member (List.mem_of_getElem? hget) child (ht.of_lookup hl) hshows hmember
  have hmembers : ∀ name child, (name, child) ∈ tree.children ↔
      ∃ index, (index, child) ∈ keptTrees tree items ∧ name = toString index :=
    fun name child => h.mem_keptTrees ho ht child
  -- the first leaf is behind an index, so that the tree is a node
  obtain ⟨⟨path, leaf⟩, hin⟩ := List.exists_mem_of_ne_nil _ hne
  obtain ⟨next, rest, rfl⟩ := List.exists_cons_of_ne_nil (Value.ne_nil_of_mem_leaves rfl hin)
  obtain ⟨children, hnode⟩ := (h.nodes []).mpr ⟨next, rest, leaf, hin⟩
  obtain rfl : tree = .node children := Option.some.inj hnode
  have hlist : bindTree (.list item) (.node children) =
      (((keptTrees (.node children) items).map Prod.snd).mapM (bindTree item)).map .list :=
    bindTree_list (inOrder_keptTrees _ items) (addressed_keptTrees _ hlength) ht.children
      hmembers item
  rw [hlist, hkept, filled, filledItems_eq, datumOf, dataOf_eq, List.map_map]
  rfl

/-- What is shown is bound to what it is, but for the items that hold nothing. -/
theorem bindTree_shown (element : Element) (ht : tree.Ordered) (ho : value.Ordered)
    (h : Shows tree [] value) (hf : element.Fits value) (hne : value.leaves ≠ []) :
    bindTree element.shape tree = .ok (datumOf (filled value)) := by
  induction element generalizing tree value with
  | text =>
    cases value with
    | text s =>
      rw [h.eq_leaf rfl]
      rfl
    | _ => cases hf
  | integer t =>
    cases value with
    | integer n =>
      rw [h.eq_leaf rfl, bindTree_leaf]
      exact (bindText_toString t n).trans (if_pos hf)
    | _ => cases hf
  | list item ih =>
    cases value with
    | array items =>
      refine bindTree_array ht ho h hf.1 hne fun member hin child hc hshows hmember => ?_
      exact ih hc (ho.of_item hin) hshows (hf.2 member hin) hmember
    | _ => cases hf

/-- Where no array is empty, nothing is left out. -/
theorem filled_eq (element : Element) (hf : element.Fits value) (hfull : full value = true) :
    filled value = value ∧ value.leaves ≠ [] := by
  induction element generalizing value with
  | text =>
    cases value with
    | text s => exact ⟨by rw [filled]; simp, by rw [Value.leaves_of_isLeaf rfl]; simp⟩
    | _ => cases hf
  | integer t =>
    cases value with
    | integer n => exact ⟨by rw [filled]; simp, by rw [Value.leaves_of_isLeaf rfl]; simp⟩
    | _ => cases hf
  | list item ih =>
    cases value with
    | array items =>
      rw [full, Bool.and_eq_true, fullItems_iff] at hfull
      have hitem : ∀ entry ∈ items.zipIdx, filled entry.1 = entry.1 ∧ entry.1.leaves ≠ [] := by
        intro entry he
        have hin := List.fst_mem_of_mem_zipIdx he
        exact ih (hf.2 _ hin) (hfull.2 _ hin)
      have hkept : kept items = items.zipIdx :=
        List.filter_eq_self.mpr fun entry he => by simpa using (hitem entry he).2
      have hfilled : filledItems items = items := by
        rw [filledItems_eq, hkept, List.map_congr_left fun entry he => (hitem entry he).1,
          List.zipIdx_map_fst]
      refine ⟨by rw [filled, hfilled], fun hnil => ?_⟩
      cases items with
      | nil => simp at hfull
      | cons first rest =>
        rw [Value.leaves, Value.itemLeaves, List.append_eq_nil_iff, List.map_eq_nil_iff] at hnil
        exact (hitem (first, 0) List.mem_cons_self).2 hnil.1
    | _ => cases hf

theorem bind_hollow (hshows : Shows ((Source.ofTable table).tree root) [name] value)
    (hl : value.leaves = []) (item : Shape) :
    (Source.ofTable table).bind root (.record "" false [.required name (.list item)]) =
      .error ⟨normalize root, missingField name⟩ := by
  obtain ⟨children, hroot⟩ := (made_ofTable table).exists_root root
  rw [hroot] at hshows
  rw [bind_error_iff, hroot]
  refine bindTree_missing rfl ?_
  cases hc : children.lookup name with
  | none => rfl
  | some child => exact absurd hl (hshows.leaves_ne_nil hc)

/-- Loading a file with plain keys and binding the record that has an array as a list gives the
list of what the items are, in their order, if no array in it is empty. An array that holds
nothing leaves no key: such items are left out, and such a field is missing. A record with
other fields has the same list, if it is bound. -/
theorem arrays_bound {content : String} (hparse : parse? content = some table)
    (hplain : PlainKeys table) (hn : Names root front) {items : List Value}
    (hat : (Value.table table).at? (front++[name]) = some (.array items)) {item : Element}
    (hf : (Element.list item).Fits (.array items)) :
    Source.ofText? content = some (Source.ofTable table) ∧
      (full (.array items) = true → (Source.ofTable table).bind root
        (.record "" false [.required name (.list item.shape)]) =
          .ok (.record [(name, .list (items.map datumOf))])) ∧
      (Source.ofTable table).bind root (.record "" false [.required name (.list item.shape)]) =
        (if (Value.array items).leaves.isEmpty then .error ⟨normalize root, missingField name⟩
          else .ok (.record [(name, datumOf (filled (.array items)))])) ∧
      ∀ recordName strict fields field datum, (Value.array items).leaves ≠ [] →
        fields.find? (·.accepts name) = some field → field.shape = .list item.shape →
        (Source.ofTable table).bind root (.record recordName strict fields) = .ok datum →
        ∃ values, datum = .record values ∧
          values.lookup field.name = some (datumOf (filled (.array items))) := by
  have ho := Value.ordered_of_parse hparse
  have harray := ho.at? hat
  have hshows := shows_member ho hplain hn hat
  have ht := (made_ofTable table).tree_ordered root
  have hchild : (Value.array items).leaves ≠ [] →
      ∃ child, ((Source.ofTable table).tree root).children.lookup name = some child ∧
        bindTree (.list item.shape) child = .ok (datumOf (filled (.array items))) := by
    intro hl
    obtain ⟨child, hlookup, hchild⟩ := hshows.child hl
    exact ⟨child, hlookup, bindTree_shown (.list item) (ht.of_lookup hlookup) harray hchild hf hl⟩
  refine ⟨ofText?_of_parse hparse, ?_, ?_, ?_⟩
  · intro hfull
    obtain ⟨hfilled, hl⟩ := filled_eq (.list item) hf hfull
    obtain ⟨child, hlookup, hbind⟩ := hchild hl
    rw [hfilled, datumOf, dataOf_eq] at hbind
    exact bind_only ht hlookup hbind
  · split
    · rename_i hl
      exact bind_hollow hshows (List.isEmpty_iff.mp hl) item.shape
    · rename_i hl
      obtain ⟨child, hlookup, hbind⟩ := hchild fun hnil => hl (List.isEmpty_iff.mpr hnil)
      exact bind_only ht hlookup hbind
  · intro recordName strict fields field datum hl hfind hshape hbound
    obtain ⟨child, hlookup, hbind⟩ := hchild hl
    exact bind_field ht hlookup hfind (hshape ▸ hbind) hbound

def webFile : String := "[web]\nports = [[], [80, 81]]\nhosts = []\ntags = [\"a,b\"]"

def webTable : Table :=
  [("web", .table [("hosts", .array []),
    ("ports", .array [.array [], .array [.integer 80, .integer 81]]),
    ("tags", .array [.text "a,b"])])]

theorem parse_webFile : parse? webFile = some webTable := by
  decide +kernel

theorem plainKeys_webTable : PlainKeys webTable := by
  simp [PlainKeys, webTable, Value.leaves, Value.entryLeaves, Value.itemLeaves, Value.under]
  decide

theorem names_web : Names "web" ["web"] := ⟨by decide, by decide, by decide⟩

theorem webFile_bound :
    (Source.ofTable webTable).bind "web" (.record "" false [.required "tags" (.list .text)]) =
      .ok (.record [("tags", .list [.text "a,b"])]) ∧
    (Source.ofTable webTable).bind "web"
      (.record "" false [.required "ports" (.list (.list (.integer ⟨16, false⟩)))]) =
        .ok (.record [("ports", .list [.list [.integer 80, .integer 81]])]) ∧
    (Source.ofTable webTable).bind "web" (.record "" false [.required "hosts" (.list .text)]) =
      .error ⟨"web", missingField "hosts"⟩ ∧
    ∃ values, Datum.record [("name", .absent), ("tags", .list [.text "a,b"])] =
      .record values ∧ values.lookup "tags" = some (.list [.text "a,b"]) := by
  have htags : (Value.table webTable).at? ["web", "tags"] =
      some (.array [.text "a,b"]) := rfl
  have hports : (Value.table webTable).at? ["web", "ports"] = some (.array
      [.array [], .array [.integer 80, .integer 81]]) := rfl
  have hhosts : (Value.table webTable).at? ["web", "hosts"] = some (.array []) := rfl
  have htexts : (Element.list .text).Fits (.array [.text "a,b"]) :=
    ⟨by decide, by simp [Element.Fits]⟩
  have hnumbers : (Element.list (.list (.integer ⟨16, false⟩))).Fits (.array
      [.array [], .array [.integer 80, .integer 81]]) := by
    simp [Element.Fits]
    decide
  have hnone : (Element.list .text).Fits (.array []) := ⟨by decide, by simp⟩
  have hrecord : (Source.ofTable webTable).bind "web" (.record "Web" false
      [.required "name" (.optional .text), .required "tags" (.list .text)]) =
        .ok (.record [("name", .absent), ("tags", .list [.text "a,b"])]) := by
    decide +kernel
  refine ⟨?_, ?_, ?_, ?_⟩
  · exact (arrays_bound parse_webFile plainKeys_webTable names_web htags htexts).2.1 rfl
  · exact (arrays_bound parse_webFile plainKeys_webTable names_web hports hnumbers).2.2.1
  · exact (arrays_bound parse_webFile plainKeys_webTable names_web hhosts hnone).2.2.1
  · exact (arrays_bound parse_webFile plainKeys_webTable names_web htags htexts).2.2.2 _ _ _ _ _
      (by simp [Value.leaves, Value.itemLeaves]) rfl rfl hrecord

/-- Not every array comes back: an empty one has no key. -/
theorem not_every_array_bound : ¬∀ (content : String) (table : Table) (root name : String)
    (front : List String) (items : List Value) (item : Element),
    parse? content = some table → PlainKeys table → Names root front →
    (Value.table table).at? (front++[name]) = some (.array items) →
    (Element.list item).Fits (.array items) →
    (Source.ofTable table).bind root (.record "" false [.required name (.list item.shape)]) =
      .ok (.record [(name, .list (items.map datumOf))]) := by
  intro h
  have hbound := h webFile webTable "web" "hosts" ["web"] [] .text parse_webFile
    plainKeys_webTable names_web rfl ⟨by decide, by simp⟩
  have hmissing : (Source.ofTable webTable).bind "web"
      (.record "" false [.required "hosts" (.list .text)]) =
        .error ⟨"web", missingField "hosts"⟩ := by
    decide +kernel
  rw [Element.shape, hmissing] at hbound
  cases hbound

end WebApplication.Property
