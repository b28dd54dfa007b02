import WebApplication.Proofs.Property.Assignments
import WebApplication.Proofs.Property.Records

/-!
# Two spellings of a list

The items of a list are set one by one, each under its index, or all at once in one text with
commas. Blanks around the commas and pieces without an item make no difference to the text,
and the order of the sets makes none to the indices. Both spellings are bound alike.
-/

set_option autoImplicit false

namespace WebApplication.Property

open Schema

variable {pairs others : List (String × String)} {source other : Source}
  {root name key value text : String} {path : List String} {items : List (Nat × String)}

/-! ## Texts with commas -/

/-- Texts as the items of a list: not empty, without a comma, and without blanks around them. -/
structure IsItem (text : String) : Prop where
  ne_empty : text ≠ ""
  comma : ',' ∉ text.toList
  trimmed : Text.trim text = text

def IsBlank (text : String) : Prop := ∀ c ∈ text.toList, Text.isBlank c = true

instance (text : String) : Decidable (IsBlank text) :=
  List.decidableBAll (Text.isBlank · = true) text.toList

/-- The pieces between the commas of a text that spells a list: its items with blanks around
them, in their order, and among them any pieces without an item. -/
inductive Spells : List String → List String → Prop
  | nil : Spells [] []
  | blank {piece : String} {pieces texts : List String} (h : IsBlank piece)
      (rest : Spells pieces texts) : Spells (piece::pieces) texts
  | item {before text after : String} {pieces texts : List String} (hb : IsBlank before)
      (ha : IsBlank after) (rest : Spells pieces texts) :
      Spells ((before++text++after)::pieces) (text::texts)

theorem trim_between {before after : String} (hb : IsBlank before) (ha : IsBlank after)
    (text : String) : Text.trim (before++text++after) = Text.trim text := by
  rw [Text.trim, String.toList_append, String.toList_append, Text.trimChars_between hb ha,
    Text.trim]

theorem trim_of_isBlank (h : IsBlank text) : Text.trim text = "" := by
  have hempty : IsBlank "" := by decide
  have hnone := trim_between h hempty ""
  rwa [String.append_empty, String.append_empty] at hnone

theorem comma_notMem_of_isBlank (h : IsBlank text) : ',' ∉ text.toList := by
  intro hc
  exact absurd (h ',' hc) (by decide)

theorem Spells.comma {pieces texts : List String} (h : Spells pieces texts)
    (ht : ∀ text ∈ texts, IsItem text) : ∀ piece ∈ pieces, ',' ∉ piece.toList := by
  induction h with
  | nil => simp
  | blank hblank _ ih => exact List.forall_mem_cons.mpr ⟨comma_notMem_of_isBlank hblank, ih ht⟩
  | item hb ha _ ih =>
    obtain ⟨hfirst, hrest⟩ := List.forall_mem_cons.mp ht
    refine List.forall_mem_cons.mpr ⟨?_, ih hrest⟩
    simp [comma_notMem_of_isBlank hb, hfirst.comma, comma_notMem_of_isBlank ha]

theorem Spells.trimmed {pieces texts : List String} (h : Spells pieces texts)
    (ht : ∀ text ∈ texts, IsItem text) : (pieces.map Text.trim).filter (· ≠ "") = texts := by
  induction h with
  | nil => rfl
  | blank hblank _ ih => simpa [trim_of_isBlank hblank] using ih ht
  | item hb ha _ ih =>
    obtain ⟨hfirst, hrest⟩ := List.forall_mem_cons.mp ht
    simpa [trim_between hb ha, hfirst.trimmed, hfirst.ne_empty] using ih hrest

theorem Spells.commaItems {pieces texts : List String} (h : Spells pieces texts)
    (hne : texts ≠ []) (ht : ∀ text ∈ texts, IsItem text) :
    commaItems (Text.join ',' pieces) = texts := by
  have hpieces : pieces ≠ [] := by
    rintro rfl
    cases h
    exact hne rfl
  rw [Property.commaItems, Text.split_join hpieces (h.comma ht)]
  exact h.trimmed ht

/-! ## Sets of a field -/

def concerns (key : String) (pair : String × String) : Bool :=
  normalize pair.1 = key || (key++".").toList.isPrefixOf (normalize pair.1).toList

def normalized (pair : String × String) : String × String := (normalize pair.1, pair.2)

/-- The items are set one by one, each under its index behind the key, in whatever order. -/
structure Itemized (key : String) (items : List (Nat × String)) (pairs : List (String × String)) :
    Prop where
  inOrder : InOrder items
  addressed : Addressed items
  sets : ((pairs.filter (concerns key)).map normalized).Perm
    (items.map fun item => (key++"."++toString item.1, item.2))

structure Listed (key : String) (texts : List String) (pairs : List (String × String)) :
    Prop where
  intro ::
  exists_pieces : ∃ pieces, Spells pieces texts ∧
    (pairs.filter (concerns key)).map normalized = [(key, Text.join ',' pieces)]

theorem latest_filter (keep : String × String → Bool)
    (h : ∀ pair ∈ pairs, normalize pair.1 = key → keep pair = true) :
    latest (pairs.filter keep) key = latest pairs key := by
  have hfilter : ((pairs.filter keep).filter fun pair => normalize pair.1 = key) =
      pairs.filter fun pair => normalize pair.1 = key := by
    rw [List.filter_filter]
    refine List.filter_congr fun pair hp => ?_
    by_cases hk : normalize pair.1 = key
    · simp [hk, h pair hp hk]
    · simp [hk]
  rw [latest, latest, hfilter]

/-- Where no key is set twice, every set counts. -/
theorem latest_eq_some_iff (h : ((pairs.map normalized).map Prod.fst).Nodup) :
    latest pairs key = some value ↔ (key, value) ∈ pairs.map normalized := by
  induction pairs generalizing value with
  | nil => simp [latest]
  | cons pair pairs ih =>
    rw [List.map_cons, List.map_cons, List.nodup_cons] at h
    rw [← List.singleton_append, latest_append, latest_single, List.map_append, List.mem_append,
      ← ih h.2]
    by_cases hk : key = normalize pair.1
    · subst hk
      have hnone : latest pairs (normalize pair.1) = none := by
        rw [Option.eq_none_iff_forall_ne_some]
        intro value hv
        exact h.1 (List.mem_map.mpr ⟨_, (ih h.2).mp hv, rfl⟩)
      simp [hnone, normalized, eq_comm]
    · simp [hk, normalized]

theorem concerns_iff (key : String) (pair : String × String) : concerns key pair = true ↔
    normalize pair.1 = key ∨ ∃ rest, normalize pair.1 = key++"."++rest := by
  rw [concerns, Bool.or_eq_true, decide_eq_true_iff, List.isPrefixOf_iff_prefix]
  refine or_congr_right ⟨?_, ?_⟩
  · rintro ⟨rest, hrest⟩
    exact ⟨String.ofList rest, by simp [← String.toList_inj, ← hrest]⟩
  · rintro ⟨rest, hrest⟩
    simp [hrest]

def Within (key name : String) : Prop := name = key ∨ ∃ rest, name = key++"."++rest

theorem latest_within (hk : Within key value) :
    latest (pairs.filter (concerns key)) value = latest pairs value :=
  latest_filter (concerns key) fun pair _ hp => (concerns_iff key pair).mpr (hp ▸ hk)

theorem latest_outside (hk : ¬Within key value) :
    latest (pairs.filter fun pair => !concerns key pair) value = latest pairs value := by
  refine latest_filter _ fun pair _ hp => ?_
  rw [Bool.not_eq_true', ← Bool.not_eq_true, concerns_iff, hp]
  exact hk

theorem dot_notMem_index (index : Nat) : '.' ∉ (toString index).toList := by
  intro h
  exact absurd (isDigit_of_mem_decimal h) (by decide)

theorem split_indexed (hname : '.' ∉ name.toList) (index : Nat) :
    Text.split '.' (name++"."++toString index) = [name, toString index] := by
  have hsplit := @Text.split_append '.' name (toString index)
  rw [Text.split_of_not_mem hname, Text.split_of_not_mem (dot_notMem_index index)] at hsplit
  exact hsplit

theorem Itemized.latest_iff (h : Itemized key items pairs) {other : String}
    (hk : Within key other) : latest pairs other = some value ↔
      ∃ index, (index, value) ∈ items ∧ other = key++"."++toString index := by
  have hnames :
      ((items.map fun item => (key++"."++toString item.1, item.2)).map Prod.fst).Nodup := by
    have hindices := h.inOrder.nodup_indices.map
      (f := fun index : Nat => key++"."++toString index) fun a b hab =>
        toString_injective ((String.append_right_inj _).mp hab)
    rw [List.map_map] at hindices ⊢
    exact hindices
  rw [← latest_within hk, latest_eq_some_iff ((h.sets.map Prod.fst).nodup_iff.mpr hnames),
    h.sets.mem_iff, List.mem_map]
  constructor
  · rintro ⟨item, hin, he⟩
    cases he
    exact ⟨item.1, hin, rfl⟩
  · rintro ⟨index, hin, rfl⟩
    exact ⟨(index, value), hin, rfl⟩

/-- Where the items are set one by one, there is a value at each index, and no other one. -/
theorem Itemized.entry_iff (h : Itemized (Source.scopeOf root++name) items pairs)
    (hname : '.' ∉ name.toList) : Entry pairs root (name::path) value ↔
      ∃ index, (index, value) ∈ items ∧ path = [toString index] := by
  constructor
  · rintro ⟨rest, hsplit, hl⟩
    obtain ⟨index, hin, hrest⟩ := (h.latest_iff ((scoped_iff hname _ rest).mpr
      ⟨path, hsplit.symm⟩)).mp hl
    rw [String.append_assoc, String.append_assoc, String.append_right_inj, ← String.append_assoc]
      at hrest
    rw [hrest, split_indexed hname] at hsplit
    exact ⟨index, hin, (List.cons.inj hsplit).2⟩
  · rintro ⟨index, hin, rfl⟩
    have hsplit := split_indexed hname index
    refine ⟨name++"."++toString index, hsplit.symm, ?_⟩
    rw [h.latest_iff ((scoped_iff hname _ _).mpr ⟨_, hsplit⟩)]
    exact ⟨index, hin, by simp only [String.append_assoc]⟩

/-- Where they are set in one text, that text is all there is. -/
theorem Listed.entry_iff {texts : List String}
    (h : Listed (Source.scopeOf root++name) texts pairs) (hname : '.' ∉ name.toList) :
    ∃ pieces, Spells pieces texts ∧ ∀ path value, Entry pairs root (name::path) value ↔
      path = [] ∧ value = Text.join ',' pieces := by
  obtain ⟨pieces, hspells, hsets⟩ := h
  have hlatest : ∀ key value, Within (Source.scopeOf root++name) key →
      (latest pairs key = some value ↔
        key = Source.scopeOf root++name ∧ value = Text.join ',' pieces) := by
    intro key value hk
    rw [← latest_within hk, latest_eq_some_iff (by rw [hsets]; simp), hsets]
    simp
  refine ⟨pieces, hspells, fun path value => ⟨?_, ?_⟩⟩
  · rintro ⟨rest, hsplit, hl⟩
    obtain ⟨hrest, hvalue⟩ := (hlatest _ value ((scoped_iff hname _ rest).mpr
      ⟨path, hsplit.symm⟩)).mp hl
    rw [(String.append_right_inj _).mp hrest, Text.split_of_not_mem hname] at hsplit
    exact ⟨(List.cons.inj hsplit).2, hvalue⟩
  · rintro ⟨rfl, rfl⟩
    have hsplit := Text.split_of_not_mem hname
    exact ⟨name, hsplit.symm, (hlatest _ _ ((scoped_iff hname _ _).mpr ⟨[], hsplit⟩)).mpr
      ⟨rfl, rfl⟩⟩

theorem entry_elsewhere (hname : '.' ∉ name.toList)
    (h : (pairs.filter fun pair => !concerns (Source.scopeOf root++name) pair) =
      others.filter fun pair => !concerns (Source.scopeOf root++name) pair)
    {first : String} (hfirst : first ≠ name) :
    Entry pairs root (first::path) value ↔ Entry others root (first::path) value := by
  refine exists_congr fun rest => and_congr_right fun hsplit => ?_
  have hout : ¬Within (Source.scopeOf root++name) (Source.scopeOf root++rest) := by
    intro hin
    obtain ⟨tail, htail⟩ := (scoped_iff hname _ rest).mp hin
    rw [← hsplit] at htail
    exact hfirst (List.cons.inj htail).1
  rw [← latest_outside hout, h, latest_outside hout]

/-! ## Trees -/

/-- Where the items are set one by one, the field is a node with a value for each index. -/
theorem Itemized.child (h : Itemized (Source.scopeOf root++name) items pairs)
    (hm : Made pairs source) (hname : '.' ∉ name.toList) (hne : items ≠ []) :
    ∃ children, (source.tree root).children.lookup name = some (.node children) ∧
      ∀ first child, (first, child) ∈ children ↔ ∃ index,
        (index, child) ∈ items.map (fun item => (item.1, Tree.leaf item.2)) ∧
          first = toString index := by
  have hnode : ∀ path, (source.tree root).NodeAt (name::path) ↔ path = [] := by
    intro path
    rw [hm.nodeAt_tree_iff]
    constructor
    · rintro (hnil | ⟨next, rest, value, he⟩)
      · cases hnil
      · obtain ⟨index, -, hpath⟩ := (h.entry_iff hname).mp he
        cases path with
        | nil => rfl
        | cons first path => simp at hpath
    · rintro rfl
      obtain ⟨item, hin⟩ := List.exists_mem_of_ne_nil _ hne
      exact .inr ⟨toString item.1, [], item.2, (h.entry_iff hname).mpr ⟨item.1, hin, rfl⟩⟩
  have hleaf : ∀ first value, (source.tree root).at? [name, first] = some (.leaf value) ↔
      ∃ index, (index, value) ∈ items ∧ first = toString index := by
    intro first value
    rw [hm.leaf_tree_iff, h.entry_iff hname]
    constructor
    · rintro ⟨⟨index, hin, hpath⟩, -⟩
      exact ⟨index, hin, (List.cons.inj hpath).1⟩
    · rintro ⟨index, hin, rfl⟩
      refine ⟨⟨index, hin, rfl⟩, ?_⟩
      rintro ⟨next, rest, other, he⟩
      obtain ⟨_, -, hpath⟩ := (h.entry_iff hname).mp he
      simp at hpath
  obtain ⟨children, hat⟩ := (hnode []).mpr rfl
  rw [Tree.at?_cons, Option.bind_eq_some_iff] at hat
  obtain ⟨node, hl, hc⟩ := hat
  cases Option.some.inj hc
  have hchildren : SortedTable.Ordered children := ((hm.tree_ordered root).of_lookup hl).children
  refine ⟨children, hl, fun first child => ?_⟩
  rw [SortedTable.mem_iff_lookup hchildren]
  constructor
  · intro hc
    have hat : (source.tree root).at? [name, first] = some child := by
      rw [Tree.at?_member hl, Tree.at?_member hc, Tree.at?_nil]
    cases child with
    | leaf value =>
      obtain ⟨index, hin, rfl⟩ := (hleaf first value).mp hat
      exact ⟨index, List.mem_map.mpr ⟨(index, value), hin, rfl⟩, rfl⟩
    | node inner => exact absurd ((hnode [first]).mp ⟨inner, hat⟩) (List.cons_ne_nil first [])
  · rintro ⟨index, hin, rfl⟩
    obtain ⟨item, hitem, he⟩ := List.mem_map.mp hin
    cases he
    have hat := (hleaf (toString item.1) item.2).mpr ⟨item.1, hitem, rfl⟩
    rw [Tree.at?_member hl] at hat
    exact Tree.lookup_of_at? hat

theorem lookup_of_only (hm : Made pairs source)
    (h : ∀ path value, Entry pairs root (name::path) value ↔ path = [] ∧ value = text) :
    (source.tree root).children.lookup name = some (.leaf text) := by
  refine Tree.lookup_of_at? (hm.leaf_tree_iff.mpr ⟨(h [] text).mpr ⟨rfl, rfl⟩, ?_⟩)
  rintro ⟨next, rest, value, he⟩
  exact List.cons_ne_nil next rest ((h (next::rest) value).mp he).1

/-- Sources with the same values behind a name have the same tree there. -/
theorem lookup_eq_of_entries (hm : Made pairs source) (ho : Made others other)
    (h : ∀ path value, Entry pairs root (name::path) value ↔ Entry others root (name::path) value) :
    (source.tree root).children.lookup name = (other.tree root).children.lookup name := by
  have hgoes : ∀ path, GoesOn pairs root (name::path) ↔ GoesOn others root (name::path) :=
    fun path => exists_congr fun next => exists_congr fun rest => exists_congr fun value =>
      h (path++next::rest) value
  have hleaves : ∀ path value, (source.tree root).at? (name::path) = some (.leaf value) ↔
      (other.tree root).at? (name::path) = some (.leaf value) := by
    intro path value
    rw [hm.leaf_tree_iff, ho.leaf_tree_iff, h, hgoes]
  have hnodes : ∀ path, (source.tree root).NodeAt (name::path) ↔
      (other.tree root).NodeAt (name::path) := by
    intro path
    rw [hm.nodeAt_tree_iff, ho.nodeAt_tree_iff, hgoes]
  have hexists : (∃ child, (source.tree root).children.lookup name = some child) ↔
      ∃ child, (other.tree root).children.lookup name = some child := by
    rw [Tree.exists_member_iff, Tree.exists_member_iff, hnodes]
    exact or_congr_left (exists_congr fun value => hleaves [] value)
  cases hl : (source.tree root).children.lookup name with
  | none =>
    cases hl' : (other.tree root).children.lookup name with
    | none => rfl
    | some child =>
      obtain ⟨found, hf⟩ := hexists.mpr ⟨child, hl'⟩
      rw [hl] at hf
      cases hf
  | some child =>
    obtain ⟨found, hf⟩ := hexists.mp ⟨child, hl⟩
    have halike : Tree.Alike child found := by
      refine ⟨fun path value => ?_, fun path => ?_⟩
      · rw [← Tree.at?_member hl, ← Tree.at?_member hf, hleaves]
      · rw [Tree.NodeAt, Tree.NodeAt, ← Tree.at?_member hl, ← Tree.at?_member hf]
        exact hnodes path
    have hsame : child = found :=
      ((hm.tree_ordered root).of_lookup hl).eq_of_alike ((ho.tree_ordered root).of_lookup hf) halike
    rw [hf, hsame]

/-! ## Both spellings are bound alike -/

/-- Records cannot tell sources apart whose members are bound alike. -/
theorem bind_record_congr {strict : Bool} {fields : List (Member Shape)} {recordName : String}
    (hm : Made pairs source) (ho : Made others other)
    (h : ∀ name, Option.Rel (fun child found => ∀ field,
      fields.find? (·.accepts name) = some field →
        bindTree field.shape child = bindTree field.shape found)
      ((source.tree root).children.lookup name) ((other.tree root).children.lookup name)) :
    source.bind root (.record recordName strict fields) =
      other.bind root (.record recordName strict fields) := by
  obtain ⟨children, hsource⟩ := hm.exists_root root
  obtain ⟨found, hother⟩ := ho.exists_root root
  have hordered := (hm.tree_ordered root).children
  have hotherOrdered := (ho.tree_ordered root).children
  rw [hsource, hother] at h
  rw [hsource] at hordered
  rw [hother] at hotherOrdered
  have hbound : bindTree (.record recordName strict fields) (.node children) =
      bindTree (.record recordName strict fields) (.node found) :=
    bindTree_record_congr recordName strict
      (SortedTable.forall₂_of_lookup hordered hotherOrdered h)
  rw [Source.bind, Source.bind, hsource, hother, hbound]

theorem bindTree_indexed {children : List (String × Tree)} (ho : InOrder items)
    (ha : Addressed items) (hc : SortedTable.Ordered children)
    (hm : ∀ first child, (first, child) ∈ children ↔ ∃ index,
      (index, child) ∈ items.map (fun item => (item.1, Tree.leaf item.2)) ∧
        first = toString index) (item : Shape) :
    bindTree (.list item) (.node children) =
      ((items.map Prod.snd).mapM (bindText item)).map .list := by
  have hinOrder : InOrder (items.map fun item => (item.1, Tree.leaf item.2)) :=
    List.pairwise_map.mpr ho
  have haddressed : Addressed (items.map fun item => (item.1, Tree.leaf item.2)) := by
    intro entry he
    obtain ⟨item, hin, rfl⟩ := List.mem_map.mp he
    exact ha item hin
  have htexts : ((items.map fun item => (item.1, Tree.leaf item.2)).map Prod.snd).mapM
      (bindTree item) = (items.map Prod.snd).mapM (bindText item) := by
    apply mapM_eq_of_forall₂
    rw [List.map_map, List.forall₂_map_left_iff, List.forall₂_map_right_iff, List.forall₂_same]
    exact fun entry _ => bindTree_leaf item entry.2
  rw [bindTree_list hinOrder haddressed hc hm, htexts]

theorem bindTree_commas {pieces texts : List String} (h : Spells pieces texts)
    (hne : texts ≠ []) (ht : ∀ text ∈ texts, IsItem text) (item : Shape) :
    bindTree (.list item) (.leaf (Text.join ',' pieces)) =
      (texts.mapM (bindText item)).map .list := by
  rw [bindTree_leaf, bindText, h.commaItems hne ht]
  cases texts.mapM (bindText item) <;> rfl

/-- Two spellings of a list agree: items set one by one under increasing indices, in whatever
order, and set in one text with commas are bound to the same result in every record that has
the field as a list, whatever the items are read as. That is the list of the items in their
order, or the error of the first of them that cannot be read. -/
theorem spellings_agree (hm : Made pairs source) (ho : Made others other)
    (hne : items ≠ []) (hitems : ∀ item ∈ items, IsItem item.2) (hname : '.' ∉ name.toList)
    (hindexed : Itemized (Source.scopeOf root++name) items pairs)
    (hlisted : Listed (Source.scopeOf root++name) (items.map Prod.snd) others)
    (hrest : (pairs.filter fun pair => !concerns (Source.scopeOf root++name) pair) =
      others.filter fun pair => !concerns (Source.scopeOf root++name) pair) (item : Shape) :
    (∀ recordName strict fields field, fields.find? (·.accepts name) = some field →
      field.shape = .list item →
      source.bind root (.record recordName strict fields) =
        other.bind root (.record recordName strict fields)) ∧
    (source.bind root (.record "" false [.required name (.list item)]) =
      match (items.map Prod.snd).mapM (bindText item) with
      | .ok data => .ok (.record [(name, .list data)])
      | .error reason => .error ⟨normalize root, reason⟩) ∧
    source.bind root (.record "" false [.required name (.list .text)]) =
      .ok (.record [(name, .list (items.map fun item => .text item.2))]) := by
  obtain ⟨children, hnode, hmembers⟩ := hindexed.child hm hname hne
  obtain ⟨pieces, hspells, hentries⟩ := hlisted.entry_iff hname
  have hordered := hm.tree_ordered root
  have hchildren : SortedTable.Ordered children := (hordered.of_lookup hnode).children
  have hlist := bindTree_indexed hindexed.inOrder hindexed.addressed hchildren hmembers
  have htexts : ∀ text ∈ items.map Prod.snd, IsItem text := by
    intro text ht
    obtain ⟨item, hin, rfl⟩ := List.mem_map.mp ht
    exact hitems item hin
  refine ⟨?_, ?_, ?_⟩
  · intro recordName strict fields field hfind hshape
    refine bind_record_congr hm ho fun first => ?_
    by_cases hfirst : first = name
    · subst hfirst
      rw [hnode, lookup_of_only ho hentries]
      refine .some fun found hfound => ?_
      cases Option.some.inj (hfind.symm.trans hfound)
      rw [hshape, hlist, bindTree_commas hspells (by simpa using hne) htexts]
    · rw [lookup_eq_of_entries hm ho fun path value => entry_elsewhere hname hrest hfirst]
      cases (other.tree root).children.lookup first with
      | none => exact .none
      | some child => exact .some fun _ _ => rfl
  · cases hr : (items.map Prod.snd).mapM (bindText item) with
    | ok data => exact bind_only hordered hnode (by rw [hlist, hr]; rfl)
    | error reason => exact bind_only_error hordered hnode (by rw [hlist, hr]; rfl)
  · have htext : (items.map Prod.snd).mapM (bindText .text) =
        .ok ((items.map Prod.snd).map .text) := mapM_eq_map fun text _ => rfl
    rw [List.map_map] at htext
    exact bind_only hordered hnode (by rw [hlist, htext]; rfl)

def indexedTags : List (String × String) :=
  [("web.port", "80"), ("web.tags.10", "c"), ("Web.Tags.2", "b"), ("web.tags.0", "a")]

def listedTags : List (String × String) := [("web.tags", "a, b ,,\tc,"), ("web.port", "80")]

theorem tags_agree :
    (Source.ofList indexedTags).bind "web" (.record "" false [.required "tags" (.list .text)]) =
        .ok (.record [("tags", .list [.text "a", .text "b", .text "c"])]) ∧
      (Source.ofList indexedTags).bind "web" (.record "" false [.required "tags" (.list .text)]) =
        (Source.ofList listedTags).bind "web"
          (.record "" false [.required "tags" (.list .text)]) := by
  have hitems : ∀ item ∈ [(0, "a"), (2, "b"), (10, "c")], IsItem item.2 := by
    simp only [List.forall_mem_cons, List.not_mem_nil, false_implies, implies_true, and_true]
    exact ⟨⟨by decide, by decide, by decide⟩, ⟨by decide, by decide, by decide⟩,
      ⟨by decide, by decide, by decide⟩⟩
  have hindexed : Itemized (Source.scopeOf "web"++"tags") [(0, "a"), (2, "b"), (10, "c")]
      indexedTags := ⟨by simp [InOrder], by simp [Addressed], by decide⟩
  have hlisted : Listed (Source.scopeOf "web"++"tags") ["a", "b", "c"] listedTags := by
    refine ⟨[""++"a"++"", " "++"b"++" ", "", "\t"++"c"++"", ""], ?_, by decide⟩
    exact .item (by decide) (by decide) (.item (by decide) (by decide) (.blank (by decide)
      (.item (by decide) (by decide) (.blank (by decide) .nil))))
  obtain ⟨hsame, -, htags⟩ := spellings_agree (made_ofList indexedTags) (made_ofList listedTags)
    (List.cons_ne_nil _ _) hitems (by decide) hindexed hlisted (by decide) .text
  exact ⟨htags, hsame "" false _ _ (List.find?_cons_of_pos (by decide)) rfl⟩

end WebApplication.Property
