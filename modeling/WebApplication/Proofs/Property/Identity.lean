import WebApplication.Proofs.Property.Tree

/-!
# Trees are what is seen in them

Two trees with the same values and the same nodes at every path are the same. A tree that
has grown from values has a node at a path exactly if it is the root or something was put
below the path, so that the order in which the values came cannot be told from it.
-/

set_option autoImplicit false

namespace WebApplication.Property.Tree

variable {tree other : Tree} {path : List String} {name value : String}
  {entries others : List (List String × String)}

/-! ## What tells trees apart -/

def NodeAt (tree : Tree) (path : List String) : Prop :=
  ∃ children, tree.at? path = some (.node children)

structure Alike (tree other : Tree) : Prop where
  leaves : ∀ path value,
    tree.at? path = some (.leaf value) ↔ other.at? path = some (.leaf value)
  nodes : ∀ path, tree.NodeAt path ↔ other.NodeAt path

theorem at?_member {child : Tree} (h : tree.children.lookup name = some child) :
    tree.at? (name::path) = child.at? path := by
  rw [at?_cons, h]
  rfl

theorem Ordered.of_lookup (h : tree.Ordered) {child : Tree}
    (hl : tree.children.lookup name = some child) : child.Ordered :=
  h.member ((SortedTable.mem_iff_lookup h.children).mpr hl)

theorem lookup_of_at? {child : Tree} (h : tree.at? [name] = some child) :
    tree.children.lookup name = some child := by
  rw [at?_cons, Option.bind_eq_some_iff] at h
  obtain ⟨found, hl, hc⟩ := h
  rw [hl, ← Option.some.inj hc]

/-- A member is a value or a node. -/
theorem exists_member_iff : (∃ child, tree.children.lookup name = some child) ↔
    (∃ value, tree.at? [name] = some (.leaf value)) ∨ tree.NodeAt [name] := by
  constructor
  · rintro ⟨child, hl⟩
    have hchild : tree.at? [name] = some child := by rw [at?_member hl, at?_nil]
    cases child with
    | leaf value => exact .inl ⟨value, hchild⟩
    | node children => exact .inr ⟨children, hchild⟩
  · intro h
    cases hl : tree.children.lookup name with
    | some child => exact ⟨child, rfl⟩
    | none =>
      have hnone : tree.at? [name] = none := by rw [at?_cons, hl]; rfl
      rcases h with ⟨value, hv⟩ | ⟨children, hc⟩
      · rw [hnone] at hv
        cases hv
      · rw [hnone] at hc
        cases hc

theorem Alike.member (h : Alike tree other) {child found : Tree}
    (hl : tree.children.lookup name = some child)
    (ho : other.children.lookup name = some found) : Alike child found where
  leaves path value := by rw [← at?_member hl, ← at?_member ho, h.leaves]
  nodes path := by
    rw [NodeAt, NodeAt, ← at?_member hl, ← at?_member ho]
    exact h.nodes (name::path)

theorem Alike.lookup (h : Alike tree other) (name : String) :
    (∃ child, tree.children.lookup name = some child) ↔
      ∃ child, other.children.lookup name = some child := by
  rw [exists_member_iff, exists_member_iff, h.nodes]
  exact or_congr_left (exists_congr fun value => h.leaves [name] value)

theorem Ordered.eq_of_alike (h : tree.Ordered) (ho : other.Ordered) (ha : Alike tree other) :
    tree = other := by
  induction h generalizing other with
  | leaf value => exact (Option.some.inj ((ha.leaves [] value).mp rfl)).symm
  | @node children names members ih =>
    obtain ⟨found, hf⟩ := (ha.nodes []).mp ⟨children, rfl⟩
    cases Option.some.inj hf
    refine congrArg Tree.node (SortedTable.eq_of_lookup names ho.children fun name => ?_)
    have hname := ha.lookup name
    cases hl : (Tree.node children).children.lookup name with
    | none =>
      cases hl' : (Tree.node found).children.lookup name with
      | none => exact hl.trans hl'.symm
      | some child' =>
        obtain ⟨child, hc⟩ := hname.mpr ⟨child', hl'⟩
        rw [hl] at hc
        cases hc
    | some child =>
      obtain ⟨child', hl'⟩ := hname.mp ⟨child, hl⟩
      have hin : (name, child) ∈ children := (SortedTable.mem_iff_lookup names).mpr hl
      have hordered : child'.Ordered :=
        ho.member ((SortedTable.mem_iff_lookup ho.children).mpr hl')
      have hchild : child = child' := ih _ hin hordered (ha.member hl hl')
      exact hl.trans (hchild ▸ hl'.symm)

/-! ## Nodes of trees that have grown -/

def Dense (tree : Tree) : Prop := ∀ segment path, tree.at? (segment::path) ≠ some empty

theorem dense_empty : Dense empty := by
  intro segment path h
  rw [at?_of_no_children rfl] at h
  cases h

theorem Dense.child (h : tree.Dense) (segment : String) : (tree.child segment).Dense := by
  intro next path he
  rw [Tree.child] at he
  cases hl : tree.children.lookup segment with
  | none =>
    rw [hl] at he
    exact dense_empty next path he
  | some child =>
    rw [hl] at he
    exact h segment (next::path) ((at?_member hl).trans he)

theorem insert_ne_empty (tree : Tree) (path : List String) (value : String) :
    tree.insert path value ≠ empty := by
  cases path with
  | nil =>
    cases tree with
    | leaf old => simp [insert, empty]
    | node children => cases children <;> simp [insert, empty]
  | cons segment path =>
    rw [insert_cons, empty, Ne, node.injEq]
    exact SortedTable.alter_ne_nil _ _ _

theorem Dense.insert (h : tree.Dense) (ho : tree.Ordered) (path : List String)
    (value : String) : (tree.insert path value).Dense := by
  induction path generalizing tree with
  | nil =>
    by_cases hb : tree.Branches []
    · rw [insert_nil_of_branches hb]
      exact h
    · obtain ⟨hleaf, -⟩ := insert_nil_of_not_branches hb value
      intro segment path he
      rw [hleaf, at?_of_no_children rfl] at he
      cases he
  | cons segment path ih =>
    intro next rest he
    have hlookup : (tree.insert (segment::path) value).children.lookup next =
        if next = segment then some ((tree.child segment).insert path value)
        else tree.children.lookup next := lookup_insert_cons ho segment next
    by_cases hs : next = segment
    · rw [if_pos hs] at hlookup
      rw [at?_member hlookup] at he
      cases rest with
      | nil => exact insert_ne_empty _ path value (Option.some.inj he)
      | cons next rest => exact ih (h.child segment) (ho.child segment) next rest he
    · rw [if_neg hs] at hlookup
      rw [at?_cons, hlookup, ← at?_cons] at he
      exact h next rest he

def grow (entries : List (List String × String)) : Tree :=
  entries.foldl (fun tree entry => tree.insert entry.1 entry.2) empty

theorem dense_grow (entries : List (List String × String)) : (grow entries).Dense := by
  have hboth : (grow entries).Dense ∧ (grow entries).Ordered := by
    refine List.foldlRecOn (motive := fun tree : Tree => tree.Dense ∧ tree.Ordered) entries _
      ⟨dense_empty, ordered_empty⟩ fun tree h entry _ => ?_
    exact ⟨h.1.insert h.2 entry.1 entry.2, h.2.insert entry.1 entry.2⟩
  exact hboth.1

theorem grown_grow (h : (entries.map Prod.fst).Nodup) : Grown entries (grow entries) :=
  grown_empty.inserts (by simpa using h)

/-- There is a node at the root and where something is below, and nowhere else. -/
theorem nodeAt_grow_iff (h : (entries.map Prod.fst).Nodup) (hroot : [] ∉ entries.map Prod.fst) :
    (grow entries).NodeAt path ↔ path = [] ∨ (grow entries).Branches path := by
  constructor
  · rintro ⟨children, hc⟩
    cases children with
    | nil =>
      cases path with
      | nil => exact .inl rfl
      | cons segment path => exact absurd hc (dense_grow entries segment path)
    | cons child rest => exact .inr ⟨child, rest, hc⟩
  · rintro (rfl | ⟨child, rest, hc⟩)
    · cases hg : grow entries with
      | node children => exact ⟨children, rfl⟩
      | leaf value =>
        have hleaf : (grow entries).at? [] = some (.leaf value) := by rw [hg]; rfl
        have hin := ((grown_grow h).leaves [] value).mp hleaf
        exact absurd (List.mem_map_of_mem hin.1) hroot
    · exact ⟨_, hc⟩

/-- A tree is the same whichever way it has grown from the same values. -/
theorem grow_eq_of_mem_iff (h : (entries.map Prod.fst).Nodup) (ho : (others.map Prod.fst).Nodup)
    (hroot : [] ∉ entries.map Prod.fst) (hm : ∀ entry, entry ∈ entries ↔ entry ∈ others) :
    grow entries = grow others := by
  have hroot' : [] ∉ others.map Prod.fst := by
    intro hin
    obtain ⟨entry, he, hnil⟩ := List.mem_map.mp hin
    exact hroot (List.mem_map.mpr ⟨entry, (hm entry).mpr he, hnil⟩)
  have hbranches : ∀ path, (grow entries).Branches path ↔ (grow others).Branches path := by
    intro path
    rw [(grown_grow h).branches, (grown_grow ho).branches]
    exact exists_congr fun entry => and_congr_left' (hm entry)
  refine (grown_grow h).ordered.eq_of_alike (grown_grow ho).ordered ⟨?_, ?_⟩
  · intro path value
    rw [(grown_grow h).leaves, (grown_grow ho).leaves, hm, hbranches]
  · intro path
    rw [nodeAt_grow_iff h hroot, nodeAt_grow_iff ho hroot', hbranches]

end WebApplication.Property.Tree
