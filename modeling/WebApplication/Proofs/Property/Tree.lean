import WebApplication.Proofs.SortedTable
import WebApplication.Property.Tree

/-!
# Trees grown from values at paths

A tree that has grown from values at paths has branches at a path exactly if a value was
put somewhere below it, and has a value at a path exactly if it was put there and nothing
was put below. The order in which the values came makes no difference.
-/

set_option autoImplicit false

namespace WebApplication.Property

namespace Tree

variable {tree : Tree} {path other : List String} {value : String}

def at? : Tree → List String → Option Tree
  | tree, [] => some tree
  | tree, segment::path =>
    match tree.children.lookup segment with
    | some child => child.at? path
    | none => none

def Branches (tree : Tree) (path : List String) : Prop :=
  ∃ child rest, tree.at? path = some (.node (child::rest))

inductive Ordered : Tree → Prop
  | leaf (value : String) : Ordered (.leaf value)
  | node {children : List (String × Tree)} (names : SortedTable.Ordered children)
      (members : ∀ entry ∈ children, Ordered entry.2) : Ordered (.node children)

theorem ordered_empty : empty.Ordered := .node .nil (by simp)

theorem Ordered.children (h : tree.Ordered) : SortedTable.Ordered tree.children := by
  cases h with
  | leaf value => exact .nil
  | node names _ => exact names

theorem Ordered.member (h : tree.Ordered) {entry : String × Tree} (he : entry ∈ tree.children) :
    entry.2.Ordered := by
  cases h with
  | leaf value => cases he
  | node _ members => exact members entry he

def child (tree : Tree) (segment : String) : Tree := (tree.children.lookup segment).getD empty

theorem Ordered.child (h : tree.Ordered) (segment : String) : (tree.child segment).Ordered := by
  rw [Tree.child]
  cases hl : tree.children.lookup segment with
  | none => exact ordered_empty
  | some child => exact h.member ((SortedTable.mem_iff_lookup h.children).mpr hl)

theorem at?_nil (tree : Tree) : tree.at? [] = some tree := rfl

theorem at?_cons (tree : Tree) (segment : String) (path : List String) :
    tree.at? (segment::path) = (tree.children.lookup segment).bind (·.at? path) := by
  rw [at?]
  cases tree.children.lookup segment <;> rfl

theorem at?_of_no_children (h : tree.children = []) (segment : String) :
    tree.at? (segment::path) = none := by
  rw [at?_cons, h]
  rfl

theorem at?_child {found : Tree} (hf : found ≠ empty) (segment : String) :
    (tree.child segment).at? path = some found ↔ tree.at? (segment::path) = some found := by
  rw [at?_cons, child]
  cases tree.children.lookup segment with
  | some child => rfl
  | none =>
    cases path with
    | nil => simpa [at?_nil] using hf.symm
    | cons next path =>
      have hno : empty.at? (next::path) = none := at?_of_no_children rfl next
      simp [hno]

theorem leaf_child (segment : String) :
    (tree.child segment).at? path = some (.leaf value) ↔
      tree.at? (segment::path) = some (.leaf value) :=
  at?_child (by simp [empty]) segment

theorem branches_child (segment : String) :
    (tree.child segment).Branches path ↔ tree.Branches (segment::path) :=
  exists₂_congr fun _ _ => at?_child (by simp [empty]) segment

/-! ## Inserting one value -/

theorem insert_cons (tree : Tree) (segment : String) (path : List String) (value : String) :
    tree.insert (segment::path) value = .node (SortedTable.alter segment
      (fun old => (old.getD empty).insert path value) tree.children) := rfl

theorem lookup_insert_cons (h : tree.Ordered) (segment next : String) :
    (tree.insert (segment::path) value).children.lookup next =
      if next = segment then some ((tree.child segment).insert path value)
      else tree.children.lookup next :=
  SortedTable.lookup_alter h.children _

theorem child_insert_cons (h : tree.Ordered) (segment next : String) :
    (tree.insert (segment::path) value).child next =
      if next = segment then (tree.child segment).insert path value else tree.child next := by
  rw [child, lookup_insert_cons h]
  split <;> rfl

theorem Ordered.insert (h : tree.Ordered) (path : List String) (value : String) :
    (tree.insert path value).Ordered := by
  induction path generalizing tree with
  | nil =>
    cases h with
    | leaf old => exact .leaf value
    | @node children names members =>
      cases children with
      | nil => exact .leaf value
      | cons first rest => exact .node names members
  | cons segment path ih =>
    have hnames : (tree.insert (segment::path) value).children.Ordered := h.children.alter _ _
    refine .node hnames fun entry he => ?_
    have hl := (SortedTable.mem_iff_lookup hnames).mp he
    rw [lookup_insert_cons h] at hl
    split at hl
    · rw [← Option.some.inj hl]
      exact ih (h.child segment)
    · exact h.member ((SortedTable.mem_iff_lookup h.children).mpr hl)

theorem not_branches_of_no_children (h : tree.children = []) : ¬tree.Branches path := by
  rintro ⟨child, rest, hb⟩
  cases path with
  | nil =>
    rw [Option.some.inj hb] at h
    cases h
  | cons segment path =>
    rw [at?_of_no_children h] at hb
    cases hb

theorem insert_nil_of_branches (h : tree.Branches []) : tree.insert [] value = tree := by
  obtain ⟨child, rest, h⟩ := h
  rw [Option.some.inj h]
  rfl

theorem insert_nil_of_not_branches (h : ¬tree.Branches []) (value : String) :
    tree.insert [] value = .leaf value ∧ tree.children = [] := by
  cases tree with
  | leaf old => exact ⟨rfl, rfl⟩
  | node children =>
    cases children with
    | nil => exact ⟨rfl, rfl⟩
    | cons child rest => exact absurd ⟨child, rest, rfl⟩ h

/-- Beyond a value for the path itself only the nodes on the way to it are new. -/
theorem branches_insert (h : tree.Ordered) : (tree.insert path value).Branches other ↔
    (∃ next rest, path = other++next::rest) ∨ tree.Branches other := by
  induction path generalizing tree other with
  | nil =>
    have hno : ¬∃ next rest, [] = other++next::rest := by simp
    rw [or_iff_right hno]
    by_cases hb : tree.Branches []
    · rw [insert_nil_of_branches hb]
    · obtain ⟨hleaf, hnone⟩ := insert_nil_of_not_branches hb value
      rw [hleaf]
      exact iff_of_false (not_branches_of_no_children rfl) (not_branches_of_no_children hnone)
  | cons segment path ih =>
    cases other with
    | nil =>
      obtain ⟨child, rest, hc⟩ := List.exists_cons_of_ne_nil
        (SortedTable.alter_ne_nil tree.children segment
          fun old => (old.getD empty).insert path value)
      exact iff_of_true ⟨child, rest, congrArg (fun cs => some (node cs)) hc⟩
        (.inl ⟨segment, path, rfl⟩)
    | cons next other =>
      rw [← branches_child, ← branches_child, child_insert_cons h]
      by_cases hs : next = segment
      · rw [if_pos hs, hs, ih (h.child segment)]
        simp
      · rw [if_neg hs]
        simp [Ne.symm hs]

/-- Beyond the value itself nothing is new, and values on the way to it are gone. -/
theorem leaf_insert (h : tree.Ordered) {found : String} :
    (tree.insert path value).at? other = some (.leaf found) ↔
      (other = path ∧ found = value ∧ ¬tree.Branches path) ∨
        (¬other <+: path ∧ tree.at? other = some (.leaf found)) := by
  induction path generalizing tree other with
  | nil =>
    by_cases hb : tree.Branches []
    · rw [insert_nil_of_branches hb]
      cases other with
      | nil =>
        have hn : tree.at? [] ≠ some (.leaf found) := by
          intro hl
          obtain ⟨child, rest, hn⟩ := hb
          rw [hl] at hn
          cases hn
        simp [hn, hb]
      | cons next other => simp
    · -- nothing is below, so that the value takes the place of the whole tree
      obtain ⟨hleaf, hnone⟩ := insert_nil_of_not_branches hb value
      rw [hleaf]
      cases other with
      | nil => simp [at?_nil, hb, eq_comm]
      | cons next other =>
        have hno : (leaf value).at? (next::other) = none := at?_of_no_children rfl next
        simp [hno, at?_of_no_children hnone]
  | cons segment path ih =>
    cases other with
    | nil => simp [insert_cons, at?_nil]
    | cons next other =>
      rw [← leaf_child, ← leaf_child, ← branches_child, child_insert_cons h]
      by_cases hs : next = segment
      · rw [if_pos hs, hs, ih (h.child segment)]
        simp
      · rw [if_neg hs]
        simp [hs]

/-! ## Growing -/

/-- A tree has what was put at its paths, unless something was put below. -/
structure Grown (entries : List (List String × String)) (tree : Tree) : Prop where
  ordered : tree.Ordered
  branches : ∀ path, tree.Branches path ↔
    ∃ entry ∈ entries, ∃ next rest, entry.1 = path++next::rest
  leaves : ∀ path value, tree.at? path = some (.leaf value) ↔
    (path, value) ∈ entries ∧ ¬tree.Branches path

theorem grown_empty : Grown [] empty where
  ordered := ordered_empty
  branches path := by simpa using not_branches_of_no_children rfl
  leaves path value := by
    cases path with
    | nil => simp [at?_nil, empty]
    | cons segment path =>
      have hno : empty.at? (segment::path) = none := at?_of_no_children rfl segment
      simp [hno]

variable {entries more : List (List String × String)}

theorem Grown.insert (h : Grown entries tree) (hn : path ∉ entries.map Prod.fst) :
    Grown (entries++[(path, value)]) (tree.insert path value) where
  ordered := h.ordered.insert path value
  branches other := by
    rw [branches_insert h.ordered, h.branches other]
    simp only [List.mem_append, List.mem_singleton, or_and_right, exists_or, exists_eq_left]
    exact or_comm
  leaves other found := by
    rw [leaf_insert h.ordered, branches_insert h.ordered, h.leaves other found]
    constructor
    · rintro (⟨rfl, rfl, hb⟩ | ⟨hp, hin, hb⟩)
      · -- the new value, below which there is nothing
        refine ⟨by simp, ?_⟩
        rintro (⟨next, rest, he⟩ | hb')
        · simp at he
        · exact hb hb'
      · -- an old value that is not on the way to the new one
        refine ⟨List.mem_append_left _ hin, ?_⟩
        rintro (⟨next, rest, rfl⟩ | hb')
        · exact hp (List.prefix_append other _)
        · exact hb hb'
    · rintro ⟨hin, hb⟩
      obtain ⟨hbelow, hb⟩ := not_or.mp hb
      rcases List.mem_append.mp hin with hin | hin
      · refine .inr ⟨?_, hin, hb⟩
        rintro ⟨back, he⟩
        cases back with
        | nil =>
          rw [List.append_nil] at he
          exact hn (he ▸ List.mem_map_of_mem hin)
        | cons next rest => exact hbelow ⟨next, rest, he.symm⟩
      · cases List.mem_singleton.mp hin
        exact .inl ⟨rfl, rfl, hb⟩

theorem Grown.inserts (h : Grown entries tree)
    (hn : ((entries++more).map Prod.fst).Nodup) :
    Grown (entries++more) (more.foldl (fun tree entry => tree.insert entry.1 entry.2) tree) := by
  induction more generalizing entries tree with
  | nil =>
    rw [List.append_nil]
    exact h
  | cons entry more ih =>
    have he : entries++entry::more = entries++[entry]++more := by simp
    rw [he] at hn ⊢
    have hout : entry.1 ∉ entries.map Prod.fst := by
      rw [List.map_append, List.map_append, List.append_assoc, List.nodup_append] at hn
      exact fun hin => hn.2.2 entry.1 hin entry.1 (by simp) rfl
    exact ih (h.insert hout) hn

end Tree

end WebApplication.Property
