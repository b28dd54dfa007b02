import WebApplication.Proofs.Property.Tree
import WebApplication.Property.Bind

/-!
# Binding a value at a path

A record that takes nothing but a value at a path is bound to what the shape of the value
makes of the text there. Other members of the tree make no difference.
-/

set_option autoImplicit false

namespace WebApplication.Schema

def Shape.along : List String → Shape → Shape
  | [], shape => shape
  | name::path, shape => .record "" false [.required name (along path shape)]

def Datum.along : List String → Datum → Datum
  | [], datum => datum
  | name::path, datum => .record [(name, along path datum)]

end WebApplication.Schema

namespace WebApplication.Property

open Schema

variable {tree : Tree} {path : List String} {name value : String} {shape : Shape}

/-! ## Texts and lists -/

theorem bindTree_leaf (shape : Shape) (value : String) :
    bindTree shape (.leaf value) = bindText shape value := by
  rw [bindTree]

theorem indexed_single {name : String} {index : Nat} (h : word? name = some index)
    (child : Tree) : indexed [(name, child)] = .ok [child] := by
  simp only [indexed, List.mapM_cons, List.mapM_nil, h]
  show Except.ok (([(index, child)].mergeSort _).map Prod.snd) = _
  rw [List.mergeSort_singleton]
  rfl

theorem bindTree_single {name : String} {index : Nat} (h : word? name = some index)
    (item : Shape) (child : Tree) :
    bindTree (.list item) (.node [(name, child)]) =
      (bindTree item child).map fun datum => .list [datum] := by
  rw [bindTree, indexed_single h]
  show ([child].mapM fun child => bindTree item child).map Datum.list = _
  rw [List.mapM_cons]
  cases bindTree item child <;> rfl

/-! ## Records of one field -/

theorem bindMember_other {key : String} (h : key ≠ name) (seen : List (String × Datum))
    (child : Tree) :
    bindMember false [name] [.required name shape] seen key child = .ok seen := by
  have hne : (name == key) = false := by simpa using h.symm
  rw [bindMember.eq_def]
  simp [Member.required, hne, bindMember]

theorem bindMember_self (child : Tree) :
    bindMember false [name] [.required name shape] [] name child =
      (bindTree shape child).map fun datum => [(name, datum)] := by
  rw [bindMember.eq_def]
  simp only [Member.required, BEq.rfl, Bool.true_or, List.lookup_nil, Option.isSome_none,
    Bool.false_eq_true, if_true, if_false]
  cases bindTree shape child <;> rfl

def bindOnly (name : String) (shape : Shape) (children : List (String × Tree))
    (seen : List (String × Datum)) : Except String (List (String × Datum)) :=
  children.foldlM (fun seen (key, child) =>
    bindMember false [name] [.required name shape] seen key child) seen

theorem bindOnly_cons (entry : String × Tree) (rest : List (String × Tree))
    (seen : List (String × Datum)) :
    bindOnly name shape (entry::rest) seen =
      (bindMember false [name] [.required name shape] seen entry.1 entry.2).bind
        (bindOnly name shape rest) := by
  rw [bindOnly, List.foldlM_cons]
  rfl

theorem bindOnly_others {children : List (String × Tree)}
    (h : ∀ entry ∈ children, entry.1 ≠ name) (seen : List (String × Datum)) :
    bindOnly name shape children seen = .ok seen := by
  induction children with
  | nil => rfl
  | cons entry rest ih =>
    rw [bindOnly_cons, bindMember_other (h entry (by simp))]
    exact ih fun next hn => h next (by simp [hn])

theorem bindOnly_member {children : SortedTable Tree} (h : children.Ordered) {child : Tree}
    (hl : children.lookup name = some child) :
    bindOnly name shape children [] =
      (bindTree shape child).map fun datum => [(name, datum)] := by
  induction children with
  | nil => cases hl
  | cons entry rest ih =>
    obtain ⟨hlt, hrest⟩ := SortedTable.ordered_cons.mp h
    rw [SortedTable.lookup_cons] at hl
    rw [bindOnly_cons]
    split at hl
    · rename_i he
      have hothers : ∀ next ∈ rest, next.1 ≠ name := fun next hn => he ▸ (hlt next hn).ne'
      rw [← he, Option.some.inj hl, bindMember_self]
      cases bindTree shape child with
      | error reason => rfl
      | ok datum => exact bindOnly_others hothers _
    · rename_i hne
      rw [bindMember_other (Ne.symm hne)]
      exact ih hrest hl

theorem complete_only (datum : Datum) :
    complete [.required name shape] [(name, datum)] = .ok [(name, datum)] := by
  simp [complete, Member.required]

theorem bindTree_record (name : String) (shape : Shape) (children : List (String × Tree)) :
    bindTree (.record "" false [.required name shape]) (.node children) =
      (bindOnly name shape children []).bind fun seen =>
        (complete [.required name shape] seen).map .record := by
  rw [bindTree]
  rfl

theorem bindTree_only (h : tree.Ordered) {child : Tree}
    (hl : tree.children.lookup name = some child) :
    bindTree (.record "" false [.required name shape]) tree =
      (bindTree shape child).map fun datum => .record [(name, datum)] := by
  cases tree with
  | leaf old => cases hl
  | node children =>
    have hmember : bindOnly name shape children [] =
        (bindTree shape child).map fun datum => [(name, datum)] := bindOnly_member h.children hl
    rw [bindTree_record, hmember]
    cases bindTree shape child with
    | error reason => rfl
    | ok datum =>
      show (complete _ _).map Datum.record = _
      rw [complete_only]
      rfl

theorem bindTree_along (h : tree.Ordered) (hv : tree.at? path = some (.leaf value))
    (shape : Shape) :
    bindTree (.along path shape) tree = (bindText shape value).map (.along path) := by
  induction path generalizing tree with
  | nil =>
    rw [Option.some.inj hv, Shape.along, bindTree_leaf]
    cases bindText shape value <;> rfl
  | cons name path ih =>
    rw [Tree.at?_cons, Option.bind_eq_some_iff] at hv
    obtain ⟨child, hl, hv⟩ := hv
    have hchild : child.Ordered := h.member ((SortedTable.mem_iff_lookup h.children).mpr hl)
    rw [Shape.along, bindTree_only h hl, ih hchild hv]
    cases bindText shape value <;> rfl

end WebApplication.Property
