import Mathlib.Data.List.Nodup
import WebApplication.Proofs.Property.Bind
import WebApplication.Proofs.Property.Numerals
import WebApplication.Proofs.Traversal

/-!
# Binding records and lists

A member of a node goes to the first field of a record that accepts its name, and a record
that is bound has what that member is bound to. A record cannot tell two nodes apart whose
members have the same names and are bound alike. A node whose members are named by indices is
bound to the list of what they are bound to, in the order of the indices.
-/

set_option autoImplicit false

namespace WebApplication.Property

open Schema

variable {strict : Bool} {fields : List (Member Shape)} {field : Member Shape}
  {children others : List (String × Tree)} {seen : List (String × Datum)} {key : String}
  {child : Tree}

/-! ## Fields -/

/-- A member of a node goes to the first field that accepts its name. -/
theorem bindMember_eq (strict : Bool) (known : List String) (fields : List (Member Shape))
    (seen : List (String × Datum)) (key : String) (child : Tree) :
    bindMember strict known fields seen key child =
      match fields.find? (·.accepts key) with
      | none => if strict then .error (unknownField key known) else .ok seen
      | some field =>
        if (seen.lookup field.name).isSome then .error (duplicateField field.name)
        else (bindTree field.shape child).map fun datum => (field.name, datum)::seen := by
  induction fields with
  | nil => rw [bindMember.eq_def]; rfl
  | cons field fields ih =>
    rw [bindMember.eq_def]
    by_cases h : field.accepts key = true
    · have hcond : (field.name == key || field.others.contains key) = true := h
      have hfind : (field::fields).find? (·.accepts key) = some field :=
        List.find?_cons_of_pos h
      rw [hfind]
      simp only [hcond, if_true]
      split
      · rfl
      · cases bindTree field.shape child <;> rfl
    · have hcond : ¬ (field.name == key || field.others.contains key) = true := h
      have hfind : (field::fields).find? (·.accepts key) = fields.find? (·.accepts key) :=
        List.find?_cons_of_neg h
      rw [hfind, ← ih]
      simp only [if_neg hcond]

def bindMembers (strict : Bool) (fields : List (Member Shape)) (children : List (String × Tree))
    (seen : List (String × Datum)) : Except String (List (String × Datum)) :=
  children.foldlM (fun seen (key, child) =>
    bindMember strict (fields.map Member.name) fields seen key child) seen

theorem bindMembers_cons (entry : String × Tree) (rest : List (String × Tree))
    (seen : List (String × Datum)) :
    bindMembers strict fields (entry::rest) seen =
      (bindMember strict (fields.map Member.name) fields seen entry.1 entry.2).bind
        (bindMembers strict fields rest) := by
  rw [bindMembers, List.foldlM_cons]
  rfl

theorem bindTree_fields (name : String) (strict : Bool) (fields : List (Member Shape))
    (children : List (String × Tree)) :
    bindTree (.record name strict fields) (.node children) =
      (bindMembers strict fields children []).bind fun seen =>
        (complete fields seen).map .record := by
  rw [bindTree]
  rfl

/-- What was bound before stays, and nothing is bound twice. -/
theorem lookup_of_bindMember {known : List String} {next : List (String × Datum)}
    (h : bindMember strict known fields seen key child = .ok next) {name : String} {datum : Datum}
    (hl : seen.lookup name = some datum) : next.lookup name = some datum := by
  rw [bindMember_eq] at h
  split at h
  · split at h
    · cases h
    · cases h
      exact hl
  · rename_i field _
    split at h
    · cases h
    · rename_i hnew
      cases hb : bindTree field.shape child with
      | error reason =>
        rw [hb] at h
        cases h
      | ok found =>
        rw [hb] at h
        cases h
        have hne : name ≠ field.name := by
          rintro rfl
          simp [hl] at hnew
        rw [SortedTable.lookup_cons, if_neg hne]
        exact hl

theorem lookup_of_bindMembers {all : List (String × Datum)}
    (h : bindMembers strict fields children seen = .ok all) {name : String} {datum : Datum}
    (hl : seen.lookup name = some datum) : all.lookup name = some datum := by
  induction children generalizing seen with
  | nil =>
    cases h
    exact hl
  | cons entry rest ih =>
    rw [bindMembers_cons] at h
    cases hb : bindMember strict (fields.map Member.name) fields seen entry.1 entry.2 with
    | error reason =>
      rw [hb] at h
      cases h
    | ok next =>
      rw [hb] at h
      exact ih h (lookup_of_bindMember hb hl)

/-- Every member that a field accepts is bound, and kept under the name of the field. -/
theorem bound_of_bindMembers {all : List (String × Datum)}
    (h : bindMembers strict fields children seen = .ok all) (hin : (key, child) ∈ children)
    (hf : fields.find? (·.accepts key) = some field) :
    ∃ datum, bindTree field.shape child = .ok datum ∧ all.lookup field.name = some datum := by
  induction children generalizing seen with
  | nil => cases hin
  | cons entry rest ih =>
    rw [bindMembers_cons] at h
    cases hb : bindMember strict (fields.map Member.name) fields seen entry.1 entry.2 with
    | error reason =>
      rw [hb] at h
      cases h
    | ok next =>
      rw [hb] at h
      rcases List.mem_cons.mp hin with rfl | hin
      · rw [bindMember_eq, hf] at hb
        dsimp only at hb
        split at hb
        · cases hb
        · cases ht : bindTree field.shape child with
          | error reason =>
            rw [ht] at hb
            cases hb
          | ok datum =>
            rw [ht] at hb
            cases hb
            exact ⟨datum, rfl, lookup_of_bindMembers h (by simp)⟩
      · exact ih h hin

theorem lookup_of_complete {values : List (String × Datum)}
    (h : complete fields seen = .ok values) (hf : field ∈ fields) {datum : Datum}
    (hl : seen.lookup field.name = some datum) : values.lookup field.name = some datum := by
  have hall := mapM_ok_iff.mp h
  clear h
  induction hall with
  | nil => cases hf
  | @cons first value fields values hfirst _ ih =>
    by_cases hname : first.name = field.name
    · rw [hname, hl] at hfirst
      cases hfirst
      simp
    · have hin : field ∈ fields := by
        rcases List.mem_cons.mp hf with rfl | hin
        · exact absurd rfl hname
        · exact hin
      have hvalue : value.1 = first.name := by
        split at hfirst
        · cases hfirst; rfl
        · split at hfirst
          · cases hfirst; rfl
          · cases hfirst
      rw [SortedTable.lookup_cons, hvalue, if_neg (Ne.symm hname)]
      exact ih hin

/-- A record that is bound has what the member of each field is bound to. -/
theorem field_of_bound {name : String} {tree : Tree} {datum : Datum} (ht : tree.Ordered)
    (h : bindTree (.record name strict fields) tree = .ok datum)
    (hl : tree.children.lookup key = some child)
    (hf : fields.find? (·.accepts key) = some field) :
    ∃ values value, datum = .record values ∧ bindTree field.shape child = .ok value ∧
      values.lookup field.name = some value := by
  cases tree with
  | leaf text => cases hl
  | node children =>
    rw [bindTree_fields] at h
    cases hb : bindMembers strict fields children [] with
    | error reason =>
      rw [hb] at h
      cases h
    | ok all =>
      rw [hb] at h
      cases hc : complete fields all with
      | error reason =>
        rw [Except.bind, hc] at h
        cases h
      | ok values =>
        rw [Except.bind, hc] at h
        cases h
        have hin : (key, child) ∈ children := (SortedTable.mem_iff_lookup ht.children).mpr hl
        obtain ⟨value, hvalue, hall⟩ := bound_of_bindMembers hb hin hf
        exact ⟨values, value, rfl, hvalue,
          lookup_of_complete hc (List.mem_of_find?_eq_some hf) hall⟩

/-- Members of the same names that are bound alike make the same record. -/
theorem bindTree_record_congr (name : String) (strict : Bool)
    (h : List.Forall₂ (fun entry other : String × Tree => entry.1 = other.1 ∧
      ∀ field, fields.find? (·.accepts entry.1) = some field →
        bindTree field.shape entry.2 = bindTree field.shape other.2) children others) :
    bindTree (.record name strict fields) (.node children) =
      bindTree (.record name strict fields) (.node others) := by
  have hmembers : ∀ seen, bindMembers strict fields children seen =
      bindMembers strict fields others seen := by
    induction h with
    | nil => exact fun _ => rfl
    | @cons entry other children others hentry _ ih =>
      intro seen
      have hstep : bindMember strict (fields.map Member.name) fields seen entry.1 entry.2 =
          bindMember strict (fields.map Member.name) fields seen other.1 other.2 := by
        obtain ⟨hname, halike⟩ := hentry
        rw [bindMember_eq, bindMember_eq, ← hname]
        cases hf : fields.find? (·.accepts entry.1) with
        | none => rfl
        | some field => simp only [halike field hf]
      rw [bindMembers_cons, bindMembers_cons, hstep]
      exact congrArg _ (funext ih)
  rw [bindTree_fields, bindTree_fields, hmembers]

theorem bindTree_missing {name : String} {shape : Shape} (hs : shape.isOptional = false)
    (h : children.lookup name = none) :
    bindTree (.record "" false [.required name shape]) (.node children) =
      .error (missingField name) := by
  rw [bindTree_record, bindOnly_others (SortedTable.lookup_eq_none_iff.mp h)]
  simp [complete, Member.required, Member.whenMissing, hs, Except.bind, Except.map]

/-! ## Sources -/

variable {source : Source} {root name : String} {shape : Shape}

theorem bind_ok_iff {datum : Datum} :
    source.bind root shape = .ok datum ↔ bindTree shape (source.tree root) = .ok datum := by
  rw [Source.bind]
  cases bindTree shape (source.tree root) <;> simp

theorem bind_error_iff {reason : String} :
    source.bind root shape = .error ⟨normalize root, reason⟩ ↔
      bindTree shape (source.tree root) = .error reason := by
  rw [Source.bind]
  cases bindTree shape (source.tree root) <;> simp

theorem bind_only (ht : (source.tree root).Ordered)
    (hl : (source.tree root).children.lookup name = some child) {datum : Datum}
    (h : bindTree shape child = .ok datum) :
    source.bind root (.record "" false [.required name shape]) = .ok (.record [(name, datum)]) := by
  rw [bind_ok_iff, bindTree_only ht hl, h]
  rfl

theorem bind_only_error (ht : (source.tree root).Ordered)
    (hl : (source.tree root).children.lookup name = some child) {reason : String}
    (h : bindTree shape child = .error reason) :
    source.bind root (.record "" false [.required name shape]) =
      .error ⟨normalize root, reason⟩ := by
  rw [bind_error_iff, bindTree_only ht hl, h]
  rfl

theorem bind_field (ht : (source.tree root).Ordered)
    (hl : (source.tree root).children.lookup name = some child) {recordName : String}
    {datum value : Datum} (hf : fields.find? (·.accepts name) = some field)
    (h : bindTree field.shape child = .ok value)
    (hb : source.bind root (.record recordName strict fields) = .ok datum) :
    ∃ values, datum = .record values ∧ values.lookup field.name = some value := by
  obtain ⟨values, found, rfl, hfound, hlookup⟩ := field_of_bound ht (bind_ok_iff.mp hb) hl hf
  rw [h] at hfound
  cases hfound
  exact ⟨values, rfl, hlookup⟩

/-! ## Lists -/

def InOrder {α : Type} (items : List (Nat × α)) : Prop := items.Pairwise fun a b => a.1 < b.1

theorem InOrder.nodup_indices {α : Type} {items : List (Nat × α)} (h : InOrder items) :
    (items.map Prod.fst).Nodup := by
  rw [List.Nodup, List.pairwise_map]
  exact List.Pairwise.imp Nat.ne_of_lt h

theorem mergeSort_of_perm {α : Type} {pairs items : List (Nat × α)} (h : InOrder items)
    (hp : pairs.Perm items) : pairs.mergeSort (fun a b => a.1 ≤ b.1) = items := by
  have hsorted : (pairs.mergeSort fun a b => a.1 ≤ b.1).Pairwise fun a b => a.1 ≤ b.1 := by
    simpa using @List.pairwise_mergeSort _ (fun a b : Nat × α => decide (a.1 ≤ b.1))
      (fun a b c => by simpa using Nat.le_trans) (fun a b => by simpa using Nat.le_total a.1 b.1)
      pairs
  have hperm : (pairs.mergeSort fun a b => a.1 ≤ b.1).Perm items :=
    (List.mergeSort_perm pairs _).trans hp
  have hitems : items.Pairwise fun a b => a.1 ≤ b.1 := List.Pairwise.imp Nat.le_of_lt h
  refine hperm.eq_of_pairwise (fun a b ha hb hab hba => ?_) hsorted hitems
  exact List.inj_on_of_nodup_map h.nodup_indices (hperm.mem_iff.mp ha) hb (Nat.le_antisymm hab hba)

def Addressed {α : Type} (items : List (Nat × α)) : Prop :=
  ∀ entry ∈ items, entry.1 < 0x10000000000000000

theorem indexed_of_perm {trees : List (Nat × Tree)} (ho : InOrder trees) (ha : Addressed trees)
    (hp : children.Perm (trees.map fun entry => (toString entry.1, entry.2))) :
    indexed children = .ok (trees.map Prod.snd) := by
  let back (entry : String × Tree) : Nat × Tree := ((word? entry.1).getD 0, entry.2)
  have hword : ∀ entry ∈ trees, word? (toString entry.1) = some entry.1 :=
    fun entry he => (word?_toString entry.1).trans (if_pos (ha entry he))
  have hpairs : (children.map back).Perm trees := by
    have hback : (trees.map fun entry => (toString entry.1, entry.2)).map back = trees := by
      rw [List.map_map]
      refine (List.map_congr_left fun entry he => ?_).trans (List.map_id trees)
      show ((word? (toString entry.1)).getD 0, entry.2) = entry
      rw [hword entry he]
      rfl
    exact (hp.map back).trans (.of_eq hback)
  let inOrder (pairs : List (Nat × Tree)) : Except String (List Tree) :=
    .ok ((pairs.mergeSort fun a b => a.1 ≤ b.1).map Prod.snd)
  have hindexed : indexed children = inOrder (children.map back) := by
    refine congrArg (fun pairs => Except.bind pairs inOrder) (mapM_eq_map fun entry he => ?_)
    obtain ⟨⟨index, child⟩, hin, rfl⟩ := List.mem_map.mp (hp.mem_iff.mp he)
    simp only [back, hword (index, child) hin]
    rfl
  rw [hindexed]
  exact congrArg (fun pairs => Except.ok (pairs.map Prod.snd)) (mergeSort_of_perm ho hpairs)

theorem InOrder.nodup_written {α : Type} {items : List (Nat × α)} (h : InOrder items) :
    (items.map fun entry => (toString entry.1, entry.2)).Nodup := by
  have hnames : ((items.map Prod.fst).map fun index : Nat => toString index).Nodup :=
    h.nodup_indices.map fun _ _ he => toString_injective he
  rw [List.map_map] at hnames
  refine List.Nodup.of_map Prod.fst ?_
  rw [List.map_map]
  exact hnames

/-- A node with a member for each index is bound as a list, in the order of the indices. -/
theorem bindTree_list {trees : List (Nat × Tree)} (ho : InOrder trees) (ha : Addressed trees)
    (hc : SortedTable.Ordered children)
    (hm : ∀ name child, (name, child) ∈ children ↔
      ∃ index, (index, child) ∈ trees ∧ name = toString index) (item : Shape) :
    bindTree (.list item) (.node children) =
      ((trees.map Prod.snd).mapM (bindTree item)).map .list := by
  have hperm : children.Perm (trees.map fun entry => (toString entry.1, entry.2)) := by
    have hchildren : children.Nodup :=
      List.Pairwise.imp (fun hlt he => absurd (congrArg Prod.fst he) (ne_of_lt hlt)) hc
    rw [List.perm_ext_iff_of_nodup hchildren ho.nodup_written]
    rintro ⟨name, child⟩
    rw [hm, List.mem_map]
    constructor
    · rintro ⟨index, hin, rfl⟩
      exact ⟨(index, child), hin, rfl⟩
    · rintro ⟨⟨index, found⟩, hin, he⟩
      cases he
      exact ⟨index, hin, rfl⟩
  rw [bindTree, indexed_of_perm ho ha hperm]
  rfl

end WebApplication.Property
