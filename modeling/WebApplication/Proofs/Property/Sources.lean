import Mathlib.Data.List.Basic
import WebApplication.Proofs.Property.Scope
import WebApplication.Property.File

/-!
# Sources over one another

However a source comes about, its keys stand in order. Among sources that lie over one
another a key has the value of the topmost one that has the key.
-/

set_option autoImplicit false

namespace WebApplication.Property.Source

variable {source lower bottom top : Source} {uppers above : List Source} {key value : String}

/-! ## Keys in order -/

def Ordered (source : Source) : Prop := source.values.Ordered

theorem ordered_empty : empty.Ordered := SortedTable.ordered_nil

theorem Ordered.set (h : source.Ordered) (key value : String) : (source.set key value).Ordered :=
  SortedTable.Ordered.insert h _ _

theorem Ordered.extend (h : lower.Ordered) (upper : Source) : (lower.extend upper).Ordered :=
  SortedTable.Ordered.overlay h _

theorem ordered_ofList (entries : List (String × String)) : (ofList entries).Ordered :=
  List.foldlRecOn entries _ ordered_empty fun _ h entry _ => h.set entry.1 entry.2

theorem ordered_ofTable (table : Toml.Table) : (ofTable table).Ordered := ordered_ofList _

theorem ordered_ofEnvironment (environment : List (String × String)) :
    (ofEnvironment environment).Ordered := by
  refine List.foldlRecOn environment _ ordered_empty fun source h entry _ => ?_
  cases hk : keyOfVariable entry.1 with
  | none => simpa [hk] using h
  | some key => simpa [hk] using h.set key entry.2

theorem Ordered.extends (h : bottom.Ordered) (uppers : List Source) :
    (uppers.foldl Source.extend bottom).Ordered :=
  List.foldlRecOn uppers _ h fun _ h upper _ => h.extend upper

/-! ## The topmost value -/

theorem lookup_extend (hl : lower.Ordered) (ht : top.Ordered) :
    (lower.extend top).values.lookup key =
      (top.values.lookup key).or (lower.values.lookup key) :=
  SortedTable.lookup_overlay hl ht

theorem lookup_extends (hb : bottom.Ordered) (hu : ∀ s ∈ uppers, s.Ordered)
    (h : ∀ s ∈ uppers, s.values.lookup key = none) :
    (uppers.foldl extend bottom).values.lookup key = bottom.values.lookup key := by
  induction uppers generalizing bottom with
  | nil => rfl
  | cons upper uppers ih =>
    have hupper := hu upper (by simp)
    rw [List.foldl_cons, ih (hb.extend upper) (fun s hs => hu s (by simp [hs]))
      (fun s hs => h s (by simp [hs])), lookup_extend hb hupper, h upper (by simp)]
    rfl

/-- The topmost source with a key gives its value. -/
theorem lookup_topmost (hb : ∀ s ∈ bottom::uppers, s.Ordered) {below : List Source}
    (he : bottom::uppers = below++top::above) (ht : top.values.lookup key = some value)
    (ha : ∀ s ∈ above, s.values.lookup key = none) :
    (uppers.foldl extend bottom).values.lookup key = some value := by
  have hin : ∀ s ∈ top::above, s.Ordered := fun s hs => hb s (he ▸ List.mem_append_right _ hs)
  have htop := hin top (by simp)
  have habove : ∀ s ∈ above, s.Ordered := fun s hs => hin s (by simp [hs])
  cases below with
  | nil =>
    obtain ⟨rfl, rfl⟩ := List.cons.inj he
    rw [lookup_extends htop habove ha, ht]
  | cons first below =>
    rw [List.cons_append] at he
    obtain ⟨rfl, rfl⟩ := List.cons.inj he
    have hfirst := (hb bottom (by simp)).extends below
    rw [List.foldl_append, List.foldl_cons, lookup_extends (hfirst.extend top) habove ha,
      lookup_extend hfirst htop, ht]
    rfl

/-- A key has no value exactly if no source has it. -/
theorem lookup_extends_eq_none_iff (hb : ∀ s ∈ bottom::uppers, s.Ordered) :
    (uppers.foldl extend bottom).values.lookup key = none ↔
      ∀ s ∈ bottom::uppers, s.values.lookup key = none := by
  induction uppers generalizing bottom with
  | nil => simp
  | cons upper uppers ih =>
    have hbottom := hb bottom (by simp)
    have hupper := hb upper (by simp)
    have hrest : ∀ s ∈ bottom.extend upper::uppers, s.Ordered := by
      intro s hs
      rcases List.mem_cons.mp hs with rfl | hs
      · exact hbottom.extend upper
      · exact hb s (by simp [hs])
    rw [List.foldl_cons, ih hrest]
    simp only [List.forall_mem_cons, lookup_extend hbottom hupper, Option.or_eq_none_iff]
    tauto

end WebApplication.Property.Source
