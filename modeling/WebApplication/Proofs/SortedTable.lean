import Mathlib.Data.String.Basic
import WebApplication.SortedTable

/-!
# Looking names up in sorted tables

Altering a table in the order of its names changes what is found under one name only. A
table that lies over another one hides what that one has under its names, and nothing else.
-/

set_option autoImplicit false

namespace WebApplication.SortedTable

variable {α : Type} {table lower upper : SortedTable α} {name other : String}

def Ordered (table : SortedTable α) : Prop := table.Pairwise fun a b => a.1 < b.1

theorem ordered_nil : Ordered ([] : SortedTable α) := .nil

theorem ordered_cons {entry : String × α} {rest : SortedTable α} :
    Ordered (entry::rest) ↔ (∀ next ∈ rest, entry.1 < next.1) ∧ rest.Ordered :=
  List.pairwise_cons

theorem lookup_cons (entry : String × α) (rest : SortedTable α) :
    (entry::rest).lookup name = if name = entry.1 then some entry.2 else rest.lookup name := by
  rw [List.lookup_cons]
  by_cases h : name = entry.1
  · simp [h]
  · have hb : (name == entry.1) = false := by simpa using h
    rw [hb, if_neg h]

theorem lookup_eq_none_iff : table.lookup name = none ↔ ∀ entry ∈ table, entry.1 ≠ name := by
  rw [List.lookup_eq_none_iff]
  exact forall₂_congr fun entry _ => by simp [ne_comm]

theorem lookup_of_lt (h : ∀ entry ∈ table, name < entry.1) : table.lookup name = none :=
  lookup_eq_none_iff.mpr fun entry he => (h entry he).ne'

theorem Ordered.lt_of_lt_first {first : String × α} {rest : SortedTable α}
    (h : Ordered (first::rest)) (hl : name < first.1) : ∀ next ∈ first::rest, name < next.1 := by
  intro next hn
  rcases List.mem_cons.mp hn with rfl | hn
  · exact hl
  · exact hl.trans ((ordered_cons.mp h).1 next hn)

theorem mem_iff_lookup (h : table.Ordered) {value : α} :
    (name, value) ∈ table ↔ table.lookup name = some value := by
  induction table with
  | nil => simp
  | cons entry rest ih =>
    obtain ⟨hlt, hrest⟩ := ordered_cons.mp h
    rw [lookup_cons, List.mem_cons, ih hrest]
    by_cases hn : name = entry.1
    · rw [if_pos hn, lookup_of_lt (hn ▸ hlt)]
      simp [Prod.ext_iff, hn, eq_comm]
    · rw [if_neg hn]
      simp [Prod.ext_iff, hn]

theorem eq_of_lookup {others : SortedTable α} (h : table.Ordered) (ho : others.Ordered)
    (he : ∀ name, table.lookup name = others.lookup name) : table = others := by
  have hnodup : ∀ {t : SortedTable α}, t.Ordered → t.Nodup := by
    intro t ht
    refine List.Pairwise.imp ?_ ht
    intro a b hlt hab
    exact lt_irrefl _ (hab ▸ hlt)
  have hperm : table.Perm others := by
    rw [List.perm_ext_iff_of_nodup (hnodup h) (hnodup ho)]
    rintro ⟨name, value⟩
    rw [mem_iff_lookup h, mem_iff_lookup ho, he]
  exact hperm.eq_of_pairwise (fun _ _ _ _ hlt hgt => absurd hlt (not_lt.mpr hgt.le)) h ho

/-! ## Altering -/

/-- Ordered tables that have related values under the same names have them one by one. -/
theorem forall₂_of_lookup {β : Type} {others : SortedTable β} {R : String → α → β → Prop}
    (h : table.Ordered) (ho : others.Ordered)
    (hl : ∀ name, Option.Rel (R name) (table.lookup name) (others.lookup name)) :
    List.Forall₂ (fun entry other => entry.1 = other.1 ∧ R entry.1 entry.2 other.2)
      table others := by
  induction table generalizing others with
  | nil =>
    cases others with
    | nil => exact .nil
    | cons other others =>
      have hother := hl other.1
      rw [lookup_cons, if_pos rfl] at hother
      cases hother
  | cons entry table ih =>
    cases others with
    | nil =>
      have hentry := hl entry.1
      rw [lookup_cons, if_pos rfl] at hentry
      cases hentry
    | cons other others =>
      obtain ⟨hlt, hrest⟩ := ordered_cons.mp h
      obtain ⟨hlto, hresto⟩ := ordered_cons.mp ho
      -- the first names are equal, as neither table has a name before the first one of the other
      have hname : entry.1 = other.1 := by
        rcases lt_trichotomy entry.1 other.1 with hn | hn | hn
        · have hentry := hl entry.1
          rw [lookup_cons, if_pos rfl, lookup_of_lt (ho.lt_of_lt_first hn)] at hentry
          cases hentry
        · exact hn
        · have hother := hl other.1
          rw [lookup_of_lt (h.lt_of_lt_first hn), lookup_cons, if_pos rfl] at hother
          cases hother
      have hfirst := hl entry.1
      rw [lookup_cons, if_pos rfl, lookup_cons, if_pos hname] at hfirst
      cases hfirst with
      | some hvalue =>
        refine .cons ⟨hname, hvalue⟩ (ih hrest hresto fun name => ?_)
        have hlookup := hl name
        rw [lookup_cons, lookup_cons, ← hname] at hlookup
        by_cases hn : name = entry.1
        · rw [hn, lookup_of_lt hlt, lookup_of_lt (hname ▸ hlto)]
          exact .none
        · rwa [if_neg hn, if_neg hn] at hlookup

theorem name_of_mem_alter {f : Option α → α} {entry : String × α}
    (h : entry ∈ table.alter name f) : entry.1 = name ∨ entry ∈ table := by
  induction table with
  | nil =>
    rw [alter, List.mem_singleton] at h
    exact .inl (h ▸ rfl)
  | cons first rest ih =>
    rw [alter] at h
    split at h
    · rcases List.mem_cons.mp h with rfl | h
      · exact .inl rfl
      · exact .inr (List.mem_cons_of_mem _ h)
    · split at h
      · rcases List.mem_cons.mp h with rfl | h
        · exact .inl rfl
        · exact .inr h
      · rcases List.mem_cons.mp h with rfl | h
        · exact .inr List.mem_cons_self
        · exact (ih h).imp_right (List.mem_cons_of_mem _)

theorem alter_ne_nil (table : SortedTable α) (name : String) (f : Option α → α) :
    table.alter name f ≠ [] := by
  cases table with
  | nil => exact List.cons_ne_nil _ _
  | cons first rest =>
    rw [alter]
    split
    · exact List.cons_ne_nil _ _
    · split <;> exact List.cons_ne_nil _ _

theorem Ordered.alter (h : table.Ordered) (name : String) (f : Option α → α) :
    (table.alter name f).Ordered := by
  induction table with
  | nil => exact List.pairwise_singleton _ _
  | cons first rest ih =>
    obtain ⟨hlt, hrest⟩ := ordered_cons.mp h
    rw [SortedTable.alter]
    split
    · rename_i he
      exact ordered_cons.mpr ⟨fun next hn => he ▸ hlt next hn, hrest⟩
    · rename_i hne
      split
      · rename_i hl
        exact ordered_cons.mpr ⟨h.lt_of_lt_first hl, h⟩
      · rename_i hl
        refine ordered_cons.mpr ⟨fun next hn => ?_, ih hrest⟩
        rcases name_of_mem_alter hn with he | hn
        · exact he ▸ lt_of_le_of_ne (not_lt.mp hl) (Ne.symm hne)
        · exact hlt next hn

/-- Altering changes what is found under the name and nothing else. -/
theorem lookup_alter (h : table.Ordered) (f : Option α → α) :
    (table.alter name f).lookup other =
      if other = name then some (f (table.lookup name)) else table.lookup other := by
  induction table with
  | nil => rw [alter, lookup_cons]; rfl
  | cons first rest ih =>
    have hrest := (ordered_cons.mp h).2
    rw [alter]
    split
    · rename_i he
      rw [lookup_cons, lookup_cons, lookup_cons, if_pos he]
      by_cases ho : other = name
      · rw [if_pos ho, if_pos ho]
      · rw [if_neg ho, if_neg ho, if_neg (he ▸ ho)]
    · rename_i hne
      split
      · rename_i hl
        rw [lookup_cons, lookup_of_lt (h.lt_of_lt_first hl)]
      · rw [lookup_cons, lookup_cons, lookup_cons, ih hrest, if_neg hne]
        by_cases hf : other = first.1
        · rw [if_pos hf, if_pos hf, if_neg (hf ▸ Ne.symm hne)]
        · rw [if_neg hf, if_neg hf]

/-! ## Inserting and overlaying -/

theorem Ordered.insert (h : table.Ordered) (name : String) (value : α) :
    (table.insert name value).Ordered :=
  h.alter name _

/-- What is found after an insertion does not need the order. -/
theorem lookup_insert (table : SortedTable α) (name : String) (value : α) :
    (table.insert name value).lookup other =
      if other = name then some value else table.lookup other := by
  induction table with
  | nil => rw [insert, alter, lookup_cons]
  | cons first rest ih =>
    rw [insert] at ih ⊢
    rw [alter]
    split
    · rename_i he
      rw [lookup_cons, lookup_cons, ← he]
      by_cases ho : other = name <;> simp [ho]
    · rename_i hne
      split
      · rw [lookup_cons]
      · rw [lookup_cons, lookup_cons, ih]
        by_cases hf : other = first.1
        · rw [if_pos hf, if_pos hf, if_neg (hf ▸ Ne.symm hne)]
        · rw [if_neg hf, if_neg hf]

theorem overlay_cons (lower : SortedTable α) (entry : String × α) (rest : SortedTable α) :
    lower.overlay (entry::rest) = (lower.insert entry.1 entry.2).overlay rest := rfl

theorem Ordered.overlay (h : lower.Ordered) (upper : SortedTable α) :
    (lower.overlay upper).Ordered := by
  induction upper generalizing lower with
  | nil => exact h
  | cons entry rest ih =>
    rw [overlay_cons]
    exact ih (h.insert entry.1 entry.2)

theorem lookup_overlay (hl : lower.Ordered) (hu : upper.Ordered) :
    (lower.overlay upper).lookup name = (upper.lookup name).or (lower.lookup name) := by
  induction upper generalizing lower with
  | nil => rfl
  | cons entry rest ih =>
    obtain ⟨hlt, hrest⟩ := ordered_cons.mp hu
    rw [overlay_cons, ih (hl.insert entry.1 entry.2) hrest, lookup_insert, lookup_cons]
    by_cases hn : name = entry.1
    · rw [if_pos hn, if_pos hn, lookup_of_lt (hn ▸ hlt)]
      rfl
    · rw [if_neg hn, if_neg hn]

end WebApplication.SortedTable
