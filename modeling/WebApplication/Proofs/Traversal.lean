import Mathlib.Data.List.Forall2

/-!
# Going through a list until something fails

A pass over a list succeeds with one result for each item, in order, or fails with the
error of the first item that fails.
-/

set_option autoImplicit false

namespace WebApplication

variable {α β ε : Type} {f : α → Except ε β}

theorem mapM_cons_ok {x : α} {xs : List α} {y : β} (h : f x = .ok y) :
    (x::xs).mapM f = (xs.mapM f).map (y::·) := by
  rw [List.mapM_cons, h]
  cases xs.mapM f <;> rfl

theorem mapM_cons_error {x : α} {xs : List α} {e : ε} (h : f x = .error e) :
    (x::xs).mapM f = .error e := by
  rw [List.mapM_cons, h]
  rfl

theorem mapM_ok_iff {xs : List α} {ys : List β} :
    xs.mapM f = .ok ys ↔ List.Forall₂ (fun x y => f x = .ok y) xs ys := by
  constructor
  · intro h
    induction xs generalizing ys with
    | nil =>
      cases h
      exact .nil
    | cons x xs ih =>
      cases hx : f x with
      | error e =>
        rw [mapM_cons_error hx] at h
        cases h
      | ok y =>
        rw [mapM_cons_ok hx] at h
        cases hs : xs.mapM f with
        | error e =>
          rw [hs] at h
          cases h
        | ok rest =>
          rw [hs] at h
          cases h
          exact .cons hx (ih hs)
  · intro h
    induction h with
    | nil => rfl
    | cons hx _ ih => rw [mapM_cons_ok hx, ih, Except.map]

theorem exists_of_mem_mapM {xs : List α} {ys : List β} (h : xs.mapM f = .ok ys) {y : β}
    (hy : y ∈ ys) : ∃ x ∈ xs, f x = .ok y := by
  have hf := mapM_ok_iff.mp h
  clear h
  induction hf with
  | nil => cases hy
  | @cons x z xs zs hx _ ih =>
    rcases List.mem_cons.mp hy with rfl | hy
    · exact ⟨x, List.mem_cons_self, hx⟩
    · obtain ⟨x', hin, hx'⟩ := ih hy
      exact ⟨x', List.mem_cons_of_mem x hin, hx'⟩

theorem exists_mapM_ok {xs : List α} (h : ∀ x ∈ xs, ∃ y, f x = .ok y) :
    ∃ ys, xs.mapM f = .ok ys := by
  induction xs with
  | nil => exact ⟨[], rfl⟩
  | cons x xs ih =>
    obtain ⟨⟨y, hy⟩, hall⟩ := List.forall_mem_cons.mp h
    obtain ⟨ys, hys⟩ := ih hall
    exact ⟨y::ys, by rw [mapM_cons_ok hy, hys, Except.map]⟩

theorem mapM_eq_map {g : α → β} {xs : List α} (h : ∀ x ∈ xs, f x = .ok (g x)) :
    xs.mapM f = .ok (xs.map g) := by
  rw [mapM_ok_iff, List.forall₂_map_right_iff, List.forall₂_same]
  exact h

theorem mapM_eq_of_forall₂ {γ : Type} {g : γ → Except ε β} {xs : List α} {zs : List γ}
    (h : List.Forall₂ (fun x z => f x = g z) xs zs) : xs.mapM f = zs.mapM g := by
  induction h with
  | nil => rfl
  | cons hx _ ih => rw [List.mapM_cons, List.mapM_cons, hx, ih]

theorem forall₂_append_cons {γ : Type} {R : α → γ → Prop} {front back : List α} {x : α}
    {zs : List γ} (h : List.Forall₂ R (front++x::back) zs) :
    ∃ below z above, zs = below++z::above ∧ R x z ∧ List.Forall₂ R back above := by
  induction front generalizing zs with
  | nil =>
    obtain ⟨z, above, hx, hback, rfl⟩ := List.forall₂_cons_left_iff.mp h
    exact ⟨[], z, above, rfl, hx, hback⟩
  | cons first front ih =>
    obtain ⟨z, rest, -, hrest, rfl⟩ := List.forall₂_cons_left_iff.mp h
    obtain ⟨below, found, above, rfl, hx, hback⟩ := ih hrest
    exact ⟨z::below, found, above, rfl, hx, hback⟩

/-- The error is that of the first item that fails. -/
theorem mapM_error_iff {xs : List α} {e : ε} :
    xs.mapM f = .error e ↔ ∃ front x back, xs = front++x::back ∧
      (∀ other ∈ front, ∃ y, f other = .ok y) ∧ f x = .error e := by
  constructor
  · intro h
    induction xs with
    | nil => cases h
    | cons x xs ih =>
      cases hx : f x with
      | error e' =>
        rw [mapM_cons_error hx] at h
        cases h
        exact ⟨[], x, xs, rfl, by simp, hx⟩
      | ok y =>
        rw [mapM_cons_ok hx] at h
        cases hs : xs.mapM f with
        | ok rest =>
          rw [hs] at h
          cases h
        | error e' =>
          rw [hs] at h
          cases h
          obtain ⟨front, z, back, rfl, hf, hz⟩ := ih hs
          exact ⟨x::front, z, back, rfl, List.forall_mem_cons.mpr ⟨⟨y, hx⟩, hf⟩, hz⟩
  · rintro ⟨front, x, back, rfl, hf, hx⟩
    induction front with
    | nil => exact mapM_cons_error hx
    | cons z front ih =>
      obtain ⟨⟨y, hy⟩, hf⟩ := List.forall_mem_cons.mp hf
      rw [List.cons_append, mapM_cons_ok hy, ih hf, Except.map]

end WebApplication
