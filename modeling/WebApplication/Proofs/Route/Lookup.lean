import WebApplication.Route.Table

/-!
# Lookups in tables

An entry takes the requests with its method and a path that its pattern matches. A lookup
finds the first entry that takes a request. One with the method `HEAD` goes where a `GET`
request goes only if no entry of the whole table takes it as it is.
-/

set_option autoImplicit false

namespace WebApplication.Route

variable {σ : Type}

def Untaken (entries : List (Entry σ)) (method : Http.Method) (path : String) : Prop :=
  ∀ e ∈ entries, e.method = method → e.pattern.matchPath path = none

def First (entries : List (Entry σ)) (method : Http.Method) (path : String) (found : Match σ) :
    Prop :=
  ∃ front back, entries = front++found.entry::back ∧ found.position = front.length ∧
    Untaken front method path ∧ found.entry.method = method ∧
    found.entry.pattern.matchPath path = some found.params

variable {entries : List (Entry σ)} {method : Http.Method} {path : String} {position : Nat}
  {found : Match σ}

theorem untaken_cons {e : Entry σ} :
    Untaken (e::entries) method path ↔
      (e.method = method → e.pattern.matchPath path = none) ∧ Untaken entries method path :=
  List.forall_mem_cons

namespace Table

theorem firstMatch_taken {e : Entry σ} {params : Params} (hm : e.method = method)
    (hp : e.pattern.matchPath path = some params) :
    firstMatch method path position (e::entries) = some ⟨position, e, params⟩ := by
  rw [firstMatch, if_pos hm, hp]

theorem firstMatch_passed {e : Entry σ} (h : e.method = method → e.pattern.matchPath path = none) :
    firstMatch method path position (e::entries) =
      firstMatch method path (position+1) entries := by
  rw [firstMatch]
  by_cases hm : e.method = method
  · rw [if_pos hm, h hm]
  · rw [if_neg hm]

theorem firstMatch_eq_none_iff :
    firstMatch method path position entries = none ↔ Untaken entries method path := by
  induction entries generalizing position with
  | nil => simp [firstMatch, Untaken]
  | cons e es ih =>
    rw [untaken_cons]
    by_cases h : e.method = method → e.pattern.matchPath path = none
    · rw [firstMatch_passed h, ih]
      exact ⟨fun hes => ⟨h, hes⟩, And.right⟩
    · obtain ⟨hm, hp⟩ : e.method = method ∧ e.pattern.matchPath path ≠ none := by
        simpa using h
      obtain ⟨params, hp⟩ := Option.ne_none_iff_exists'.mp hp
      rw [firstMatch_taken hm hp]
      simp [hm, hp]

theorem firstMatch_eq_some_iff : firstMatch method path position entries = some found ↔
    ∃ front back, entries = front++found.entry::back ∧ found.position = position+front.length ∧
      Untaken front method path ∧ found.entry.method = method ∧
      found.entry.pattern.matchPath path = some found.params := by
  constructor
  · intro h
    induction entries generalizing position with
    | nil => cases h
    | cons e es ih =>
      by_cases hpassed : e.method = method → e.pattern.matchPath path = none
      · rw [firstMatch_passed hpassed] at h
        obtain ⟨front, back, rfl, hposition, hfront, hfound⟩ := ih h
        refine ⟨e::front, back, rfl, ?_, untaken_cons.mpr ⟨hpassed, hfront⟩, hfound⟩
        rw [hposition, List.length_cons]
        omega
      · obtain ⟨hm, hp⟩ : e.method = method ∧ e.pattern.matchPath path ≠ none := by
          simpa using hpassed
        obtain ⟨params, hp⟩ := Option.ne_none_iff_exists'.mp hp
        rw [firstMatch_taken hm hp] at h
        cases h
        exact ⟨[], es, rfl, rfl, by simp [Untaken], hm, hp⟩
  · rintro ⟨front, back, rfl, hposition, hfront, hm, hp⟩
    induction front generalizing position with
    | nil =>
      rw [List.nil_append, firstMatch_taken hm hp]
      cases found
      cases hposition
      rfl
    | cons e front ih =>
      obtain ⟨he, hfront⟩ := untaken_cons.mp hfront
      rw [List.length_cons] at hposition
      rw [List.cons_append, firstMatch_passed he]
      exact ih (by omega) hfront

theorem firstMatch_eq_some_iff_first :
    firstMatch method path 0 entries = some found ↔ First entries method path found := by
  simp only [firstMatch_eq_some_iff, First, Nat.zero_add]

variable {t : Table σ}

theorem find?_of_ne_head (h : method ≠ "HEAD") :
    t.find? method path = firstMatch method path 0 t.entries := by
  rw [find?, if_neg h]
  cases firstMatch method path 0 t.entries <;> rfl

theorem find?_eq_some_iff (h : method ≠ "HEAD") :
    t.find? method path = some found ↔ First t.entries method path found := by
  rw [find?_of_ne_head h, firstMatch_eq_some_iff_first]

theorem find?_eq_none_iff (h : method ≠ "HEAD") :
    t.find? method path = none ↔ Untaken t.entries method path := by
  rw [find?_of_ne_head h, firstMatch_eq_none_iff]

theorem find?_head_of_first (h : First t.entries "HEAD" path found) :
    t.find? "HEAD" path = some found := by
  rw [find?, firstMatch_eq_some_iff_first.mpr h]

theorem find?_head_of_untaken (h : Untaken t.entries "HEAD" path) :
    t.find? "HEAD" path = t.find? "GET" path := by
  rw [find?, firstMatch_eq_none_iff.mpr h, find?_of_ne_head (by decide)]
  rfl

/-- An entry has the method it is found for, or it is one for `GET` that a `HEAD` request finds. -/
theorem find?_method (h : t.find? method path = some found) :
    found.entry.method = method ∨ method = "HEAD" ∧ found.entry.method = "GET" := by
  by_cases hm : method = "HEAD"
  · subst hm
    cases hf : firstMatch "HEAD" path 0 t.entries with
    | some first =>
      obtain ⟨-, -, -, -, -, hfirst, -⟩ := firstMatch_eq_some_iff_first.mp hf
      rw [find?, hf] at h
      cases h
      exact .inl hfirst
    | none =>
      rw [find?_head_of_untaken (firstMatch_eq_none_iff.mp hf), find?_eq_some_iff (by decide)] at h
      obtain ⟨-, -, -, -, -, hfound, -⟩ := h
      exact .inr ⟨rfl, hfound⟩
  · obtain ⟨-, -, -, -, -, hfound, -⟩ := (find?_eq_some_iff hm).mp h
    exact .inl hfound

end Table

end WebApplication.Route
