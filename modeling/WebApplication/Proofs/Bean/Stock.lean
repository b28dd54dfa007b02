import WebApplication.Bean.Context
import WebApplication.Proofs.Bean.Dependencies

/-!
# Beans being created and beans stored

A lookup finds a stored instance, is refused because its bean is being created, or begins
a creation, which fails or makes an instance. Such steps, each taken when it was possible,
never leave a bean both stored and being created. They make every bean at most once, keep
what was stored, and let a failed creation begin again.
-/

set_option autoImplicit false

namespace WebApplication.Bean

/-- A step in the life of a context. A lookup starts with one of the first three, and
returns an instance as one of a kind with the last. -/
inductive Step (C : Catalog) where
  | found (name : String)
  | refused (name : String)
  | began (name : String)
  | failed (name : String)
  | made (stored : Stored C)
  | returned (kind : C.Kind) (shared : Shared (Stored C))

namespace Step

variable {C : Catalog}

def lookup : Step C → Option String
  | .found name => some name
  | .refused name => some name
  | .began name => some name
  | .failed _ => none
  | .made _ => none
  | .returned _ _ => none

def makes : Step C → Option String
  | .made stored => some stored.name
  | _ => none

def begins : Step C → Bool
  | .began _ => true
  | _ => false

def ends : Step C → Bool
  | .failed _ => true
  | .made _ => true
  | _ => false

end Step

structure Stock (C : Catalog) where
  stored : List (Stored C)
  creating : List String

namespace Stock

variable {C : Catalog} {σ : Type} {r : Registry C σ}

def empty : Stock C := ⟨[], []⟩

def names (stock : Stock C) : List String := stock.stored.map Stored.name

def find? (stock : Stock C) (name : String) : Option (Shared (Stored C)) :=
  (⟨stock.stored, stock.creating, [], ()⟩ : State C Unit).find? name

def step : Step C → Stock C → Stock C
  | .found _, stock => stock
  | .refused _, stock => stock
  | .began name, stock => ⟨stock.stored, stock.creating++[name]⟩
  | .failed name, stock => ⟨stock.stored, stock.creating.filter (· ≠ name)⟩
  | .made x, stock => ⟨match stock.find? x.name with
      | some _ => stock.stored
      | none => stock.stored++[x], stock.creating.filter (· ≠ x.name)⟩
  | .returned _ _, stock => stock

def run : List (Step C) → Stock C → Stock C
  | [], stock => stock
  | step::steps, stock => run steps (stock.step step)

def Ready (r : Registry C σ) : Step C → Stock C → Prop
  | .found name, stock => name ∈ stock.names
  | .refused name, stock => name ∈ stock.creating
  | .began name, stock => name ∈ r.names ∧ name ∉ stock.names ∧ name ∉ stock.creating
  | .failed name, stock => name ∈ stock.creating
  | .made x, stock => x.name ∈ stock.creating ∧
      ∃ d ∈ r.definitions, d.name = x.name ∧ d.kind = x.kind
  | .returned kind shared, stock =>
      stock.find? shared.value.name = some shared ∧ shared.value.kind = kind

def Safe (r : Registry C σ) : List (Step C) → Stock C → Prop
  | [], _ => True
  | step::steps, stock => Ready r step stock ∧ Safe r steps (stock.step step)

structure Sound (r : Registry C σ) (stock : Stock C) : Prop where
  creating : stock.creating.Nodup
  known : ∀ name ∈ stock.creating, name ∈ r.names
  apart : ∀ name ∈ stock.creating, name ∉ stock.names
  stored : stock.names.Nodup
  typed : ∀ x ∈ stock.stored, ∃ d ∈ r.definitions, d.name = x.name ∧ d.kind = x.kind

theorem sound_empty (r : Registry C σ) : empty.Sound r where
  creating := List.nodup_nil
  known := by simp [empty]
  apart := by simp [empty]
  stored := List.nodup_nil
  typed := by simp [empty]

/-! ## Finding -/

theorem mem_names {stock : Stock C} {name : String} :
    name ∈ stock.names ↔ ∃ x ∈ stock.stored, x.name = name :=
  List.mem_map

theorem find?_eq_none_iff {stock : Stock C} {name : String} :
    stock.find? name = none ↔ name ∉ stock.names := by
  rw [find?, State.find?, mem_names]
  cases hf : stock.stored.find? (·.name == name) with
  | none => simpa using hf
  | some x =>
    have hx := List.mem_of_find?_eq_some hf
    have hn : x.name = name := by simpa using List.find?_some hf
    simp only [reduceCtorEq, false_iff, not_not]
    exact ⟨x, hx, hn⟩

theorem find?_name {stock : Stock C} {name : String} {shared : Shared (Stored C)}
    (h : stock.find? name = some shared) : shared.value.name = name := by
  rw [find?, State.find?] at h
  split at h
  · rename_i x hf
    cases h
    simpa using List.find?_some hf
  · cases h

theorem find?_mem {stock : Stock C} {name : String} {shared : Shared (Stored C)}
    (h : stock.find? name = some shared) : shared.value ∈ stock.stored := by
  rw [find?, State.find?] at h
  split at h
  · rename_i x hf
    cases h
    exact List.mem_of_find?_eq_some hf
  · cases h

theorem find?_append {stored more : List (Stored C)} {creating others : List String}
    {name : String} {shared : Shared (Stored C)}
    (h : find? ⟨stored, creating⟩ name = some shared) :
    find? ⟨stored++more, others⟩ name = some shared := by
  simp only [find?, State.find?] at h ⊢
  split at h
  · rename_i x hf
    cases h
    have hn : (x.name == name) = true := by simpa using List.find?_some hf
    have hx : ∃ y ∈ stored, (y.name == name) = true := ⟨x, List.mem_of_find?_eq_some hf, hn⟩
    rw [List.find?_append, hf, List.findIdx_append, if_pos]
    · rfl
    · exact List.findIdx_lt_length_of_exists hx
  · cases h

theorem find?_of_prefix {stock later : Stock C} {name : String} {shared : Shared (Stored C)}
    (hp : stock.stored <+: later.stored) (h : stock.find? name = some shared) :
    later.find? name = some shared := by
  obtain ⟨more, he⟩ := hp
  obtain ⟨stored, creating⟩ := stock
  obtain ⟨stored', creating'⟩ := later
  subst he
  exact find?_append h

theorem find?_last {stored : List (Stored C)} {x : Stored C} {creating others : List String}
    (h : find? ⟨stored, creating⟩ x.name = none) :
    find? ⟨stored++[x], others⟩ x.name = some ⟨stored.length, x⟩ := by
  simp only [find?, State.find?] at h ⊢
  split at h
  · cases h
  · rename_i hf
    have hx : ∀ y ∈ stored, (y.name == x.name) = false := by simpa using hf
    have hi : stored.findIdx (·.name == x.name) = stored.length :=
      List.findIdx_eq_length.mpr hx
    rw [List.find?_append, hf, List.findIdx_append, hi]
    simp

/-! ## Runs -/

theorem run_append (steps more : List (Step C)) (stock : Stock C) :
    stock.run (steps++more) = (stock.run steps).run more := by
  induction steps generalizing stock with
  | nil => rfl
  | cons step steps ih => exact ih _

theorem safe_append (steps more : List (Step C)) (stock : Stock C) :
    Safe r (steps++more) stock ↔ Safe r steps stock ∧ Safe r more (stock.run steps) := by
  induction steps generalizing stock with
  | nil => simp [Safe, run]
  | cons step steps ih => simp [Safe, run, ih, and_assoc]

theorem stored_step (step : Step C) (stock : Stock C) :
    stock.stored <+: (stock.step step).stored := by
  cases step with
  | made x =>
    rw [Stock.step]
    cases stock.find? x.name with
    | none => exact List.prefix_append _ _
    | some _ => exact List.prefix_refl _
  | _ => exact List.prefix_refl _

theorem stored_run (steps : List (Step C)) (stock : Stock C) :
    stock.stored <+: (stock.run steps).stored := by
  induction steps generalizing stock with
  | nil => exact List.prefix_refl _
  | cons step steps ih => exact (stored_step step stock).trans (ih _)

theorem names_subset {stock later : Stock C} (h : stock.stored <+: later.stored) :
    stock.names ⊆ later.names :=
  List.map_subset _ h.subset

theorem step_made {stock : Stock C} {x : Stored C} (h : x.name ∉ stock.names) :
    stock.step (.made x) = ⟨stock.stored++[x], stock.creating.filter (· ≠ x.name)⟩ := by
  rw [step, find?_eq_none_iff.mpr h]

theorem mem_names_step_made (stock : Stock C) (x : Stored C) :
    x.name ∈ (stock.step (.made x)).names := by
  by_cases h : x.name ∈ stock.names
  · exact names_subset (stored_step _ _) h
  · rw [step_made h, mem_names]
    exact ⟨x, by simp, rfl⟩

/-- One step keeps a stock sound. -/
theorem sound_step {step : Step C} {stock : Stock C} (hs : stock.Sound r)
    (h : Ready r step stock) : (stock.step step).Sound r := by
  cases step with
  | began name =>
    obtain ⟨hknown, hstored, hcreating⟩ := h
    have hmem : ∀ other ∈ stock.creating++[name], other ∈ stock.creating ∨ other = name := by simp
    refine ⟨Registry.nodup_append_single hs.creating hcreating, ?_, ?_, hs.stored, hs.typed⟩
    · intro other ho
      rcases hmem other ho with ho | rfl
      · exact hs.known other ho
      · exact hknown
    · intro other ho
      rcases hmem other ho with ho | rfl
      · exact hs.apart other ho
      · exact hstored
  | failed name =>
    have hsub : ∀ other ∈ stock.creating.filter (· ≠ name), other ∈ stock.creating :=
      fun other ho => List.mem_of_mem_filter ho
    exact ⟨hs.creating.filter _, fun other ho => hs.known other (hsub other ho),
      fun other ho => hs.apart other (hsub other ho), hs.stored, hs.typed⟩
  | made x =>
    obtain ⟨hcreating, hdefined⟩ := h
    have hout := hs.apart x.name hcreating
    rw [step_made hout]
    have hmem : ∀ other ∈ stock.creating.filter (· ≠ x.name),
        other ∈ stock.creating ∧ other ≠ x.name := by simp
    refine ⟨hs.creating.filter _, fun other ho => hs.known other (hmem other ho).1, ?_, ?_, ?_⟩
    · intro other ho hin
      obtain ⟨hcreating', hne⟩ := hmem other ho
      have hin' : other ∈ stock.names ∨ other = x.name := by simpa [names] using hin
      rcases hin' with hin | he
      · exact hs.apart other hcreating' hin
      · exact hne he
    · have he : names ⟨stock.stored++[x], stock.creating.filter (· ≠ x.name)⟩ =
          stock.names++[x.name] := by simp [names]
      rw [he]
      exact Registry.nodup_append_single hs.stored hout
    · intro y hy
      rcases List.mem_append.mp hy with hy | hy
      · exact hs.typed y hy
      · rw [List.mem_singleton.mp hy]
        exact hdefined
  | _ => exact hs

theorem sound_run {steps : List (Step C)} {stock : Stock C} (hs : stock.Sound r)
    (h : Safe r steps stock) : (stock.run steps).Sound r := by
  induction steps generalizing stock with
  | nil => exact hs
  | cons step steps ih => exact ih (sound_step hs h.1) h.2

/-! ## Creations -/

/-- A stored bean is not made again. -/
theorem made_once {steps : List (Step C)} {stock : Stock C} (hs : stock.Sound r)
    (h : Safe r steps stock) :
    (steps.filterMap Step.makes).Nodup ∧
      ∀ name ∈ steps.filterMap Step.makes, name ∉ stock.names := by
  induction steps generalizing stock with
  | nil => simp
  | cons step steps ih =>
    obtain ⟨hready, hsafe⟩ := h
    obtain ⟨hnodup, hout⟩ := ih (sound_step hs hready) hsafe
    have hout' : ∀ name ∈ steps.filterMap Step.makes, name ∉ stock.names :=
      fun name hn hin => hout name hn (names_subset (stored_step step stock) hin)
    cases step with
    | made x =>
      have hfirst := hs.apart x.name hready.1
      have hnew : x.name ∉ steps.filterMap Step.makes :=
        fun hin => hout x.name hin (mem_names_step_made stock x)
      refine ⟨List.nodup_cons.mpr ⟨hnew, hnodup⟩, ?_⟩
      intro name hn
      rcases List.mem_cons.mp hn with rfl | hn
      · exact hfirst
      · exact hout' name hn
    | _ => exact ⟨hnodup, hout'⟩

def Lacks (stock : Stock C) (name : String) : Prop :=
  name ∉ stock.names ∧ name ∉ stock.creating

theorem lacks_failed {stock : Stock C} {name : String} (hs : stock.Sound r)
    (h : name ∈ stock.creating) : (stock.step (.failed name)).Lacks name :=
  ⟨hs.apart name h, by simp [step]⟩

theorem lacks_step {step : Step C} {stock : Stock C} {name : String} (h : stock.Lacks name)
    (hr : Ready r step stock) (hl : step.lookup ≠ some name) :
    (stock.step step).Lacks name := by
  obtain ⟨hn, hc⟩ := h
  cases step with
  | began other =>
    refine ⟨hn, ?_⟩
    intro hin
    rcases List.mem_append.mp hin with hin | hin
    · exact hc hin
    · rw [List.mem_singleton.mp hin] at hl
      exact hl rfl
  | failed other => exact ⟨hn, fun hin => hc (List.mem_of_mem_filter hin)⟩
  | made x =>
    refine ⟨?_, fun hin => hc (List.mem_of_mem_filter hin)⟩
    intro hin
    by_cases hx : x.name ∈ stock.names
    · rw [Stock.step] at hin
      cases hf : stock.find? x.name with
      | none => exact find?_eq_none_iff.mp hf hx
      | some _ =>
        rw [hf] at hin
        exact hn hin
    · rw [step_made hx] at hin
      have hin' : name ∈ stock.names ∨ name = x.name := by simpa [names] using hin
      rcases hin' with hin | he
      · exact hn hin
      · exact hc (he ▸ hr.1)
  | _ => exact ⟨hn, hc⟩

/-- The next lookup of a name that is neither stored nor being created begins a creation. -/
theorem begins_afresh {middle rest : List (Step C)} {step : Step C} {stock : Stock C}
    {name : String} (h : stock.Lacks name) (hs : Safe r (middle++step::rest) stock)
    (hm : ∀ other ∈ middle, other.lookup ≠ some name) (hl : step.lookup = some name) :
    step = .began name := by
  induction middle generalizing stock with
  | nil =>
    have hr := hs.1
    cases step with
    | found other =>
      cases hl
      exact absurd hr h.1
    | refused other =>
      cases hl
      exact absurd hr h.2
    | began other =>
      cases hl
      rfl
    | _ => cases hl
  | cons first middle ih =>
    exact ih (lacks_step h hs.1 (hm first (by simp))) hs.2 (fun other ho => hm other (by simp [ho]))

end Stock

end WebApplication.Bean
