import Mathlib.Data.List.Nodup
import Mathlib.Data.List.Perm.Subperm
import WebApplication.Bean.Registry

/-!
# What a declared dependency resolves to

A dependency by name is met by the bean of that name if it has the kind, one by kind
alone only by the single bean of that kind. Resolving finds exactly the bean that meets
a dependency.
-/

set_option autoImplicit false

namespace WebApplication.Bean

def Catalog.plain : Catalog := ⟨Unit, Empty, fun _ => "bean", Empty.elim, fun _ => Unit⟩

namespace Registry

variable {C : Catalog} {σ : Type} {r : Registry C σ}

def Meets (r : Registry C σ) (dependency : Dependency C) (d : Definition C σ) : Prop :=
  d ∈ r.definitions ∧ d.kind = dependency.kind ∧
    match dependency.name with
    | some name => d.name = name
    | none => ∀ other ∈ r.definitions, other.kind = dependency.kind → other = d

def Needs (r : Registry C σ) (name needed : String) : Prop :=
  ∃ d ∈ r.definitions, d.name = name ∧ ∃ dependency ∈ d.dependencies,
    ∃ e, r.Meets dependency e ∧ e.name = needed

/-! ## Lists without repeats -/

theorem nodup_append_single {α : Type} {xs : List α} {x : α} (hn : xs.Nodup) (hout : x ∉ xs) :
    (xs++[x]).Nodup := by
  rw [List.nodup_append]
  refine ⟨hn, List.nodup_singleton x, ?_⟩
  intro y hy last hl he
  rw [List.mem_singleton.mp hl] at he
  exact hout (he ▸ hy)

theorem length_lt_of_not_mem {α : Type} {xs ys : List α} {x : α} (hn : xs.Nodup)
    (hs : xs ⊆ ys) (hout : x ∉ xs) (hin : x ∈ ys) : xs.length < ys.length := by
  have hnodup : (x::xs).Nodup := List.nodup_cons.mpr ⟨hout, hn⟩
  have hsub : x::xs ⊆ ys := List.cons_subset.mpr ⟨hin, hs⟩
  exact (List.subperm_of_subset hnodup hsub).length_le

/-! ## Names and kinds -/

theorem eq_of_name {d e : Definition C σ} (hd : d ∈ r.definitions) (he : e ∈ r.definitions)
    (h : d.name = e.name) : d = e :=
  List.inj_on_of_nodup_map r.nodup hd he h

theorem mem_names {d : Definition C σ} (h : d ∈ r.definitions) : d.name ∈ r.names :=
  List.mem_map_of_mem h

theorem get?_eq_some_iff {name : String} {d : Definition C σ} :
    r.get? name = some d ↔ d ∈ r.definitions ∧ d.name = name := by
  constructor
  · intro h
    exact ⟨List.mem_of_find?_eq_some h, by simpa using List.find?_some h⟩
  · rintro ⟨hd, rfl⟩
    cases hf : r.get? d.name with
    | none =>
      have hn := List.find?_eq_none.mp hf d hd
      simp at hn
    | some e =>
      have he : e ∈ r.definitions := List.mem_of_find?_eq_some hf
      have hname : e.name = d.name := by simpa using List.find?_some hf
      rw [eq_of_name he hd hname]

theorem mem_ofKind {kind : C.Kind} {d : Definition C σ} :
    d ∈ r.ofKind kind ↔ d ∈ r.definitions ∧ d.kind = kind := by
  simp [ofKind]

theorem nodup_definitions (r : Registry C σ) : r.definitions.Nodup :=
  List.Nodup.of_map Definition.name r.nodup

/-! ## Resolving -/

theorem resolve_named_iff {kind : C.Kind} {name requester : String} {d : Definition C σ} :
    r.resolve ⟨kind, some name⟩ requester = .ok d ↔
      d ∈ r.definitions ∧ d.kind = kind ∧ d.name = name := by
  simp only [resolve]
  cases hg : r.get? name with
  | none =>
    constructor
    · intro h
      cases h
    · intro h
      rw [get?_eq_some_iff.mpr ⟨h.1, h.2.2⟩] at hg
      cases hg
  | some e =>
    obtain ⟨he, hn⟩ := get?_eq_some_iff.mp hg
    have heq : ∀ f ∈ r.definitions, f.name = name → e = f :=
      fun f hf hname => eq_of_name he hf (hn.trans hname.symm)
    by_cases hk : e.kind = kind
    · simp only [hk, if_true, Except.ok.injEq]
      constructor
      · intro h
        subst h
        exact ⟨he, hk, hn⟩
      · intro h
        exact heq d h.1 h.2.2
    · simp only [hk, if_false]
      constructor
      · intro h
        cases h
      · intro h
        rw [heq d h.1 h.2.2] at hk
        exact absurd h.2.1 hk

theorem resolve_only_iff {kind : C.Kind} {requester : String} {d : Definition C σ} :
    r.resolve ⟨kind, none⟩ requester = .ok d ↔ d ∈ r.definitions ∧ d.kind = kind ∧
      ∀ other ∈ r.definitions, other.kind = kind → other = d := by
  simp only [resolve]
  have hmem : ∀ e, e ∈ r.ofKind kind ↔ e ∈ r.definitions ∧ e.kind = kind := fun _ => mem_ofKind
  have hnodup : (r.ofKind kind).Nodup := (nodup_definitions r).filter _
  rcases hl : r.ofKind kind with _ | ⟨e, _ | ⟨f, rest⟩⟩
  · constructor
    · intro h
      cases h
    · intro h
      have hin := (hmem d).mpr ⟨h.1, h.2.1⟩
      rw [hl] at hin
      cases hin
  · obtain ⟨he, hk⟩ := (hmem e).mp (by simp [hl])
    constructor
    · intro h
      cases h
      refine ⟨he, hk, fun other ho hko => ?_⟩
      simpa [hl] using (hmem other).mpr ⟨ho, hko⟩
    · intro h
      rw [h.2.2 e he hk]
  · obtain ⟨he, hke⟩ := (hmem e).mp (by simp [hl])
    obtain ⟨hf, hkf⟩ := (hmem f).mp (by simp [hl])
    constructor
    · intro h
      cases h
    · intro h
      have hef : e = f := (h.2.2 e he hke).trans (h.2.2 f hf hkf).symm
      simp [hl, hef] at hnodup

theorem resolve_eq_ok_iff {dependency : Dependency C} {requester : String}
    {d : Definition C σ} : r.resolve dependency requester = .ok d ↔ r.Meets dependency d := by
  obtain ⟨kind, name | name⟩ := dependency
  · exact resolve_only_iff
  · exact resolve_named_iff

theorem Meets.unique {dependency : Dependency C} {d e : Definition C σ}
    (hd : r.Meets dependency d) (he : r.Meets dependency e) : d = e := by
  have hd' : r.resolve dependency "" = .ok d := resolve_eq_ok_iff.mpr hd
  have he' : r.resolve dependency "" = .ok e := resolve_eq_ok_iff.mpr he
  exact Except.ok.inj (hd'.symm.trans he')

theorem resolve_ne_cyclic {dependency : Dependency C} {requester : String}
    {chain : List String} : r.resolve dependency requester ≠ .error (.cyclic chain) := by
  intro h
  unfold resolve at h
  split at h
  · split at h
    · cases h
    · split at h <;> cases h
  · split at h <;> cases h

end Registry

end WebApplication.Bean
