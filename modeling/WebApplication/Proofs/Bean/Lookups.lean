import WebApplication.Bean.Context
import WebApplication.Proofs.Bean.ConstructionOrder

/-!
# Factories with a list of lookups

A factory may look up beans that its definition does not declare. Put in the place of the
declared dependencies, what factories look up has an order of construction of its own.
Neither order depends on the order of registration.
-/

set_option autoImplicit false

namespace WebApplication.Bean

open Relation (TransGen)

variable {C : Catalog} {σ α : Type}

/-! ## Programs with a list of lookups -/

namespace Program

inductive Doomed : Program C σ (Except Failure α) → Prop
  | fail (failure : Failure) : Doomed (.done (.error failure))
  | find {dependency : Dependency C}
      {next : Answer C (.find dependency) → Program C σ (Except Failure α)}
      (h : ∀ answer, Doomed (next answer)) : Doomed (.ask (.find dependency) next)
  | update {change : σ → σ} {next : σ → Program C σ (Except Failure α)}
      (h : ∀ old, Doomed (next old)) : Doomed (.update change next)

/-- A program that looks up what is on a list, is doomed once a lookup fails, and else
fails by itself or succeeds. -/
inductive Follows : List (Dependency C) → Bool → Program C σ (Except Failure α) → Prop
  | succeed (value : α) : Follows [] false (.done (.ok value))
  | fail (failure : Failure) : Follows [] true (.done (.error failure))
  | find {dependency : Dependency C} {lookups : List (Dependency C)} {fails : Bool}
      {next : Answer C (.find dependency) → Program C σ (Except Failure α)}
      (hok : ∀ shared, Follows lookups fails (next (.ok shared)))
      (herror : ∀ e, Doomed (next (.error e))) :
      Follows (dependency::lookups) fails (.ask (.find dependency) next)
  | update {lookups : List (Dependency C)} {fails : Bool} {change : σ → σ}
      {next : σ → Program C σ (Except Failure α)} (h : ∀ old, Follows lookups fails (next old)) :
      Follows lookups fails (.update change next)

def following (result : Except Failure α) :
    List (Dependency C) → Program C σ (Except Failure α)
  | [] => .done result
  | dependency::rest => .ask (.find dependency) fun
    | .ok _ => following result rest
    | .error e => .done (.error (.lookup e))

theorem follows_following (value : α) (lookups : List (Dependency C)) :
    Follows lookups false (following (.ok value) lookups : Program C σ (Except Failure α)) := by
  induction lookups with
  | nil => exact .succeed value
  | cons dependency rest ih => exact .find (fun _ => ih) fun e => .fail (.lookup e)

end Program

/-! ## Lookups as declared dependencies -/

def Definition.withNeeds (needs : Definition C σ → List (Dependency C)) (d : Definition C σ) :
    Definition C σ :=
  { d with dependencies := needs d }

namespace Registry

variable {r : Registry C σ} {needs : Definition C σ → List (Dependency C)}

def withNeeds (r : Registry C σ) (needs : Definition C σ → List (Dependency C)) :
    Registry C σ where
  definitions := r.definitions.map (Definition.withNeeds needs)
  nodup := by
    rw [List.map_map]
    exact r.nodup

theorem names_withNeeds : (r.withNeeds needs).names = r.names := by
  rw [names, withNeeds, List.map_map]
  rfl

theorem mem_withNeeds {d : Definition C σ} (h : d ∈ r.definitions) :
    d.withNeeds needs ∈ (r.withNeeds needs).definitions :=
  List.mem_map_of_mem h

/-- A dependency is met by the same beans, whatever they need themselves. -/
theorem meets_withNeeds_iff {dependency : Dependency C} {name : String} :
    (∃ e, (r.withNeeds needs).Meets dependency e ∧ e.name = name) ↔
      ∃ e, r.Meets dependency e ∧ e.name = name := by
  obtain ⟨kind, wanted⟩ := dependency
  constructor
  · rintro ⟨_, ⟨hin, hkind, hm⟩, rfl⟩
    obtain ⟨e, he, rfl⟩ := List.mem_map.mp hin
    refine ⟨e, ⟨he, hkind, ?_⟩, rfl⟩
    cases wanted with
    | some wanted => exact hm
    | none =>
      intro other ho hk
      have hsame : other.withNeeds needs = e.withNeeds needs := hm _ (mem_withNeeds ho) hk
      have hname : (other.withNeeds needs).name = (e.withNeeds needs).name := by rw [hsame]
      exact eq_of_name ho he hname
  · rintro ⟨e, ⟨he, hkind, hm⟩, rfl⟩
    refine ⟨e.withNeeds needs, ⟨mem_withNeeds he, hkind, ?_⟩, rfl⟩
    cases wanted with
    | some wanted => exact hm
    | none =>
      intro other' ho' hk
      obtain ⟨other, ho, rfl⟩ := List.mem_map.mp ho'
      rw [hm other ho hk]

theorem complete_withNeeds_iff : (r.withNeeds needs).Complete ↔
    ∀ d ∈ r.definitions, ∀ dependency ∈ needs d, ∃ e, r.Meets dependency e := by
  constructor
  · intro h d hd dependency hdep
    obtain ⟨e, he⟩ := h _ (mem_withNeeds hd) dependency hdep
    obtain ⟨e', he', -⟩ := meets_withNeeds_iff.mp ⟨e, he, rfl⟩
    exact ⟨e', he'⟩
  · intro h d' hd' dependency hdep
    obtain ⟨d, hd, rfl⟩ := List.mem_map.mp hd'
    obtain ⟨e, he⟩ := h d hd dependency hdep
    obtain ⟨e', he', -⟩ := meets_withNeeds_iff.mpr ⟨e, he, rfl⟩
    exact ⟨e', he'⟩

theorem needs_withNeeds {d e : Definition C σ} (hd : d ∈ r.definitions)
    {dependency : Dependency C} (hdep : dependency ∈ needs d) (he : r.Meets dependency e) :
    (r.withNeeds needs).Needs d.name e.name := by
  obtain ⟨e', he', hname⟩ := meets_withNeeds_iff.mpr ⟨e, he, rfl⟩
  exact ⟨_, mem_withNeeds hd, rfl, dependency, hdep, e', he', hname⟩

/-- What it takes to create every bean: what is declared and what factories look up is
there and goes round in no circle, and no factory fails by itself. -/
structure Constructible (r : Registry C σ) (lookups : Definition C σ → List (Dependency C))
    (fails : Definition C σ → Bool) : Prop where
  complete : r.Complete
  acyclic : r.Acyclic
  found : (r.withNeeds lookups).Complete
  founded : (r.withNeeds lookups).Acyclic
  unfailing : ∀ d ∈ r.definitions, fails d = false

/-! ## The order of registration -/

variable {other : Registry C σ}

theorem meets_of_perm (h : r.definitions.Perm other.definitions) {dependency : Dependency C}
    {d : Definition C σ} (hm : r.Meets dependency d) : other.Meets dependency d := by
  obtain ⟨kind, wanted⟩ := dependency
  obtain ⟨hd, hk, hm⟩ := hm
  refine ⟨h.mem_iff.mp hd, hk, ?_⟩
  cases wanted with
  | some wanted => exact hm
  | none => exact fun e he => hm e (h.mem_iff.mpr he)

theorem needs_of_perm (h : r.definitions.Perm other.definitions) {name needed : String}
    (hn : r.Needs name needed) : other.Needs name needed := by
  obtain ⟨d, hd, hname, dependency, hdep, e, hm, hneeded⟩ := hn
  exact ⟨d, h.mem_iff.mp hd, hname, dependency, hdep, e, meets_of_perm h hm, hneeded⟩

theorem Complete.of_perm (hc : r.Complete) (h : r.definitions.Perm other.definitions) :
    other.Complete := by
  intro d hd dependency hdep
  obtain ⟨e, he⟩ := hc d (h.mem_iff.mpr hd) dependency hdep
  exact ⟨e, meets_of_perm h he⟩

theorem Acyclic.of_perm (ha : r.Acyclic) (h : r.definitions.Perm other.definitions) :
    other.Acyclic :=
  fun name hn => ha name (TransGen.mono (fun _ _ => needs_of_perm h.symm) name name hn)

theorem Constructible.of_perm {lookups : Definition C σ → List (Dependency C)}
    {fails : Definition C σ → Bool} (hc : r.Constructible lookups fails)
    (h : r.definitions.Perm other.definitions) : other.Constructible lookups fails where
  complete := hc.complete.of_perm h
  acyclic := hc.acyclic.of_perm h
  found := hc.found.of_perm (h.map _)
  founded := hc.founded.of_perm (h.map _)
  unfailing d hd := hc.unfailing d (h.mem_iff.mpr hd)

end Registry

end WebApplication.Bean
