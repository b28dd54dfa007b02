import WebApplication.Application.Realization
import WebApplication.Proofs.Traversal

/-!
# Checks before the first bean

An application is refused before anything of it runs if its blocks cannot be flattened, its
server is not sound, a file of properties cannot be loaded, there is no port, two beans have
one name, or the declared dependencies have no order. The first check that fails gives the
error, and without one there is a plan.
-/

set_option autoImplicit false

namespace WebApplication.Application

variable {own : Bean.Catalog} {α : Type}

def serverOf (merged : Configuration.Merged (catalog own α) (World α)) :
    Server.Settings (catalog own α) (World α) :=
  (merged.server.map Prod.snd).getD (Server.Settings.default _ _)

def beansOf (merged : Configuration.Merged (catalog own α) (World α)) :
    List (Bean.Definition (catalog own α) (World α)) :=
  merged.beans++serverBeans merged.server.isSome
    ⟨(serverOf merged).codecs, (serverOf merged).maxBody⟩ (serverOf merged).template

namespace Spec

variable (spec : Spec own α) (profiles : Profiles) (files : Storage.Files)
  (environment : Property.Source)

structure Configured (merged : Configuration.Merged (catalog own α) (World α))
    (sources : List Property.Source) : Prop where
  flattens : spec.root.flatten profiles = .ok merged
  valid : (serverOf merged).problems = []
  loads : List.Forall₂ (fun path source => loadFile files path = .ok source) spec.files sources

inductive Refused : StartupError → Prop
  | blocks {e : Configuration.Error} (h : spec.root.flatten profiles = .error e) :
      Refused (.configuration e)
  | server {merged : Configuration.Merged (catalog own α) (World α)}
      (hm : spec.root.flatten profiles = .ok merged) (h : (serverOf merged).problems ≠ []) :
      Refused (.configuration (.invalid (serverOf merged).problems))
  | file {merged : Configuration.Merged (catalog own α) (World α)}
      (hm : spec.root.flatten profiles = .ok merged) (hv : (serverOf merged).problems = [])
      {front back : List String} {path : String} {e : Configuration.Error}
      (hfiles : spec.files = front++path::back)
      (hfront : ∀ other ∈ front, ∃ source, loadFile files other = .ok source)
      (h : loadFile files path = .error e) : Refused (.configuration e)
  | port {merged : Configuration.Merged (catalog own α) (World α)} {sources : List Property.Source}
      (hc : spec.Configured profiles files merged sources) {e : Configuration.Error}
      (h : resolvePort (serverOf merged).port profiles
        (layer spec.properties sources environment) = .error e) : Refused (.configuration e)
  | names {merged : Configuration.Merged (catalog own α) (World α)} {sources : List Property.Source}
      (hc : spec.Configured profiles files merged sources) {port : Nat}
      (hp : resolvePort (serverOf merged).port profiles
        (layer spec.properties sources environment) = .ok port) {name : String}
      (h : Bean.firstRepeated [] ((beansOf merged).map Bean.Definition.name) = some name) :
      Refused (.bean (.duplicate name))
  | dependencies {plan : Plan own α} (hp : spec.plan profiles files environment = .ok plan)
      {e : Bean.Error} (h : plan.context.registry.constructionOrder = .error e) : Refused (.bean e)

variable {spec profiles files environment}

theorem configure_error {e : Configuration.Error} (h : spec.root.flatten profiles = .error e) :
    spec.configure profiles files environment = .error e := by
  rw [configure, h]
  rfl

theorem configure_ok {merged : Configuration.Merged (catalog own α) (World α)}
    (h : spec.root.flatten profiles = .ok merged) :
    spec.configure profiles files environment =
      if (serverOf merged).problems.isEmpty then do
        let properties := layer spec.properties (← spec.files.mapM (loadFile files)) environment
        .ok (merged, serverOf merged, properties,
          ← resolvePort (serverOf merged).port profiles properties)
      else .error (.invalid (serverOf merged).problems) := by
  rw [configure, h]
  rfl

theorem Configured.configure_eq {merged : Configuration.Merged (catalog own α) (World α)}
    {sources : List Property.Source} (h : spec.Configured profiles files merged sources) :
    spec.configure profiles files environment =
      (resolvePort (serverOf merged).port profiles (layer spec.properties sources environment)).map
        fun port => (merged, serverOf merged, layer spec.properties sources environment, port) := by
  rw [configure_ok h.flattens, h.valid, mapM_ok_iff.mpr h.loads]
  rfl

theorem plan_of_configure_error {e : Configuration.Error}
    (h : spec.configure profiles files environment = .error e) :
    spec.plan profiles files environment = .error (.configuration e) := by
  rw [plan, h]

theorem ofList_of_repeated {C : Bean.Catalog} {σ : Type} {definitions : List (Bean.Definition C σ)}
    {name : String}
    (h : Bean.firstRepeated [] (definitions.map Bean.Definition.name) = some name) :
    Bean.Registry.ofList definitions = .error (.duplicate name) := by
  unfold Bean.Registry.ofList
  split <;> simp_all

theorem ofList_of_distinct {C : Bean.Catalog} {σ : Type} {definitions : List (Bean.Definition C σ)}
    (h : Bean.firstRepeated [] (definitions.map Bean.Definition.name) = none) :
    ∃ registry, Bean.Registry.ofList definitions = .ok registry ∧
      registry.definitions = definitions := by
  unfold Bean.Registry.ofList
  split
  · simp_all
  · exact ⟨_, rfl, rfl⟩

structure Follows (merged : Configuration.Merged (catalog own α) (World α)) (plan : Plan own α) :
    Prop where
  server : plan.server = serverOf merged
  beans : plan.context.registry.definitions = beansOf merged
  listeners : plan.context.listeners = merged.listeners

theorem definitions_of_ofList {C : Bean.Catalog} {σ : Type}
    {definitions : List (Bean.Definition C σ)} {registry : Bean.Registry C σ}
    (h : Bean.Registry.ofList definitions = .ok registry) : registry.definitions = definitions := by
  unfold Bean.Registry.ofList at h
  split at h
  · cases h
  · cases h
    rfl

theorem merged_of_configure {merged found : Configuration.Merged (catalog own α) (World α)}
    {server : Server.Settings (catalog own α) (World α)} {properties : Property.Source} {port : Nat}
    (hm : spec.root.flatten profiles = .ok merged)
    (h : spec.configure profiles files environment = .ok (found, server, properties, port)) :
    found = merged ∧ server = serverOf merged := by
  rw [configure_ok hm] at h
  split at h
  · cases hl : spec.files.mapM (loadFile files) with
    | error e =>
      rw [hl] at h
      cases h
    | ok sources =>
      rw [hl] at h
      simp only [bind, Except.bind] at h
      split at h
      · cases h
      · cases h
        exact ⟨rfl, rfl⟩
  · cases h

/-- What is planned follows from the blocks, whatever the files and the environment say. -/
theorem follows_of_plan {merged : Configuration.Merged (catalog own α) (World α)}
    {plan : Plan own α} (hm : spec.root.flatten profiles = .ok merged)
    (h : spec.plan profiles files environment = .ok plan) : Follows merged plan := by
  rw [Spec.plan] at h
  cases hc : spec.configure profiles files environment with
  | error e =>
    rw [hc] at h
    cases h
  | ok result =>
    obtain ⟨found, server, properties, port⟩ := result
    obtain ⟨rfl, rfl⟩ := merged_of_configure hm hc
    rw [hc] at h
    dsimp only at h
    split at h
    · cases h
    · rename_i hr
      cases h
      exact ⟨rfl, definitions_of_ofList hr, rfl⟩

theorem Configured.plan_error {merged : Configuration.Merged (catalog own α) (World α)}
    {sources : List Property.Source} (h : spec.Configured profiles files merged sources)
    {port : Nat} (hp : resolvePort (serverOf merged).port profiles
      (layer spec.properties sources environment) = .ok port) {name : String}
    (hn : Bean.firstRepeated [] ((beansOf merged).map Bean.Definition.name) = some name) :
    spec.plan profiles files environment = .error (.bean (.duplicate name)) := by
  have ho := ofList_of_repeated hn
  rw [beansOf] at ho
  rw [plan, h.configure_eq, hp]
  simp only [Except.map, ho]

theorem Configured.plan_ok {merged : Configuration.Merged (catalog own α) (World α)}
    {sources : List Property.Source} (h : spec.Configured profiles files merged sources)
    {port : Nat} (hp : resolvePort (serverOf merged).port profiles
      (layer spec.properties sources environment) = .ok port)
    (hn : Bean.firstRepeated [] ((beansOf merged).map Bean.Definition.name) = none) :
    ∃ plan, spec.plan profiles files environment = .ok plan ∧ Follows merged plan := by
  obtain ⟨registry, ho, hr⟩ := ofList_of_distinct hn
  rw [beansOf] at ho
  rw [plan, h.configure_eq, hp]
  simp only [Except.map, ho]
  exact ⟨_, rfl, rfl, hr, rfl⟩

/-- A check that fails before there is a plan leaves none. -/
theorem Refused.plan {e : StartupError} (h : spec.Refused profiles files environment e) :
    spec.plan profiles files environment = .error e ∨ ∃ plan cause,
      spec.plan profiles files environment = .ok plan ∧
      plan.context.registry.constructionOrder = .error cause ∧ e = .bean cause := by
  cases h with
  | blocks h => exact .inl (plan_of_configure_error (configure_error h))
  | server hm h =>
    left
    apply plan_of_configure_error
    rw [configure_ok hm, if_neg]
    simpa using h
  | file hm hv hfiles hfront h =>
    left
    apply plan_of_configure_error
    rw [configure_ok hm, hv, mapM_error_iff.mpr ⟨_, _, _, hfiles, hfront, h⟩]
    rfl
  | port hc h =>
    left
    apply plan_of_configure_error
    rw [hc.configure_eq, h]
    rfl
  | names hc hp h => exact .inl (hc.plan_error hp h)
  | dependencies hp h => exact .inr ⟨_, _, hp, h, rfl⟩

theorem not_refused_of_planned {plan : Plan own α} {order : List String}
    (hp : spec.plan profiles files environment = .ok plan)
    (ho : plan.context.registry.constructionOrder = .ok order) (e : StartupError) :
    ¬ spec.Refused profiles files environment e := by
  intro h
  rcases h.plan with he | ⟨other, cause, hp', ho', -⟩
  · rw [hp] at he
    cases he
  · obtain rfl : plan = other := Except.ok.inj (hp.symm.trans hp')
    rw [ho] at ho'
    cases ho'

/-- If no check fails then there is a plan, and an order for its beans. -/
theorem planned_of_not_refused (h : ∀ e, ¬ spec.Refused profiles files environment e) :
    ∃ merged plan order, spec.root.flatten profiles = .ok merged ∧
      spec.plan profiles files environment = .ok plan ∧ Follows merged plan ∧
      plan.context.registry.constructionOrder = .ok order := by
  cases hm : spec.root.flatten profiles with
  | error e => exact absurd (.blocks hm) (h _)
  | ok merged =>
    by_cases hv : (serverOf merged).problems ≠ []
    · exact absurd (.server hm hv) (h _)
    rw [not_not] at hv
    cases hl : spec.files.mapM (loadFile files) with
    | error e =>
      obtain ⟨front, path, back, hfiles, hfront, he⟩ := mapM_error_iff.mp hl
      exact absurd (.file hm hv hfiles hfront he) (h _)
    | ok sources =>
      have hc : spec.Configured profiles files merged sources := ⟨hm, hv, mapM_ok_iff.mp hl⟩
      cases hp : resolvePort (serverOf merged).port profiles
          (layer spec.properties sources environment) with
      | error e => exact absurd (.port hc hp) (h _)
      | ok port =>
        cases hn : Bean.firstRepeated [] ((beansOf merged).map Bean.Definition.name) with
        | some name => exact absurd (.names hc hp hn) (h _)
        | none =>
          obtain ⟨plan, hplan, hfollows⟩ := hc.plan_ok hp hn
          cases ho : plan.context.registry.constructionOrder with
          | error e => exact absurd (.dependencies hplan ho) (h _)
          | ok order => exact ⟨merged, plan, order, rfl, hplan, hfollows, ho⟩

end Spec

end WebApplication.Application
