import WebApplication.Proofs.Bean.Lookups
import WebApplication.Proofs.Bean.Singletons

/-!
# Creating every bean

If every factory looks up the beans on a list of its own, fails once a lookup fails, and
else ends in a way that is known beforehand, then creating every bean of a fresh context
succeeds exactly if both what beans declare and what their factories look up is there and
goes round in no circle, and no factory fails by itself. The order of registration has no
part in it.
-/

set_option autoImplicit false

namespace WebApplication.Bean

open Relation (TransGen)

variable {C : Catalog} {σ α : Type}

/-! ## What is stored is founded -/

def Registry.Met (r : Registry C σ) (names : List String) (dependency : Dependency C) : Prop :=
  ∃ e, r.Meets dependency e ∧ e.name ∈ names

/-- Every stored bean stands behind those that its factory looks up, and its factory does
not fail by itself. -/
structure Founded (r : Registry C σ) (lookups : Definition C σ → List (Dependency C))
    (fails : Definition C σ → Bool) (names : List String) : Prop where
  sorted : (r.withNeeds lookups).Sorted names
  unfailing : ∀ d ∈ r.definitions, d.name ∈ names → fails d = false

namespace Founded

variable {r : Registry C σ} {lookups : Definition C σ → List (Dependency C)}
  {fails : Definition C σ → Bool} {names : List String}

theorem start : Founded r lookups fails [] :=
  ⟨Registry.sorted_nil _, by simp⟩

theorem append (h : Founded r lookups fails names) {d : Definition C σ}
    (hd : d ∈ r.definitions) (hn : d.name ∉ names) (hunfailing : fails d = false)
    (hm : ∀ dependency ∈ lookups d, r.Met names dependency) :
    Founded r lookups fails (names++[d.name]) where
  sorted := by
    refine h.sorted.append (d := d.withNeeds lookups) (Registry.mem_withNeeds hd) hn ?_
    intro dependency hdep
    obtain ⟨e, he, hin⟩ := hm dependency hdep
    obtain ⟨e', he', hname⟩ := Registry.meets_withNeeds_iff.mpr ⟨e, he, rfl⟩
    exact ⟨e', he', hname ▸ hin⟩
  unfailing e he hin := by
    rcases List.mem_append.mp hin with hin | hin
    · exact h.unfailing e he hin
    · rwa [Registry.eq_of_name he hd (List.mem_singleton.mp hin)]

end Founded

namespace Context

variable {ctx : Context C σ} {depth : Nat} {s later : State C σ}
  {lookups : Definition C σ → List (Dependency C)} {fails : Definition C σ → Bool}

theorem mem_names_of_find? {name : String} {shared : Shared (Stored C)}
    (h : s.find? name = some shared) : name ∈ s.stock.names := by
  have hfound : s.stock.find? name = some shared := h
  exact Stock.mem_names.mpr ⟨_, Stock.find?_mem hfound, Stock.find?_name hfound⟩

theorem find?_of_mem_names {name : String} (h : name ∈ s.stock.names) :
    ∃ shared, s.find? name = some shared := by
  cases hs : s.find? name with
  | some shared => exact ⟨shared, rfl⟩
  | none => exact absurd h (Stock.find?_eq_none_iff.mp hs)

theorem names_store (s : State C σ) (x : Stored C) :
    ((left x.name s).store x).2.stock.names =
      if x.name ∈ s.stock.names then s.stock.names else s.stock.names++[x.name] := by
  rw [store_stock]
  split
  · rename_i hin
    obtain ⟨shared, hs⟩ := find?_of_mem_names hin
    rw [Stock.step, State.find?_stock, hs]
    rfl
  · rename_i hout
    rw [Stock.step_made hout]
    simp [Stock.names]

/-! ## Every lookup leaves what is stored founded -/

theorem at_every_depth {P : Nat → Prop}
    (h : ∀ depth, (∀ inner, depth = inner+1 → P inner) → P depth) (depth : Nat) : P depth := by
  induction depth with
  | zero => exact h 0 nofun
  | succ depth ih =>
    refine h (depth+1) fun inner he => ?_
    obtain rfl : depth = inner := Nat.succ.inj he
    exact ih

def Keeps (ctx : Context C σ) (lookups : Definition C σ → List (Dependency C))
    (fails : Definition C σ → Bool) (depth : Nat) : Prop :=
  ∀ (dependency : Dependency C) (s : State C σ),
    Founded ctx.registry lookups fails s.stock.names →
    Founded ctx.registry lookups fails
      (ctx.respondWithin depth (.find dependency) s).2.stock.names

theorem doomed_founded (h : ctx.Keeps lookups fails depth)
    {p : Program C σ (Except Failure α)} (hp : p.Doomed)
    (hs : Founded ctx.registry lookups fails s.stock.names) :
    (∃ failure, (p.run (ctx.respondWithin depth) s).1 = .error failure) ∧
      Founded ctx.registry lookups fails (p.run (ctx.respondWithin depth) s).2.stock.names := by
  induction hp generalizing s with
  | fail failure => exact ⟨⟨failure, rfl⟩, hs⟩
  | find _ ih => exact ih _ (h _ s hs)
  | update _ ih => exact ih s.world hs

theorem program_grows (ctx : Context C σ) (depth : Nat) (p : Program C σ α) (s : State C σ) :
    s.stock.names ⊆ (p.run (ctx.respondWithin depth) s).2.stock.names :=
  Stock.names_subset (stored_of_explained (program_explained (within_explained ctx depth) p s))

/-- A program that follows a list of lookups leaves what is stored founded. It succeeds
only if it does not fail by itself and all it looks up is stored. -/
theorem follows_founded (h : ctx.Keeps lookups fails depth) {wanted : List (Dependency C)}
    {fault : Bool} {p : Program C σ (Except Failure α)} (hp : p.Follows wanted fault)
    (hs : Founded ctx.registry lookups fails s.stock.names) :
    Founded ctx.registry lookups fails (p.run (ctx.respondWithin depth) s).2.stock.names ∧
      ∀ value, (p.run (ctx.respondWithin depth) s).1 = .ok value → fault = false ∧
        ∀ dependency ∈ wanted,
          ctx.registry.Met (p.run (ctx.respondWithin depth) s).2.stock.names dependency := by
  induction hp generalizing s with
  | succeed value => exact ⟨hs, fun _ _ => ⟨rfl, by simp⟩⟩
  | fail failure => exact ⟨hs, nofun⟩
  | update _ ih => exact ih s.world hs
  | @find dependency rest fault next _ herror ih =>
    have hmiddle := h dependency s hs
    rw [Program.run]
    rcases hr : ctx.respondWithin depth (.find dependency) s with ⟨e | shared, middle⟩
    · -- what comes after a failed lookup may still store beans, but ends in a failure
      rw [hr] at hmiddle
      obtain ⟨⟨failure, hf⟩, hlater⟩ := doomed_founded h (herror e) hmiddle
      refine ⟨hlater, fun value hv => ?_⟩
      rw [hf] at hv
      cases hv
    · rw [hr] at hmiddle
      obtain ⟨hlater, hok⟩ := ih shared hmiddle
      refine ⟨hlater, fun value hv => ?_⟩
      obtain ⟨hfault, hrest⟩ := hok value hv
      refine ⟨hfault, fun other ho => ?_⟩
      rcases List.mem_cons.mp ho with rfl | ho
      · obtain ⟨e, hm, hheld⟩ := find_holds hr
        exact ⟨e, hm, program_grows ctx depth (next (.ok shared)) middle
          (mem_names_of_find? hheld)⟩
      · exact hrest other ho

def Regular (ctx : Context C σ) (lookups : Definition C σ → List (Dependency C))
    (fails : Definition C σ → Bool) : Prop :=
  ∀ d ∈ ctx.registry.definitions, d.factory.Follows (lookups d) (fails d)

theorem create_founded (hr : ctx.Regular lookups fails) (h : ctx.Keeps lookups fails depth)
    {d : Definition C σ} (hd : d ∈ ctx.registry.definitions)
    (hs : Founded ctx.registry lookups fails s.stock.names) :
    Founded ctx.registry lookups fails
      (create (ctx.respondWithin depth) d s).2.stock.names := by
  have hs' : Founded ctx.registry lookups fails (entered d.name s).stock.names := hs
  obtain ⟨hlater, hok⟩ := follows_founded h (hr d hd) hs'
  rcases hrun : d.factory.run (ctx.respondWithin depth) (entered d.name s) with
    ⟨failure | value, later⟩
  · rw [hrun] at hlater
    rw [create_error hrun]
    exact hlater
  · rw [hrun] at hlater hok
    rw [create_ok hrun]
    have hnames := names_store later ⟨d.name, d.kind, value⟩
    obtain ⟨hunfailing, hmet⟩ := hok value rfl
    dsimp only at hnames ⊢
    rw [hnames]
    split
    · exact hlater
    · rename_i hout
      exact hlater.append hd hout hunfailing hmet

theorem obtain_founded (hr : ctx.Regular lookups fails) (depth : Nat)
    (h : ∀ inner, depth = inner+1 → ctx.Keeps lookups fails inner) (name : String)
    (hs : Founded ctx.registry lookups fails s.stock.names) :
    Founded ctx.registry lookups fails
      (ctx.obtain (ctx.below depth) name s).2.stock.names := by
  rw [obtain]
  cases s.find? name with
  | some shared => exact hs
  | none =>
    cases hg : ctx.registry.get? name with
    | none => exact hs
    | some d =>
      dsimp only
      split
      · exact hs
      · cases depth with
        | zero => exact hs
        | succ inner => exact create_founded hr (h inner rfl) (Registry.get?_eq_some_iff.mp hg).1 hs

theorem find_founded (hr : ctx.Regular lookups fails)
    (h : ∀ inner, depth = inner+1 → ctx.Keeps lookups fails inner) :
    ctx.Keeps lookups fails depth := by
  intro dependency s hs
  rw [respondWithin_eq, respond]
  cases ctx.registry.resolve dependency "<lookup>" with
  | error e => exact hs
  | ok d =>
    have hlater := obtain_founded hr depth h d.name hs
    dsimp only
    rcases ho : ctx.obtain (ctx.below depth) d.name s with ⟨e | shared, later⟩
    · rw [ho] at hlater
      rwa [obtainAs_error ho]
    · rw [ho] at hlater
      rwa [obtainAs_ok ho]

theorem keeps (hr : ctx.Regular lookups fails) (depth : Nat) : ctx.Keeps lookups fails depth :=
  at_every_depth (fun _ h => find_founded hr h) depth

/-! ## Lookups that succeed -/

def Leads (ctx : Context C σ) (lookups : Definition C σ → List (Dependency C))
    (s : State C σ) (needed : String) : Prop :=
  ∀ name ∈ s.creating, TransGen (ctx.registry.withNeeds lookups).Needs name needed

/-- A lookup succeeds if a bean meets it that all beans being created lead to. -/
def Finds (ctx : Context C σ) (lookups : Definition C σ → List (Dependency C))
    (depth : Nat) : Prop :=
  ∀ (dependency : Dependency C) (d : Definition C σ) (s : State C σ), ctx.Fits depth s →
    ctx.registry.Meets dependency d → ctx.Leads lookups s d.name →
    ∃ shared later, ctx.respondWithin depth (.find dependency) s = (.ok shared, later)

theorem follows_succeeds (h : ctx.Finds lookups depth) {wanted : List (Dependency C)}
    {p : Program C σ (Except Failure α)} (hp : p.Follows wanted false) (hf : ctx.Fits depth s)
    (hm : ∀ dependency ∈ wanted, ∃ e, ctx.registry.Meets dependency e ∧
      ctx.Leads lookups s e.name) :
    ∃ value, (p.run (ctx.respondWithin depth) s).1 = .ok value := by
  generalize hfault : false = fault at hp
  induction hp generalizing s with
  | succeed value => exact ⟨value, rfl⟩
  | fail failure => cases hfault
  | update _ ih => exact ih _ ⟨hf.sound, hf.publishing, hf.heard, hf.room⟩ hm hfault
  | @find dependency rest fault next _ _ ih =>
    obtain ⟨e, hmeets, hpath⟩ := hm dependency (by simp)
    obtain ⟨shared, later, hr⟩ := h dependency e s hf hmeets hpath
    have he := within_explained ctx depth (.find dependency) s
    rw [hr] at he
    rw [Program.run, hr]
    refine ih shared (hf.after he) ?_ hfault
    intro other ho
    obtain ⟨e', hmeets', hpath'⟩ := hm other (by simp [ho])
    refine ⟨e', hmeets', ?_⟩
    rw [Leads, he.creating]
    exact hpath'

theorem Leads.enter {d : Definition C σ} (hpath : ctx.Leads lookups s d.name)
    (hc : (ctx.registry.withNeeds lookups).Complete) (hd : d ∈ ctx.registry.definitions)
    {dependency : Dependency C} (hdep : dependency ∈ lookups d) :
    ∃ e, ctx.registry.Meets dependency e ∧ ctx.Leads lookups (entered d.name s) e.name := by
  obtain ⟨e, hm⟩ := Registry.complete_withNeeds_iff.mp hc d hd dependency hdep
  have hstep := Registry.needs_withNeeds hd hdep hm
  refine ⟨e, hm, fun name hn => ?_⟩
  rcases List.mem_append.mp hn with hn | hn
  · exact (hpath name hn).tail hstep
  · rw [List.mem_singleton.mp hn]
    exact .single hstep

section Succeeds

variable (hr : ctx.Regular lookups fails) (hc : ctx.registry.Constructible lookups fails)

include hr hc

theorem obtain_succeeds (h : ∀ inner, depth = inner+1 → ctx.Finds lookups inner)
    {d : Definition C σ} (hd : d ∈ ctx.registry.definitions) (hf : ctx.Fits depth s)
    (hpath : ctx.Leads lookups s d.name) :
    ∃ shared later, ctx.obtain (ctx.below depth) d.name s = (.ok shared, later) := by
  rw [obtain]
  cases hs : s.find? d.name with
  | some shared => exact ⟨shared, s, rfl⟩
  | none =>
    -- if it were being created it would lead to itself
    have hout : d.name ∉ s.creating := fun hin => hc.founded d.name (hpath d.name hin)
    rw [Registry.get?_eq_some_iff.mpr ⟨hd, rfl⟩]
    dsimp only
    rw [if_neg hout]
    cases depth with
    | zero =>
      -- without depth left every bean is being created
      exact absurd (hf.mem_creating (Registry.mem_names hd)) hout
    | succ inner =>
      have hready : Stock.Ready ctx.registry (.began d.name) s.stock :=
        ⟨Registry.mem_names hd, Stock.find?_eq_none_iff.mp hs, hout⟩
      have hfollows := hr d hd
      rw [hc.unfailing d hd] at hfollows
      obtain ⟨value, hv⟩ := follows_succeeds (h inner rfl) hfollows (hf.enter hready)
        fun _ hdep => hpath.enter hc.found hd hdep
      rcases hrun : d.factory.run (ctx.respondWithin inner) (entered d.name s) with
        ⟨failure | value, later⟩
      · rw [hrun] at hv
        cases hv
      · exact ⟨_, _, create_ok hrun⟩

theorem find_succeeds (h : ∀ inner, depth = inner+1 → ctx.Finds lookups inner) :
    ctx.Finds lookups depth := by
  intro dependency d s hf hm hpath
  obtain ⟨shared, later, ho⟩ := obtain_succeeds hr hc h hm.1 hf hpath
  have hkind : shared.value.kind = dependency.kind :=
    (hf.obtained (ctx.inner_below depth) hm.1 ho).2.trans hm.2.1
  obtain ⟨value, hcast⟩ := cast_of_kind hkind
  rw [respondWithin_eq, respond, Registry.resolve_eq_ok_iff.mpr hm]
  dsimp only
  rw [obtainAs_ok ho, hcast]
  exact ⟨_, later, rfl⟩

theorem finds (depth : Nat) : ctx.Finds lookups depth :=
  at_every_depth (fun _ h => find_succeeds hr hc h) depth

theorem obtain_succeeds_alone {d : Definition C σ} (hd : d ∈ ctx.registry.definitions)
    (hf : ctx.Fits depth s) (hempty : s.creating = []) :
    ∃ shared later, ctx.obtain (ctx.below depth) d.name s = (.ok shared, later) :=
  obtain_succeeds hr hc (fun inner _ => finds hr hc inner) hd hf (by simp [Leads, hempty])

theorem names_succeed {names : List String} (hn : ∀ name ∈ names, name ∈ ctx.registry.names)
    (hf : ctx.Fits depth s) (hempty : s.creating = []) :
    ∃ all later, forNames (ctx.obtain (ctx.below depth)) names s = (.ok all, later) := by
  induction names generalizing s with
  | nil => exact ⟨[], s, rfl⟩
  | cons name names ih =>
    obtain ⟨d, hd, rfl⟩ := List.mem_map.mp (hn name (by simp))
    obtain ⟨shared, middle, ho⟩ := obtain_succeeds_alone hr hc hd hf hempty
    have he := obtain_explained (ctx.inner_below depth) d.name s
    rw [ho] at he
    obtain ⟨all, later, hrest⟩ :=
      ih (fun other h => hn other (by simp [h])) (hf.after he) (he.creating.trans hempty)
    rw [forNames_ok ho, hrest]
    exact ⟨_, later, rfl⟩

end Succeeds

/-! ## All beans -/

theorem names_grow (ctx : Context C σ) (depth : Nat) (names : List String) (s : State C σ) :
    s.stored <+: (forNames (ctx.obtain (ctx.below depth)) names s).2.stored :=
  stored_of_explained (names_explained
    (fun name _ s => obtain_explained (ctx.inner_below depth) name s) s)

theorem names_stored {names : List String} {all : List (Shared (Stored C))}
    (h : forNames (ctx.obtain (ctx.below depth)) names s = (.ok all, later)) :
    names ⊆ later.stock.names := by
  induction names generalizing s all with
  | nil => exact List.nil_subset _
  | cons name names ih =>
    rcases ho : ctx.obtain (ctx.below depth) name s with ⟨e | shared, middle⟩
    · rw [forNames_error ho] at h
      cases h
    · have hg := names_grow ctx depth names middle
      rw [forNames_ok ho] at h
      rcases hr : forNames (ctx.obtain (ctx.below depth)) names middle with ⟨e | rest, last⟩
      · rw [hr] at h
        cases h
      · rw [hr] at h hg
        cases h
        exact List.cons_subset.mpr
          ⟨Stock.names_subset hg (mem_names_of_find? (obtain_found ho)), ih hr⟩

theorem names_founded (hr : ctx.Regular lookups fails) (depth : Nat) (names : List String)
    (hs : Founded ctx.registry lookups fails s.stock.names) :
    Founded ctx.registry lookups fails
      (forNames (ctx.obtain (ctx.below depth)) names s).2.stock.names := by
  induction names generalizing s with
  | nil => exact hs
  | cons name names ih =>
    have hmiddle := obtain_founded hr depth (fun inner _ => keeps hr inner) name hs
    rcases ho : ctx.obtain (ctx.below depth) name s with ⟨e | shared, middle⟩
    · rw [ho] at hmiddle
      rwa [forNames_error ho]
    · rw [ho] at hmiddle
      rw [forNames_ok ho]
      exact ih hmiddle

/-- Creating every bean is having an order and creating the beans in it. -/
theorem createAll_ok_iff :
    ctx.respondWithin depth .createAll s = (.ok (), later) ↔
      ∃ order all, ctx.registry.constructionOrder = .ok order ∧
        forNames (ctx.obtain (ctx.below depth)) order s = (.ok all, later) := by
  rw [respondWithin_eq, respond]
  constructor
  · intro h
    split at h
    · cases h
    · rename_i order horder
      split at h
      · cases h
      · rename_i all last hall
        cases h
        exact ⟨order, all, horder, hall⟩
  · intro h
    obtain ⟨order, all, horder, hall⟩ := h
    rw [horder]
    dsimp only
    rw [hall]

theorem created_of_ok (h : ctx.respondWithin depth .createAll s = (.ok (), later)) :
    ∀ name ∈ ctx.registry.names, ∃ shared, later.find? name = some shared := by
  obtain ⟨order, all, horder, hall⟩ := createAll_ok_iff.mp h
  intro name hn
  exact find?_of_mem_names (names_stored hall ((Registry.names_sorted horder).2 name hn))

theorem constructible_of_ok (hr : ctx.Regular lookups fails)
    (hs : Founded ctx.registry lookups fails s.stock.names)
    (h : ctx.respondWithin depth .createAll s = (.ok (), later)) :
    ctx.registry.Constructible lookups fails := by
  obtain ⟨order, all, horder, hall⟩ := createAll_ok_iff.mp h
  have hlater := names_founded hr depth order hs
  rw [hall] at hlater
  have hknown : ∀ name ∈ ctx.registry.names, name ∈ later.stock.names :=
    fun name hn => names_stored hall ((Registry.names_sorted horder).2 name hn)
  have hknown' : ∀ name ∈ (ctx.registry.withNeeds lookups).names, name ∈ later.stock.names := by
    rw [Registry.names_withNeeds]
    exact hknown
  exact ⟨Registry.complete_of_ok horder, Registry.acyclic_of_ok horder,
    hlater.sorted.complete hknown', hlater.sorted.acyclic hknown',
    fun d hd => hlater.unfailing d hd (hknown d.name (Registry.mem_names hd))⟩

theorem ok_of_constructible (hr : ctx.Regular lookups fails)
    (hc : ctx.registry.Constructible lookups fails) (hf : ctx.Fits depth s)
    (hempty : s.creating = []) :
    ∃ later, ctx.respondWithin depth .createAll s = (.ok (), later) := by
  obtain ⟨order, horder⟩ := Registry.order_of_complete_acyclic hc.complete hc.acyclic
  obtain ⟨all, later, hall⟩ :=
    names_succeed hr hc (Registry.names_sorted horder).1.known hf hempty
  exact ⟨later, createAll_ok_iff.mpr ⟨order, all, horder, hall⟩⟩

theorem start_ok_iff (hr : ctx.Regular lookups fails) (world : σ) :
    (ctx.answer .createAll (State.start world)).1 = .ok () ↔
      ctx.registry.Constructible lookups fails := by
  constructor
  · intro h
    exact constructible_of_ok hr Founded.start (Prod.ext h rfl)
  · intro hc
    obtain ⟨later, h⟩ := ok_of_constructible hr hc (fits_start ctx world) rfl
    exact congrArg Prod.fst h

/-- Creating every bean of a fresh context whose factories follow lists of lookups succeeds
exactly if the context is constructible, and then every bean is there. The order in which
the beans were registered makes no difference, nor does anything else about a context. -/
theorem createAll_verdict (ctx : Context C σ)
    (lookups : Definition C σ → List (Dependency C)) (fails : Definition C σ → Bool)
    (hr : ctx.Regular lookups fails) (world : σ) :
    ((ctx.answer .createAll (State.start world)).1 = .ok () ↔
      ctx.registry.Constructible lookups fails) ∧
    ((ctx.answer .createAll (State.start world)).1 = .ok () → ∀ name ∈ ctx.registry.names,
      ∃ shared, (ctx.answer .createAll (State.start world)).2.find? name = some shared) ∧
    ∀ (other : Context C σ) (world' : σ),
      ctx.registry.definitions.Perm other.registry.definitions →
      ((other.answer .createAll (State.start world')).1 = .ok () ↔
        (ctx.answer .createAll (State.start world)).1 = .ok ()) := by
  refine ⟨start_ok_iff hr world, fun h => created_of_ok (Prod.ext h rfl), ?_⟩
  intro other world' hp
  have hr' : other.Regular lookups fails := fun d hd => hr d (hp.mem_iff.mpr hd)
  rw [start_ok_iff hr' world', start_ok_iff hr world]
  exact ⟨fun hc => hc.of_perm hp.symm, fun hc => hc.of_perm hp⟩

def unannounced (name : String) (lookups : List String) : Definition .plain Unit :=
  ⟨name, (), [], .following (.ok ()) (lookups.map (Dependency.named ()))⟩

def page : Context .plain Unit where
  registry := ⟨[unannounced "page" ["store", "files"], unannounced "store" ["files"],
    unannounced "files" []], by decide⟩
  listeners := []
  profiles := .none
  properties := .empty

def turned : Context .plain Unit where
  registry := ⟨page.registry.definitions.reverse, by decide⟩
  listeners := []
  profiles := .none
  properties := .empty

def pageLookups (d : Definition .plain Unit) : List (Dependency .plain) :=
  if d.name = "page" then [.named () "store", .named () "files"]
  else if d.name = "store" then [.named () "files"] else []

def circle : Context .plain Unit where
  registry := ⟨[unannounced "page" ["store"], unannounced "store" ["page"]], by decide⟩
  listeners := []
  profiles := .none
  properties := .empty

def circleLookups (d : Definition .plain Unit) : List (Dependency .plain) :=
  if d.name = "page" then [.named () "store"] else [.named () "page"]

theorem page_regular : page.Regular pageLookups fun _ => false := by
  intro d hd
  simp only [page, List.mem_cons, List.not_mem_nil, or_false] at hd
  rcases hd with rfl | rfl | rfl <;> exact Program.follows_following () _

theorem circle_regular : circle.Regular circleLookups fun _ => false := by
  intro d hd
  simp only [circle, List.mem_cons, List.not_mem_nil, or_false] at hd
  rcases hd with rfl | rfl <;> exact Program.follows_following () _

theorem page_created_circle_refused :
    page.registry.Constructible pageLookups (fun _ => false) ∧
    (page.answer .createAll (State.start ())).2.stored.map Stored.name =
      ["files", "store", "page"] ∧
    (turned.answer .createAll (State.start ())).1 = .ok () ∧
    (circle.answer .createAll (State.start ())).1 = .error (.cyclic ["page", "store", "page"]) ∧
    ¬circle.registry.Constructible circleLookups fun _ => false := by
  have hc : (circle.answer .createAll (State.start ())).1 =
      .error (.cyclic ["page", "store", "page"]) := rfl
  obtain ⟨hverdict, -, hturned⟩ := createAll_verdict page pageLookups _ page_regular ()
  have hperm : page.registry.definitions.Perm turned.registry.definitions :=
    (List.reverse_perm _).symm
  refine ⟨hverdict.mp rfl, rfl, (hturned turned () hperm).mpr rfl, hc, fun h => ?_⟩
  have hok := (createAll_verdict circle circleLookups _ circle_regular ()).1.mpr h
  rw [hc] at hok
  cases hok

end Context

end WebApplication.Bean
