import WebApplication.Proofs.Bean.Logged

/-!
# Beans over whole sessions

A session is any program run on a fresh context: it asks one question after another, as
its answers lead it. Whatever factories and listeners do in between, a session never has
a bean that is both stored and being created, makes every bean at most once, keeps what
is stored, returns nothing else for its name, and begins a failed creation afresh.
-/

set_option autoImplicit false

namespace WebApplication.Bean

variable {C : Catalog} {σ : Type} {r : Registry C σ}

structure Steady (r : Registry C σ) (steps : List (Step C)) : Prop where
  sound : ∀ front, front <+: steps → (Stock.empty.run front).Sound r
  once : (steps.filterMap Step.makes).Nodup
  kept : ∀ front more name shared, front++more <+: steps →
    (Stock.empty.run front).find? name = some shared →
    (Stock.empty.run (front++more)).find? name = some shared
  returned : ∀ front kind shared back, steps = front++.returned kind shared::back →
    (Stock.empty.run front).find? shared.value.name = some shared ∧
    ∃ value, Context.cast kind shared = .ok ⟨shared.serial, value⟩
  afresh : ∀ front name back, steps = front++.failed name::back →
    (Stock.empty.run (front++[.failed name])).Lacks name ∧
    ∀ middle step rest, back = middle++step::rest →
      (∀ other ∈ middle, other.lookup ≠ some name) → step.lookup = some name →
      step = .began name

theorem cast_of_kind {kind : C.Kind} {shared : Shared (Stored C)}
    (h : shared.value.kind = kind) :
    ∃ value, Context.cast kind shared = .ok ⟨shared.serial, value⟩ :=
  ⟨h ▸ shared.value.value, dif_pos h⟩

/-- Steps that are possible one after another from an empty stock are steady. -/
theorem steady_of_safe {steps : List (Step C)} (h : Stock.empty.Safe r steps) :
    Steady r steps where
  sound front hp := by
    obtain ⟨back, rfl⟩ := hp
    exact Stock.sound_run (Stock.sound_empty r) ((Stock.safe_append front back _).mp h).1
  once := (Stock.made_once (Stock.sound_empty r) h).1
  kept front more name shared _ hf := by
    rw [Stock.run_append]
    exact Stock.find?_of_prefix (Stock.stored_run more _) hf
  returned front kind shared back he := by
    subst he
    obtain ⟨hfound, hkind⟩ := ((Stock.safe_append front _ _).mp h).2.1
    exact ⟨hfound, cast_of_kind hkind⟩
  afresh front name back he := by
    subst he
    obtain ⟨hfront, hfailed, hback⟩ := (Stock.safe_append front _ _).mp h
    have hs := Stock.sound_run (Stock.sound_empty r) hfront
    have hlacks := Stock.lacks_failed hs hfailed
    refine ⟨?_, ?_⟩
    · rw [Stock.run_append]
      exact hlacks
    · intro middle step rest hb hm hl
      subst hb
      exact Stock.begins_afresh hlacks hback hm hl

namespace Context

variable {α : Type} {ctx : Context C σ} {depth : Nat} {s later : State C σ}

theorem stored_of_explained {steps : List (Step C)} (h : ctx.Explains depth s steps later) :
    s.stored <+: later.stored := by
  have hp := Stock.stored_run steps s.stock
  rw [h.run] at hp
  exact hp

/-! ## Answers -/

theorem obtain_grows (ctx : Context C σ) (depth : Nat) (name : String) (s : State C σ) :
    s.stored <+: (ctx.obtain (ctx.below depth) name s).2.stored :=
  stored_of_explained (obtain_explained (ctx.inner_below depth) name s)

theorem obtainAs_grows (ctx : Context C σ) (depth : Nat) (kind : C.Kind) (name : String)
    (s : State C σ) : s.stored <+: (ctx.obtainAs (ctx.below depth) kind name s).2.stored := by
  have hg := obtain_grows ctx depth name s
  rcases ho : ctx.obtain (ctx.below depth) name s with ⟨e | shared, later⟩
  · rw [ho] at hg
    rwa [obtainAs_error ho]
  · rw [ho] at hg
    rwa [obtainAs_ok ho]

def Holds (s : State C σ) (kind : C.Kind) (name : String) (shared : Shared (C.Instance kind)) :
    Prop :=
  s.find? name = some ⟨shared.serial, name, kind, shared.value⟩

theorem Holds.grow {kind : C.Kind} {name : String} {shared : Shared (C.Instance kind)}
    (h : Holds s kind name shared) (hp : s.stored <+: later.stored) :
    Holds later kind name shared := by
  have hs : s.stock.find? name = some ⟨shared.serial, name, kind, shared.value⟩ := h
  have hp' : s.stock.stored <+: later.stock.stored := hp
  exact Stock.find?_of_prefix hp' hs

theorem obtainAs_holds {inner : Option (Responder C σ)} {kind : C.Kind} {name : String}
    {shared : Shared (C.Instance kind)}
    (h : ctx.obtainAs inner kind name s = (.ok shared, later)) : Holds later kind name shared := by
  rcases ho : ctx.obtain inner name s with ⟨e | ⟨serial, other, made, value⟩, final⟩
  · rw [obtainAs_error ho] at h
    cases h
  · rw [obtainAs_ok ho] at h
    have hfound : final.stock.find? name = some ⟨serial, other, made, value⟩ :=
      (final.find?_stock name).trans (obtain_found ho)
    obtain rfl : other = name := Stock.find?_name hfound
    rw [cast] at h
    split at h
    · rename_i hk
      cases hk
      cases h
      exact hfound
    · cases h

/-- All that is returned for a list of names is stored under them in the end. -/
theorem names_hold (ctx : Context C σ) (depth : Nat) (kind : C.Kind) {names : List String}
    {all : List (Shared (C.Instance kind))}
    (h : forNames (ctx.obtainAs (ctx.below depth) kind) names s = (.ok all, later)) :
    s.stored <+: later.stored ∧ List.Forall₂ (Holds later kind) names all := by
  induction names generalizing s all with
  | nil =>
    cases h
    exact ⟨List.prefix_refl _, .nil⟩
  | cons name names ih =>
    have hg := obtainAs_grows ctx depth kind name s
    rcases hr : ctx.obtainAs (ctx.below depth) kind name s with ⟨e | shared, middle⟩
    · rw [forNames_error hr] at h
      cases h
    · rw [hr] at hg
      rw [forNames_ok hr] at h
      rcases hr' : forNames (ctx.obtainAs (ctx.below depth) kind) names middle with
        ⟨e | rest, last⟩
      · rw [hr'] at h
        cases h
      · rw [hr'] at h
        cases h
        obtain ⟨hp, hall⟩ := ih hr'
        exact ⟨hg.trans hp, .cons ((obtainAs_holds hr).grow hp) hall⟩

theorem find_holds {dependency : Dependency C} {shared : Shared (C.Instance dependency.kind)}
    (h : ctx.respondWithin depth (.find dependency) s = (.ok shared, later)) :
    ∃ d, ctx.registry.Meets dependency d ∧ Holds later dependency.kind d.name shared := by
  rw [respondWithin_eq, respond] at h
  split at h
  · cases h
  · rename_i d hd
    exact ⟨d, Registry.resolve_eq_ok_iff.mp hd, obtainAs_holds h⟩

theorem findAll_holds {kind : C.Kind} {all : List (Shared (C.Instance kind))}
    (h : ctx.respondWithin depth (.findAll kind) s = (.ok all, later)) :
    List.Forall₂ (Holds later kind) ((ctx.registry.ofKind kind).map Definition.name) all := by
  rw [respondWithin_eq] at h
  exact (names_hold ctx depth kind h).2

/-! ## Sessions -/

theorem session_explained (ctx : Context C σ) (p : Program C σ α) (s : State C σ) :
    ctx.Explains ctx.depth s (ctx.trace p s) (ctx.run p s).2 :=
  program_explained (within_explained ctx ctx.depth) p s

/-- No question, however deep, changes which beans are being created or takes a stored
instance away. A successful lookup returns what is then stored, and so do all later ones.
The steps of a session lead to its last state and are steady, and those at which factories
begin and end are what factories write down that log this themselves. -/
theorem sessions_steady (ctx : Context C σ) :
    (∀ depth q s, (ctx.respondWithin depth q s).2.creating = s.creating ∧
      s.stored <+: (ctx.respondWithin depth q s).2.stored) ∧
    (∀ depth name s, (ctx.obtain (ctx.below depth) name s).2.creating = s.creating ∧
      ∀ shared later, ctx.obtain (ctx.below depth) name s = (.ok shared, later) →
        later.find? name = some shared ∧
        ∀ inner last, later.stored <+: last.stored →
          ctx.obtain inner name last = (.ok shared, last)) ∧
    (∀ depth dependency s shared later,
      ctx.respondWithin depth (.find dependency) s = (.ok shared, later) →
      ∃ d, ctx.registry.Meets dependency d ∧ Holds later dependency.kind d.name shared) ∧
    (∀ depth kind s all later, ctx.respondWithin depth (.findAll kind) s = (.ok all, later) →
      List.Forall₂ (Holds later kind) ((ctx.registry.ofKind kind).map Definition.name) all) ∧
    ∀ (world : σ) (α : Type) (p : Program C σ α),
      (ctx.run p (State.start world)).2.creating = [] ∧
      Stock.empty.run (ctx.trace p (State.start world)) =
        (ctx.run p (State.start world)).2.stock ∧
      Steady ctx.registry (ctx.trace p (State.start world)) ∧
      ctx.logged.run p.watched ((State.start world).noted []) =
        ((ctx.run p (State.start world)).1,
          (ctx.run p (State.start world)).2.noted (turnsOf (ctx.trace p (State.start world)))) := by
  refine ⟨?_, ?_, fun _ _ _ _ _ => find_holds, fun _ _ _ _ _ => findAll_holds, ?_⟩
  · intro depth q s
    have he := within_explained ctx depth q s
    exact ⟨he.creating, stored_of_explained he⟩
  · intro depth name s
    refine ⟨(obtain_explained (ctx.inner_below depth) name s).creating, ?_⟩
    intro shared later h
    have hfound : later.stock.find? name = some shared :=
      (later.find?_stock name).trans (obtain_found h)
    refine ⟨hfound, ?_⟩
    intro inner last hp
    have hp' : later.stock.stored <+: last.stock.stored := hp
    exact obtain_stored (Stock.find?_of_prefix hp' hfound)
  · intro world α p
    have he := session_explained ctx p (State.start world)
    exact ⟨he.creating, he.run, steady_of_safe (he.safe (fits_start ctx world)),
      run_logged ctx p (State.start world) []⟩

def flaky : Context .plain Nat where
  registry := ⟨[
    ⟨"page", (), [], .ask (.find (.named () "store")) fun
      | .ok _ => .done (.ok ())
      | .error e => .done (.error (.lookup e))⟩,
    ⟨"store", (), [], .update (·+1) fun
      | 0 => .done (.error (.own "not yet"))
      | _ => .done (.ok ())⟩], by decide⟩
  listeners := []
  profiles := .none
  properties := .empty

def askTwice : Program .plain Nat Unit :=
  .ask (.find (.named () "page")) fun _ => .ask (.find (.named () "page")) fun _ => .done ()

def secondTry : List (Step .plain) :=
  [.began "page", .began "store", .failed "store", .failed "page",
    .began "page", .began "store", .made ⟨"store", (), ()⟩, .returned () ⟨0, "store", (), ()⟩,
    .made ⟨"page", (), ()⟩, .returned () ⟨1, "page", (), ()⟩]

theorem second_try_steady :
    flaky.trace askTwice (State.start 0) = secondTry ∧ Steady flaky.registry secondTry ∧
    (flaky.run askTwice (State.start 0)).2.creating = [] ∧
    (flaky.logged.run askTwice.watched ((State.start 0).noted [])).2.world.2 =
      turnsOf secondTry := by
  have ht : flaky.trace askTwice (State.start 0) = secondTry := rfl
  obtain ⟨-, -, -, -, hsession⟩ := sessions_steady flaky
  obtain ⟨hcreating, -, hsteady, hlogged⟩ := hsession 0 Unit askTwice
  refine ⟨ht, ht ▸ hsteady, hcreating, ?_⟩
  rw [hlogged, ht]
  rfl

end Context

end WebApplication.Bean
