import WebApplication.Proofs.Bean.Trace

/-!
# Traces explain answers

A trace explains the answer that it belongs to, for every kind of question, every factory
and listener, and every depth.
-/

set_option autoImplicit false

namespace WebApplication.Bean.Context

variable {C : Catalog} {σ α : Type} {ctx : Context C σ} {depth : Nat} {s : State C σ}
  {tracer : Tracer C σ}

/-! ## Creations -/

def left (name : String) (s : State C σ) : State C σ :=
  { s with creating := s.creating.filter (· ≠ name) }

theorem create_error {inner : Responder C σ} {d : Definition C σ} {failure : Failure}
    {later : State C σ} (h : d.factory.run inner (entered d.name s) = (.error failure, later)) :
    create inner d s = (.error (creationError d.name failure), left d.name later) := by
  rw [entered] at h
  rw [create, h]
  rfl

theorem create_ok {inner : Responder C σ} {d : Definition C σ} {value : C.Instance d.kind}
    {later : State C σ} (h : d.factory.run inner (entered d.name s) = (.ok value, later)) :
    create inner d s = (.ok ((left d.name later).store ⟨d.name, d.kind, value⟩).1,
      ((left d.name later).store ⟨d.name, d.kind, value⟩).2) := by
  rw [entered] at h
  rw [create, h]
  rfl

theorem store_stock (s : State C σ) (x : Stored C) :
    ((left x.name s).store x).2.stock = s.stock.step (.made x) := by
  have hfind : (left x.name s).find? x.name = s.stock.find? x.name := rfl
  rw [State.store, hfind, Stock.step]
  cases s.stock.find? x.name <;> rfl

theorem store_publishing (s : State C σ) (x : Stored C) :
    (s.store x).2.publishing = s.publishing := by
  rw [State.store]
  cases s.find? x.name <;> rfl

theorem filter_append_single {β : Type} [DecidableEq β] {xs : List β} {x : β} (h : x ∉ xs) :
    (xs++[x]).filter (· ≠ x) = xs := by
  rw [List.filter_append, List.filter_eq_self.mpr]
  · simp
  · intro y hy
    rw [decide_eq_true_eq]
    intro he
    exact h (he ▸ hy)

theorem outcome_ready {d : Definition C σ} (hd : d ∈ ctx.registry.definitions)
    (result : Except Failure (C.Instance d.kind)) {stock : Stock C}
    (h : d.name ∈ stock.creating) : stock.Ready ctx.registry (outcome d result) := by
  cases result with
  | error failure => exact h
  | ok value => exact ⟨h, d, hd, rfl, rfl⟩

theorem create_stock (inner : Responder C σ) (d : Definition C σ) (s : State C σ) :
    (create inner d s).2.stock = (d.factory.run inner (entered d.name s)).2.stock.step
      (outcome d (d.factory.run inner (entered d.name s)).1) := by
  rcases h : d.factory.run inner (entered d.name s) with ⟨failure | value, later⟩
  · rw [create_error h]
    rfl
  · rw [create_ok h]
    exact store_stock _ _

theorem create_publishing (inner : Responder C σ) (d : Definition C σ) (s : State C σ) :
    (create inner d s).2.publishing =
      (d.factory.run inner (entered d.name s)).2.publishing := by
  rcases h : d.factory.run inner (entered d.name s) with ⟨failure | value, later⟩
  · rw [create_error h]
    rfl
  · rw [create_ok h]
    exact store_publishing _ _

theorem create_world (inner : Responder C σ) (d : Definition C σ) (s : State C σ) :
    (create inner d s).2.world = (d.factory.run inner (entered d.name s)).2.world := by
  rcases h : d.factory.run inner (entered d.name s) with ⟨failure | value, later⟩
  · rw [create_error h]
    rfl
  · rw [create_ok h, State.store]
    cases (left d.name later).find? d.name <;> rfl

theorem step_outcome_creating (d : Definition C σ)
    (result : Except Failure (C.Instance d.kind)) (stock : Stock C) :
    (stock.step (outcome d result)).creating = stock.creating.filter (· ≠ d.name) := by
  cases result <;> rfl

theorem create_explained {inner : Responder C σ} (h : ctx.Traced depth inner tracer)
    {d : Definition C σ} (hd : d ∈ ctx.registry.definitions) (hs : s.find? d.name = none)
    (hc : d.name ∉ s.creating) :
    ctx.Explains (depth+1) s (traceCreate inner tracer d s) (create inner d s).2 := by
  have he := program_explained h d.factory (entered d.name s)
  have hcreating : (d.factory.run inner (entered d.name s)).2.creating = s.creating++[d.name] :=
    he.creating
  constructor
  · rw [create_stock, ← he.run, traceCreate]
    show (entered d.name s).stock.run (_++[_]) = _
    rw [Stock.run_append]
    rfl
  · have hstock := congrArg Stock.creating (create_stock inner d s)
    rw [step_outcome_creating] at hstock
    rw [← filter_append_single hc, ← hcreating]
    exact hstock
  · rw [create_publishing]
    exact he.publishing
  · intro hf
    have hready : Stock.Ready ctx.registry (.began d.name) s.stock :=
      ⟨Registry.mem_names hd, Stock.find?_eq_none_iff.mp hs, hc⟩
    refine ⟨hready, ?_⟩
    show Stock.Safe ctx.registry _ (entered d.name s).stock
    rw [Stock.safe_append, he.run]
    refine ⟨he.safe (hf.enter hready), outcome_ready hd _ ?_, trivial⟩
    show d.name ∈ (d.factory.run inner (entered d.name s)).2.creating
    rw [hcreating]
    simp

/-! ## Lookups -/

/-- What answers inner questions: nothing without depth, and else a responder whose traces
explain its answers. -/
inductive Inner (ctx : Context C σ) : Nat → Option (Responder C σ) → Tracer C σ → Prop
  | none (tracer : Tracer C σ) : Inner ctx 0 none tracer
  | some {depth : Nat} {respond : Responder C σ} {tracer : Tracer C σ}
      (h : ctx.Traced depth respond tracer) : Inner ctx (depth+1) (some respond) tracer

variable {inner : Option (Responder C σ)}

theorem obtain_explained (h : ctx.Inner depth inner tracer) (name : String) (s : State C σ) :
    ctx.Explains depth s (ctx.traceObtain inner tracer name s) (ctx.obtain inner name s).2 := by
  rw [traceObtain, obtain]
  cases hs : s.find? name with
  | some shared =>
    refine .single rfl fun _ => ?_
    show name ∈ s.stock.names
    by_contra hout
    have hnone : s.find? name = none := Stock.find?_eq_none_iff.mpr hout
    rw [hs] at hnone
    cases hnone
  | none =>
    cases hg : ctx.registry.get? name with
    | none => exact .refl s
    | some d =>
      obtain ⟨hd, rfl⟩ := Registry.get?_eq_some_iff.mp hg
      simp only
      split
      · rename_i hin
        exact .single rfl fun _ => hin
      · rename_i hout
        cases h with
        | none => exact .single rfl fun hf => absurd (hf.mem_creating (Registry.mem_names hd)) hout
        | some h => exact create_explained h hd hs hout

theorem store_found (s : State C σ) (x : Stored C) :
    (s.store x).2.find? x.name = some (s.store x).1 := by
  rw [State.store]
  cases hf : s.find? x.name with
  | none =>
    have hnone : s.stock.find? x.name = none := hf
    have hlast : Stock.find? ⟨s.stored++[x], s.creating⟩ x.name = some ⟨s.stored.length, x⟩ :=
      Stock.find?_last hnone
    exact hlast
  | some old => exact hf

/-- A lookup returns what is stored under the name afterwards. -/
theorem obtain_found {name : String} {shared : Shared (Stored C)} {later : State C σ}
    (h : ctx.obtain inner name s = (.ok shared, later)) : later.find? name = some shared := by
  rw [obtain] at h
  cases hs : s.find? name with
  | some old =>
    rw [hs] at h
    cases h
    exact hs
  | none =>
    rw [hs] at h
    cases hg : ctx.registry.get? name with
    | none =>
      rw [hg] at h
      cases h
    | some d =>
      obtain ⟨-, rfl⟩ := Registry.get?_eq_some_iff.mp hg
      rw [hg] at h
      simp only at h
      split at h
      · cases h
      · cases inner with
        | none => cases h
        | some inner =>
          rcases hr : d.factory.run inner (entered d.name s) with ⟨failure | value, ended⟩
          · simp only [create_error hr] at h
            cases h
          · simp only [create_ok hr] at h
            cases h
            exact store_found _ _

theorem obtain_stored {name : String} {shared : Shared (Stored C)}
    (h : s.find? name = some shared) : ctx.obtain inner name s = (.ok shared, s) := by
  rw [obtain, h]

theorem obtainAs_error {kind : C.Kind} {name : String} {e : Error} {later : State C σ}
    (h : ctx.obtain inner name s = (.error e, later)) :
    ctx.obtainAs inner kind name s = (.error e, later) := by
  rw [obtainAs, h]

theorem obtainAs_ok {kind : C.Kind} {name : String} {shared : Shared (Stored C)}
    {later : State C σ} (h : ctx.obtain inner name s = (.ok shared, later)) :
    ctx.obtainAs inner kind name s = (cast kind shared, later) := by
  rw [obtainAs, h]

theorem obtainAs_state {inner : Option (Responder C σ)} (kind : C.Kind) (name : String)
    (s : State C σ) : (ctx.obtainAs inner kind name s).2 = (ctx.obtain inner name s).2 := by
  rcases h : ctx.obtain inner name s with ⟨e | shared, later⟩
  · rw [obtainAs_error h]
  · rw [obtainAs_ok h]

theorem Fits.obtained (hf : ctx.Fits depth s) (h : ctx.Inner depth inner tracer)
    {d : Definition C σ} (hd : d ∈ ctx.registry.definitions) {shared : Shared (Stored C)}
    {later : State C σ} (ho : ctx.obtain inner d.name s = (.ok shared, later)) :
    shared.value.name = d.name ∧ shared.value.kind = d.kind := by
  have hfound : later.stock.find? d.name = some shared :=
    (later.find?_stock d.name).trans (obtain_found ho)
  have hname := Stock.find?_name hfound
  have he := obtain_explained h d.name s
  rw [ho] at he
  obtain ⟨e, hin, hen, hek⟩ := (hf.after he).sound.typed shared.value (Stock.find?_mem hfound)
  obtain rfl : e = d := Registry.eq_of_name hin hd (hen.trans hname)
  exact ⟨hname, hek.symm⟩

theorem obtainAs_explained (h : ctx.Inner depth inner tracer) {d : Definition C σ}
    (hd : d ∈ ctx.registry.definitions) {kind : C.Kind} (hk : d.kind = kind) (s : State C σ) :
    ctx.Explains depth s (ctx.traceObtainAs inner tracer kind d.name s)
      (ctx.obtainAs inner kind d.name s).2 := by
  have he := obtain_explained h d.name s
  rw [traceObtainAs]
  rcases ho : ctx.obtain inner d.name s with ⟨e | shared, later⟩
  · rw [ho] at he
    rw [obtainAs_error ho]
    simpa using he
  · rw [ho] at he
    rw [obtainAs_ok ho]
    refine ⟨?_, he.creating, he.publishing, fun hf => ?_⟩
    · rw [Stock.run_append, he.run]
      rfl
    · obtain ⟨hname, hkind⟩ := hf.obtained h hd ho
      rw [Stock.safe_append, he.run]
      refine ⟨he.safe hf, ⟨?_, hkind.trans hk⟩, trivial⟩
      rw [hname, State.find?_stock]
      exact obtain_found ho

theorem ofKind_explained (h : ctx.Inner depth inner tracer) {kind : C.Kind} {name : String}
    (hn : name ∈ (ctx.registry.ofKind kind).map Definition.name) (s : State C σ) :
    ctx.Explains depth s (ctx.traceObtainAs inner tracer kind name s)
      (ctx.obtainAs inner kind name s).2 := by
  obtain ⟨d, hd, rfl⟩ := List.mem_map.mp hn
  obtain ⟨hin, hk⟩ := Registry.mem_ofKind.mp hd
  exact obtainAs_explained h hin hk s

theorem forNames_error {f : String → StateM (State C σ) (Except Error α)} {name : String}
    {names : List String} {e : Error} {later : State C σ} (h : f name s = (.error e, later)) :
    forNames f (name::names) s = (.error e, later) := by
  rw [forNames, h]

theorem forNames_ok {f : String → StateM (State C σ) (Except Error α)} {name : String}
    {names : List String} {a : α} {later : State C σ} (h : f name s = (.ok a, later)) :
    forNames f (name::names) s =
      ((forNames f names later).1.map (a::·), (forNames f names later).2) := by
  rw [forNames, h]
  dsimp only
  rcases forNames f names later with ⟨e | rest, last⟩ <;> rfl

theorem names_explained {f : String → StateM (State C σ) (Except Error α)}
    {tracer : String → State C σ → List (Step C)} {names : List String}
    (h : ∀ name ∈ names, ∀ s, ctx.Explains depth s (tracer name s) (f name s).2)
    (s : State C σ) :
    ctx.Explains depth s (traceNames f tracer names s) (forNames f names s).2 := by
  induction names generalizing s with
  | nil => exact .refl s
  | cons name names ih =>
    have he := h name (by simp) s
    rw [traceNames]
    rcases hr : f name s with ⟨e | a, later⟩
    · rw [hr] at he
      rw [forNames_error hr]
      simpa using he
    · rw [hr] at he
      rw [forNames_ok hr]
      exact he.trans (ih (fun other ho => h other (by simp [ho])) later)

/-! ## Publications -/

theorem notify_explained {inner : Responder C σ} (h : ctx.Traced depth inner tracer)
    (event : C.Event) (index : Nat) (listeners : List (Listener C σ)) (s : State C σ) :
    ctx.Explains depth s (traceNotify inner tracer listeners s)
      (notify inner event index listeners s).2 := by
  induction listeners generalizing index s with
  | nil => exact .refl s
  | cons listener rest ih =>
    have he := program_explained h listener.action s
    rw [traceNotify, notify]
    rcases hr : listener.action.run inner s with ⟨failure | ⟨⟩, later⟩
    · rw [hr] at he
      simpa using he
    · rw [hr] at he
      exact he.trans (ih (index+1) later)

theorem heard_of_filter {event : C.Event} {listener : Listener C σ}
    (h : listener ∈ ctx.listeners.filter (·.event = event)) :
    event ∈ ctx.listeners.map Listener.event := by
  obtain ⟨hin, hevent⟩ := List.mem_filter.mp h
  exact List.mem_map.mpr ⟨listener, hin, of_decide_eq_true hevent⟩

theorem publish_explained (h : ctx.Inner depth inner tracer) (event : C.Event)
    (s : State C σ) :
    ctx.Explains depth s (ctx.tracePublish inner tracer event s)
      (ctx.publish inner event s).2 := by
  unfold tracePublish publish
  generalize hl : List.filter _ ctx.listeners = listeners
  cases listeners with
  | nil => exact .refl s
  | cons listener rest =>
    cases h with
    | none => exact .refl s
    | some h =>
      dsimp only
      by_cases hout : event ∈ s.publishing
      · rw [if_pos hout, if_pos (List.contains_iff_mem.mpr hout)]
        exact .refl s
      · rw [if_neg hout, if_neg (mt List.contains_iff_mem.mp hout)]
        have hheard : event ∈ ctx.listeners.map Listener.event :=
          heard_of_filter (hl ▸ List.mem_cons_self)
        have he := notify_explained h event 0 (listener::rest)
          { s with publishing := s.publishing++[event] }
        refine ⟨he.run, he.creating, ?_, fun hf => he.safe (hf.announce hheard hout)⟩
        show List.filter (· ≠ event) (notify _ event 0 (listener::rest) _).2.publishing = _
        rw [he.publishing]
        exact filter_append_single hout

/-! ## Answers -/

theorem respond_explained (h : ctx.Inner depth inner tracer) :
    ctx.Traced depth (ctx.respond inner) (ctx.traceAnswer inner tracer) := by
  intro q s
  cases q with
  | find dependency =>
    rw [traceAnswer, respond]
    cases hr : ctx.registry.resolve dependency "<lookup>" with
    | error e => exact .refl s
    | ok d =>
      obtain ⟨hd, hk, -⟩ := Registry.resolve_eq_ok_iff.mp hr
      exact obtainAs_explained h hd hk s
  | findAll kind => exact names_explained (fun _ hn s => ofKind_explained h hn s) s
  | createAll =>
    rw [traceAnswer, respond]
    cases ctx.registry.constructionOrder with
    | error e => exact .refl s
    | ok order =>
      have he := names_explained (fun name (_ : name ∈ order) s => obtain_explained h name s) s
      dsimp only
      rcases hr : forNames (ctx.obtain inner) order s with ⟨e | all, later⟩
      · rwa [hr] at he
      · rwa [hr] at he
  | publish event => exact publish_explained h event s
  | view => exact .refl s

def below (ctx : Context C σ) : Nat → Option (Responder C σ)
  | 0 => none
  | depth+1 => some (ctx.respondWithin depth)

def tracerBelow (ctx : Context C σ) : Nat → Tracer C σ
  | 0 => fun _ _ => []
  | depth+1 => ctx.traceWithin depth

theorem respondWithin_eq (ctx : Context C σ) (depth : Nat) :
    ctx.respondWithin depth = ctx.respond (ctx.below depth) := by
  cases depth <;> rfl

theorem traceWithin_eq (ctx : Context C σ) (depth : Nat) :
    ctx.traceWithin depth = ctx.traceAnswer (ctx.below depth) (ctx.tracerBelow depth) := by
  cases depth <;> rfl

theorem inner_below (ctx : Context C σ) (depth : Nat) :
    ctx.Inner depth (ctx.below depth) (ctx.tracerBelow depth) := by
  induction depth with
  | zero => exact .none _
  | succ depth ih =>
    refine .some ?_
    show ctx.Traced depth (ctx.respondWithin depth) (ctx.traceWithin depth)
    rw [respondWithin_eq, traceWithin_eq]
    exact respond_explained ih

theorem within_explained (ctx : Context C σ) (depth : Nat) :
    ctx.Traced depth (ctx.respondWithin depth) (ctx.traceWithin depth) := by
  rw [respondWithin_eq, traceWithin_eq]
  exact respond_explained (ctx.inner_below depth)

end WebApplication.Bean.Context
