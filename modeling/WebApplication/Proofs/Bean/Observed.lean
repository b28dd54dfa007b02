import WebApplication.Proofs.Bean.Explanation

/-!
# Contexts that are observed

Beside the state of the application an observed context keeps notes, which an observer has its
factories and listeners write. If they do nothing else that those of the context do not do, the
observed context answers as the context does.
-/

set_option autoImplicit false

namespace WebApplication.Bean

variable {C : Catalog} {σ ω ι α β : Type}

def State.plain (t : State C (σ × ω)) : State C σ :=
  ⟨t.stored, t.creating, t.publishing, t.world.1⟩

def State.noted (s : State C σ) (notes : ω) : State C (σ × ω) :=
  ⟨s.stored, s.creating, s.publishing, s.world, notes⟩

def plainly (result : α × State C (σ × ω)) : α × State C σ := (result.1, result.2.plain)

theorem eq_noted {watched : α × State C (σ × ω)} {result : α × State C σ} {notes : ω}
    (h : plainly watched = result) (hnotes : watched.2.world.2 = notes) :
    watched = (result.1, result.2.noted notes) := by
  subst h hnotes
  rfl

namespace Program

def watched : Program C σ α → Program C (σ × ω) α
  | done a => done a
  | ask q next => ask q fun answer => watched (next answer)
  | update change next =>
    update (fun (world, notes) => (change world, notes)) fun (world, _) => watched (next world)

def noting (note : ι) (p : Program C σ α) : Program C (σ × List ι) α :=
  update (fun (world, notes) => (world, notes++[note])) fun _ => p.watched

theorem run_bind (respond : Responder C σ) (p : Program C σ α) (f : α → Program C σ β)
    (s : State C σ) :
    (p.bind f).run respond s = (f (p.run respond s).1).run respond (p.run respond s).2 := by
  induction p generalizing s with
  | done a => rfl
  | ask q next ih => exact ih _ _
  | update change next ih => exact ih _ _

end Program

/-! ## Answers -/

/-- Answers are those of the other responder, up to the notes, and a view changes nothing. -/
structure Mirrors (watching : Responder C (σ × ω)) (respond : Responder C σ) : Prop where
  answers : ∀ q t, plainly (watching q t) = respond q t.plain
  view : ∀ t, (watching .view t).2 = t

def Program.Shadows (p : Program C (σ × ω) α) (plain : Program C σ α) : Prop :=
  ∀ watching respond, Mirrors watching respond → ∀ t,
    plainly (p.run watching t) = plain.run respond t.plain

theorem Program.shadows_watched (p : Program C σ α) :
    (p.watched : Program C (σ × ω) α).Shadows p := by
  intro watching respond h t
  induction p generalizing t with
  | done a => rfl
  | ask q next ih =>
    rw [run, ← h.answers q t]
    exact ih _ _
  | update change next ih => exact ih t.world.1 _

theorem Program.shadows_noting (note : ι) (p : Program C σ α) : (p.noting note).Shadows p :=
  fun watching respond h t =>
    p.shadows_watched watching respond h { t with world := (t.world.1, t.world.2++[note]) }

/-! ## Observers -/

/-- What runs in place of factories, and in place of listeners with their places in the order
of registration. -/
structure Observer (C : Catalog) (σ ω : Type) where
  factory (d : Definition C σ) : Program C (σ × ω) (Except Failure (C.Instance d.kind))
  listener (position : Nat) (l : Listener C σ) : Program C (σ × ω) (Except Failure Unit)

structure Observer.Faithful (o : Observer C σ ω) : Prop where
  factory : ∀ d, (o.factory d).Shadows d.factory
  listener : ∀ position l, (o.listener position l).Shadows l.action

def Definition.observed (o : Observer C σ ω) (d : Definition C σ) : Definition C (σ × ω) :=
  ⟨d.name, d.kind, d.dependencies, o.factory d⟩

def Listener.observed (o : Observer C σ ω) (position : Nat) (l : Listener C σ) :
    Listener C (σ × ω) :=
  ⟨l.event, o.listener position l⟩

/-! ## Definitions -/

namespace Registry

variable (o : Observer C σ ω) (r : Registry C σ)

def observed : Registry C (σ × ω) where
  definitions := r.definitions.map (.observed o)
  nodup := by
    rw [List.map_map]
    exact r.nodup

theorem names_observed : (r.observed o).names = r.names := by
  rw [names, observed, List.map_map]
  rfl

theorem get?_observed (name : String) :
    (r.observed o).get? name = (r.get? name).map (.observed o) := by
  rw [get?, observed, List.find?_map]
  rfl

theorem ofKind_observed (kind : C.Kind) :
    (r.observed o).ofKind kind = (r.ofKind kind).map (.observed o) := by
  rw [ofKind, observed, List.filter_map]
  rfl

theorem names_ofKind_observed (kind : C.Kind) :
    ((r.observed o).ofKind kind).map Definition.name =
      (r.ofKind kind).map Definition.name := by
  rw [ofKind_observed, List.map_map]
  rfl

theorem resolve_observed (dependency : Dependency C) (requester : String) :
    (r.observed o).resolve dependency requester =
      (r.resolve dependency requester).map (.observed o) := by
  unfold resolve
  cases dependency.name with
  | some name =>
    dsimp only
    rw [get?_observed]
    cases r.get? name with
    | none => rfl
    | some d =>
      by_cases hk : d.kind = dependency.kind <;> simp [Definition.observed, hk, Except.map]
  | none =>
    dsimp only
    rw [ofKind_observed]
    rcases r.ofKind dependency.kind with _ | ⟨d, _ | ⟨e, ds⟩⟩
    · rfl
    · rfl
    · simp [Except.map, Definition.observed, Function.comp_def]

theorem visit_observed (depth : Nat) (path : List String) (d : Definition C σ)
    (order : List String) :
    (r.observed o).visit depth path (d.observed o) order = r.visit depth path d order := by
  induction depth generalizing path d order with
  | zero =>
    rw [visit, visit]
    rfl
  | succ depth ih =>
    have hstep : ∀ order dependency,
        (do
          (r.observed o).visit depth (path++[d.name])
            (← (r.observed o).resolve dependency d.name) order) =
          (do r.visit depth (path++[d.name]) (← r.resolve dependency d.name) order) := by
      intro order dependency
      rw [resolve_observed]
      cases r.resolve dependency d.name with
      | error e => rfl
      | ok e => exact ih (path++[d.name]) e order
    rw [visit, visit]
    simp only [Definition.observed, hstep]

theorem constructionOrder_observed : (r.observed o).constructionOrder = r.constructionOrder := by
  have hsize : (r.observed o).size = r.size := by rw [size, observed, List.length_map, size]
  have hvisit : ∀ order d, (r.observed o).visit (r.observed o).size [] (Definition.observed o d)
      order = r.visit r.size [] d order := by
    intro order d
    rw [hsize, visit_observed]
  rw [constructionOrder, constructionOrder]
  show (r.definitions.map (Definition.observed o)).foldlM _ [] = _
  rw [List.foldlM_map]
  simp only [hvisit]

end Registry

/-! ## Contexts -/

namespace Context

variable (o : Observer C σ ω) (ctx : Context C σ)

def audience (event : C.Event) : List (Listener C σ × Nat) :=
  ctx.listeners.zipIdx.filter (·.1.event = event)

def observed : Context C (σ × ω) :=
  ⟨ctx.registry.observed o, ctx.listeners.zipIdx.map fun (l, position) => l.observed o position,
    ctx.profiles, ctx.properties⟩

theorem listeners_of_event (event : C.Event) :
    ctx.listeners.filter (·.event = event) = (ctx.audience event).map Prod.fst := by
  have h : (ctx.listeners.zipIdx.map Prod.fst).filter (·.event = event) =
      (ctx.audience event).map Prod.fst := List.filter_map
  rwa [List.zipIdx_map_fst] at h

theorem observed_of_event (event : C.Event) :
    (ctx.observed o).listeners.filter (·.event = event) =
      (ctx.audience event).map fun (l, position) => l.observed o position := by
  rw [observed, List.filter_map]
  rfl

theorem depth_observed : (ctx.observed o).depth = ctx.depth := by
  simp [depth, observed, Registry.size, Registry.observed]

theorem view_observed (t : State C (σ × ω)) : (ctx.observed o).view t = ctx.view t.plain := by
  simp only [view, observed, Registry.observed, List.map_map, List.length_map,
    List.length_zipIdx]
  rfl

theorem respondWithin_view (ctx : Context C σ) (depth : Nat) (s : State C σ) :
    ctx.respondWithin depth .view s = (ctx.view s, s) := by
  rw [respondWithin_eq]
  rfl

/-! ## Answers of contexts that are observed -/

variable {o ctx} {watching : Responder C (σ × ω)} {respond : Responder C σ}

theorem store_plain (t : State C (σ × ω)) (x : Stored C) :
    plainly (t.store x) = t.plain.store x := by
  have hfind : t.plain.find? x.name = t.find? x.name := rfl
  rw [State.store, State.store, hfind]
  cases t.find? x.name <;> rfl

theorem create_observed (ho : o.Faithful) (h : Mirrors watching respond) (d : Definition C σ)
    (t : State C (σ × ω)) :
    plainly (create watching (d.observed o) t) = create respond d t.plain := by
  have hrun : plainly ((o.factory d).run watching (entered d.name t)) =
      d.factory.run respond (entered d.name t.plain) := ho.factory d watching respond h _
  rcases hw : (o.factory d).run watching (entered d.name t) with ⟨failure | value, later⟩
  · rw [hw] at hrun
    rw [create_error hrun.symm, create_error (d := d.observed o) hw]
    rfl
  · rw [hw] at hrun
    rw [create_ok hrun.symm, create_ok (d := d.observed o) hw]
    have hstore := store_plain (left d.name later) ⟨d.name, d.kind, value⟩
    show _ = (Except.ok ((left d.name later).plain.store _).1,
      ((left d.name later).plain.store _).2)
    rw [← hstore]
    rfl

inductive MirrorsInner :
    Option (Responder C (σ × ω)) → Option (Responder C σ) → Prop
  | none : MirrorsInner none none
  | some {watching : Responder C (σ × ω)} {respond : Responder C σ}
      (h : Mirrors watching respond) : MirrorsInner (some watching) (some respond)

variable {inner : Option (Responder C σ)} {watchingInner : Option (Responder C (σ × ω))}

theorem obtain_observed (ho : o.Faithful) (h : MirrorsInner watchingInner inner) (name : String)
    (t : State C (σ × ω)) :
    plainly ((ctx.observed o).obtain watchingInner name t) = ctx.obtain inner name t.plain := by
  have hfind : t.plain.find? name = t.find? name := rfl
  have hget : (ctx.observed o).registry.get? name = (ctx.registry.get? name).map (.observed o) :=
    Registry.get?_observed o ctx.registry name
  rw [obtain, obtain, hfind, hget]
  cases t.find? name with
  | some shared => rfl
  | none =>
    cases ctx.registry.get? name with
    | none => rfl
    | some d =>
      by_cases hc : name ∈ t.creating
      · have hc' : name ∈ t.plain.creating := hc
        simp only [Option.map_some, if_pos hc, if_pos hc']
        rfl
      · have hc' : name ∉ t.plain.creating := hc
        simp only [Option.map_some, if_neg hc, if_neg hc']
        cases h with
        | none => rfl
        | some h => exact create_observed ho h d t

theorem obtainAs_observed (ho : o.Faithful) (h : MirrorsInner watchingInner inner)
    (kind : C.Kind) (name : String) (t : State C (σ × ω)) :
    plainly ((ctx.observed o).obtainAs watchingInner kind name t) =
      ctx.obtainAs inner kind name t.plain := by
  have hobtain : plainly ((ctx.observed o).obtain watchingInner name t) = _ :=
    obtain_observed ho h name t
  rw [obtainAs, obtainAs, ← hobtain]
  rcases (ctx.observed o).obtain watchingInner name t with ⟨e | shared, later⟩ <;> rfl

theorem forNames_observed {watching : String → StateM (State C (σ × ω)) (Except Error α)}
    {f : String → StateM (State C σ) (Except Error α)}
    (h : ∀ name t, plainly (watching name t) = f name t.plain) (names : List String)
    (t : State C (σ × ω)) :
    plainly (forNames watching names t) = forNames f names t.plain := by
  induction names generalizing t with
  | nil => rfl
  | cons name names ih =>
    have hname := h name t
    rcases hw : watching name t with ⟨e | a, later⟩
    · rw [hw] at hname
      rw [forNames_error hw, forNames_error hname.symm]
      rfl
    · rw [hw] at hname
      have hrest := ih later
      rw [forNames_ok hw, forNames_ok hname.symm]
      show _ = (Except.map (a::·) (forNames f names later.plain).1,
        (forNames f names later.plain).2)
      rw [← hrest]
      rfl

theorem notify_observed (ho : o.Faithful) (h : Mirrors watching respond) (event : C.Event)
    (index : Nat) (told : List (Listener C σ × Nat)) (t : State C (σ × ω)) :
    plainly (notify watching event index (told.map fun (l, position) => l.observed o position) t) =
      notify respond event index (told.map Prod.fst) t.plain := by
  induction told generalizing index t with
  | nil => rfl
  | cons pair told ih =>
    obtain ⟨l, position⟩ := pair
    have hl : plainly ((l.observed o position).action.run watching t) = _ :=
      ho.listener position l watching respond h t
    rw [List.map_cons, List.map_cons, notify, notify, ← hl]
    rcases (l.observed o position).action.run watching t with ⟨cause | ⟨⟩, later⟩
    · rfl
    · exact ih (index+1) later

theorem publish_observed (ho : o.Faithful) (h : MirrorsInner watchingInner inner)
    (event : C.Event) (t : State C (σ × ω)) :
    plainly ((ctx.observed o).publish watchingInner event t) =
      ctx.publish inner event t.plain := by
  unfold publish
  rw [observed_of_event, listeners_of_event]
  cases ctx.audience event with
  | nil => rfl
  | cons pair told =>
    cases h with
    | none => rfl
    | some h =>
      have hn := notify_observed ho h event 0 (pair::told)
        { t with publishing := t.publishing++[event] }
      by_cases hp : event ∈ t.publishing
      · have hp' : event ∈ t.plain.publishing := hp
        simp only [List.map_cons, if_pos hp, if_pos hp']
        rfl
      · have hp' : event ∉ t.plain.publishing := hp
        simp only [List.map_cons, if_neg hp, if_neg hp']
        rw [List.map_cons, List.map_cons] at hn
        have hstate : ({ t.plain with publishing := t.plain.publishing++[event] } : State C σ) =
            State.plain { t with publishing := t.publishing++[event] } := rfl
        rw [hstate, ← hn]
        rfl

/-- An observed context answers as the context does. -/
theorem respond_observed (ho : o.Faithful) (h : MirrorsInner watchingInner inner) :
    Mirrors ((ctx.observed o).respond watchingInner) (ctx.respond inner) where
  view _ := rfl
  answers q t := by
    cases q with
    | find dependency =>
      have hr : (ctx.observed o).registry.resolve dependency "<lookup>" = _ :=
        Registry.resolve_observed o ctx.registry dependency "<lookup>"
      rw [Context.respond, Context.respond, hr]
      cases ctx.registry.resolve dependency "<lookup>" with
      | error e => rfl
      | ok d => exact obtainAs_observed ho h dependency.kind d.name t
    | findAll kind =>
      have hk : ((ctx.observed o).registry.ofKind kind).map Definition.name = _ :=
        Registry.names_ofKind_observed o ctx.registry kind
      rw [Context.respond, Context.respond, hk]
      exact forNames_observed (obtainAs_observed ho h kind) _ t
    | createAll =>
      have horder : (ctx.observed o).registry.constructionOrder = _ :=
        Registry.constructionOrder_observed o ctx.registry
      rw [Context.respond, Context.respond, horder]
      cases ctx.registry.constructionOrder with
      | error e => rfl
      | ok order =>
        have hall : plainly (forNames ((ctx.observed o).obtain watchingInner) order t) = _ :=
          forNames_observed (obtain_observed ho h) order t
        dsimp only
        rw [← hall]
        rcases forNames ((ctx.observed o).obtain watchingInner) order t with
          ⟨e | all, later⟩ <;> rfl
    | publish event => exact publish_observed ho h event t
    | view => exact Prod.ext (view_observed o ctx t) rfl

theorem respondWithin_observed (ho : o.Faithful) (ctx : Context C σ) (depth : Nat) :
    Mirrors ((ctx.observed o).respondWithin depth) (ctx.respondWithin depth) := by
  induction depth with
  | zero => exact respond_observed ho .none
  | succ depth ih => exact respond_observed ho (.some ih)

theorem answer_observed (ho : o.Faithful) (ctx : Context C σ) :
    Mirrors (ctx.observed o).answer ctx.answer := by
  unfold answer
  rw [depth_observed]
  exact respondWithin_observed ho ctx ctx.depth

theorem run_observed (ho : o.Faithful) (ctx : Context C σ) (p : Program C σ α)
    (t : State C (σ × ω)) :
    plainly ((ctx.observed o).run p.watched t) = ctx.run p t.plain :=
  p.shadows_watched _ _ (answer_observed ho ctx) t

end Context

end WebApplication.Bean
