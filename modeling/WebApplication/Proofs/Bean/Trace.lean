import WebApplication.Proofs.Bean.Stock

/-!
# The steps behind an answer

Every answer of a context has its trace: the steps that it takes, nested creations and
publications included. The trace leads from the stock before to the stock after, and
nothing that was under creation or publication before is lost or added. From a state
that fits the depth left for answering, every step of the trace is possible when it is
taken, so that the depth never runs out.
-/

set_option autoImplicit false

namespace WebApplication.Bean

variable {C : Catalog} {σ α : Type}

abbrev Tracer (C : Catalog) (σ : Type) := Query C → State C σ → List (Step C)

def State.stock (s : State C σ) : Stock C := ⟨s.stored, s.creating⟩

theorem State.find?_stock (s : State C σ) (name : String) :
    s.stock.find? name = s.find? name := rfl

def Program.trace (respond : Responder C σ) (tracer : Tracer C σ) :
    Program C σ α → State C σ → List (Step C)
  | .done _, _ => []
  | .ask q next, s =>
    tracer q s++trace respond tracer (next (respond q s).1) (respond q s).2
  | .update change next, s =>
    trace respond tracer (next s.world) { s with world := change s.world }

namespace Context

def outcome (d : Definition C σ) : Except Failure (C.Instance d.kind) → Step C
  | .error _ => .failed d.name
  | .ok value => .made ⟨d.name, d.kind, value⟩

def entered (name : String) (s : State C σ) : State C σ :=
  { s with creating := s.creating++[name] }

def traceCreate (inner : Responder C σ) (tracer : Tracer C σ) (d : Definition C σ)
    (s : State C σ) : List (Step C) :=
  .began d.name::(d.factory.trace inner tracer (entered d.name s)++
    [outcome d (d.factory.run inner (entered d.name s)).1])

def traceObtain (ctx : Context C σ) (inner : Option (Responder C σ)) (tracer : Tracer C σ)
    (name : String) (s : State C σ) : List (Step C) :=
  match s.find? name with
  | some _ => [.found name]
  | none =>
    match ctx.registry.get? name with
    | none => []
    | some d =>
      if name ∈ s.creating then [.refused name]
      else match inner with
        | some inner => traceCreate inner tracer d s
        | none => [.refused name]

def traceObtainAs (ctx : Context C σ) (inner : Option (Responder C σ)) (tracer : Tracer C σ)
    (kind : C.Kind) (name : String) (s : State C σ) : List (Step C) :=
  ctx.traceObtain inner tracer name s++
    match (ctx.obtain inner name s).1 with
    | .error _ => []
    | .ok shared => [.returned kind shared]

def traceNames (f : String → StateM (State C σ) (Except Error α))
    (tracer : String → State C σ → List (Step C)) :
    List String → State C σ → List (Step C)
  | [], _ => []
  | name::names, s =>
    tracer name s++
      match (f name s).1 with
      | .error _ => []
      | .ok _ => traceNames f tracer names (f name s).2

def traceNotify (inner : Responder C σ) (tracer : Tracer C σ) :
    List (Listener C σ) → State C σ → List (Step C)
  | [], _ => []
  | listener::rest, s =>
    listener.action.trace inner tracer s++
      match (listener.action.run inner s).1 with
      | .error _ => []
      | .ok () => traceNotify inner tracer rest (listener.action.run inner s).2

def tracePublish (ctx : Context C σ) (inner : Option (Responder C σ)) (tracer : Tracer C σ)
    (event : C.Event) (s : State C σ) : List (Step C) :=
  match ctx.listeners.filter (·.event = event), inner with
  | [], _ => []
  | listeners, some inner =>
    if s.publishing.contains event then []
    else traceNotify inner tracer listeners { s with publishing := s.publishing++[event] }
  | _, none => []

def traceAnswer (ctx : Context C σ) (inner : Option (Responder C σ)) (tracer : Tracer C σ) :
    Tracer C σ
  | .find dependency, s =>
    match ctx.registry.resolve dependency "<lookup>" with
    | .error _ => []
    | .ok d => ctx.traceObtainAs inner tracer dependency.kind d.name s
  | .findAll kind, s =>
    traceNames (ctx.obtainAs inner kind) (ctx.traceObtainAs inner tracer kind)
      ((ctx.registry.ofKind kind).map Definition.name) s
  | .createAll, s =>
    match ctx.registry.constructionOrder with
    | .error _ => []
    | .ok order => traceNames (ctx.obtain inner) (ctx.traceObtain inner tracer) order s
  | .publish event, s => ctx.tracePublish inner tracer event s
  | .view, _ => []

def traceWithin (ctx : Context C σ) : Nat → Tracer C σ
  | 0 => ctx.traceAnswer none fun _ _ => []
  | depth+1 => ctx.traceAnswer (some (ctx.respondWithin depth)) (traceWithin ctx depth)

def trace (ctx : Context C σ) (p : Program C σ α) : State C σ → List (Step C) :=
  p.trace ctx.answer (ctx.traceWithin ctx.depth)

/-! ## States that fit a depth -/

/-- What is being created and published leaves depth enough for all that can still be. -/
structure Fits (ctx : Context C σ) (depth : Nat) (s : State C σ) : Prop where
  sound : s.stock.Sound ctx.registry
  publishing : s.publishing.Nodup
  heard : ∀ event ∈ s.publishing, event ∈ ctx.listeners.map Listener.event
  room : ctx.depth ≤ depth+s.creating.length+s.publishing.length

variable {ctx : Context C σ} {depth : Nat} {s middle later : State C σ}

theorem fits_start (ctx : Context C σ) (world : σ) : ctx.Fits ctx.depth (State.start world) where
  sound := Stock.sound_empty ctx.registry
  publishing := List.nodup_nil
  heard := by simp [State.start]
  room := by simp [State.start]

theorem Fits.publishing_length (h : ctx.Fits depth s) :
    s.publishing.length ≤ ctx.listeners.length := by
  have hl := (List.subperm_of_subset h.publishing h.heard).length_le
  rwa [List.length_map] at hl

theorem Fits.mem_creating (h : ctx.Fits 0 s) {name : String} (hn : name ∈ ctx.registry.names) :
    name ∈ s.creating := by
  by_contra hout
  have hl : s.creating.length < ctx.registry.names.length :=
    Registry.length_lt_of_not_mem h.sound.creating h.sound.known hout hn
  have hp := h.publishing_length
  have hr := h.room
  rw [Registry.names, List.length_map] at hl
  rw [depth, Registry.size] at hr
  omega

theorem Fits.enter (h : ctx.Fits (depth+1) s) {name : String}
    (hr : Stock.Ready ctx.registry (.began name) s.stock) : ctx.Fits depth (entered name s) where
  sound := Stock.sound_step h.sound hr
  publishing := h.publishing
  heard := h.heard
  room := by
    have hroom := h.room
    show ctx.depth ≤ depth+(s.creating++[name]).length+s.publishing.length
    rw [List.length_append, List.length_singleton]
    omega

theorem Fits.announce (h : ctx.Fits (depth+1) s) {event : C.Event}
    (hl : event ∈ ctx.listeners.map Listener.event) (hp : event ∉ s.publishing) :
    ctx.Fits depth { s with publishing := s.publishing++[event] } where
  sound := h.sound
  publishing := Registry.nodup_append_single h.publishing hp
  heard := by
    intro other ho
    rcases List.mem_append.mp ho with ho | ho
    · exact h.heard other ho
    · exact List.mem_singleton.mp ho ▸ hl
  room := by
    have hroom := h.room
    show ctx.depth ≤ depth+s.creating.length+(s.publishing++[event]).length
    rw [List.length_append, List.length_singleton]
    omega

/-! ## Steps that explain a change -/

/-- Steps lead from one state to another. They change nothing else, and from a state that
fits each of them is possible when it is taken. -/
structure Explains (ctx : Context C σ) (depth : Nat) (s : State C σ) (steps : List (Step C))
    (later : State C σ) : Prop where
  run : s.stock.run steps = later.stock
  creating : later.creating = s.creating
  publishing : later.publishing = s.publishing
  safe : ctx.Fits depth s → s.stock.Safe ctx.registry steps

theorem Fits.after (hf : ctx.Fits depth s) {steps : List (Step C)}
    (h : ctx.Explains depth s steps later) : ctx.Fits depth later where
  sound := h.run ▸ Stock.sound_run hf.sound (h.safe hf)
  publishing := h.publishing ▸ hf.publishing
  heard := h.publishing ▸ hf.heard
  room := by
    rw [h.creating, h.publishing]
    exact hf.room

namespace Explains

variable {steps more : List (Step C)}

theorem refl (s : State C σ) : ctx.Explains depth s [] s :=
  ⟨rfl, rfl, rfl, fun _ => trivial⟩

theorem trans (h : ctx.Explains depth s steps middle) (h' : ctx.Explains depth middle more later) :
    ctx.Explains depth s (steps++more) later where
  run := by rw [Stock.run_append, h.run, h'.run]
  creating := h'.creating.trans h.creating
  publishing := h'.publishing.trans h.publishing
  safe hf := by
    rw [Stock.safe_append, h.run]
    exact ⟨h.safe hf, h'.safe (hf.after h)⟩

theorem single {step : Step C} (h : s.stock.step step = s.stock)
    (hr : ctx.Fits depth s → Stock.Ready ctx.registry step s.stock) :
    ctx.Explains depth s [step] s :=
  ⟨h, rfl, rfl, fun hf => ⟨hr hf, trivial⟩⟩

end Explains

def Traced (ctx : Context C σ) (depth : Nat) (respond : Responder C σ) (tracer : Tracer C σ) :
    Prop :=
  ∀ q s, ctx.Explains depth s (tracer q s) (respond q s).2

theorem program_explained {inner : Responder C σ} {tracer : Tracer C σ}
    (h : ctx.Traced depth inner tracer) (p : Program C σ α) (s : State C σ) :
    ctx.Explains depth s (p.trace inner tracer s) (p.run inner s).2 := by
  induction p generalizing s with
  | done a => exact .refl s
  | ask q next ih => exact (h q s).trans (ih _ _)
  | update change next ih =>
    obtain ⟨hrun, hc, hp, hs⟩ := ih s.world { s with world := change s.world }
    refine ⟨hrun, hc, hp, fun hf => hs ⟨hf.sound, hf.publishing, hf.heard, hf.room⟩⟩

end Context

end WebApplication.Bean
