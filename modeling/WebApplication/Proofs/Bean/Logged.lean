import WebApplication.Proofs.Bean.Observed

/-!
# Contexts that log their factories

The factories of a logged context write down, in the state, when they begin and how they end.
What a run writes down in this way are the steps of its trace at which factories begin and end.
-/

set_option autoImplicit false

namespace WebApplication.Bean

variable {C : Catalog} {σ ω α : Type}

def turnsOf (steps : List (Step C)) : List (Step C) :=
  steps.filter fun step => step.begins || step.ends

theorem turnsOf_append (steps more : List (Step C)) :
    turnsOf (steps++more) = turnsOf steps++turnsOf more :=
  List.filter_append ..

theorem countP_turnsOf (steps : List (Step C)) :
    (turnsOf steps).countP Step.begins = steps.countP Step.begins ∧
      (turnsOf steps).countP Step.ends = steps.countP Step.ends := by
  rw [turnsOf, List.countP_filter, List.countP_filter]
  constructor <;> exact List.countP_congr fun step _ => by simp +contextual

theorem prefix_turnsOf_iff {front steps : List (Step C)} :
    front <+: turnsOf steps ↔ ∃ full, full <+: steps ∧ front = turnsOf full :=
  List.prefix_filter_iff

theorem Context.turnsOf_outcome (d : Definition C σ)
    (result : Except Failure (C.Instance d.kind)) :
    turnsOf [outcome d result] = [outcome d result] := by
  cases result <;> rfl

/-! ## Factories that log -/

def Definition.logging (d : Definition C σ) :
    Program C (σ × List (Step C)) (Except Failure (C.Instance d.kind)) :=
  (d.factory.noting (.began d.name)).bind fun result =>
    .update (fun (world, log) => (world, log++[Context.outcome d result])) fun _ => .done result

def Observer.turns : Observer C σ (List (Step C)) where
  factory := Definition.logging
  listener _ l := l.action.watched

theorem Observer.turns_faithful : (turns : Observer C σ (List (Step C))).Faithful where
  factory d watching respond h t := by
    rw [← d.factory.shadows_noting (Step.began d.name) watching respond h t]
    show plainly (d.logging.run watching t) = _
    rw [Definition.logging, Program.run_bind]
    rfl
  listener _ l := l.action.shadows_watched

def Logs (watching : Responder C (σ × List (Step C))) (tracer : Tracer C σ) : Prop :=
  ∀ q t, (watching q t).2.world.2 = t.world.2++turnsOf (tracer q t.plain)

variable {watching : Responder C (σ × List (Step C))} {respond : Responder C σ}
  {tracer : Tracer C σ}

theorem Program.run_logged (h : Mirrors watching respond) (hl : Logs watching tracer)
    (p : Program C σ α) (t : State C (σ × List (Step C))) :
    (p.watched.run watching t).2.world.2 =
      t.world.2++turnsOf (p.trace respond tracer t.plain) := by
  induction p generalizing t with
  | done a => exact (List.append_nil _).symm
  | ask q next ih =>
    rw [trace, turnsOf_append, ← h.answers q t, ← List.append_assoc, ← hl q t]
    exact ih _ _
  | update change next ih => exact ih t.world.1 _

namespace Context

variable {ctx : Context C σ}

def logged (ctx : Context C σ) : Context C (σ × List (Step C)) := ctx.observed .turns

/-! ## Answers -/

theorem create_logged (h : Mirrors watching respond) (hl : Logs watching tracer)
    (d : Definition C σ) (t : State C (σ × List (Step C))) :
    (create watching (d.observed .turns) t).2.world.2 =
      t.world.2++turnsOf (traceCreate respond tracer d t.plain) := by
  let start : State C (σ × List (Step C)) :=
    { entered d.name t with world := (t.world.1, t.world.2++[.began d.name]) }
  have hresult : (d.factory.watched.run watching start).1 =
      (d.factory.run respond (entered d.name t.plain)).1 :=
    congrArg Prod.fst (d.factory.shadows_watched watching respond h start)
  have hlog : (d.factory.watched.run watching start).2.world.2 =
      t.world.2++[.began d.name]++turnsOf (d.factory.trace respond tracer (entered d.name t.plain)) :=
    d.factory.run_logged h hl start
  have hturns : turnsOf (traceCreate respond tracer d t.plain) =
      .began d.name::(turnsOf (d.factory.trace respond tracer (entered d.name t.plain))++
        [outcome d (d.factory.run respond (entered d.name t.plain)).1]) := by
    rw [← turnsOf_outcome, ← turnsOf_append]
    rfl
  rw [create_world]
  show (d.logging.run watching (entered d.name t)).2.world.2 = _
  rw [Definition.logging, Program.run_bind]
  show (d.factory.watched.run watching start).2.world.2++
    [outcome d (d.factory.watched.run watching start).1] = _
  rw [hresult, hlog, hturns]
  simp

inductive LogsInner :
    Option (Responder C (σ × List (Step C))) → Option (Responder C σ) → Tracer C σ → Prop
  | none (tracer : Tracer C σ) : LogsInner none none tracer
  | some {watching : Responder C (σ × List (Step C))} {respond : Responder C σ}
      {tracer : Tracer C σ} (h : Mirrors watching respond) (hl : Logs watching tracer) :
      LogsInner (some watching) (some respond) tracer

variable {inner : Option (Responder C σ)} {watchingInner : Option (Responder C (σ × List (Step C)))}

theorem LogsInner.mirrors (h : LogsInner watchingInner inner tracer) :
    MirrorsInner watchingInner inner := by
  cases h with
  | none => exact .none
  | some h hl => exact .some h

theorem obtain_logged (h : LogsInner watchingInner inner tracer) (name : String)
    (t : State C (σ × List (Step C))) :
    (ctx.logged.obtain watchingInner name t).2.world.2 =
      t.world.2++turnsOf (ctx.traceObtain inner tracer name t.plain) := by
  have hfind : t.plain.find? name = t.find? name := rfl
  have hget : ctx.logged.registry.get? name = (ctx.registry.get? name).map (.observed .turns) :=
    Registry.get?_observed .turns ctx.registry name
  rw [obtain, traceObtain, hfind, hget]
  cases t.find? name with
  | some shared => exact (List.append_nil _).symm
  | none =>
    cases ctx.registry.get? name with
    | none => exact (List.append_nil _).symm
    | some d =>
      simp only [Option.map_some]
      by_cases hc : name ∈ t.creating
      · have hc' : name ∈ t.plain.creating := hc
        rw [if_pos hc, if_pos hc']
        exact (List.append_nil _).symm
      · have hc' : name ∉ t.plain.creating := hc
        rw [if_neg hc, if_neg hc']
        cases h with
        | none => exact (List.append_nil _).symm
        | some h hl => exact create_logged h hl d t

theorem obtainAs_logged (h : LogsInner watchingInner inner tracer) (kind : C.Kind)
    (name : String) (t : State C (σ × List (Step C))) :
    (ctx.logged.obtainAs watchingInner kind name t).2.world.2 =
      t.world.2++turnsOf (ctx.traceObtainAs inner tracer kind name t.plain) := by
  rw [obtainAs_state, obtain_logged h, traceObtainAs, turnsOf_append]
  cases (ctx.obtain inner name t.plain).1 <;> simp [turnsOf, Step.begins, Step.ends]

theorem names_logged {watching : String → StateM (State C (σ × List (Step C))) (Except Error α)}
    {f : String → StateM (State C σ) (Except Error α)}
    {tracer : String → State C σ → List (Step C)}
    (h : ∀ name t, plainly (watching name t) = f name t.plain)
    (hl : ∀ name t, (watching name t).2.world.2 = t.world.2++turnsOf (tracer name t.plain))
    (names : List String) (t : State C (σ × List (Step C))) :
    (forNames watching names t).2.world.2 =
      t.world.2++turnsOf (traceNames f tracer names t.plain) := by
  induction names generalizing t with
  | nil => exact (List.append_nil _).symm
  | cons name names ih =>
    have hlog := hl name t
    rw [traceNames, turnsOf_append, ← h name t]
    rcases hw : watching name t with ⟨e | a, later⟩
    · rw [hw] at hlog
      rw [forNames_error hw, ← List.append_assoc, ← hlog]
      exact (List.append_nil _).symm
    · rw [hw] at hlog
      rw [forNames_ok hw, ← List.append_assoc, ← hlog]
      exact ih later

theorem notify_logged (h : Mirrors watching respond) (hl : Logs watching tracer)
    (event : C.Event) (index : Nat) (told : List (Listener C σ × Nat))
    (t : State C (σ × List (Step C))) :
    (notify watching event index
        (told.map fun (l, position) => l.observed .turns position) t).2.world.2 =
      t.world.2++turnsOf (traceNotify respond tracer (told.map Prod.fst) t.plain) := by
  induction told generalizing index t with
  | nil => exact (List.append_nil _).symm
  | cons pair told ih =>
    obtain ⟨l, position⟩ := pair
    have hplain : plainly ((l.observed .turns position).action.run watching t) =
        l.action.run respond t.plain := l.action.shadows_watched watching respond h t
    have hlog : ((l.observed .turns position).action.run watching t).2.world.2 = _ :=
      l.action.run_logged h hl t
    rw [List.map_cons, List.map_cons, notify, traceNotify, turnsOf_append, ← hplain,
      ← List.append_assoc, ← hlog]
    rcases (l.observed .turns position).action.run watching t with ⟨cause | ⟨⟩, later⟩
    · exact (List.append_nil _).symm
    · exact ih (index+1) later

theorem publish_logged (h : LogsInner watchingInner inner tracer) (event : C.Event)
    (t : State C (σ × List (Step C))) :
    (ctx.logged.publish watchingInner event t).2.world.2 =
      t.world.2++turnsOf (ctx.tracePublish inner tracer event t.plain) := by
  unfold publish tracePublish
  rw [logged, observed_of_event, listeners_of_event]
  cases ctx.audience event with
  | nil => exact (List.append_nil _).symm
  | cons pair told =>
    cases h with
    | none => exact (List.append_nil _).symm
    | some h hl =>
      have hn := notify_logged h hl event 0 (pair::told)
        { t with publishing := t.publishing++[event] }
      rw [List.map_cons, List.map_cons] at hn ⊢
      dsimp only
      by_cases hp : event ∈ t.publishing
      · have hp' : t.plain.publishing.contains event = true := List.contains_iff_mem.mpr hp
        rw [if_pos hp, if_pos hp']
        exact (List.append_nil _).symm
      · have hp' : ¬t.plain.publishing.contains event = true := mt List.contains_iff_mem.mp hp
        rw [if_neg hp, if_neg hp']
        exact hn

theorem respond_logged (h : LogsInner watchingInner inner tracer) :
    Logs (ctx.logged.respond watchingInner) (ctx.traceAnswer inner tracer) := by
  intro q t
  have hm := h.mirrors
  cases q with
  | find dependency =>
    have hr : ctx.logged.registry.resolve dependency "<lookup>" = _ :=
      Registry.resolve_observed .turns ctx.registry dependency "<lookup>"
    rw [Context.respond, traceAnswer, hr]
    cases ctx.registry.resolve dependency "<lookup>" with
    | error e => exact (List.append_nil _).symm
    | ok d => exact obtainAs_logged h dependency.kind d.name t
  | findAll kind =>
    have hk : (ctx.logged.registry.ofKind kind).map Definition.name = _ :=
      Registry.names_ofKind_observed .turns ctx.registry kind
    rw [Context.respond, traceAnswer, hk]
    exact names_logged (obtainAs_observed Observer.turns_faithful hm kind)
      (obtainAs_logged h kind) _ t
  | createAll =>
    have horder : ctx.logged.registry.constructionOrder = _ :=
      Registry.constructionOrder_observed .turns ctx.registry
    rw [Context.respond, traceAnswer, horder]
    cases ctx.registry.constructionOrder with
    | error e => exact (List.append_nil _).symm
    | ok order =>
      have hall : (forNames (ctx.logged.obtain watchingInner) order t).2.world.2 = _ :=
        names_logged (obtain_observed Observer.turns_faithful hm) (obtain_logged h) order t
      dsimp only
      rw [← hall]
      rcases forNames (ctx.logged.obtain watchingInner) order t with ⟨e | all, later⟩ <;> rfl
  | publish event => exact publish_logged h event t
  | view => exact (List.append_nil _).symm

theorem respondWithin_logged (ctx : Context C σ) (depth : Nat) :
    Logs (ctx.logged.respondWithin depth) (ctx.traceWithin depth) := by
  induction depth with
  | zero => exact respond_logged (.none _)
  | succ depth ih =>
    exact respond_logged (.some (respondWithin_observed Observer.turns_faithful ctx depth) ih)

/-! ## Runs -/

theorem mirrors_logged (ctx : Context C σ) : Mirrors ctx.logged.answer ctx.answer :=
  answer_observed Observer.turns_faithful ctx

theorem logs_answer (ctx : Context C σ) : Logs ctx.logged.answer (ctx.traceWithin ctx.depth) := by
  have hdepth : ctx.logged.depth = ctx.depth := ctx.depth_observed .turns
  unfold answer
  rw [hdepth]
  exact respondWithin_logged ctx ctx.depth

theorem answer_logged (ctx : Context C σ) (q : Query C) (s : State C σ) (log : List (Step C)) :
    ctx.logged.answer q (s.noted log) = ((ctx.answer q s).1,
      (ctx.answer q s).2.noted (log++turnsOf (ctx.traceWithin ctx.depth q s))) :=
  eq_noted (ctx.mirrors_logged.answers q _) (ctx.logs_answer q _)

theorem run_logged (ctx : Context C σ) (p : Program C σ α) (s : State C σ)
    (log : List (Step C)) :
    ctx.logged.run p.watched (s.noted log) =
      ((ctx.run p s).1, (ctx.run p s).2.noted (log++turnsOf (ctx.trace p s))) :=
  eq_noted (p.shadows_watched _ _ ctx.mirrors_logged _)
    (p.run_logged ctx.mirrors_logged ctx.logs_answer _)

end Context

end WebApplication.Bean
