import WebApplication.Proofs.Bean.CreateAll
import WebApplication.Proofs.Bean.Nesting

/-!
# Creation in the declared order

If factories look up only what their beans declare, creating every bean of a fresh context
runs the factories one after another in the order of construction. Whatever a factory
looks up was stored before it began, so no factory begins inside another one.
-/

set_option autoImplicit false

namespace WebApplication.Bean

variable {C : Catalog} {σ α : Type}

def Step.Quiet (allowed : String → Prop) : Step C → Prop
  | .found name => allowed name
  | .returned _ _ => True
  | _ => False

theorem Stock.run_quiet {allowed : String → Prop} {steps : List (Step C)}
    (h : ∀ step ∈ steps, step.Quiet allowed) (stock : Stock C) : stock.run steps = stock := by
  induction steps with
  | nil => rfl
  | cons step steps ih =>
    have hstep : stock.step step = stock := by
      have hquiet := h step List.mem_cons_self
      cases step with
      | found name => rfl
      | returned kind shared => rfl
      | _ => exact hquiet.elim
    rw [run, hstep]
    exact ih fun other ho => h other (List.mem_cons_of_mem step ho)

/-- Factories run one after another: each begins when the one before it has made its bean,
and finds all that it looks up. -/
inductive InTurn (r : Registry C σ) : List String → List (Step C) → Prop
  | nil : InTurn r [] []
  | cons {d : Definition C σ} {value : C.Instance d.kind} {order : List String}
      {lookups rest : List (Step C)} (hd : d ∈ r.definitions)
      (hl : ∀ step ∈ lookups, step.Quiet (r.Needs d.name)) (h : InTurn r order rest) :
      InTurn r (d.name::order)
        (.began d.name::(lookups++.made ⟨d.name, d.kind, value⟩::rest))

theorem turnsOf_quiet {allowed : String → Prop} {steps : List (Step C)}
    (h : ∀ step ∈ steps, step.Quiet allowed) : turnsOf steps = [] := by
  rw [turnsOf, List.filter_eq_nil_iff]
  intro step hstep
  have hquiet := h step hstep
  cases step with
  | found name => exact Bool.false_ne_true
  | returned kind shared => exact Bool.false_ne_true
  | _ => exact hquiet.elim

/-- The beans are stored in turn, and between the beginning of a factory and its end no factory
begins or ends. -/
theorem InTurn.stored {r : Registry C σ} {order : List String} {steps : List (Step C)}
    (h : InTurn r order steps) {stock : Stock C} (hn : (stock.names++order).Nodup) :
    ∃ made, (stock.run steps).stored = stock.stored++made ∧
      turnsOf steps = made.flatMap fun x => [.began x.name, .made x] := by
  induction h generalizing stock with
  | nil => exact ⟨[], (List.append_nil _).symm, rfl⟩
  | @cons d value order lookups rest hd hl h ih =>
    have hout : d.name ∉ stock.names := fun hin =>
      (List.nodup_append.mp hn).2.2 d.name hin d.name List.mem_cons_self rfl
    have hmade : ((stock.step (.began d.name)).step (.made ⟨d.name, d.kind, value⟩)).stored =
        stock.stored++[⟨d.name, d.kind, value⟩] := by
      rw [Stock.step_made hout]
      rfl
    have hnext : (((stock.step (.began d.name)).step (.made ⟨d.name, d.kind, value⟩)).names++
        order).Nodup := by
      rw [Stock.names, hmade, List.map_append, List.append_assoc]
      exact hn
    obtain ⟨made, hstored, hturns⟩ := ih hnext
    refine ⟨⟨d.name, d.kind, value⟩::made, ?_, ?_⟩
    · rw [Stock.run, Stock.run_append, Stock.run_quiet hl, Stock.run, hstored, hmade,
        List.append_assoc]
      rfl
    · have hsplit : turnsOf (.began d.name::(lookups++.made ⟨d.name, d.kind, value⟩::rest)) =
          .began d.name::(turnsOf lookups++.made ⟨d.name, d.kind, value⟩::turnsOf rest) :=
        congrArg (_::·) (turnsOf_append _ _)
      rw [hsplit, turnsOf_quiet hl, hturns]
      rfl

theorem State.stored_of_plain (s : State .plain σ) :
    s.stored = s.stock.names.map fun name => ⟨name, (), ()⟩ := by
  rw [Stock.names, List.map_map]
  exact (List.map_id _).symm

namespace Context

variable {ctx : Context C σ} {depth : Nat} {s middle later : State C σ} {q : Query C}
  {allowed : String → Prop}

/-! ## Lookups of what is stored -/

/-- All that is looked up while a question is answered, in the listeners of an event too, has
an allowed name. -/
def Confined (ctx : Context C σ) (allowed : String → Prop) (q : Query C) (s : State C σ) : Prop :=
  ∀ asked there name middle, ctx.Reaches q s [] asked there →
    ctx.LooksUp asked there name middle → allowed name

theorem names_kept {steps : List (Step C)} (h : ctx.Explains depth s steps later) :
    s.stock.names ⊆ later.stock.names := by
  have hp : s.stock.stored <+: later.stock.stored := stored_of_explained h
  exact Stock.names_subset hp

theorem obtain_quiet {inner : Option (Responder C σ)} {tracer : Tracer C σ} {name : String}
    (ha : allowed name) (hs : name ∈ s.stock.names) :
    ∀ step ∈ ctx.traceObtain inner tracer name s, step.Quiet allowed := by
  obtain ⟨shared, hfound⟩ := find?_of_mem_names hs
  rw [traceObtain, hfound]
  intro step hstep
  rw [List.mem_singleton.mp hstep]
  exact ha

theorem obtainAs_quiet {inner : Option (Responder C σ)} {tracer : Tracer C σ} {kind : C.Kind}
    {name : String} (ha : allowed name) (hs : name ∈ s.stock.names) :
    ∀ step ∈ ctx.traceObtainAs inner tracer kind name s, step.Quiet allowed := by
  rw [traceObtainAs, List.forall_mem_append]
  refine ⟨obtain_quiet ha hs, ?_⟩
  cases (ctx.obtain inner name s).1 with
  | error e => exact List.forall_mem_nil _
  | ok shared =>
    intro step hstep
    rw [List.mem_singleton.mp hstep]
    trivial

theorem names_quiet {f : String → StateM (State C σ) (Except Error α)}
    {tracer : String → State C σ → List (Step C)} {names : List String}
    (h : ∀ front name back found middle, names = front++name::back →
      forNames f front s = (.ok found, middle) →
      ∀ step ∈ tracer name middle, step.Quiet allowed) :
    ∀ step ∈ traceNames f tracer names s, step.Quiet allowed := by
  induction names generalizing s with
  | nil => exact List.forall_mem_nil _
  | cons name names ih =>
    rw [traceNames, List.forall_mem_append]
    refine ⟨h [] name names [] s rfl rfl, ?_⟩
    rcases hr : f name s with ⟨e | a, later⟩
    · exact List.forall_mem_nil _
    · refine ih fun front other back found middle hn hfront => ?_
      refine h (name::front) other back (a::found) middle (congrArg _ hn) ?_
      rw [forNames_ok hr, hfront]
      rfl

def Calm (ctx : Context C σ) (allowed : String → Prop) (depth : Nat) : Prop :=
  ∀ q s, ctx.Fits depth s → ctx.Confined allowed q s →
    (∀ name, allowed name → name ∈ s.stock.names) →
    ∀ step ∈ ctx.traceWithin depth q s, step.Quiet allowed

theorem Calm.program (h : ctx.Calm allowed depth) {p : Program C σ α} (hf : ctx.Fits depth s)
    (hp : ∀ q start, p.Asks ctx.answer s q start → ctx.Confined allowed q start)
    (hs : ∀ name, allowed name → name ∈ s.stock.names) :
    ∀ step ∈ p.trace (ctx.respondWithin depth) (ctx.traceWithin depth) s,
      step.Quiet allowed := by
  induction p generalizing s with
  | done a => exact List.forall_mem_nil _
  | ask q next ih =>
    have he := within_explained ctx depth q s
    rw [Program.trace, List.forall_mem_append]
    refine ⟨h q s hf (hp q s (.here q next s)) hs, ?_⟩
    refine ih _ (hf.after he) ?_ fun name ha => names_kept he (hs name ha)
    intro asked start hasked
    rw [answer_agree ctx depth q s hf] at hasked
    exact hp asked start (.later hasked)
  | update change next ih =>
    refine ih s.world ⟨hf.sound, hf.publishing, hf.heard, hf.room⟩ ?_ hs
    exact fun asked start hasked => hp asked start (.update hasked)

theorem Calm.notify (h : ctx.Calm allowed depth) (event : C.Event) (index : Nat)
    {listeners : List (Listener C σ)} (hf : ctx.Fits depth s)
    (hl : ∀ front listener back ran middle, listeners = front++listener::back →
      notify ctx.answer event index front s = (.ok ran, middle) → ∀ q start,
      listener.action.Asks ctx.answer middle q start → ctx.Confined allowed q start)
    (hs : ∀ name, allowed name → name ∈ s.stock.names) :
    ∀ step ∈ traceNotify (ctx.respondWithin depth) (ctx.traceWithin depth) listeners s,
      step.Quiet allowed := by
  induction listeners generalizing index s with
  | nil => exact List.forall_mem_nil _
  | cons listener rest ih =>
    have ht := within_explained ctx depth
    have he := program_explained ht listener.action s
    have hsame := program_agree ht (answer_agree ctx depth) listener.action hf
    rw [traceNotify, List.forall_mem_append]
    refine ⟨h.program hf (hl [] listener rest index s rfl rfl) hs, ?_⟩
    rcases hr : listener.action.run (ctx.respondWithin depth) s with ⟨cause | ⟨⟩, later⟩
    · exact List.forall_mem_nil _
    · rw [hr] at he hsame
      refine ih (index+1) (hf.after he) (fun front other back ran middle hn hfront => ?_)
        fun name ha => names_kept he (hs name ha)
      refine hl (listener::front) other back ran middle (congrArg _ hn) ?_
      rw [Context.notify, ← hsame]
      exact hfront

theorem publish_quiet (h : ∀ inner, depth = inner+1 → ctx.Calm allowed inner) {event : C.Event}
    (hf : ctx.Fits depth s) (hc : ctx.Confined allowed (.publish event) s)
    (hs : ∀ name, allowed name → name ∈ s.stock.names) :
    ∀ step ∈ ctx.tracePublish (ctx.below depth) (ctx.tracerBelow depth) event s,
      step.Quiet allowed := by
  unfold tracePublish
  cases hl : List.filter (·.event = event) ctx.listeners with
  | nil => exact List.forall_mem_nil _
  | cons listener rest =>
    cases depth with
    | zero => exact List.forall_mem_nil _
    | succ inner =>
      have hheard : event ∈ ctx.listeners.map Listener.event :=
        heard_of_filter (hl ▸ List.mem_cons_self)
      rw [below]
      dsimp only
      split
      · exact List.forall_mem_nil _
      · rename_i hout
        have hp : event ∉ s.publishing := fun hin => hout (List.contains_iff_mem.mpr hin)
        refine (h inner rfl).notify event 0 (hf.announce hheard hp) ?_ hs
        intro front other back ran middle hn hfront q start hasked asked there name last hr hlook
        exact hc asked there name last (.listener hp (hl.trans hn) hfront hasked hr) hlook

theorem question_calm (h : ∀ inner, depth = inner+1 → ctx.Calm allowed inner) :
    ctx.Calm allowed depth := by
  intro q s hf hc hs
  have hi := ctx.inner_below depth
  have hsame := replaces_below ctx depth
  -- what was stored before stays stored while the names in front are looked up
  have hlook : ∀ name middle, ctx.LooksUp q s name middle →
      allowed name ∧ name ∈ middle.stock.names := by
    intro name middle hl
    have ha := hc q s name middle (.here q s) hl
    obtain ⟨steps, he⟩ := looksUp_explained hl
    exact ⟨ha, names_kept he (hs name ha)⟩
  rw [traceWithin_eq]
  cases q with
  | find dependency =>
    rw [traceAnswer]
    cases hr : ctx.registry.resolve dependency "<lookup>" with
    | error e => exact List.forall_mem_nil _
    | ok d =>
      obtain ⟨ha, hin⟩ := hlook d.name s (.find hr)
      exact obtainAs_quiet ha hin
  | findAll kind =>
    refine names_quiet fun front name back found middle hn hfront => ?_
    have hin : ∀ other ∈ front, other ∈ (ctx.registry.ofKind kind).map Definition.name :=
      fun other ho => hn ▸ List.mem_append_left _ ho
    have hfront' := forNames_agree (fun other ho s => ofKind_explained hi (hin other ho) s)
      (fun name s => obtainAs_agree hsame kind name) hf
    obtain ⟨ha, hin⟩ := hlook name middle (.findAll hn (hfront'.symm.trans hfront))
    exact obtainAs_quiet ha hin
  | createAll =>
    rw [traceAnswer]
    cases ho : ctx.registry.constructionOrder with
    | error e => exact List.forall_mem_nil _
    | ok order =>
      refine names_quiet fun front name back found middle hn hfront => ?_
      have hfront' := forNames_agree
        (fun name (_ : name ∈ front) s => obtain_explained hi name s)
        (fun name s => obtain_agree hsame name) hf
      obtain ⟨ha, hin⟩ := hlook name middle
        (.createAll (hn ▸ ho) (hfront'.symm.trans hfront))
      exact obtain_quiet ha hin
  | publish event => exact publish_quiet h hf hc hs
  | view => exact List.forall_mem_nil _

theorem calm (ctx : Context C σ) (allowed : String → Prop) (depth : Nat) :
    ctx.Calm allowed depth :=
  at_every_depth (fun _ h => question_calm h) depth

/-! ## One factory after another -/

/-- The factory of a bean, begun in a state, looks up a name, itself or in a listener of an
event that it publishes. -/
def Wants (ctx : Context C σ) (d : Definition C σ) (s : State C σ) (name : String) : Prop :=
  ∃ q start asked there middle, d.factory.Asks ctx.answer (entered d.name s) q start ∧
    ctx.Reaches q start [] asked there ∧ ctx.LooksUp asked there name middle

/-- The factory of a bean looks up only what the bean declares, and succeeds if all that it
looks up was stored before. -/
structure Frugal (ctx : Context C σ) (d : Definition C σ) (s : State C σ) : Prop where
  declared : ∀ name, ctx.Wants d s name → ctx.registry.Needs d.name name
  succeeds : (∀ name, ctx.Wants d s name → name ∈ s.stock.names) →
    ∃ value, (d.factory.run ctx.answer (entered d.name s)).1 = .ok value

/-- With all that it declares stored, a frugal factory makes its bean and finds all it looks
up. -/
theorem turn_taken {d : Definition C σ} (hf : ctx.Fits depth s) (hb : ctx.Begins d s)
    (hfrugal : ctx.Frugal d s)
    (hstored : ∀ name, ctx.registry.Needs d.name name → name ∈ s.stock.names) :
    ∃ value lookups shared later,
      (∀ step ∈ lookups, step.Quiet (ctx.registry.Needs d.name)) ∧
      ctx.obtain (ctx.below depth) d.name s = (.ok shared, later) ∧
      later.stock.names = s.stock.names++[d.name] ∧
      ctx.traceObtain (ctx.below depth) (ctx.tracerBelow depth) d.name s =
        .began d.name::(lookups++[.made ⟨d.name, d.kind, value⟩]) := by
  cases depth with
  | zero => exact absurd (hf.mem_creating (Registry.mem_names hb.defined)) hb.free
  | succ inner =>
    have hentered := hf.enter hb.ready
    have ht := within_explained ctx inner
    have hquiet := (calm ctx _ inner).program hentered
      (fun q start ha asked there name middle hr hl =>
        hfrugal.declared name ⟨q, start, asked, there, middle, ha, hr, hl⟩) hstored
    obtain ⟨value, hvalue⟩ :=
      hfrugal.succeeds fun name hw => hstored name (hfrugal.declared name hw)
    rw [← program_agree ht (answer_agree ctx inner) d.factory hentered] at hvalue
    have hrun := (program_explained ht d.factory (entered d.name s)).run
    -- quiet steps store nothing, so the names are those from before the factory
    rw [Stock.run_quiet hquiet] at hrun
    rcases hr : d.factory.run (ctx.respondWithin inner) (entered d.name s) with ⟨result, later⟩
    rw [hr] at hvalue hrun
    obtain rfl : result = .ok value := hvalue
    have hobtain := hb.obtain_eq (ctx.respondWithin inner)
    rw [create_ok hr] at hobtain
    refine ⟨value, _, _, _, hquiet, hobtain, ?_, ?_⟩
    · have hsame := congrArg Stock.names hrun.symm
      have hnames : later.stock.names = s.stock.names := hsame
      have hout : d.name ∉ s.stock.names := Stock.find?_eq_none_iff.mp hb.missing
      have hstore := names_store later ⟨d.name, d.kind, value⟩
      rw [hnames, if_neg hout] at hstore
      exact hstore
    · refine (hb.trace_eq (ctx.respondWithin inner) (ctx.traceWithin inner)).trans ?_
      rw [traceCreate, hr]
      rfl

/-- From where all that stands earlier in the order is stored, the rest is made in turn. -/
theorem turns {order before names : List String} (hsorted : ctx.registry.Sorted order)
    (ho : order = before++names) (hf : ctx.Fits depth s) (hempty : s.creating = [])
    (hs : s.stock.names = before)
    (hfrugal : ∀ front back found middle d, names = front++d.name::back →
      forNames (ctx.obtain (ctx.below depth)) front s = (.ok found, middle) →
      ctx.Begins d middle → ctx.Frugal d middle) :
    ∃ all later, forNames (ctx.obtain (ctx.below depth)) names s = (.ok all, later) ∧
      later.stock.names = order ∧ InTurn ctx.registry names
        (traceNames (ctx.obtain (ctx.below depth))
          (ctx.traceObtain (ctx.below depth) (ctx.tracerBelow depth)) names s) := by
  induction names generalizing before s with
  | nil =>
    rw [List.append_nil] at ho
    exact ⟨[], s, rfl, hs.trans ho.symm, .nil⟩
  | cons name names ih =>
    obtain ⟨d, hd, rfl⟩ := List.mem_map.mp
      (hsorted.known name (ho ▸ List.mem_append_right _ List.mem_cons_self))
    have hnodup := hsorted.nodup
    rw [ho] at hnodup
    have hout : d.name ∉ s.stock.names := fun hin =>
      (List.nodup_append.mp hnodup).2.2 d.name (hs ▸ hin) d.name List.mem_cons_self rfl
    have hmissing : s.stock.find? d.name = none := Stock.find?_eq_none_iff.mpr hout
    have hb : ctx.Begins d s := ⟨hd, hmissing, hempty ▸ List.not_mem_nil⟩
    -- what the bean declares stands before it in the order, and all of that is stored
    obtain ⟨value, lookups, shared, later, hquiet, hobtain, hnames, htrace⟩ :=
      turn_taken hf hb (hfrugal [] names [] s d rfl rfl hb)
        fun needed hn => hs ▸ hsorted.needed_before hn ho
    have he := obtain_explained (ctx.inner_below depth) d.name s
    rw [hobtain] at he
    have ho' : order = (before++[d.name])++names := by
      rw [ho, List.append_assoc, List.singleton_append]
    obtain ⟨all, last, hrest, hlast, hturns⟩ := ih ho' (hf.after he) (he.creating.trans hempty)
      (hnames.trans (congrArg (·++[d.name]) hs)) fun front back found middle e hn hfront => by
        refine hfrugal (d.name::front) back (shared::found) middle e (congrArg _ hn) ?_
        rw [forNames_ok hobtain, hfront]
        rfl
    refine ⟨shared::all, last, ?_, hlast, ?_⟩
    · rw [forNames_ok hobtain, hrest]
      rfl
    · rw [traceNames, htrace, hobtain, List.cons_append, List.append_assoc, List.singleton_append]
      exact .cons hd hquiet hturns

/-! ## Factories that look up a list -/

theorem asks_following {respond : Responder C σ} {result : Except Failure α}
    {lookups : List (Dependency C)} {start : State C σ}
    (h : (Program.following result lookups).Asks respond s q start) :
    ∃ dependency ∈ lookups, q = .find dependency := by
  induction lookups generalizing s with
  | nil => cases h
  | cons dependency rest ih =>
    rw [Program.following] at h
    cases h with
    | here => exact ⟨dependency, List.mem_cons_self, rfl⟩
    | later h =>
      cases ha : (respond (.find dependency) s).1 with
      | error e =>
        rw [ha] at h
        cases h
      | ok shared =>
        rw [ha] at h
        obtain ⟨other, ho, he⟩ := ih h
        exact ⟨other, List.mem_cons_of_mem _ ho, he⟩

theorem find_stored {dependency : Dependency C} {d : Definition C σ} (hf : ctx.Fits ctx.depth s)
    (hm : ctx.registry.Meets dependency d) (hs : d.name ∈ s.stock.names) :
    ∃ shared, ctx.answer (.find dependency) s = (.ok shared, s) := by
  obtain ⟨shared, hfound⟩ := find?_of_mem_names hs
  have ho : ctx.obtain (ctx.below ctx.depth) d.name s = (.ok shared, s) := obtain_stored hfound
  obtain ⟨value, hcast⟩ :=
    cast_of_kind ((hf.obtained (ctx.inner_below ctx.depth) hm.1 ho).2.trans hm.2.1)
  refine ⟨⟨shared.serial, value⟩, ?_⟩
  rw [answer, respondWithin_eq, respond, Registry.resolve_eq_ok_iff.mpr hm]
  dsimp only
  rw [obtainAs_ok ho, hcast]
  rfl

theorem following_ok {value : α} {lookups : List (Dependency C)} (hf : ctx.Fits ctx.depth s)
    (hmet : ∀ dependency ∈ lookups, ∃ e, ctx.registry.Meets dependency e)
    (hs : ∀ q start name middle,
      (Program.following (.ok value) lookups).Asks ctx.answer s q start →
      ctx.LooksUp q start name middle → name ∈ s.stock.names) :
    (Program.following (.ok value) lookups).run ctx.answer s = (.ok value, s) := by
  induction lookups with
  | nil => rfl
  | cons dependency rest ih =>
    obtain ⟨e, hm⟩ := hmet dependency List.mem_cons_self
    obtain ⟨shared, hfound⟩ := find_stored hf hm
      (hs _ s e.name s (.here _ _ s) (.find (Registry.resolve_eq_ok_iff.mpr hm)))
    rw [Program.following, Program.run, hfound]
    refine ih (fun other ho => hmet other (List.mem_cons_of_mem _ ho)) ?_
    intro q start name middle ha
    refine hs q start name middle (.later ?_)
    rw [hfound]
    exact ha

/-- A factory that looks up some of what its bean declares is frugal. -/
theorem frugal_of_following {d : Definition C σ} {value : C.Instance d.kind}
    {lookups : List (Dependency C)} (hc : ctx.registry.Complete)
    (hd : d.factory = .following (.ok value) lookups) (hsub : lookups ⊆ d.dependencies)
    (hf : ctx.Fits ctx.depth s) (hb : ctx.Begins d s) : ctx.Frugal d s where
  declared := by
    rintro name ⟨q, start, asked, there, middle, ha, hr, hl⟩
    rw [hd] at ha
    obtain ⟨dependency, hdep, rfl⟩ := asks_following ha
    cases hr with
    | here =>
      cases hl with
      | find h =>
        exact ⟨d, hb.defined, rfl, dependency, hsub hdep, _, Registry.resolve_eq_ok_iff.mp h, rfl⟩
  succeeds h := by
    have hentered := (hf.deepen (Nat.le_succ _)).enter hb.ready
    have hmet := fun dependency hdep => hc d hb.defined dependency (hsub hdep)
    refine ⟨value, ?_⟩
    rw [hd, following_ok hentered hmet]
    intro q start name middle ha hl
    rw [← hd] at ha
    exact h name ⟨q, start, q, start, middle, ha, .here q start, hl⟩

/-- If what beans declare is there and goes round in no circle, and every factory that
begins looks up only what its bean declares and then succeeds, creating every bean of a
fresh context succeeds. The factories run in the order of construction, each once and none
inside another one, and find stored all that they look up. What they write down themselves is
that one after another began and made its bean. -/
theorem created_in_order (ctx : Context C σ) (world : σ) (hcomplete : ctx.registry.Complete)
    (hacyclic : ctx.registry.Acyclic)
    (hfrugal : ∀ d middle, ctx.LooksUp .createAll (State.start world) d.name middle →
      ctx.Begins d middle → ctx.Frugal d middle) :
    ∃ order, ctx.registry.constructionOrder = .ok order ∧ order.Perm ctx.registry.names ∧
      (ctx.answer .createAll (State.start world)).1 = .ok () ∧
      (ctx.answer .createAll (State.start world)).2.stock.names = order ∧
      InTurn ctx.registry order (ctx.traceWithin ctx.depth .createAll (State.start world)) ∧
      (ctx.logged.answer .createAll ((State.start world).noted [])).2.world.2 =
        (ctx.answer .createAll (State.start world)).2.stored.flatMap fun x =>
          [.began x.name, .made x] := by
  obtain ⟨order, horder⟩ := Registry.order_of_complete_acyclic hcomplete hacyclic
  obtain ⟨hsorted, -⟩ := Registry.names_sorted horder
  have hf := fits_start ctx world
  have hfrugal' : ∀ front back found middle d, order = front++d.name::back →
      forNames (ctx.obtain (ctx.below ctx.depth)) front (State.start world) =
        (.ok found, middle) → ctx.Begins d middle → ctx.Frugal d middle := by
    intro front back found middle d hn hfront
    have hsame := forNames_agree
      (fun name (_ : name ∈ front) s => obtain_explained (ctx.inner_below ctx.depth) name s)
      (fun name s => obtain_agree (replaces_below ctx ctx.depth) name) hf
    exact hfrugal d middle (.createAll (hn ▸ horder) (hsame.symm.trans hfront))
  obtain ⟨all, later, hnames, hlater, hturns⟩ :=
    turns hsorted (List.nil_append order).symm hf rfl rfl hfrugal'
  have hanswer : ctx.answer .createAll (State.start world) = (.ok (), later) :=
    createAll_ok_iff.mpr ⟨order, all, horder, hnames⟩
  have hturn : InTurn ctx.registry order
      (ctx.traceWithin ctx.depth .createAll (State.start world)) := by
    rw [traceWithin_eq, traceAnswer, horder]
    exact hturns
  have hperm := (Registry.ordered_of_ok horder).perm
  have hnodup : ((State.start (C := C) world).stock.names++order).Nodup :=
    hperm.nodup_iff.mpr ctx.registry.nodup
  obtain ⟨made, hstored, hlog⟩ := hturn.stored hnodup
  have hrun := (within_explained ctx ctx.depth .createAll (State.start world)).run
  rw [hrun] at hstored
  refine ⟨order, horder, hperm, ?_, ?_, hturn, ?_⟩
  · rw [hanswer]
  · rw [hanswer]
    exact hlater
  · rw [answer_logged]
    show turnsOf _ = List.flatMap _ (ctx.answer .createAll (State.start world)).2.stock.stored
    rw [hlog]
    exact congrArg (List.flatMap _) hstored.symm

def announced (name : String) (needs : List String) : Definition .plain Unit :=
  ⟨name, (), needs.map (Dependency.named ()),
    .following (.ok ()) (needs.map (Dependency.named ()))⟩

def depot : Context .plain Unit where
  registry := ⟨[announced "page" ["store", "cache"], announced "cache" ["files"],
    announced "store" ["files"], announced "files" []], by decide⟩
  listeners := []
  profiles := .none
  properties := .empty

theorem depot_in_turn :
    depot.registry.constructionOrder = .ok ["files", "store", "cache", "page"] ∧
    (depot.answer .createAll (State.start ())).2.stock.names =
      ["files", "store", "cache", "page"] ∧
    InTurn depot.registry ["files", "store", "cache", "page"]
      (depot.traceWithin depot.depth .createAll (State.start ())) ∧
    (depot.logged.answer .createAll ((State.start ()).noted [])).2.world.2 =
      ["files", "store", "cache", "page"].flatMap fun name =>
        [.began name, .made ⟨name, (), ()⟩] := by
  have ho : depot.registry.constructionOrder = .ok ["files", "store", "cache", "page"] := rfl
  have hc := Registry.complete_of_ok ho
  have hfrugal : ∀ d middle, depot.LooksUp .createAll (State.start ()) d.name middle →
      depot.Begins d middle → depot.Frugal d middle := by
    intro d middle hl hb
    have hf := (fits_start depot ()).looksUp hl
    have hd := hb.defined
    simp only [depot, List.mem_cons, List.not_mem_nil, or_false] at hd
    rcases hd with rfl | rfl | rfl | rfl <;>
      exact frugal_of_following hc rfl (List.Subset.refl _) hf hb
  obtain ⟨order, horder, -, -, hnames, hturns, hlog⟩ :=
    created_in_order depot () hc (Registry.acyclic_of_ok ho) hfrugal
  obtain rfl : order = _ := Except.ok.inj (horder.symm.trans ho)
  refine ⟨ho, hnames, hturns, ?_⟩
  rw [hlog, State.stored_of_plain, hnames]
  rfl

end Context

end WebApplication.Bean
