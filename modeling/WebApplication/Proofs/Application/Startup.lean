import WebApplication.Proofs.Application.Attempts
import WebApplication.Proofs.Application.Preparation

/-!
# The order of a startup

Unless a check refuses the application before anything of it runs, all beans are created
first. Then come the listeners of the refreshed context, the functions that declare routes,
the access rules and the listeners of the started context, each in the order in which they
were declared, until one of them fails.
-/

set_option autoImplicit false

namespace WebApplication.Application

open Bean (Call Stage)

variable {own : Bean.Catalog} {α : Type}

/-! ## Applications that publish nothing -/

def Registration.Silent : Server.Registration (catalog own α) (World α) → Prop
  | .declared _ items => items.Silent
  | .table _ => True

theorem silent_tableOf {r : Server.Registration (catalog own α) (World α)}
    (h : Registration.Silent r) : (tableOf r).Silent := by
  cases r with
  | table table => exact .done _
  | declared flavor items =>
    apply h.bind
    intro items
    cases items with
    | error e => exact .done _
    | ok items => exact .done _

structure SilentParts (merged : Configuration.Merged (catalog own α) (World α)) : Prop where
  factories : ∀ d ∈ merged.beans, d.factory.Silent
  listeners : ∀ l ∈ merged.listeners, l.action.Silent
  routers : ∀ r ∈ (serverOf merged).routers, Registration.Silent r

def Spec.Silent (spec : Spec own α) (profiles : Profiles) : Prop :=
  ∀ merged, spec.root.flatten profiles = .ok merged → SilentParts merged

theorem silent_serverBeans (declared : Bool) (codecs : Http.Codecs)
    (template : Option Template.Settings) :
    ∀ d ∈ (serverBeans declared codecs template :
      List (Bean.Definition (catalog own α) (World α))), d.factory.Silent := by
  intro d hd
  cases declared with
  | false => cases hd
  | true =>
    rcases List.mem_cons.mp hd with rfl | hd
    · exact .done _
    · obtain ⟨t, -, rfl⟩ := Option.map_eq_some_iff.mp (Option.mem_toList.mp hd)
      exact .done _

/-! ## Stages of a start -/

def routerStages (position : Nat) (routers : List (Server.Registration (catalog own α) (World α))) :
    List (Stage (catalog own α) (World α) StartupError) :=
  (routers.zipIdx position).map fun (r, position) => .of (.router position) id (tableOf r)

namespace Plan

def stages (plan : Plan own α) : List (Stage (catalog own α) (World α) StartupError) :=
  Bean.Context.tellings .event Event.refreshed 0 (plan.context.audience Event.refreshed)++
    (routerStages 0 plan.server.routers++
      ((plan.server.security.map fun settings => .of .security .security settings.chain).toList++
        Bean.Context.tellings .event Event.started 0 (plan.context.audience Event.started)))

/-- How a start ends: with the error of a bean, after which nothing else is done, or with
every bean stored and then as its stages end. -/
inductive Ends (plan : Plan own α) (s : State own α) :
    Except StartupError Unit → List Call → State own α → Prop
  | uncreated (names : List String) {e : Bean.Error} {later : State own α}
      (h : plan.context.run (.query .createAll) s = (.error e, later)) :
      Ends plan s (.error (.bean e)) (names.map .factory) later
  | created (names : List String) {middle later : State own α} {result : Except StartupError Unit}
      {calls : List Call} (h : plan.context.run (.query .createAll) s = (.ok (), middle))
      (hall : ∀ d ∈ plan.context.registry.definitions, d.name ∈ middle.stored.map Bean.Stored.name)
      (hends : plan.context.Ends plan.stages middle result calls later) :
      Ends plan s result (names.map .factory++calls) later

theorem missing_of_stages {plan : Plan own α} {position : Nat} {missing : List String}
    (h : .listener position missing ∈ plan.stages.map Stage.call) : missing = [] := by
  have htold : (∃ other, Call.listener position missing = .listener other []) → missing = [] := by
    intro ⟨_, he⟩
    injection he
  simp only [stages, List.map_append, List.mem_append] at h
  rcases h with h | h | h | h
  · exact htold (Bean.Context.listener_of_tellings h)
  · rw [routerStages, List.map_map] at h
    obtain ⟨⟨r, other⟩, -, hcall⟩ := List.mem_map.mp h
    cases hcall
  · obtain ⟨stage, hstage, hcall⟩ := List.mem_map.mp h
    obtain ⟨settings, -, rfl⟩ := Option.map_eq_some_iff.mp (Option.mem_toList.mp hstage)
    cases hcall
  · exact htold (Bean.Context.listener_of_tellings h)

/-- Of the stages only that of the access rules may publish an event. -/
theorem silent_stages {plan : Plan own α}
    (hlisteners : ∀ l ∈ plan.context.listeners, l.action.Silent)
    (hrouters : ∀ r ∈ plan.server.routers, Registration.Silent r)
    {stage : Stage (catalog own α) (World α) StartupError} (h : stage ∈ plan.stages) :
    stage.call = .security ∨ stage.program.Silent := by
  have htold : ∀ event, stage ∈ Bean.Context.tellings .event event 0 (plan.context.audience event) →
      stage.program.Silent := fun event =>
    Bean.Context.silent_tellings (Bean.Context.audience_silent hlisteners event) _ event 0
  simp only [stages, List.mem_append] at h
  rcases h with h | h | h | h
  · exact .inr (htold Event.refreshed h)
  · obtain ⟨⟨r, position⟩, hin, rfl⟩ := List.mem_map.mp h
    have hr : r ∈ plan.server.routers := List.fst_mem_of_mem_zipIdx hin
    exact .inr (Stage.silent_of (silent_tableOf (hrouters r hr)) _ _)
  · obtain ⟨settings, -, rfl⟩ := Option.map_eq_some_iff.mp (Option.mem_toList.mp h)
    exact .inl rfl
  · exact .inr (htold Event.started h)

theorem Ends.missing_eq_nil {plan : Plan own α} {s later : State own α}
    {result : Except StartupError Unit} {calls : List Call} (h : plan.Ends s result calls later)
    (position : Nat) (missing : List String) (hm : .listener position missing ∈ calls) :
    missing = [] := by
  cases h with
  | uncreated names h =>
    obtain ⟨name, -, hcall⟩ := List.mem_map.mp hm
    cases hcall
  | created names h hall hends =>
    rcases List.mem_append.mp hm with hm | hm
    · obtain ⟨name, -, hcall⟩ := List.mem_map.mp hm
      cases hcall
    · rcases hends.mem_calls hm with hm | ⟨other, he⟩
      · exact missing_of_stages hm
      · injection he

end Plan

/-! ## What a start performs -/

section Performing

variable {ctx : Bean.Context (catalog own α) (World α)}
  (hs : ∀ l ∈ ctx.listeners, l.action.Silent)

include hs

theorem performs_tables (position : Nat)
    (routers : List (Server.Registration (catalog own α) (World α))) :
    ctx.Performs id (watchedTables position routers) (routerStages position routers) := by
  induction routers generalizing position with
  | nil => exact Bean.Context.performs_done []
  | cons r rs ih =>
    have hr : ctx.Performs id ((tableOf r).noting (.router position))
        [.of (.router position) id (tableOf r)] :=
      Bean.Context.performs_noting hs (tableOf r) (.router position) id
    have hall := hr.andThen fun table => (ih (position+1)).andThen fun tables =>
      Bean.Context.performs_done (table::tables)
    rw [List.append_nil] at hall
    exact hall

theorem performs_table (routers : List (Server.Registration (catalog own α) (World α))) :
    ctx.Performs id (watchedTable routers) (routerStages 0 routers) := by
  have htables : ctx.Performs id (watchedTables 0 routers) (routerStages 0 routers) :=
    performs_tables hs 0 routers
  have hbeans := Bean.Context.performs_findAll ctx Kind.routes StartupError.bean
  have hall := htables.andThen fun tables => hbeans.andThen fun beans =>
    Bean.Context.performs_done (joinTables (tables++beans.map (·.value)))
  rw [List.append_nil, List.append_nil] at hall
  exact hall

theorem performs_chain (security : Option (Access.Settings (catalog own α) (World α))) :
    ctx.Performs id (watchedChain security)
      (security.map fun settings => .of .security .security settings.chain).toList := by
  cases security with
  | none => exact Bean.Context.performs_done none
  | some settings =>
    have hnoting : ctx.Performs StartupError.security (settings.chain.noting .security)
        [.of .security .security settings.chain] :=
      Bean.Context.performs_noting hs settings.chain .security StartupError.security
    exact hnoting.andThen fun chain => Bean.Context.performs_done (some chain)

end Performing

theorem performs_rest {plan : Plan own α}
    (hs : ∀ l ∈ plan.context.listeners, l.action.Silent) :
    plan.context.Performs id plan.watchedRest plan.stages := by
  have hrefreshed := Bean.Context.performs_publish hs Event.refreshed StartupError.event
  have hstarted := Bean.Context.performs_publish hs Event.started StartupError.event
  have hall := hrefreshed.andThen fun _ =>
    (performs_table hs plan.server.routers).andThen fun table =>
      (performs_chain hs plan.server.security).andThen fun chain => hstarted.andThen fun _ =>
      Bean.Context.performs_done (⟨plan, table, chain⟩ : Realized own α)
  rw [List.append_nil] at hall
  exact hall

theorem mapError_id {β ε : Type} (result : Except ε β) : result.mapError id = result := by
  cases result <;> rfl

section Start

variable {plan : Plan own α} {world : World α}

theorem creates_start (hfactories : ∀ d ∈ plan.context.registry.definitions, d.factory.Silent)
    {answer : Except Bean.Error Unit} {t : Bean.State (catalog own α) (World α × List Call)}
    (h : plan.context.watched.run (.query .createAll) (Bean.State.start (world, [])) =
      (answer, t)) : ∃ names : List String, t.world.2 = names.map Call.factory := by
  have hc := Bean.Context.respondWithin_creates hfactories plan.context.watched.depth .createAll
    (Bean.State.start (world, [])) nofun
  have hstate : (plan.context.watched.answer .createAll (Bean.State.start (world, []))).2 = t :=
    congrArg Prod.snd h
  rw [Bean.Context.answer] at hstate
  rwa [hstate] at hc

theorem atRest_start {later : State own α}
    (h : plan.context.run (.query .createAll) (Bean.State.start world) = (.ok (), later)) :
    plan.context.AtRest later := by
  have hanswer : plan.context.respondWithin plan.context.depth .createAll
      (Bean.State.start world) = (.ok (), later) := h
  have he := Bean.Context.within_explained plan.context plan.context.depth .createAll
    (Bean.State.start world)
  rw [hanswer] at he
  exact ⟨Bean.Context.full_of_createAll hanswer,
    (Bean.Context.fits_start plan.context world).after he, he.publishing⟩

/-- A start ends as its stages do, and what is written down are the stages that begin. -/
theorem start_ends (world : World α)
    (hfactories : ∀ d ∈ plan.context.registry.definitions, d.factory.Silent)
    (hrest : plan.context.Performs id plan.watchedRest plan.stages) :
    ∃ result t, plan.context.watched.run plan.watchedStart (Bean.State.start (world, [])) =
        (result, t) ∧
      plan.Ends (Bean.State.start world) (result.map fun _ => ()) t.world.2 t.plain := by
  rcases hw : plan.context.watched.run (.query .createAll) (Bean.State.start (world, [])) with
    ⟨e | ⟨⟩, t⟩
  · obtain ⟨names, hnames⟩ := creates_start hfactories hw
    have hplain := watches_watched plan.context (.query .createAll) (Bean.State.start (world, []))
    refine ⟨_, t, Bean.Context.run_andThen_error hw _, ?_⟩
    rw [hnames]
    exact .uncreated names (hplain.symm.trans (congrArg Bean.plainly hw))
  · obtain ⟨names, hnames⟩ := creates_start hfactories hw
    have hplain := watches_watched plan.context (.query .createAll) (Bean.State.start (world, []))
    have hcreated : plan.context.run (.query .createAll) (Bean.State.start world) =
        (.ok (), t.plain) := hplain.symm.trans (congrArg Bean.plainly hw)
    have hready := atRest_start hcreated
    obtain ⟨result, after, calls, hrun, hends⟩ := hrest t hready
    rw [mapError_id] at hends
    refine ⟨result, _, (Bean.Context.run_andThen_ok hw _).trans hrun, ?_⟩
    rw [hnames]
    have hall : ∀ d ∈ plan.context.registry.definitions,
        d.name ∈ t.plain.stored.map Bean.Stored.name :=
      fun d hd => hready.full d.name (Bean.Registry.mem_names hd)
    exact .created names hcreated hall hends

end Start

/-! ## Realizing -/

theorem refused_calls {spec : Spec own α} {profiles : Profiles} {environment : Property.Source}
    {e : StartupError} (t : Bean.State (catalog own α) (World α × List Call))
    (h : spec.Refused profiles t.world.1.files environment e) :
    spec.watchedRealize profiles environment t = (.error e, t) := by
  rcases h.plan with hp | ⟨plan, cause, hp, ho, rfl⟩
  · rw [Spec.watchedRealize, hp]
  · have ho' : plan.context.watched.registry.constructionOrder = .error cause :=
      (Bean.Registry.constructionOrder_observed .calls plan.context.registry).trans ho
    have hcreate : plan.context.watched.run (.query .createAll) t = (.error cause, t) := by
      rw [Bean.Context.run, Bean.Context.answer, Bean.Context.respondWithin_eq]
      show plan.context.watched.respond _ .createAll t = _
      rw [Bean.Context.respond, ho']
    rw [Spec.watchedRealize, hp]
    exact Bean.Context.run_andThen_error hcreate _

namespace Spec

variable {spec : Spec own α} {profiles : Profiles} {environment : Property.Source}

theorem Follows.factories {merged : Configuration.Merged (catalog own α) (World α)}
    {plan : Plan own α} (hp : Follows merged plan) (hs : SilentParts merged) :
    ∀ d ∈ plan.context.registry.definitions, d.factory.Silent := by
  intro d hd
  rw [hp.beans, beansOf] at hd
  rcases List.mem_append.mp hd with hd | hd
  · exact hs.factories d hd
  · exact silent_serverBeans _ _ _ d hd

theorem realize_ends (hs : spec.Silent profiles) (world : World α)
    (h : ∀ e, ¬ spec.Refused profiles world.files environment e) :
    ∃ plan, spec.plan profiles world.files environment = .ok plan ∧
      (∀ stage ∈ plan.stages, stage.call = .security ∨ stage.program.Silent) ∧
      plan.Ends (Bean.State.start world)
        ((spec.realize profiles environment (Bean.State.start world)).1.map fun _ => ())
        (spec.calls profiles environment (Bean.State.start world))
        (spec.realize profiles environment (Bean.State.start world)).2 := by
  obtain ⟨merged, plan, order, hm, hp, hfollows, -⟩ := planned_of_not_refused h
  have hsilent : SilentParts merged := hs merged hm
  have hlisteners : ∀ l ∈ plan.context.listeners, l.action.Silent :=
    hfollows.listeners ▸ hsilent.listeners
  have hrouters : ∀ r ∈ plan.server.routers, Registration.Silent r :=
    hfollows.server ▸ hsilent.routers
  obtain ⟨result, t, hrun, hends⟩ :=
    start_ends world (hfollows.factories hsilent) (performs_rest hlisteners)
  have hwatched : spec.watchedRealize profiles environment (Bean.State.start (world, [])) =
      (result, t) := by
    have hp' : spec.plan profiles (Bean.State.start (world, ([] : List Call)) :
        Bean.State (catalog own α) _).world.1.files environment = .ok plan := hp
    rw [watchedRealize, hp']
    exact hrun
  have hplain : spec.realize profiles environment (Bean.State.start world) = (result, t.plain) :=
    (realize_watched spec profiles environment (Bean.State.start (world, []))).symm.trans
      (congrArg Bean.plainly hwatched)
  have hcalls : spec.calls profiles environment (Bean.State.start world) = t.world.2 :=
    congrArg (fun answer => answer.2.world.2) hwatched
  rw [hplain, hcalls]
  exact ⟨plan, hp, fun stage => Plan.silent_stages hlisteners hrouters, hends⟩

end Spec

/-- If a check refuses an application then nothing of it is called. Else, if its factories,
listeners and functions that declare routes publish nothing, all beans are created, and then
the stages of the plan are run in their order until one fails. Nothing else is called, unless
a lookup of the access rules publishes something, and no listener begins before every bean is
there. Once an application was realized or run, whatever comes of it and is done afterwards,
every attempt is refused and calls nothing. -/
theorem realizes_in_order (spec : Spec own α) (world : World α) (profiles : Profiles)
    (environment : Property.Source) :
    (∀ e, spec.Refused profiles world.files environment e →
      ((Live.start spec world).realize profiles environment).1 = .error e ∧
      ((Live.start spec world).realize profiles environment).2.state = Bean.State.start world ∧
      (Live.start spec world).calls profiles environment = []) ∧
    (spec.Silent profiles → (∀ e, ¬ spec.Refused profiles world.files environment e) →
      (∃ plan, spec.plan profiles world.files environment = .ok plan ∧
        (∀ stage ∈ plan.stages, stage.call = .security ∨ stage.program.Silent) ∧
        plan.Ends (Bean.State.start world)
          (((Live.start spec world).realize profiles environment).1.map fun _ => ())
          ((Live.start spec world).calls profiles environment)
          ((Live.start spec world).realize profiles environment).2.state) ∧
      ∀ position missing,
        .listener position missing ∈ (Live.start spec world).calls profiles environment →
          missing = []) ∧
    ∀ first, first = ((Live.start spec world).realize profiles environment).2 ∨
        first = ((Live.start spec world).run profiles environment).2 →
      ∀ later, Relation.ReflTransGen Live.Step first later → ∀ profiles' environment',
        later.realize profiles' environment' = (.error .alreadyRealized, later) ∧
        later.calls profiles' environment' = [] := by
  obtain ⟨hresult, hstate, hcalls⟩ := Live.realize_first spec world profiles environment
  constructor
  · intro e he
    have hw := refused_calls (Bean.State.start (world, [])) he
    have hplain : spec.realize profiles environment (Bean.State.start world) =
        (.error e, Bean.State.start world) :=
      (realize_watched spec profiles environment (Bean.State.start (world, []))).symm.trans
        (congrArg Bean.plainly hw)
    rw [hresult, hstate, hcalls, hplain]
    exact ⟨rfl, rfl, congrArg (fun answer => answer.2.world.2) hw⟩
  constructor
  · intro hs h
    obtain ⟨plan, hp, hsilent, hends⟩ := Spec.realize_ends hs world h
    rw [hresult, hstate, hcalls]
    exact ⟨⟨plan, hp, hsilent, hends⟩, hends.missing_eq_nil⟩
  · intro first hfirst later h profiles' environment'
    have ha : first.attempted = true := by
      rcases hfirst with rfl | rfl
      · exact Live.attempted_realize _ profiles environment
      · exact Live.attempted_run _ profiles environment
    exact Live.realize_again (Live.attempted_later h ha) profiles' environment'

def shelf : Bean.Definition (catalog .plain Nat) (World Nat) :=
  ⟨"shelf", .own (), [], .update id fun _ => .done (.ok ())⟩

def reader : Bean.Definition (catalog .plain Nat) (World Nat) :=
  ⟨"reader", .own (), [.named (.own ()) "shelf"],
    .ask (.find (.named (.own ()) "shelf")) fun
      | .ok _ => .done (.ok ())
      | .error e => .done (.error (.lookup e))⟩

def libraryParts : List (Configuration.Part (catalog .plain Nat) (World Nat)) :=
  [.bean reader, .bean shelf, .listener ⟨.started, .done (.ok ())⟩,
    .listener ⟨.refreshed, .ask .createAll fun _ => .done (.ok ())⟩,
    .listener ⟨.refreshed, .done (.error (.own "closed today"))⟩,
    .server ((Server.Settings.default _ _).withRoutes (.declared .direct (.done (.ok []))))]

def library : Spec .plain Nat :=
  ⟨.none, ⟨"library", libraryParts⟩, Logging.Settings.default, .empty, []⟩

def libraryMerged : Configuration.Merged (catalog .plain Nat) (World Nat) :=
  ⟨[reader, shelf], [⟨.started, .done (.ok ())⟩,
    ⟨.refreshed, .ask .createAll fun _ => .done (.ok ())⟩,
    ⟨.refreshed, .done (.error (.own "closed today"))⟩], [],
    some ("library", (Server.Settings.default _ _).withRoutes (.declared .direct (.done (.ok []))))⟩

theorem library_flattened : library.root.flatten .none = .ok libraryMerged := rfl

theorem library_silent : library.Silent .none := by
  intro merged hm
  obtain rfl : libraryMerged = merged := Except.ok.inj (library_flattened.symm.trans hm)
  constructor
  · intro d hd
    simp only [libraryMerged, List.mem_cons, List.not_mem_nil, or_false] at hd
    rcases hd with rfl | rfl
    · refine .ask nofun fun answer => ?_
      cases answer <;> exact .done _
    · exact .update fun _ => .done _
  · intro l hl
    simp only [libraryMerged, List.mem_cons, List.not_mem_nil, or_false] at hl
    rcases hl with rfl | rfl | rfl
    · exact .done _
    · exact .ask nofun fun _ => .done _
    · exact .done _
  · intro r hr
    obtain rfl : r = .declared .direct (.done (.ok [])) := List.mem_singleton.mp hr
    exact .done _

def crowded : Spec .plain Nat :=
  { library with root := ⟨"library", .bean shelf::libraryParts⟩ }

def libraryPlan : Plan .plain Nat :=
  ⟨.none, serverOf libraryMerged, 8080, ⟨[], 2*1024*1024⟩,
    ⟨⟨[reader, shelf, .ready Kind.codecs ⟨[], 2*1024*1024⟩], by decide⟩, libraryMerged.listeners,
      .none, .empty⟩⟩

theorem library_planned : library.plan .none .empty .empty = .ok libraryPlan := by
  have hc : library.configure .none .empty .empty =
      .ok (libraryMerged, serverOf libraryMerged, .empty, 8080) := rfl
  rw [Spec.plan, hc]
  rfl

theorem library_stopped_by_listener :
    (Live.start library (World.start .empty 0)).calls .none .empty =
      [.factory "shelf", .factory "reader", .factory "webwire::http::codec::Codecs",
        .listener 1 [], .listener 2 []] ∧
    libraryPlan.Ends (Bean.State.start (World.start .empty 0))
      (.error (.event ⟨"webwire::context::events::ContextRefreshed", 1, .own "closed today"⟩))
      [.factory "shelf", .factory "reader", .factory "webwire::http::codec::Codecs",
        .listener 1 [], .listener 2 []]
      ((Live.start library (World.start .empty 0)).realize .none .empty).2.state ∧
    (∀ later, Relation.ReflTransGen Live.Step
        ((Live.start library (World.start .empty 0)).realize .none .empty).2 later →
      later.realize .none .empty = (.error .alreadyRealized, later)) ∧
    ((Live.start crowded (World.start .empty 0)).realize .none .empty).1 =
      .error (.bean (.duplicate "shelf")) ∧
    (Live.start crowded (World.start .empty 0)).calls .none .empty = [] := by
  have hcalls : (Live.start library (World.start .empty 0)).calls .none .empty =
      [.factory "shelf", .factory "reader", .factory "webwire::http::codec::Codecs",
        .listener 1 [], .listener 2 []] := by decide +kernel
  have hresult : ((Live.start library (World.start .empty 0)).realize .none .empty).1.map
      (fun _ => ()) = .error (.event ⟨"webwire::context::events::ContextRefreshed", 1,
        .own "closed today"⟩) := by decide +kernel
  have hnot := Spec.not_refused_of_planned library_planned
    (rfl : libraryPlan.context.registry.constructionOrder =
      .ok ["shelf", "reader", "webwire::http::codec::Codecs"])
  have hc : crowded.Configured .none .empty
      { libraryMerged with beans := shelf::libraryMerged.beans } [] := ⟨rfl, by decide, .nil⟩
  have hcrowded : crowded.Refused .none .empty .empty (.bean (.duplicate "shelf")) :=
    .names hc rfl (by decide)
  obtain ⟨hrefused, -, -⟩ := realizes_in_order crowded (World.start .empty 0) .none .empty
  obtain ⟨-, hends, hagain⟩ := realizes_in_order library (World.start .empty 0) .none .empty
  obtain ⟨⟨plan, hplan, -, hends⟩, -⟩ := hends library_silent hnot
  obtain rfl : libraryPlan = plan := Except.ok.inj (library_planned.symm.trans hplan)
  rw [hcalls, hresult] at hends
  obtain ⟨herror, -, hnone⟩ := hrefused _ hcrowded
  exact ⟨hcalls, hends, fun later h => (hagain _ (.inl rfl) later h .none .empty).1, herror, hnone⟩

end WebApplication.Application
