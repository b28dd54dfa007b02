import WebApplication.Proofs.Bean.CreateAll
import WebApplication.Proofs.Bean.Watched

/-!
# Programs that publish nothing

While beans are created, factories that publish nothing let no listener begin. Once every
bean is there, a program that publishes nothing changes nothing but the state of the
application: what it asks is settled by what is stored, however deep it runs and whatever
is being published around it, and no factory begins any more.
-/

set_option autoImplicit false

namespace WebApplication.Bean

variable {C : Catalog} {σ α β : Type}

def Query.Silent (q : Query C) : Prop := ∀ event, q ≠ .publish event

namespace Program

inductive Silent : Program C σ α → Prop
  | done (result : α) : Silent (.done result)
  | ask {q : Query C} {next : Answer C q → Program C σ α} (hq : q.Silent)
      (h : ∀ answer, Silent (next answer)) : Silent (.ask q next)
  | update {change : σ → σ} {next : σ → Program C σ α} (h : ∀ old, Silent (next old)) :
      Silent (.update change next)

theorem Silent.bind {p : Program C σ α} (hp : p.Silent) {f : α → Program C σ β}
    (hf : ∀ a, (f a).Silent) : (p.bind f).Silent := by
  induction hp with
  | done a => exact hf a
  | ask hq _ ih => exact .ask hq ih
  | update _ ih => exact .update ih

theorem Silent.of_bind {p : Program C σ α} {f : α → Program C σ β} (h : (p.bind f).Silent) :
    p.Silent := by
  induction p with
  | done a => exact .done a
  | ask q next ih =>
    cases h with
    | ask hq h => exact .ask hq fun answer => ih answer (h answer)
  | update change next ih =>
    cases h with
    | update h => exact .update fun old => ih old (h old)

end Program

namespace Context

variable {ctx : Context C σ} {stored : List (Stored C)}

/-! ## Creating beans -/

def OnlyCreates (t later : State C (σ × List Call)) : Prop :=
  ∃ names : List String, later.world.2 = t.world.2++names.map Call.factory

theorem OnlyCreates.refl (t : State C (σ × List Call)) : OnlyCreates t t := ⟨[], by simp⟩

theorem OnlyCreates.trans {t middle later : State C (σ × List Call)} (h : OnlyCreates t middle)
    (h' : OnlyCreates middle later) : OnlyCreates t later := by
  obtain ⟨names, hn⟩ := h
  obtain ⟨more, hm⟩ := h'
  exact ⟨names++more, by rw [hm, hn, List.map_append, List.append_assoc]⟩

def Creates (watching : Responder C (σ × List Call)) : Prop :=
  ∀ q t, q.Silent → OnlyCreates t (watching q t).2

variable {watching : Responder C (σ × List Call)} {inner : Option (Responder C (σ × List Call))}

theorem Creates.run (h : Creates watching) {p : Program C σ α} (hp : p.Silent)
    (t : State C (σ × List Call)) : OnlyCreates t (p.watched.run watching t).2 := by
  induction hp generalizing t with
  | done a => exact .refl t
  | @ask q _ hq _ ih => exact (h q t hq).trans (ih _ _)
  | update _ ih => exact ih t.world.1 _

theorem Creates.create (h : Creates watching) {d : Definition C σ} (hd : d.factory.Silent)
    (t : State C (σ × List Call)) : OnlyCreates t (create watching (d.observed .calls) t).2 := by
  have hrun := h.run hd { entered d.name t with world := (t.world.1, t.world.2++[.factory d.name]) }
  obtain ⟨names, hn⟩ := hrun
  refine ⟨d.name::names, ?_⟩
  rw [create_world]
  exact hn.trans (List.append_assoc _ _ _)

theorem obtain_creates (hs : ∀ d ∈ ctx.registry.definitions, d.factory.Silent)
    (h : ∀ watching, inner = some watching → Creates watching) (name : String)
    (t : State C (σ × List Call)) : OnlyCreates t (ctx.watched.obtain inner name t).2 := by
  rw [obtain]
  cases t.find? name with
  | some shared => exact .refl t
  | none =>
    have hget : ctx.watched.registry.get? name = _ := Registry.get?_observed .calls ctx.registry name
    rw [hget]
    cases hd : ctx.registry.get? name with
    | none => exact .refl t
    | some d =>
      simp only [Option.map_some]
      by_cases hc : name ∈ t.creating
      · rw [if_pos hc]
        exact .refl t
      · rw [if_neg hc]
        cases inner with
        | none => exact .refl t
        | some watching =>
          exact (h watching rfl).create (hs d (Registry.get?_eq_some_iff.mp hd).1) t

theorem forNames_creates {f : String → StateM (State C (σ × List Call)) (Except Error α)}
    (h : ∀ name t, OnlyCreates t (f name t).2) (names : List String)
    (t : State C (σ × List Call)) : OnlyCreates t (forNames f names t).2 := by
  induction names generalizing t with
  | nil => exact .refl t
  | cons name names ih =>
    have hname := h name t
    rcases hf : f name t with ⟨e | a, later⟩
    · rw [hf] at hname
      rwa [forNames_error hf]
    · rw [hf] at hname
      rw [forNames_ok hf]
      exact hname.trans (ih later)

theorem respond_creates (hs : ∀ d ∈ ctx.registry.definitions, d.factory.Silent)
    (h : ∀ watching, inner = some watching → Creates watching) :
    Creates (ctx.watched.respond inner) := by
  intro q t hq
  have ho := obtain_creates hs h
  have hoAs : ∀ kind name t, OnlyCreates t (ctx.watched.obtainAs inner kind name t).2 := by
    intro kind name t
    rw [obtainAs_state]
    exact ho name t
  cases q with
  | find dependency =>
    rw [respond]
    cases ctx.watched.registry.resolve dependency "<lookup>" with
    | error e => exact .refl t
    | ok d => exact hoAs dependency.kind d.name t
  | findAll kind => exact forNames_creates (hoAs kind) _ t
  | createAll =>
    rw [respond]
    cases ctx.watched.registry.constructionOrder with
    | error e => exact .refl t
    | ok order =>
      have hall := forNames_creates ho order t
      dsimp only
      rcases hr : forNames (ctx.watched.obtain inner) order t with ⟨e | all, later⟩
      · rwa [hr] at hall
      · rwa [hr] at hall
  | publish event => exact absurd rfl (hq event)
  | view => exact .refl t

theorem respondWithin_creates (hs : ∀ d ∈ ctx.registry.definitions, d.factory.Silent)
    (depth : Nat) : Creates (ctx.watched.respondWithin depth) := by
  induction depth with
  | zero => exact respond_creates hs nofun
  | succ depth ih =>
    apply respond_creates hs
    intro watching he
    cases he
    exact ih

/-! ## Every bean is there -/

def Full (ctx : Context C σ) (stored : List (Stored C)) : Prop :=
  ∀ name ∈ ctx.registry.names, name ∈ stored.map Stored.name

theorem full_of_createAll {depth : Nat} {s later : State C σ}
    (h : ctx.respondWithin depth .createAll s = (.ok (), later)) : ctx.Full later.stored := by
  intro name hn
  obtain ⟨shared, hs⟩ := created_of_ok h name hn
  exact mem_names_of_find? hs

theorem full_watched (h : ctx.Full stored) : ctx.watched.Full stored := by
  intro name hn
  exact h name ((Registry.names_observed .calls ctx.registry) ▸ hn)

theorem find?_of_stored {s : State C σ} {other : State C β} (h : s.stored = other.stored)
    (name : String) : s.find? name = other.find? name := by
  rw [State.find?, State.find?, h]

def Settled {Result : Type} (stored : List (Stored C))
    (f : Option (Responder C σ) → StateM (State C σ) Result) : Prop :=
  ∃ answer, ∀ inner s, s.stored = stored → f inner s = (answer, s)

theorem get?_eq_none_of_full (h : ctx.Full stored) {name : String}
    (hn : name ∉ stored.map Stored.name) : ctx.registry.get? name = none := by
  cases hg : ctx.registry.get? name with
  | none => rfl
  | some d =>
    obtain ⟨hd, rfl⟩ := Registry.get?_eq_some_iff.mp hg
    exact absurd (h d.name (Registry.mem_names hd)) hn

theorem obtain_settled (h : ctx.Full stored) (name : String) :
    Settled stored fun inner => ctx.obtain inner name := by
  cases hs : (⟨stored, [], [], ()⟩ : State C Unit).find? name with
  | some shared =>
    refine ⟨.ok shared, fun inner s hstored => ?_⟩
    exact obtain_stored ((find?_of_stored hstored name).trans hs)
  | none =>
    refine ⟨.error (.unresolved "<lookup>" name), fun inner s hstored => ?_⟩
    have hfind : s.find? name = none := (find?_of_stored hstored name).trans hs
    have hstock : s.stock.find? name = none := hfind
    have hout : name ∉ stored.map Stored.name := hstored ▸ Stock.find?_eq_none_iff.mp hstock
    show ctx.obtain inner name s = _
    rw [obtain, hfind, get?_eq_none_of_full h hout]

theorem obtainAs_settled (h : ctx.Full stored) (kind : C.Kind) (name : String) :
    Settled stored fun inner => ctx.obtainAs inner kind name := by
  obtain ⟨answer, ha⟩ := obtain_settled h name
  cases answer with
  | error e => exact ⟨.error e, fun inner s hs => obtainAs_error (ha inner s hs)⟩
  | ok shared => exact ⟨cast kind shared, fun inner s hs => obtainAs_ok (ha inner s hs)⟩

theorem forNames_settled
    {f : Option (Responder C σ) → String → StateM (State C σ) (Except Error α)}
    (h : ∀ name, Settled stored fun inner => f inner name) (names : List String) :
    Settled stored fun inner => forNames (f inner) names := by
  induction names with
  | nil => exact ⟨.ok [], fun _ _ _ => rfl⟩
  | cons name names ih =>
    obtain ⟨answer, ha⟩ := h name
    obtain ⟨rest, hr⟩ := ih
    cases answer with
    | error e => exact ⟨.error e, fun inner s hs => forNames_error (ha inner s hs)⟩
    | ok a =>
      refine ⟨rest.map (a::·), fun inner s hs => ?_⟩
      have hrest : forNames (f inner) names s = (rest, s) := hr inner s hs
      show forNames (f inner) (name::names) s = _
      rw [forNames_ok (ha inner s hs), hrest]

theorem respond_settled (h : ctx.Full stored) {q : Query C} (hq : q.Silent) :
    Settled stored fun inner => ctx.respond inner q := by
  cases q with
  | find dependency =>
    cases hr : ctx.registry.resolve dependency "<lookup>" with
    | error e =>
      refine ⟨.error e, fun inner s _ => ?_⟩
      show ctx.respond inner (.find dependency) s = _
      rw [respond, hr]
    | ok d =>
      obtain ⟨answer, ha⟩ := obtainAs_settled h dependency.kind d.name
      refine ⟨answer, fun inner s hs => ?_⟩
      show ctx.respond inner (.find dependency) s = _
      rw [respond, hr]
      exact ha inner s hs
  | findAll kind => exact forNames_settled (obtainAs_settled h kind) _
  | createAll =>
    cases ho : ctx.registry.constructionOrder with
    | error e =>
      refine ⟨.error e, fun inner s _ => ?_⟩
      show ctx.respond inner .createAll s = _
      rw [respond, ho]
    | ok order =>
      obtain ⟨all, ha⟩ := forNames_settled (obtain_settled h) order
      refine ⟨all.map fun _ => (), fun inner s hs => ?_⟩
      have hall : forNames (ctx.obtain inner) order s = (all, s) := ha inner s hs
      show ctx.respond inner .createAll s = _
      rw [respond, ho]
      dsimp only
      rw [hall]
      cases all <;> rfl
  | publish event => exact absurd rfl (hq event)
  | view =>
    refine ⟨⟨ctx.registry.definitions.map fun d => (d.name, d.kind), stored.map Stored.name,
      ctx.listeners.length, ctx.profiles, ctx.properties⟩, fun inner s hs => ?_⟩
    rw [← hs]
    rfl

/-- The result of a program and the state of the application after it, wherever the program
runs. Watched, it writes down nothing. -/
structure Settles (ctx : Context C σ) (stored : List (Stored C)) (world : σ)
    (p : Program C σ α) (result : α) (after : σ) : Prop where
  run : ∀ inner s, s.stored = stored → s.world = world →
    p.run (ctx.respond inner) s = (result, { s with world := after })
  watched : ∀ inner t, t.stored = stored → t.world.1 = world →
    p.watched.run (ctx.watched.respond inner) t =
      (result, { t with world := (after, t.world.2) })

/-- With every bean there, programs that publish nothing are settled. -/
theorem settled_of_silent (h : ctx.Full stored) {p : Program C σ α} (hp : p.Silent) (world : σ) :
    ∃ result after, ctx.Settles stored world p result after := by
  induction hp generalizing world with
  | done a =>
    refine ⟨a, world, ?_, ?_⟩
    · intro inner s _ hw
      subst hw
      rfl
    · intro inner t _ hw
      subst hw
      rfl
  | @ask q next hq _ ih =>
    obtain ⟨answer, ha⟩ := respond_settled h hq
    obtain ⟨answer', ha'⟩ := respond_settled (full_watched h) hq
    -- both answers are settled on their own; they agree since one context mirrors the other
    have he : answer' = answer := by
      have hm : plainly (ctx.watched.respond none q ⟨stored, [], [], world, []⟩) =
          ctx.respond none q ⟨stored, [], [], world⟩ :=
        (respond_observed Observer.calls_faithful .none).answers q _
      have hplain : ctx.respond none q ⟨stored, [], [], world⟩ = (answer, _) := ha none _ rfl
      have hwatched : ctx.watched.respond none q ⟨stored, [], [], world, []⟩ = (answer', _) :=
        ha' none _ rfl
      rw [hwatched, hplain] at hm
      exact congrArg Prod.fst hm
    obtain ⟨result, after, hrun, hwatched⟩ := ih answer world
    refine ⟨result, after, ?_, ?_⟩
    · intro inner s hs hw
      have hanswer : ctx.respond inner q s = (answer, s) := ha inner s hs
      rw [Program.run, hanswer]
      exact hrun inner s hs hw
    · intro inner t hs hw
      have hanswer : ctx.watched.respond inner q t = (answer', t) := ha' inner t hs
      rw [Program.watched, Program.run, hanswer, he]
      exact hwatched inner t hs hw
  | @update change next _ ih =>
    obtain ⟨result, after, hrun, hwatched⟩ := ih world (change world)
    refine ⟨result, after, ?_, ?_⟩
    · intro inner s hs hw
      subst hw
      exact hrun inner { s with world := change s.world } hs rfl
    · intro inner t hs hw
      subst hw
      exact hwatched inner { t with world := (change t.world.1, t.world.2) } hs rfl

theorem obtainAs_ok_of_full {depth : Nat} {s : State C σ} (hf : ctx.Fits depth s)
    (h : ctx.Full s.stored) {d : Definition C σ} (hd : d ∈ ctx.registry.definitions) :
    ∃ shared, ctx.obtainAs (ctx.below depth) d.kind d.name s = (.ok shared, s) := by
  obtain ⟨shared, hs⟩ : ∃ shared, s.find? d.name = some shared :=
    find?_of_mem_names (h d.name (Registry.mem_names hd))
  have ho : ctx.obtain (ctx.below depth) d.name s = (.ok shared, s) := obtain_stored hs
  obtain ⟨value, hcast⟩ := cast_of_kind (hf.obtained (ctx.inner_below depth) hd ho).2
  rw [obtainAs_ok ho, hcast]
  exact ⟨_, rfl⟩

/-- With every bean there, all beans of a kind are found. -/
theorem findAll_ok_of_full {depth : Nat} {s : State C σ} (hf : ctx.Fits depth s)
    (h : ctx.Full s.stored) (kind : C.Kind) :
    ∃ all, ctx.respondWithin depth (.findAll kind) s = (.ok all, s) := by
  have hnames : ∀ ds : List (Definition C σ),
      (∀ d ∈ ds, d ∈ ctx.registry.definitions ∧ d.kind = kind) →
      ∃ all, forNames (ctx.obtainAs (ctx.below depth) kind) (ds.map Definition.name) s =
        (.ok all, s) := by
    intro ds hds
    induction ds with
    | nil => exact ⟨[], rfl⟩
    | cons d ds ih =>
      obtain ⟨hd, rfl⟩ := hds d List.mem_cons_self
      obtain ⟨shared, hs⟩ := obtainAs_ok_of_full hf h hd
      obtain ⟨all, hall⟩ := ih fun e he => hds e (List.mem_cons_of_mem d he)
      rw [List.map_cons, forNames_ok hs, hall]
      exact ⟨_, rfl⟩
  rw [respondWithin_eq]
  exact hnames (ctx.registry.ofKind kind) fun d hd => Registry.mem_ofKind.mp hd

end Context

end WebApplication.Bean
