import WebApplication.Application.Realization
import WebApplication.Proofs.Bean.Stages

/-!
# Realizations that are watched

A realization can be watched: it writes down every factory, listener, function that
declares routes and lookup of access rules when it begins. What comes of it is what comes
of the realization otherwise.
-/

set_option autoImplicit false

namespace WebApplication.Application

open Bean (Call)

variable {own : Bean.Catalog} {α : Type}

/-! ## Starts that are watched -/

abbrev WatchedProgram (own : Bean.Catalog) (α β : Type) :=
  Bean.Program (catalog own α) (World α × List Call) β

def watchedTables (position : Nat) : List (Server.Registration (catalog own α) (World α)) →
    WatchedProgram own α (Except StartupError (List (Route.Table (World α))))
  | [] => .done (.ok [])
  | r::rs => ((tableOf r).noting (.router position)).andThen id fun table =>
    (watchedTables (position+1) rs).andThen id fun tables => .done (.ok (table::tables))

def watchedTable (routers : List (Server.Registration (catalog own α) (World α))) :
    WatchedProgram own α (Except StartupError (Route.Table (World α))) :=
  (watchedTables 0 routers).andThen id fun tables =>
    Bean.Program.andThen (.query (.findAll Kind.routes)) .bean fun beans =>
      .done (.ok (joinTables (tables++beans.map (·.value))))

def watchedChain (security : Option (Access.Settings (catalog own α) (World α))) :
    WatchedProgram own α (Except StartupError (Option Access.Chain)) :=
  match security with
  | none => .done (.ok none)
  | some settings => (settings.chain.noting .security).andThen .security fun chain =>
    .done (.ok (some chain))

namespace Plan

def watchedRest (plan : Plan own α) :
    WatchedProgram own α (Except StartupError (Realized own α)) :=
  Bean.Program.andThen (.query (.publish Event.refreshed)) .event fun _ =>
    (watchedTable plan.server.routers).andThen id fun table =>
      (watchedChain plan.server.security).andThen id fun chain =>
        Bean.Program.andThen (.query (.publish Event.started)) .event fun _ =>
          .done (.ok ⟨plan, table, chain⟩)

def watchedStart (plan : Plan own α) :
    WatchedProgram own α (Except StartupError (Realized own α)) :=
  Bean.Program.andThen (.query .createAll) .bean fun _ => plan.watchedRest

end Plan

def Spec.watchedRealize (spec : Spec own α) (profiles : Profiles) (environment : Property.Source) :
    StateM (Bean.State (catalog own α) (World α × List Call))
      (Except StartupError (Realized own α)) := fun t =>
  match spec.plan profiles t.world.1.files environment with
  | .error e => (.error e, t)
  | .ok plan => plan.context.watched.run plan.watchedStart t

def Spec.calls (spec : Spec own α) (profiles : Profiles) (environment : Property.Source)
    (s : State own α) : List Call :=
  (spec.watchedRealize profiles environment
    ⟨s.stored, s.creating, s.publishing, s.world, []⟩).2.world.2

/-! ## Watching changes nothing -/

section Watching

variable {C : Bean.Catalog} {σ β γ δ ε : Type} {ctx : Bean.Context C σ}

def Watches (ctx : Bean.Context C σ) (watching : Bean.Program C (σ × List Call) β)
    (p : Bean.Program C σ β) : Prop :=
  ∀ t, Bean.plainly (ctx.watched.run watching t) = ctx.run p t.plain

theorem watches_watched (ctx : Bean.Context C σ) (p : Bean.Program C σ β) :
    Watches ctx p.watched p :=
  ctx.run_watched p

theorem watches_noting (ctx : Bean.Context C σ) (call : Call) (p : Bean.Program C σ β) :
    Watches ctx (p.noting call) p :=
  fun t => ctx.run_watched p { t with world := (t.world.1, t.world.2++[call]) }

theorem Watches.andThen {fail : δ → ε} {watching : Bean.Program C (σ × List Call) (Except δ β)}
    {p : Bean.Program C σ (Except δ β)} (h : Watches ctx watching p)
    {watchingNext : β → Bean.Program C (σ × List Call) (Except ε γ)}
    {next : β → Bean.Program C σ (Except ε γ)}
    (hnext : ∀ b, Watches ctx (watchingNext b) (next b)) :
    Watches ctx (watching.andThen fail watchingNext) (p.andThen fail next) := by
  intro t
  have ht := h t
  rcases hw : ctx.watched.run watching t with ⟨e | b, later⟩
  · rw [hw] at ht
    rw [Bean.Context.run_andThen_error hw, Bean.Context.run_andThen_error ht.symm]
    rfl
  · rw [hw] at ht
    rw [Bean.Context.run_andThen_ok hw, Bean.Context.run_andThen_ok ht.symm]
    exact hnext b later

end Watching

variable {ctx : Bean.Context (catalog own α) (World α)}

theorem watches_tables (position : Nat)
    (routers : List (Server.Registration (catalog own α) (World α))) :
    Watches ctx (watchedTables position routers) (tablesOf routers) := by
  induction routers generalizing position with
  | nil => exact fun t => rfl
  | cons r rs ih =>
    apply (watches_noting ctx (.router position) (tableOf r)).andThen
    intro table
    apply (ih (position+1)).andThen
    intro tables t
    rfl

theorem watches_table (routers : List (Server.Registration (catalog own α) (World α))) :
    Watches ctx (watchedTable routers) (buildTable routers) := by
  apply (watches_tables 0 routers).andThen
  intro tables
  apply (watches_watched ctx (.query (.findAll Kind.routes))).andThen
  intro beans t
  rfl

theorem watches_chain (security : Option (Access.Settings (catalog own α) (World α))) :
    Watches ctx (watchedChain security) (buildChain security) := by
  cases security with
  | none => exact fun t => rfl
  | some settings =>
    apply (watches_noting ctx .security settings.chain).andThen
    intro chain t
    rfl

theorem watches_start (plan : Plan own α) :
    Watches plan.context plan.watchedStart plan.start := by
  apply (watches_watched plan.context (.query .createAll)).andThen
  intro _
  apply (watches_watched plan.context (.query (.publish Event.refreshed))).andThen
  intro _
  apply (watches_table plan.server.routers).andThen
  intro table
  apply (watches_chain plan.server.security).andThen
  intro chain
  apply (watches_watched plan.context (.query (.publish Event.started))).andThen
  intro _ t
  rfl

theorem realize_watched (spec : Spec own α) (profiles : Profiles) (environment : Property.Source)
    (t : Bean.State (catalog own α) (World α × List Call)) :
    Bean.plainly (spec.watchedRealize profiles environment t) =
      spec.realize profiles environment t.plain := by
  have hfiles : t.plain.world.files = t.world.1.files := rfl
  rw [Spec.watchedRealize, Spec.realize, hfiles]
  cases spec.plan profiles t.world.1.files environment with
  | error e => rfl
  | ok plan => exact watches_start plan t

end WebApplication.Application
