import WebApplication.Proofs.Bean.Observed

/-!
# Contexts that write down what they call

A watched context keeps the calls of factories and listeners, in the order in which they begin. A
listener is noted with its place in the order of registration and with the beans that are not
there when it begins.
-/

set_option autoImplicit false

namespace WebApplication.Bean

variable {C : Catalog} {σ α : Type}

/-- What is called while an application is realized. Besides beans and listeners these are
the functions that declare routes, by their place in the server block, and the lookups of
its access rules. -/
inductive Call where
  | factory (name : String)
  | listener (position : Nat) (missing : List String)
  | router (position : Nat)
  | security
  deriving DecidableEq, Repr

def View.missing (v : View C) : List String := (v.beans.map Prod.fst).filter (· ∉ v.created)

namespace Observer

def calls : Observer C σ (List Call) where
  factory d := d.factory.noting (.factory d.name)
  listener position l :=
    .ask .view fun (view : View C) => l.action.noting (.listener position view.missing)

theorem run_listener {watching : Responder C (σ × List Call)}
    (hview : ∀ t, (watching .view t).2 = t) (position : Nat) (l : Listener C σ)
    (t : State C (σ × List Call)) :
    (calls.listener position l).run watching t =
      (l.action.noting (.listener position (watching .view t).1.missing)).run watching t := by
  show Program.run watching _ (watching .view t).2 = _
  rw [hview]

theorem calls_faithful : (calls : Observer C σ (List Call)).Faithful where
  factory d := d.factory.shadows_noting (Call.factory d.name)
  listener position l watching respond h t := by
    rw [run_listener h.view]
    exact l.action.shadows_noting _ watching respond h t

end Observer

namespace Context

variable (ctx : Context C σ)

def watched : Context C (σ × List Call) := ctx.observed .calls

theorem depth_watched : ctx.watched.depth = ctx.depth := ctx.depth_observed .calls

theorem watched_of_event (event : C.Event) :
    ctx.watched.listeners.filter (·.event = event) =
      (ctx.audience event).map fun (l, position) => l.observed .calls position :=
  ctx.observed_of_event .calls event

theorem run_watched (p : Program C σ α) (t : State C (σ × List Call)) :
    plainly (ctx.watched.run p.watched t) = ctx.run p t.plain :=
  run_observed Observer.calls_faithful ctx p t

end Context

end WebApplication.Bean
