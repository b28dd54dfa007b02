import WebApplication.Blueprint.Basic
import WebApplication.Blueprint.Probe

/-!
# Beans and listeners given as data

A bean asks its probes in order while it is made, and a listener when its event is
published.
-/

set_option autoImplicit false

namespace WebApplication.Blueprint

open Json (Value)

def ask (probe : Probe Beans) : Program (Except Bean.Error Value) := probe.ask (display displayOwn)

inductive Policy where
  | swallow
  | wrap
  | propagate
  deriving DecidableEq, Repr

/-- How a bean is made. It fails on its own with the text of `failure`, and if a number
is given only so many times. -/
structure Recipe where
  label : String
  probes : List (Probe Beans)
  policy : Policy
  failure : Option (String × Option Nat)

namespace Recipe

def collect (describe : Bean.Error → Value) (policy : Policy) :
    List (Probe Beans) → Program (Except Bean.Failure (List Value))
  | [] => .done (.ok [])
  | probe::probes => do
    let found : Except Bean.Failure Value ← do
      match ← ask probe with
      | .ok value => pure (.ok value)
      | .error e => match policy with
        | .swallow => pure (.ok (describe e))
        | .wrap => pure (.error (.own s!"wrapped: {e.message}"))
        | .propagate => pure (.error (.lookup e))
    match found with
    | .error failure => return .error failure
    | .ok value =>
      match ← collect describe policy probes with
      | .error failure => return .error failure
      | .ok values => return .ok (value::values)

def failuresOf (w : State) (label : String) : Nat := (w.own.failures.lookup label).getD 0

def noteFailure (label : String) (w : State) : State :=
  { w with own := { w.own with
      log := w.own.log++[s!"fail {label}"]
      failures := w.own.failures.alter label fun count => count.getD 0+1 } }

def noteCompletion (label : String) (w : State) : State :=
  { w with own := { w.own with
      log := w.own.log++[s!"end {label}"], completed := w.own.completed+1 } }

def failsIn (r : Recipe) (w : State) : Option String :=
  match r.failure with
  | none => none
  | some (message, none) => some message
  | some (message, some times) => if failuresOf w r.label < times then some message else none

def finish (r : Recipe) (found : List Value) : Program (Except Bean.Failure Part) :=
  .update id fun w =>
    match r.failsIn w with
    | some message => .update (noteFailure r.label) fun _ => .done (.error (.own message))
    | none => .update (noteCompletion r.label) fun w =>
      .done (.ok ⟨r.label, w.own.completed+1, found⟩)

def make (describe : Bean.Error → Value) (r : Recipe) : Program (Except Bean.Failure Part) := do
  log s!"begin {r.label}"
  match ← collect describe r.policy r.probes with
  | .error failure => return .error failure
  | .ok found => r.finish found

end Recipe

structure Reaction where
  label : String
  probe : Option (Probe Beans)
  publish : Option Beans.Event
  failure : Option String

namespace Reaction

def probing : Option (Probe Beans) → Program (Except Bean.Failure Unit)
  | none => .done (.ok ())
  | some probe => do
    match ← ask probe with
    | .error e => return .error (.lookup e)
    | .ok value => log s!"saw {value.write}"; return .ok ()

def publishing : Option Beans.Event → Program (Except Bean.Failure Unit)
  | none => .done (.ok ())
  | some event => .ask (.publish event) fun
    | .error e => .done (.error (.own e.message))
    | .ok count => (log s!"published {count}").bind fun _ => .done (.ok ())

def run (r : Reaction) : Program (Except Bean.Failure Unit) := do
  log s!"event {r.label}"
  match ← probing r.probe with
  | .error failure => return .error failure
  | .ok () =>
    match ← publishing r.publish with
    | .error failure => return .error failure
    | .ok () =>
      match r.failure with
      | some message => return .error (.own message)
      | none => return .ok ()

end Reaction

end WebApplication.Blueprint
