import Mathlib.Data.List.Induction
import WebApplication.Server.Settings

/-!
# The port that a server declares

A server is declared step by step, and a step leaves alone what it does not set. So the port
is that of the first step for an active profile, wherever other steps stand. Without one it
is the port that was set last for all profiles, or 8080.
-/

set_option autoImplicit false

namespace WebApplication.Server

variable {C : Bean.Catalog} {σ : Type}

inductive Declaration (C : Bean.Catalog) (σ : Type) where
  | port (port : Nat)
  | portFor (profile : String) (port : Nat)
  | host (host : String)
  | cors (rules : List Http.Cors.Rule)
  | codecs (codecs : List Http.Codec)
  | templates (change : Template.Settings → Template.Settings)
  | routes (registration : Registration C σ)
  | security (settings : Access.Settings C σ)
  | timeout (seconds : Nat)
  | maxBody (bytes : Nat)

namespace Declaration

def apply (s : Settings C σ) : Declaration C σ → Settings C σ
  | port n => s.withPort n
  | portFor profile n => s.withPortFor profile n
  | host name => s.withHost name
  | cors rules => s.withCors rules
  | codecs more => s.withCodecs more
  | templates change => s.withTemplates change
  | routes registration => s.withRoutes registration
  | security settings => s.withSecurity settings
  | timeout seconds => s.withTimeout seconds
  | maxBody bytes => s.withMaxBody bytes

def common? : Declaration C σ → Option Nat
  | port n => some n
  | _ => none

def override? : Declaration C σ → Option (String × Nat)
  | portFor profile n => some (profile, n)
  | _ => none

def under? (profiles : Profiles) : Declaration C σ → Option Nat
  | portFor profile n => if profiles.contains profile then some n else none
  | _ => none

end Declaration

def declared (steps : List (Declaration C σ)) : Settings C σ :=
  steps.foldl Declaration.apply (Settings.default C σ)

/-- The port of the first step for an active profile, or else the last one for all. -/
def portOf (profiles : Profiles) (steps : List (Declaration C σ)) : Nat :=
  match steps.findSome? (Declaration.under? profiles) with
  | some port => port
  | none => (steps.reverse.findSome? Declaration.common?).getD 8080

theorem port_apply (s : Settings C σ) (step : Declaration C σ) :
    (step.apply s).port =
      ⟨step.common?.getD s.port.default, s.port.overrides++step.override?.toList⟩ := by
  cases step <;> simp [Declaration.apply, Declaration.common?, Declaration.override?,
    Settings.withPort, Settings.withPortFor, Settings.withHost, Settings.withCors,
    Settings.withCodecs, Settings.withTemplates, Settings.withRoutes, Settings.withSecurity,
    Settings.withTimeout, Settings.withMaxBody, Profiled.setDefault, Profiled.override]

theorem port_declared (steps : List (Declaration C σ)) :
    (declared steps).port = ⟨(steps.reverse.findSome? Declaration.common?).getD 8080,
      steps.filterMap Declaration.override?⟩ := by
  induction steps using List.reverseRecOn with
  | nil => rfl
  | append_singleton steps step ih =>
    have hstep : declared (steps++[step]) = step.apply (declared steps) := List.foldl_append
    rw [hstep, port_apply, ih, List.reverse_append, List.reverse_singleton, List.singleton_append,
      List.findSome?_cons, List.filterMap_append]
    cases step.common? <;> cases hs : step.override? <;> simp [hs]

theorem find?_overrides (profiles : Profiles) (steps : List (Declaration C σ)) :
    ((steps.filterMap Declaration.override?).find? fun o => profiles.contains o.1).map Prod.snd =
      steps.findSome? (Declaration.under? profiles) := by
  induction steps with
  | nil => rfl
  | cons step steps ih =>
    cases step with
    | portFor profile n =>
      have hkept : (Declaration.portFor profile n::steps).filterMap Declaration.override? =
          (profile, n)::steps.filterMap Declaration.override? := rfl
      rw [hkept, List.find?_cons, List.findSome?_cons, Declaration.under?]
      cases profiles.contains profile with
      | true => rfl
      | false => exact ih
    | _ => exact ih

theorem resolve_declared (profiles : Profiles) (steps : List (Declaration C σ)) :
    (declared steps).port.resolve profiles = portOf profiles steps := by
  rw [port_declared, Profiled.resolve, portOf, ← find?_overrides]
  cases (steps.filterMap Declaration.override?).find? fun o => profiles.contains o.1 <;> rfl

end WebApplication.Server
