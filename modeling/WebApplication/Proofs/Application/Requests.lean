import WebApplication.Application.Lifecycle

/-!
# Requests one after another

An application that was realized answers every request, and stays as it was but for the
world, which its handlers may change. What no request of some kind changes stays the same
over any number of them.
-/

set_option autoImplicit false

namespace WebApplication.Application

open Http (Request)

variable {own : Bean.Catalog} {α β : Type} {app later : Live own α} {r : Realized own α}
  {service : Server.Service (World α)}

theorem Realized.service_parts (h : r.service = .ok service) :
    service.table = r.table ∧ service.chain = r.chain := by
  rw [Realized.service] at h
  split at h
  · rename_i hs
    cases h
    rw [Server.Service.assemble?] at hs
    split at hs
    · cases hs
      exact ⟨rfl, rfl⟩
    · cases hs
  · cases h

namespace Live

def after (app : Live own α) : List (Http.Bytes × Request) → Live own α
  | [] => app
  | (fresh, request)::rest => after (app.request fresh request).2 rest

theorem realize_ok {profiles : Profiles} {environment : Property.Source}
    (h : app.realize profiles environment = (.ok r, later)) :
    later.activity = .ready r ∧
      app.spec.realize profiles environment app.state = (.ok r, later.state) := by
  rw [realize, attempt] at h
  split at h
  · rename_i hattempt
    split at hattempt
    · cases hattempt
    · obtain ⟨hresult, rfl⟩ := Prod.mk.inj hattempt
      cases h
      exact ⟨rfl, Prod.ext hresult rfl⟩
  · cases h

theorem request_ready (ha : app.activity = .ready r) (hs : r.service = .ok service)
    (fresh : Http.Bytes) (request : Request) :
    app.request fresh request =
      (.ok (some (service.handle fresh request app.state.world).1),
        { app with state :=
          { app.state with world := (service.handle fresh request app.state.world).2 } }) := by
  rw [Live.request, ha]
  dsimp only
  rw [hs]
  rfl

theorem ready_request (ha : app.activity = .ready r) (hs : r.service = .ok service)
    (fresh : Http.Bytes) (request : Request) :
    (app.request fresh request).2.activity = .ready r := by
  rw [request_ready ha hs]
  exact ha

theorem after_ready (ha : app.activity = .ready r) (hs : r.service = .ok service)
    (sent : List (Http.Bytes × Request)) : (app.after sent).activity = .ready r := by
  induction sent generalizing app with
  | nil => exact ha
  | cons first sent ih =>
    obtain ⟨fresh, request⟩ := first
    exact ih (ready_request ha hs fresh request)

theorem after_keeps {part : World α → β} {allowed : Request → Prop} (ha : app.activity = .ready r)
    (hs : r.service = .ok service)
    (hstep : ∀ fresh request world, allowed request →
      part (service.handle fresh request world).2 = part world)
    {sent : List (Http.Bytes × Request)} (h : ∀ x ∈ sent, allowed x.2) :
    part (app.after sent).state.world = part app.state.world := by
  induction sent generalizing app with
  | nil => rfl
  | cons first sent ih =>
    obtain ⟨fresh, request⟩ := first
    obtain ⟨hfirst, hrest⟩ := List.forall_mem_cons.mp h
    rw [after, ih (ready_request ha hs fresh request) hrest, request_ready ha hs]
    exact hstep fresh request app.state.world hfirst

end Live

end WebApplication.Application
