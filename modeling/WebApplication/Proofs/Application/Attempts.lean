import Mathlib.Logic.Relation
import WebApplication.Application.Lifecycle
import WebApplication.Proofs.Application.Watched

/-!
# Attempts to realize an application

An application remembers that it was attempted to realize it, whatever came of that and
whatever is done with it afterwards. Every later attempt is refused and calls nothing.
-/

set_option autoImplicit false

namespace WebApplication.Application

open Bean (Call)

variable {own : Bean.Catalog} {α : Type}

namespace Live

def calls (app : Live own α) (profiles : Profiles) (environment : Property.Source) : List Call :=
  if app.attempted then [] else app.spec.calls profiles environment app.state

inductive Step : Live own α → Live own α → Prop
  | ask {β : Type} (app : Live own α) (p : Program own α β) : Step app (app.ask p).2
  | realize (app : Live own α) (profiles : Profiles) (environment : Property.Source) :
      Step app (app.realize profiles environment).2
  | run (app : Live own α) (profiles : Profiles) (environment : Property.Source) :
      Step app (app.run profiles environment).2
  | stop (app : Live own α) : Step app app.stop.2
  | request (app : Live own α) (fresh : Http.Bytes) (request : Http.Request) :
      Step app (app.request fresh request).2

theorem attempted_attempt (app : Live own α) (profiles : Profiles) (environment : Property.Source) :
    (app.attempt profiles environment).2.attempted = true := by
  unfold attempt
  split
  · assumption
  · rfl

theorem attempted_realize (app : Live own α) (profiles : Profiles)
    (environment : Property.Source) : (app.realize profiles environment).2.attempted = true := by
  have h := attempted_attempt app profiles environment
  unfold realize
  rcases ha : app.attempt profiles environment with ⟨e | r, later⟩
  · rwa [ha] at h
  · rwa [ha] at h

theorem attempted_run (app : Live own α) (profiles : Profiles) (environment : Property.Source) :
    (app.run profiles environment).2.attempted = true := by
  have h := attempted_attempt app profiles environment
  unfold run
  rcases ha : app.attempt profiles environment with ⟨e | r, later⟩
  · rwa [ha] at h
  · rw [ha] at h
    dsimp only
    cases listen later.spec.mode r <;> exact h

/-- Whatever is done with an application, that it was attempted once is not forgotten. -/
theorem Step.attempted {app later : Live own α} (h : Step app later) (ha : app.attempted = true) :
    later.attempted = true := by
  cases h with
  | ask p =>
    unfold Live.ask
    cases app.context? <;> exact ha
  | realize => exact attempted_realize app _ _
  | run => exact attempted_run app _ _
  | stop =>
    unfold Live.stop
    split <;> exact ha
  | request fresh request =>
    unfold Live.request
    split
    · split <;> exact ha
    · exact ha

theorem attempted_later {app later : Live own α} (h : Relation.ReflTransGen Step app later)
    (ha : app.attempted = true) : later.attempted = true := by
  induction h with
  | refl => exact ha
  | tail _ hstep ih => exact hstep.attempted ih

theorem realize_again {app : Live own α} (h : app.attempted = true) (profiles : Profiles)
    (environment : Property.Source) :
    app.realize profiles environment = (.error .alreadyRealized, app) ∧
      app.calls profiles environment = [] := by
  constructor
  · rw [realize, attempt, if_pos h]
  · rw [calls, if_pos h]

theorem realize_first (spec : Spec own α) (world : World α) (profiles : Profiles)
    (environment : Property.Source) :
    ((start spec world).realize profiles environment).1 =
        (spec.realize profiles environment (Bean.State.start world)).1 ∧
      ((start spec world).realize profiles environment).2.state =
        (spec.realize profiles environment (Bean.State.start world)).2 ∧
      (start spec world).calls profiles environment =
        spec.calls profiles environment (Bean.State.start world) := by
  have ha : (start spec world).attempt profiles environment =
      ((spec.realize profiles environment (Bean.State.start world)).1, ⟨spec, true, .idle,
        (spec.realize profiles environment (Bean.State.start world)).2⟩) := rfl
  rw [realize, ha]
  cases (spec.realize profiles environment (Bean.State.start world)).1 <;> exact ⟨rfl, rfl, rfl⟩

end Live

end WebApplication.Application
