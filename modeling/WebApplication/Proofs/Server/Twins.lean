import WebApplication.Proofs.Route.Nesting
import WebApplication.Proofs.Server.Layers

/-!
# Requests that agree but for method and identity

Size, access and codecs are decided from what such twins have in common. If both find the
same entry they are rejected alike or come to its handler as twins.
-/

set_option autoImplicit false

namespace WebApplication.Server

open Http (Headers Request Response)

variable {σ : Type}

structure Twins (a b : Request) : Prop where
  rest : b = { a with method := b.method, headers := b.headers }
  headers : ∀ name, name ≠ Service.requestId → a.headers.get? name = b.headers.get? name

namespace Twins

variable {a b : Request}

theorem path (h : Twins a b) : a.path = b.path := by rw [h.rest]

theorem authentication (h : Twins a b) : a.authentication = b.authentication := by rw [h.rest]

theorem text? (h : Twins a b) {name : String} (hn : name ≠ Service.requestId) :
    a.headers.text? name = b.headers.text? name :=
  Headers.text?_congr (h.headers name hn)

theorem declaredLength (h : Twins a b) :
    Service.declaredLength a.headers = Service.declaredLength b.headers := by
  rw [Service.declaredLength, Service.declaredLength, h.text? (by decide)]

theorem basicCredentials (h : Twins a b) :
    Access.basicCredentials a.headers = Access.basicCredentials b.headers := by
  rw [Access.basicCredentials, Access.basicCredentials, h.text? (by decide)]

theorem accepts (h : Twins a b) (codecs : Http.Codecs) :
    codecs.accepts a.headers = codecs.accepts b.headers := by
  rw [Http.Codecs.accepts, Http.Codecs.accepts, h.text? (by decide)]

theorem withLimit (h : Twins a b) (bodyLimit : Option Nat) :
    Twins { a with bodyLimit } { b with bodyLimit } :=
  ⟨by rw [h.rest], h.headers⟩

theorem withAuthentication (h : Twins a b) (authentication : Option Http.Authentication) :
    Twins { a with authentication } { b with authentication } :=
  ⟨by rw [h.rest], h.headers⟩

theorem withParams (h : Twins a b) (params : Route.Params) :
    Twins { a with params } { b with params } :=
  ⟨by rw [h.rest], h.headers⟩

end Twins

theorem twins_identify (request : Request) (method other : Http.Method)
    (fresh otherFresh : Http.Bytes) :
    Twins (Service.identify fresh { request with method })
      (Service.identify otherFresh { request with method := other }) := by
  unfold Service.identify
  dsimp only
  split
  · exact ⟨rfl, fun _ _ => rfl⟩
  · refine ⟨rfl, fun name hn => ?_⟩
    rw [Headers.get?_append_single hn, Headers.get?_append_single hn]

/-! ## Decisions -/

inductive Agree {β : Type} (R : β → β → Prop) : Except Response β → Except Response β → Prop
  | rejected (rejection : Response) : Agree R (.error rejection) (.error rejection)
  | passed {x y : β} (h : R x y) : Agree R (.ok x) (.ok y)

theorem Agree.bind {β γ : Type} {R : β → β → Prop} {S : γ → γ → Prop} {x y : Except Response β}
    {f g : β → Except Response γ} (h : Agree R x y) (hf : ∀ a b, R a b → Agree S (f a) (g b)) :
    Agree S (x.bind f) (y.bind g) := by
  cases h with
  | rejected rejection => exact .rejected rejection
  | passed hr => exact hf _ _ hr

structure Paired (t : Route.Table σ) (a b : Request) : Prop where
  twins : Twins a b
  found : t.find? a.method a.path = t.find? b.method b.path

structure Met (t : Route.Table σ) (x y : Route.Entry σ × Request) : Prop where
  entry : x.1 = y.1
  mem : x.1 ∈ t.entries
  paired : Paired t x.2 y.2

variable {s : Service σ} {a b : Request}

theorem agree_limit (h : Paired s.table a b) :
    Agree (Paired s.table) (s.limit a) (s.limit b) := by
  rw [Service.limit, Service.limit, ← h.twins.declaredLength]
  cases Service.declaredLength a.headers with
  | none => exact .passed ⟨h.twins.withLimit _, h.found⟩
  | some n =>
    dsimp only
    by_cases hn : s.maxBody < n
    · rw [if_pos hn, if_pos hn]
      exact .rejected _
    · rw [if_neg hn, if_neg hn]
      exact .passed ⟨h.twins.withLimit _, h.found⟩

theorem agree_authorize (h : Paired s.table a b) :
    Agree (Paired s.table) (s.authorize a) (s.authorize b) := by
  rw [Service.authorize, Service.authorize]
  cases s.chain with
  | none => exact .passed h
  | some c =>
    have haccess : c.accessFor b.path = c.accessFor a.path := by rw [h.twins.path]
    have hfound : ∀ found, Paired s.table { a with authentication := some found }
        { b with authentication := some found } := fun found =>
      ⟨h.twins.withAuthentication _, h.found⟩
    dsimp only
    rw [Access.Chain.authorize, Access.Chain.authorize, haccess, ← h.twins.basicCredentials]
    cases c.accessFor a.path with
    | permitAll => exact .passed h
    | _ =>
      dsimp only
      repeat' split
      all_goals first
        | exact .rejected _
        | exact .passed (hfound _)

theorem agree_target (h : Paired s.table a b) :
    Agree (Met s.table) (s.target a) (s.target b) := by
  rw [Service.target, Service.target, ← h.found, ← h.twins.accepts]
  cases hf : s.table.find? a.method a.path with
  | none => exact .rejected _
  | some found =>
    dsimp only
    by_cases hc : s.codecs.accepts a.headers = true
    · rw [if_pos hc, if_pos hc]
      exact .passed ⟨rfl, (Route.Table.find?_matches hf).1, h.twins.withParams _, h.found⟩
    · rw [if_neg hc, if_neg hc]
      exact .rejected _

theorem agree_decide (h : Paired s.table a b) :
    Agree (Met s.table) (s.decide a) (s.decide b) :=
  (agree_limit h).bind fun _ _ hlimited =>
    (agree_authorize hlimited).bind fun _ _ hpassed => agree_target hpassed

/-! ## What a handler sees -/

structure Carried (a x : Request) : Prop where
  method : x.method = a.method
  path : x.path = a.path
  headers : x.headers = a.headers

theorem Carried.trans {a x y : Request} (h : Carried a x) (hy : Carried x y) : Carried a y :=
  ⟨hy.method.trans h.method, hy.path.trans h.path, hy.headers.trans h.headers⟩

theorem limit_carried {x : Request} (h : s.limit a = .ok x) : Carried a x := by
  rw [Service.limit] at h
  split at h
  · cases h
    exact ⟨rfl, rfl, rfl⟩
  · split at h
    · cases h
    · cases h
      exact ⟨rfl, rfl, rfl⟩

theorem authorize_carried {x : Request} (h : s.authorize a = .ok x) : Carried a x := by
  rw [Service.authorize] at h
  split at h
  · rw [Access.Chain.authorize] at h
    repeat' split at h
    all_goals cases h
    all_goals exact ⟨rfl, rfl, rfl⟩
  · cases h
    exact ⟨rfl, rfl, rfl⟩

theorem target_carried {x : Route.Entry σ × Request} (h : s.target a = .ok x) :
    Carried a x.2 := by
  rw [Service.target] at h
  split at h
  · cases h
  · split at h
    · cases h
      exact ⟨rfl, rfl, rfl⟩
    · cases h

theorem decide_ok_iff {x : Route.Entry σ × Request} : s.decide a = .ok x ↔
    ∃ limited passed, s.limit a = .ok limited ∧ s.authorize limited = .ok passed ∧
      s.target passed = .ok x := by
  rw [Service.decide]
  cases hl : s.limit a with
  | error rejection => simp [bind, Except.bind]
  | ok limited =>
    cases ha : s.authorize limited with
    | error rejection => simp [bind, Except.bind, ha]
    | ok passed => simp [bind, Except.bind, ha]

theorem decide_open {found : Route.Match σ} (hc : s.chain = none)
    (hlength : Service.declaredLength a.headers = none)
    (hfound : s.table.find? a.method a.path = some found)
    (haccepts : s.codecs.accepts a.headers = true) :
    s.decide a =
      .ok (found.entry, { a with bodyLimit := some s.maxBody, params := found.params }) := by
  have hlimit : s.limit a = .ok { a with bodyLimit := some s.maxBody } := by
    rw [Service.limit, hlength]
  have hauthorize : s.authorize { a with bodyLimit := some s.maxBody } =
      .ok { a with bodyLimit := some s.maxBody } := by
    rw [Service.authorize, hc]
  refine decide_ok_iff.mpr ⟨_, _, hlimit, hauthorize, ?_⟩
  simp [Service.target, hfound, haccepts]

theorem decide_carried {x : Route.Entry σ × Request} (h : s.decide a = .ok x) :
    Carried a x.2 := by
  obtain ⟨limited, passed, hl, ha, ht⟩ := decide_ok_iff.mp h
  exact ((limit_carried hl).trans (authorize_carried ha)).trans (target_carried ht)

end WebApplication.Server
