import WebApplication.Proofs.Http.Sharing
import WebApplication.Server.Service

/-!
# The layers around the answer of a service

A request that the policy for other origins does not answer itself is given an identity
and answered, and then the response is completed. None of this changes the status or
the headers that other layers do not own.
-/

set_option autoImplicit false

namespace WebApplication.Server.Service

open Http (Headers Request Response bytesOf)

variable {σ : Type}

def sent (request : Request) (answer : Response) : Response :=
  complete request.method (propagate request answer)

def finish (s : Service σ) (request : Request) (response : Response) : Response :=
  complete request.method (propagate request
    (match s.policy with
    | some policy => policy.decorate request.headers response
    | none => response))

def isLayered (name : String) : Bool :=
  name = requestId || name = "content-length" || name = "vary" ||
    name = "access-control-allow-origin" || name = "access-control-allow-credentials"

theorem identify_method (fresh : Http.Bytes) (request : Request) :
    (identify fresh request).method = request.method := by
  unfold identify
  split <;> rfl

theorem identify_path (fresh : Http.Bytes) (request : Request) :
    (identify fresh request).path = request.path := by
  unfold identify
  split <;> rfl

theorem identify_authentication (fresh : Http.Bytes) (request : Request) :
    (identify fresh request).authentication = request.authentication := by
  unfold identify
  split <;> rfl

theorem identify_text? (fresh : Http.Bytes) (request : Request) {name : String}
    (h : name ≠ requestId) :
    (identify fresh request).headers.text? name = request.headers.text? name := by
  apply Headers.text?_congr
  unfold identify
  split
  · rfl
  · exact Headers.get?_append_single h

theorem identify_declaredLength (fresh : Http.Bytes) (request : Request) :
    declaredLength (identify fresh request).headers = declaredLength request.headers := by
  rw [declaredLength, declaredLength, identify_text? fresh request (by decide)]

theorem identify_basicCredentials (fresh : Http.Bytes) (request : Request) :
    Access.basicCredentials (identify fresh request).headers =
      Access.basicCredentials request.headers := by
  rw [Access.basicCredentials, Access.basicCredentials,
    identify_text? fresh request (by decide)]

theorem identify_accepts (codecs : Http.Codecs) (fresh : Http.Bytes) (request : Request) :
    codecs.accepts (identify fresh request).headers = codecs.accepts request.headers := by
  rw [Http.Codecs.accepts, Http.Codecs.accepts, identify_text? fresh request (by decide)]

theorem handle_eq (s : Service σ) (fresh : Http.Bytes) (request : Request) (world : σ)
    (h : s.policy = none ∨ request.method ≠ "OPTIONS") :
    s.handle fresh request world =
      ((s.finish (identify fresh request) (s.answer (identify fresh request) world).1),
        (s.answer (identify fresh request) world).2) := by
  have hm := identify_method fresh request
  cases hp : s.policy with
  | none =>
    simp only [handle, finish, hp]
    rfl
  | some policy =>
    have hn : (identify fresh request).method ≠ "OPTIONS" := by simpa [hp, hm] using h
    simp only [handle, finish, hp, Http.Cors.Policy.around, if_neg hn]
    rfl

theorem passed_or_preflight (s : Service σ) (request : Request) :
    (s.policy = none ∨ request.method ≠ "OPTIONS") ∨
      ∃ policy, s.policy = some policy ∧ request.method = "OPTIONS" := by
  cases s.policy with
  | none => exact .inl (.inl rfl)
  | some policy =>
    by_cases hm : request.method = "OPTIONS"
    · exact .inr ⟨policy, rfl, hm⟩
    · exact .inl (.inr hm)

theorem handle_preflight {s : Service σ} {policy : Http.Cors.Policy} (hp : s.policy = some policy)
    {request : Request} (hm : request.method = "OPTIONS") (fresh : Http.Bytes) (world : σ) :
    s.handle fresh request world = (sent (identify fresh request)
      (policy.preflight (identify fresh request).headers), world) := by
  have hmethod : (identify fresh request).method = "OPTIONS" :=
    (identify_method fresh request).trans hm
  rw [handle, hp]
  dsimp only
  rw [Http.Cors.Policy.around, if_pos hmethod]
  rfl

/-! ## Status -/

theorem complete_status (method : Http.Method) (response : Response) :
    (complete method response).status = response.status := by
  unfold complete withoutBodyFor
  split
  · rfl
  · split <;> split <;> rfl

theorem propagate_status (request : Request) (response : Response) :
    (propagate request response).status = response.status := by
  unfold propagate
  split
  · rfl
  · split <;> rfl

theorem finish_status (s : Service σ) (request : Request) (response : Response) :
    (s.finish request response).status = response.status := by
  rw [finish, complete_status, propagate_status]
  cases s.policy <;> rfl

/-! ## Headers -/

theorem complete_get? (method : Http.Method) (response : Response) {name : String}
    (h : name ≠ "content-length") :
    (complete method response).headers.get? name = response.headers.get? name := by
  unfold complete withoutBodyFor
  split
  · rfl
  · split <;> split <;> first | rfl | exact Headers.get?_put h

theorem propagate_get? (request : Request) (response : Response) {name : String}
    (h : name ≠ requestId) :
    (propagate request response).headers.get? name = response.headers.get? name := by
  unfold propagate
  split
  · rfl
  · split
    · exact Headers.get?_put h
    · rfl

/-! ## Identity and length -/

theorem propagate_body (request : Request) (response : Response) :
    (propagate request response).body = response.body := by
  unfold propagate
  split
  · rfl
  · split <;> rfl

theorem propagate_without (request : Request) (response : Response) :
    (propagate request response).headers.without requestId =
      response.headers.without requestId := by
  unfold propagate
  split
  · rfl
  · split
    · exact Headers.without_put
    · rfl

theorem complete_without (method : Http.Method) (response : Response) :
    (complete method response).headers.without "content-length" =
      response.headers.without "content-length" := by
  unfold complete withoutBodyFor
  split
  · rfl
  · split <;> split <;> first | rfl | exact Headers.without_put

def opensTunnel (method : Http.Method) (response : Response) : Bool :=
  method = "CONNECT" && isSuccess response.status

theorem complete_headers (method : Http.Method) (response : Response) :
    (complete method response).headers =
      if opensTunnel method response || response.headers.has "content-length" then
        response.headers
      else response.headers.put "content-length" (bytesOf (toString response.body.length)) := by
  unfold complete withoutBodyFor opensTunnel
  by_cases ho : (method = "CONNECT" && isSuccess response.status) = true
  · rw [if_pos ho, ho, Bool.true_or, if_pos rfl]
  · rw [if_neg ho, Bool.eq_false_iff.mpr ho, Bool.false_or]
    by_cases hl : response.headers.has "content-length" = true
    · rw [if_pos hl, if_pos hl]
      dsimp only
      split <;> rfl
    · rw [if_neg hl, if_neg hl]
      dsimp only
      split <;> rfl

theorem complete_length {method : Http.Method} (h : method ≠ "CONNECT") (response : Response) :
    (complete method response).headers.get? "content-length" =
      some ((response.headers.get? "content-length").getD
        (bytesOf (toString response.body.length))) := by
  have ho : opensTunnel method response = false := by simp [opensTunnel, h]
  rw [complete_headers, ho, Bool.false_or]
  cases hl : response.headers.get? "content-length" with
  | some length => rw [if_pos (by rw [Headers.has, hl]; rfl), hl, Option.getD_some]
  | none =>
    rw [if_neg (by simp [Headers.has, hl]), Option.getD_none]
    exact Headers.get?_put_self

theorem complete_without_identity {method other : Http.Method} {first second : Response}
    (ho : opensTunnel method first = opensTunnel other second)
    (hb : first.body = second.body)
    (hh : first.headers.without requestId = second.headers.without requestId) :
    (complete method first).headers.without requestId =
      (complete other second).headers.without requestId := by
  have hl : first.headers.has "content-length" = second.headers.has "content-length" := by
    have hother : "content-length" ≠ requestId := by decide
    rw [Headers.has, Headers.has, ← Headers.get?_without hother, hh, Headers.get?_without hother]
  rw [complete_headers, complete_headers, ho, hl, hb]
  split
  · exact hh
  · rw [Headers.without_put_ne (by decide), Headers.without_put_ne (by decide), hh]

/-! ## What is sent -/

section Sent

variable {a b : Request} {first second answer : Response}

theorem complete_body (method : Http.Method) (response : Response) :
    (complete method response).body =
      if opensTunnel method response || method = "HEAD" then [] else response.body := by
  unfold complete withoutBodyFor opensTunnel
  by_cases ho : (method = "CONNECT" && isSuccess response.status) = true
  · rw [if_pos ho, ho, Bool.true_or, if_pos rfl]
  · rw [if_neg ho, Bool.eq_false_iff.mpr ho, Bool.false_or]
    by_cases hm : method = "HEAD"
    · simp [hm]
    · rw [decide_eq_false hm, if_neg Bool.false_ne_true, if_neg hm]
      split <;> rfl

theorem sent_status (a : Request) (answer : Response) : (sent a answer).status = answer.status := by
  rw [sent, complete_status, propagate_status]

theorem opensTunnel_propagate (request : Request) (method : Http.Method) (answer : Response) :
    opensTunnel method (propagate request answer) = opensTunnel method answer := by
  rw [opensTunnel, opensTunnel, propagate_status]

theorem sent_without (h : first.headers = second.headers) :
    ((sent a first).headers.without requestId).without "content-length" =
      ((sent b second).headers.without requestId).without "content-length" := by
  rw [Headers.without_comm, sent, complete_without, Headers.without_comm, propagate_without, h,
    ← propagate_without b second, Headers.without_comm, ← complete_without b.method,
    Headers.without_comm, sent]

theorem sent_length (hm : a.method ≠ "CONNECT") (answer : Response) :
    (sent a answer).headers.get? "content-length" =
      some ((answer.headers.get? "content-length").getD
        (bytesOf (toString answer.body.length))) := by
  rw [sent, complete_length hm, propagate_get? a answer (by decide), propagate_body]

theorem sent_without_identity
    (ho : opensTunnel a.method answer = opensTunnel b.method answer) :
    (sent a answer).headers.without requestId = (sent b answer).headers.without requestId := by
  apply complete_without_identity
  · rw [opensTunnel_propagate, opensTunnel_propagate, ho]
  · rw [propagate_body, propagate_body]
  · rw [propagate_without, propagate_without]

theorem sent_body (hm : a.method = b.method) (answer : Response) :
    (sent a answer).body = (sent b answer).body := by
  rw [sent, sent, complete_body, complete_body, opensTunnel_propagate, opensTunnel_propagate,
    propagate_body, propagate_body, hm]

end Sent

/-! ## Policies -/

theorem finish_get? (s : Service σ) (request : Request) (response : Response) {name : String}
    (h : isLayered name = false) :
    (s.finish request response).headers.get? name = response.headers.get? name := by
  simp only [isLayered, Bool.or_eq_false_iff, decide_eq_false_iff_not] at h
  obtain ⟨⟨⟨⟨hid, hlength⟩, hvary⟩, horigin⟩, hcredentials⟩ := h
  rw [finish, complete_get? _ _ hlength, propagate_get? _ _ hid]
  cases s.policy with
  | none => rfl
  | some policy =>
    dsimp only
    rw [Http.Cors.Policy.decorate_get? hvary, if_neg hcredentials, if_neg horigin]

end WebApplication.Server.Service
