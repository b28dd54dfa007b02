import WebApplication.Property.Scalar
import WebApplication.Server.Settings

/-!
# Answering requests

A request goes through layers from the outside in: it gets an identity, the policy for
other origins may answer it, its size is checked, then its access, and at last a route
is looked up. What rejects it first gives the response.
-/

set_option autoImplicit false

namespace WebApplication.Server

open Http (Headers Request Response bytesOf)

structure Service (σ : Type) where
  table : Route.Table σ
  codecs : Http.Codecs
  policy : Option Http.Cors.Policy
  maxBody : Nat
  chain : Option Access.Chain

namespace Service

variable {σ : Type}

def assemble? {C : Bean.Catalog} (s : Settings C σ) (table : Route.Table σ)
    (chain : Option Access.Chain) : Option (Service σ) :=
  let policy := Http.Cors.Policy.ofRules s.cors
  if policy.all (·.isSound) then some ⟨table, ⟨s.codecs, s.maxBody⟩, policy, s.maxBody, chain⟩
  else none

/-! ## Decisions -/

def declaredLength (headers : Headers) : Option Nat :=
  (headers.text? "content-length").bind Property.word?

/-- A request that declares too long a body is rejected; otherwise no more than what is
declared will be read. -/
def limit (s : Service σ) (request : Request) : Except Response Request :=
  match declaredLength request.headers with
  | none => .ok { request with bodyLimit := some s.maxBody }
  | some n =>
    if s.maxBody < n then .error (Response.ofText 413 "length limit exceeded")
    else .ok { request with bodyLimit := some n }

def authorize (s : Service σ) (request : Request) : Except Response Request :=
  match s.chain with
  | some chain => chain.authorize request
  | none => .ok request

def target (s : Service σ) (request : Request) : Except Response (Route.Entry σ × Request) :=
  match s.table.find? request.method request.path with
  | none => .error (Response.ofText 404 "No matching route found")
  | some found =>
    if s.codecs.accepts request.headers then
      .ok (found.entry, { request with params := found.params })
    else .error (Response.ofText 415 "Unsupported content type")

def decide (s : Service σ) (request : Request) : Except Response (Route.Entry σ × Request) := do
  s.target (← s.authorize (← s.limit request))

/-! ## Responses -/

def withoutBodyFor (method : Http.Method) (response : Response) : Response :=
  if method = "HEAD" then { response with body := [] } else response

def answer (s : Service σ) (request : Request) : StateM σ Response :=
  match s.decide request with
  | .error rejection => return rejection
  | .ok (entry, seen) => do return withoutBodyFor request.method (← entry.handler.respond seen)

def requestId : String := "x-request-id"

def identify (fresh : Http.Bytes) (request : Request) : Request :=
  if request.headers.has requestId then request
  else { request with headers := request.headers++[(requestId, fresh)] }

def propagate (request : Request) (response : Response) : Response :=
  if response.headers.has requestId then response
  else match request.headers.get? requestId with
    | some id => response.withHeader requestId id
    | none => response

def isSuccess (status : Nat) : Bool := 200 ≤ status && status < 300

/-- A response says how long its body is, also where a `HEAD` request then gets none.
A tunnel that was opened has neither. Only bodies of a known length are modelled: one that a
handler streams has no length that could be said, and is left out here. -/
def complete (method : Http.Method) (response : Response) : Response :=
  if method = "CONNECT" && isSuccess response.status then { response with body := [] }
  else
    let sized := if response.headers.has "content-length" then response
      else response.withHeader "content-length" (bytesOf (toString response.body.length))
    withoutBodyFor method sized

def handle (s : Service σ) (fresh : Http.Bytes) (request : Request) : StateM σ Response := do
  let request := identify fresh request
  let response ← match s.policy with
    | some policy => policy.around s.answer request
    | none => s.answer request
  return complete request.method (propagate request response)

end Service

end WebApplication.Server
