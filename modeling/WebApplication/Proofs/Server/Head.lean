import WebApplication.Proofs.Route.Lookup
import WebApplication.Proofs.Server.Twins

/-!
# `HEAD` beside `GET`

Where no entry is for `HEAD`, a `HEAD` request is rejected as the `GET` request is, or the
same handler answers it, and the response has no body. It tells the length that the handler
gave it. If the handler gave none it tells the length of the body that is left, not of the
body that `GET` gets.
-/

set_option autoImplicit false

namespace WebApplication.Server

open Http (Headers Method Request Response bytesOf)

variable {σ : Type} {s : Service σ}

/-- Handlers respond in a world to `HEAD` as to `GET`, whatever else they see of the requests,
which differ in method and identity. -/
def RespondAlike (s : Service σ) (request : Request) (fresh other : Http.Bytes) (world : σ) :
    Prop :=
  ∀ e ∈ s.table.entries, ∀ seen : Request,
    (e.handler.respond { seen with
      method := "HEAD", headers := (Service.identify fresh request).headers } world).1 =
    (e.handler.respond { seen with
      method := "GET", headers := (Service.identify other request).headers } world).1

theorem respondAlike_of_methodless {request : Request} {fresh : Http.Bytes} {world : σ}
    (h : ∀ e ∈ s.table.entries, ∀ (seen : Request) (method : Method),
      (e.handler.respond { seen with method } world).1 = (e.handler.respond seen world).1) :
    RespondAlike s request fresh fresh world := by
  intro e he seen
  have hhead := h e he
    { seen with headers := (Service.identify fresh request).headers } "HEAD"
  have hget := h e he
    { seen with headers := (Service.identify fresh request).headers } "GET"
  exact hhead.trans hget.symm

theorem identify_withMethod (fresh : Http.Bytes) (request : Request) (method : Method) :
    (Service.identify fresh { request with method }).headers =
      (Service.identify fresh request).headers := by
  unfold Service.identify
  dsimp only
  split <;> rfl

theorem paired_head {request : Request} (h : Route.Untaken s.table.entries "HEAD" request.path)
    (fresh other : Http.Bytes) :
    Paired s.table (Service.identify fresh { request with method := "HEAD" })
      (Service.identify other { request with method := "GET" }) where
  twins := twins_identify request "HEAD" "GET" fresh other
  found := by
    simp only [Service.identify_method, Service.identify_path]
    exact Route.Table.find?_head_of_untaken h

/-- Either the same rejection answers both, or the same handler does, and `HEAD` gets what it
made without the body. -/
theorem answers_head {request : Request} {fresh other : Http.Bytes}
    {world : σ} (hhead : Route.Untaken s.table.entries "HEAD" request.path)
    (halike : RespondAlike s request fresh other world) :
    let head := Service.identify fresh { request with method := "HEAD" }
    let get := Service.identify other { request with method := "GET" }
    (∃ rejection, s.decide get = .error rejection ∧ (s.answer head world).1 = rejection ∧
      (s.answer get world).1 = rejection) ∨
    ∃ entry seen, s.decide get = .ok (entry, seen) ∧
      (s.answer head world).1 = { (entry.handler.respond seen world).1 with body := [] } ∧
      (s.answer get world).1 = (entry.handler.respond seen world).1 := by
  intro head get
  have hmhead : head.method = "HEAD" := Service.identify_method fresh _
  have hmget : get.method = "GET" := Service.identify_method other _
  have hagree : Agree (Met s.table) (s.decide head) (s.decide get) :=
    agree_decide (paired_head hhead fresh other)
  rw [Service.answer, Service.answer]
  generalize hdhead : s.decide head = first at hagree
  generalize hdget : s.decide get = second at hagree
  cases hagree with
  | rejected rejection => exact .inl ⟨rejection, rfl, rfl, rfl⟩
  | @passed x y hmet =>
    obtain ⟨entry, seen⟩ := y
    obtain ⟨reached, saw⟩ := x
    obtain ⟨rfl, hmem, hpaired⟩ := hmet
    have hsaw := decide_carried hdhead
    have hseen := decide_carried hdget
    -- both handlers see one request but for its method and its identity
    have hmade : (reached.handler.respond saw world).1 = (reached.handler.respond seen world).1 := by
      have hfirst : saw = { saw with
          method := "HEAD", headers := (Service.identify fresh request).headers } := by
        rw [← hmhead, ← identify_withMethod fresh request "HEAD", ← hsaw.method, ← hsaw.headers]
      have hsecond : seen = { saw with
          method := "GET", headers := (Service.identify other request).headers } := by
        rw [← hmget, ← identify_withMethod other request "GET", ← hseen.method, ← hseen.headers]
        exact hpaired.twins.rest
      rw [hsecond, hfirst]
      exact halike reached hmem saw
    refine .inr ⟨reached, seen, rfl, ?_, ?_⟩
    · rw [← hmade, hmhead]
      rfl
    · rw [hmget]
      rfl

theorem handle_unguided (hp : s.policy = none) (fresh : Http.Bytes) (request : Request)
    (world : σ) :
    (s.handle fresh request world).1 = Service.sent (Service.identify fresh request)
      (s.answer (Service.identify fresh request) world).1 := by
  rw [Service.handle_eq s fresh request world (.inl hp), Service.finish, hp]
  rfl

/-- Where no entry is for `HEAD`, a `HEAD` request gets the status and the headers that `GET`
gets, and no body. Only the length may differ: it is the one that the handler gave, and if
it gave none, zero instead of the length of its body. -/
theorem head_beside_get (hp : s.policy = none) (request : Request)
    (fresh other : Http.Bytes) (world : σ)
    (hhead : Route.Untaken s.table.entries "HEAD" request.path)
    (halike : RespondAlike s request fresh other world) :
    let head := (s.handle fresh { request with method := "HEAD" } world).1
    let get := (s.handle other { request with method := "GET" } world).1
    let decision := s.decide (Service.identify other { request with method := "GET" })
    head.body = [] ∧ head.status = get.status ∧
    (head.headers.without Service.requestId).without "content-length" =
      (get.headers.without Service.requestId).without "content-length" ∧
    (∀ rejection, decision = .error rejection →
      head.headers.without Service.requestId = get.headers.without Service.requestId) ∧
    ∀ entry seen, decision = .ok (entry, seen) →
      let made := (entry.handler.respond seen world).1
      head.headers.get? "content-length" =
        some ((made.headers.get? "content-length").getD (bytesOf "0")) ∧
      get.headers.get? "content-length" =
        some ((made.headers.get? "content-length").getD
          (bytesOf (toString made.body.length))) := by
  intro head get decision
  have hmhead : (Service.identify fresh { request with method := "HEAD" }).method = "HEAD" :=
    Service.identify_method fresh _
  have hmget : (Service.identify other { request with method := "GET" }).method = "GET" :=
    Service.identify_method other _
  have hhead' : head = Service.sent _ _ := handle_unguided hp fresh _ world
  have hget' : get = Service.sent _ _ := handle_unguided hp other _ world
  have hbody : head.body = [] := by
    rw [hhead', Service.sent, hmhead]
    simp [Service.complete_body]
  refine ⟨hbody, ?_⟩
  rcases answers_head hhead halike with
    ⟨rejection, hdecision, hfirst, hsecond⟩ | ⟨entry, seen, hdecision, hfirst, hsecond⟩
  · rw [hhead', hget', hfirst, hsecond]
    refine ⟨by rw [Service.sent_status, Service.sent_status], Service.sent_without rfl, fun _ _ => ?_, fun entry seen h => ?_⟩
    · apply Service.sent_without_identity
      rw [hmhead, hmget]
      rfl
    · cases hdecision.symm.trans h
  · rw [hhead', hget', hfirst, hsecond]
    refine ⟨by rw [Service.sent_status, Service.sent_status], Service.sent_without rfl, fun rejection h => ?_,
      fun entry' seen' h => ?_⟩
    · cases hdecision.symm.trans h
    · cases hdecision.symm.trans h
      refine ⟨?_, ?_⟩
      · -- nothing is left of the body
        have hzero : toString ([] : Http.Bytes).length = "0" := by decide
        rw [Service.sent_length (by rw [hmhead]; decide), ← hzero]
      · rw [Service.sent_length (by rw [hmget]; decide)]

def greet : Route.Entry Unit :=
  ⟨"GET", ⟨[.literal "", .literal "greeting"]⟩,
    ⟨0, .direct, fun _ => return Response.ofText 200 "hello"⟩⟩

def greeting : Service Unit where
  table := ⟨[greet]⟩
  codecs := ⟨[], 10⟩
  policy := none
  maxBody := 10
  chain := none

theorem greeting_untaken (path : String) : Route.Untaken greeting.table.entries "HEAD" path := by
  intro e he hm
  rw [List.mem_singleton.mp he] at hm
  exact absurd hm (by decide)

theorem greeting_methodless : ∀ e ∈ greeting.table.entries, ∀ (seen : Request) (method : Method),
    (e.handler.respond { seen with method } ()).1 = (e.handler.respond seen ()).1 := by
  intro e he seen method
  rw [List.mem_singleton.mp he]
  rfl

theorem greeting_head_lost_length :
    let request := Request.ofParts "GET" "/greeting" [] []
    let head := (greeting.handle [] { request with method := "HEAD" } ()).1
    let get := (greeting.handle [] request ()).1
    head.body = [] ∧ head.status = get.status ∧
    head.headers.get? "content-length" = some (bytesOf "0") ∧
    get.headers.get? "content-length" = some (bytesOf "5") := by
  intro request head get
  obtain ⟨hbody, hstatus, -, -, hserved⟩ := head_beside_get (s := greeting) rfl request [] [] ()
    (greeting_untaken request.path) (respondAlike_of_methodless greeting_methodless)
  have hlength : Service.declaredLength (Service.identify [] request).headers = none := by
    decide +kernel
  have haccepts : greeting.codecs.accepts (Service.identify [] request).headers = true := by
    decide +kernel
  have hfound : greeting.table.find? "GET" "/greeting" = some ⟨0, greet, []⟩ := rfl
  obtain ⟨hhead, hget⟩ := hserved _ _ (decide_open rfl hlength hfound haccepts)
  have hfive : bytesOf (toString (bytesOf "hello").length) = bytesOf "5" := by decide +kernel
  exact ⟨hbody, hstatus, hhead, hget.trans (congrArg some hfive)⟩

/-- Handlers that look at no method do not make `HEAD` a mirror of `GET`. -/
theorem not_head_mirrors_get : ¬∀ (s : Service Unit) (request : Request) (fresh : Http.Bytes),
    s.chain = none → s.policy = none → Route.Untaken s.table.entries "HEAD" request.path →
    (∀ e ∈ s.table.entries, ∀ (seen : Request) (method : Method),
      (e.handler.respond { seen with method } ()).1 = (e.handler.respond seen ()).1) →
    let head := (s.handle fresh { request with method := "HEAD" } ()).1
    let get := (s.handle fresh { request with method := "GET" } ()).1
    head.body = [] ∧ head.status = get.status ∧
      head.headers.without Service.requestId = get.headers.without Service.requestId := by
  intro hmirror
  obtain ⟨-, -, hsame⟩ := hmirror greeting (Request.ofParts "GET" "/greeting" [] []) [] rfl rfl
    (greeting_untaken _) greeting_methodless
  have hlengths := congrArg (·.get? "content-length") hsame
  revert hlengths
  decide +kernel

end WebApplication.Server
