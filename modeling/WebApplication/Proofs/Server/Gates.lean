import WebApplication.Proofs.Server.Calls
import WebApplication.Proofs.Server.Layers

/-!
# The gates before a handler

A request has to pass five gates: its size, its credentials, its role, a route, and a
codec. Each gate is stated here without regard to the others. The handler of the entry
found is called, once, exactly if all of them let the request pass; otherwise the first
that does not gives the answer.
-/

set_option autoImplicit false

namespace WebApplication.Server

open Http (Authentication Headers Request Response)
open Route (Call)

variable {σ : Type}

inductive Gate where
  | size
  | credentials
  | role
  | route
  | codec
  deriving DecidableEq, Repr

namespace Gate

def all : List Gate := [size, credentials, role, route, codec]

def status : Gate → Nat
  | size => 413
  | credentials => 401
  | role => 403
  | route => 404
  | codec => 415

def Accepts (c : Access.Chain) (request : Request) (found : Authentication) : Prop :=
  ∃ name password, Access.basicCredentials request.headers = some (name, password) ∧
    c.manager.authenticate name password = .ok found

def Refuses (s : Service σ) (c : Access.Chain) (request : Request) : Gate → Prop
  | size => ∃ n, Service.declaredLength request.headers = some n ∧ s.maxBody < n
  | credentials => c.accessFor request.path ≠ .permitAll ∧ ∀ found, ¬Accepts c request found
  | role => ∃ role found, c.accessFor request.path = .hasRole role ∧
      Accepts c request found ∧ role ∉ found.roles
  | route => s.table.find? request.method request.path = none
  | codec => s.codecs.accepts request.headers = false

def First (s : Service σ) (c : Access.Chain) (request : Request) (gate : Gate) : Prop :=
  gate.Refuses s c request ∧ ∀ other ∈ all.takeWhile (· ≠ gate), ¬other.Refuses s c request

end Gate

/-- The access rules let a request pass: as nobody if its path is open, and otherwise as
the authentication that the manager gave. -/
def Admits (c : Access.Chain) (request : Request) : Option Authentication → Prop
  | none => c.accessFor request.path = .permitAll
  | some found => c.accessFor request.path ≠ .permitAll ∧ Gate.Accepts c request found ∧
      ∀ role, c.accessFor request.path = .hasRole role → role ∈ found.roles

/-- A request passes all gates, as `who`, and `found` is the entry found for it. -/
structure Passes (s : Service σ) (c : Access.Chain) (request : Request)
    (who : Option Authentication) (found : Route.Match σ) : Prop where
  size : ∀ n, Service.declaredLength request.headers = some n → n ≤ s.maxBody
  access : Admits c request who
  route : s.table.find? request.method request.path = some found
  codec : s.codecs.accepts request.headers = true

namespace Gate

def rejection (c : Access.Chain) : Gate → Response
  | size => Response.ofText 413 "length limit exceeded"
  | credentials => c.unauthorized
  | role => Access.Chain.forbidden
  | route => Response.ofText 404 "No matching route found"
  | codec => Response.ofText 415 "Unsupported content type"

theorem status_rejection (c : Access.Chain) (gate : Gate) :
    (gate.rejection c).status = gate.status := by
  cases gate <;> rfl

theorem accepts_unique {c : Access.Chain} {request : Request} {a b : Authentication}
    (ha : Accepts c request a) (hb : Accepts c request b) : a = b := by
  obtain ⟨name, password, hc, ha⟩ := ha
  obtain ⟨name', password', hc', hb⟩ := hb
  rw [hc] at hc'
  cases hc'
  rw [ha] at hb
  exact Except.ok.inj hb

end Gate

/-! ## The gates of access -/

section Access

variable {c : Access.Chain} {request : Request}

theorem authorize_credentials (s : Service σ) (h : Gate.credentials.Refuses s c request) :
    c.authorize request = .error c.unauthorized := by
  obtain ⟨hp, hn⟩ := h
  unfold Access.Chain.authorize
  split
  · rename_i ha
    exact absurd ha hp
  · cases hc : Access.basicCredentials request.headers with
    | none => rfl
    | some pair =>
      obtain ⟨name, password⟩ := pair
      cases hm : c.manager.authenticate name password with
      | error e => simp [hm]
      | ok found => exact absurd ⟨name, password, hc, hm⟩ (hn found)

theorem authorize_role (s : Service σ) (h : Gate.role.Refuses s c request) :
    c.authorize request = .error Access.Chain.forbidden := by
  obtain ⟨role, found, ha, ⟨name, password, hc, hm⟩, hr⟩ := h
  have hn : found.hasRole role = false := by simpa [Authentication.hasRole] using hr
  simp [Access.Chain.authorize, ha, hc, hm, hn]

theorem authorize_admitted {who : Option Authentication} (hn : request.authentication = none)
    (h : Admits c request who) :
    c.authorize request = .ok { request with authentication := who } := by
  cases who with
  | none =>
    have hp : c.accessFor request.path = .permitAll := h
    rw [Access.Chain.authorize, hp, ← hn]
  | some found =>
    obtain ⟨hp, ⟨name, password, hc, hm⟩, hr⟩ := h
    cases ha : c.accessFor request.path with
    | permitAll => exact absurd ha hp
    | authenticated => simp [Access.Chain.authorize, ha, hc, hm]
    | hasRole role =>
      have hh : found.hasRole role = true := by simpa [Authentication.hasRole] using hr role ha
      simp [Access.Chain.authorize, ha, hc, hm, hh]

theorem Admits.unique {a b : Option Authentication} (ha : Admits c request a)
    (hb : Admits c request b) : a = b := by
  cases a with
  | none =>
    cases b with
    | none => rfl
    | some found => exact absurd ha hb.1
  | some accepted =>
    cases b with
    | none => exact absurd hb ha.1
    | some found => rw [Gate.accepts_unique ha.2.1 hb.2.1]

theorem admits_of_not_refused {s : Service σ} (hc : ¬Gate.credentials.Refuses s c request)
    (hr : ¬Gate.role.Refuses s c request) : ∃ who, Admits c request who := by
  by_cases hp : c.accessFor request.path = .permitAll
  · exact ⟨none, hp⟩
  · obtain ⟨found, hf⟩ : ∃ found, Gate.Accepts c request found := by
      apply Classical.byContradiction
      intro hn
      exact hc ⟨hp, fun found hf => hn ⟨found, hf⟩⟩
    refine ⟨some found, hp, hf, fun role ha => ?_⟩
    apply Classical.byContradiction
    intro hn
    exact hr ⟨role, found, ha, hf, hn⟩

theorem not_refused_of_admits (s : Service σ) {who : Option Authentication}
    (h : Admits c request who) :
    ¬Gate.credentials.Refuses s c request ∧ ¬Gate.role.Refuses s c request := by
  cases who with
  | none =>
    have hp : c.accessFor request.path = .permitAll := h
    refine ⟨fun hc => hc.1 hp, ?_⟩
    rintro ⟨role, found, ha, -⟩
    rw [hp] at ha
    cases ha
  | some found =>
    refine ⟨fun hc => hc.2 found h.2.1, ?_⟩
    rintro ⟨role, other, ha, ho, hr⟩
    exact hr (Gate.accepts_unique h.2.1 ho ▸ h.2.2 role ha)

theorem accessFor_unmatched {path : String}
    (h : ∀ rule ∈ c.rules, rule.1.matchPath path = none) :
    c.accessFor path = .authenticated := by
  unfold Access.Chain.accessFor
  generalize c.rules = rules at h
  induction rules with
  | nil => rfl
  | cons rule rules ih =>
    have hn : rule.1.matchPath path = none := h rule (by simp)
    simp [Access.Chain.ruleFor, hn, ih fun r hr => h r (by simp [hr])]

end Access

/-! ## The order of the gates -/

section Decide

variable {s : Service σ} {c : Access.Chain} {request : Request}

def limited (s : Service σ) (request : Request) : Request :=
  { request with bodyLimit := some ((Service.declaredLength request.headers).getD s.maxBody) }

theorem limit_size (h : Gate.size.Refuses s c request) :
    s.limit request = .error (Gate.size.rejection c) := by
  obtain ⟨n, hn, hl⟩ := h
  simp [Service.limit, hn, hl, Gate.rejection]

theorem limit_passed (h : ∀ n, Service.declaredLength request.headers = some n → n ≤ s.maxBody) :
    s.limit request = .ok (limited s request) := by
  cases hd : Service.declaredLength request.headers with
  | none => simp [Service.limit, limited, hd]
  | some n =>
    have hn : ¬s.maxBody < n := Nat.not_lt.mpr (h n hd)
    simp [Service.limit, limited, hd, hn]

def seen (s : Service σ) (request : Request) (who : Option Authentication)
    (found : Route.Match σ) : Request :=
  { limited s request with authentication := who, params := found.params }

theorem not_size_refused : ¬Gate.size.Refuses s c request ↔
    ∀ n, Service.declaredLength request.headers = some n → n ≤ s.maxBody := by
  constructor
  · intro h n hn
    exact Nat.not_lt.mp fun hl => h ⟨n, hn, hl⟩
  · rintro h ⟨n, hn, hl⟩
    exact Nat.not_lt.mpr (h n hn) hl

theorem decide_limited (hc : s.chain = some c) (h : ¬Gate.size.Refuses s c request) :
    s.decide request = (c.authorize (limited s request)).bind s.target := by
  rw [Service.decide, limit_passed (not_size_refused.mp h)]
  simp [Service.authorize, hc, bind, Except.bind]

theorem decide_admitted {who : Option Authentication} (hc : s.chain = some c)
    (hn : request.authentication = none) (h : ¬Gate.size.Refuses s c request)
    (ha : Admits c request who) :
    s.decide request = s.target { limited s request with authentication := who } := by
  have hl : c.authorize (limited s request) =
      .ok { limited s request with authentication := who } := authorize_admitted hn ha
  rw [decide_limited hc h, hl]
  rfl

theorem decide_passed {who : Option Authentication} {found : Route.Match σ}
    (hc : s.chain = some c) (hn : request.authentication = none)
    (h : Passes s c request who found) :
    s.decide request = .ok (found.entry, seen s request who found) := by
  rw [decide_admitted hc hn (not_size_refused.mpr h.size) h.access]
  simp [Service.target, limited, h.route, h.codec, seen]

theorem decide_first {gate : Gate} (hc : s.chain = some c)
    (hn : request.authentication = none) (h : gate.First s c request) :
    s.decide request = .error (gate.rejection c) := by
  obtain ⟨hr, hb⟩ := h
  cases gate with
  | size =>
    rw [Service.decide, limit_size hr]
    rfl
  | credentials =>
    have hsize := hb .size (by decide)
    have ha : c.authorize (limited s request) = .error c.unauthorized :=
      authorize_credentials s hr
    rw [decide_limited hc hsize, ha]
    rfl
  | role =>
    have hsize := hb .size (by decide)
    have ha : c.authorize (limited s request) = .error Access.Chain.forbidden :=
      authorize_role s hr
    rw [decide_limited hc hsize, ha]
    rfl
  | route =>
    have hsize := hb .size (by decide)
    obtain ⟨who, ha⟩ := admits_of_not_refused (hb .credentials (by decide)) (hb .role (by decide))
    have hf : s.table.find? request.method request.path = none := hr
    rw [decide_admitted hc hn hsize ha]
    simp [Service.target, limited, hf, Gate.rejection]
  | codec =>
    have hsize := hb .size (by decide)
    obtain ⟨who, ha⟩ := admits_of_not_refused (hb .credentials (by decide)) (hb .role (by decide))
    have hcodec : s.codecs.accepts request.headers = false := hr
    rw [decide_admitted hc hn hsize ha]
    cases hf : s.table.find? request.method request.path with
    | none => exact absurd hf (hb .route (by decide))
    | some found => simp [Service.target, limited, hf, hcodec, Gate.rejection]

theorem passes_or_first (s : Service σ) (c : Access.Chain) (request : Request) :
    (∃ who found, Passes s c request who found) ∨ ∃ gate : Gate, gate.First s c request := by
  by_cases hsize : Gate.size.Refuses s c request
  · exact .inr ⟨.size, hsize, by simp [Gate.all]⟩
  by_cases hcred : Gate.credentials.Refuses s c request
  · exact .inr ⟨.credentials, hcred, by simp [Gate.all, hsize]⟩
  by_cases hrole : Gate.role.Refuses s c request
  · exact .inr ⟨.role, hrole, by simp [Gate.all, hsize, hcred]⟩
  cases hroute : s.table.find? request.method request.path with
  | none => exact .inr ⟨.route, hroute, by simp [Gate.all, hsize, hcred, hrole]⟩
  | some found =>
    have hr : ¬Gate.route.Refuses s c request := by simp [Gate.Refuses, hroute]
    cases hcodec : s.codecs.accepts request.headers with
    | false => exact .inr ⟨.codec, hcodec, by simp [Gate.all, hsize, hcred, hrole, hr]⟩
    | true =>
      obtain ⟨who, ha⟩ := admits_of_not_refused hcred hrole
      exact .inl ⟨who, found, not_size_refused.mp hsize, ha, hroute, hcodec⟩

theorem Passes.not_refused {who : Option Authentication} {found : Route.Match σ}
    (h : Passes s c request who found) (gate : Gate) : ¬gate.Refuses s c request := by
  cases gate with
  | size => exact not_size_refused.mpr h.size
  | credentials => exact (not_refused_of_admits s h.access).1
  | role => exact (not_refused_of_admits s h.access).2
  | route => simp [Gate.Refuses, h.route]
  | codec => simp [Gate.Refuses, h.codec]

theorem Passes.unique {a b : Option Authentication} {found other : Route.Match σ}
    (h : Passes s c request a found) (h' : Passes s c request b other) :
    a = b ∧ found = other :=
  ⟨h.access.unique h'.access, Option.some.inj (h.route.symm.trans h'.route)⟩

end Decide

/-! ## What is called -/

section Called

variable {s : Service σ} {c : Access.Chain} {request : Request}

theorem accepts_identify (fresh : Http.Bytes) (found : Authentication) :
    Gate.Accepts c (Service.identify fresh request) found ↔ Gate.Accepts c request found := by
  rw [Gate.Accepts, Gate.Accepts, Service.identify_basicCredentials]

theorem refuses_identify (fresh : Http.Bytes) (gate : Gate) :
    gate.Refuses s c (Service.identify fresh request) ↔ gate.Refuses s c request := by
  cases gate <;> simp only [Gate.Refuses, Service.identify_declaredLength,
    Service.identify_path, Service.identify_method, Service.identify_accepts, accepts_identify]

theorem first_identify (fresh : Http.Bytes) (gate : Gate) :
    gate.First s c (Service.identify fresh request) ↔ gate.First s c request := by
  simp only [Gate.First, refuses_identify]

theorem admits_identify (fresh : Http.Bytes) (who : Option Authentication) :
    Admits c (Service.identify fresh request) who ↔ Admits c request who := by
  cases who <;> simp only [Admits, Service.identify_path, accepts_identify]

theorem passes_identify (fresh : Http.Bytes) {who : Option Authentication}
    {found : Route.Match σ} (h : Passes s c request who found) :
    Passes s c (Service.identify fresh request) who found where
  size n hn := h.size n (by rwa [Service.identify_declaredLength] at hn)
  access := (admits_identify fresh who).mpr h.access
  route := by rw [Service.identify_method, Service.identify_path, h.route]
  codec := by rw [Service.identify_accepts, h.codec]

theorem refuses_watched (gate : Gate) :
    gate.Refuses s.watched c request ↔ gate.Refuses s c request := by
  cases gate with
  | route => simp [Gate.Refuses, Service.watched, Route.Table.find?_watched]
  | _ => rfl

theorem first_watched (gate : Gate) :
    gate.First s.watched c request ↔ gate.First s c request := by
  simp only [Gate.First, refuses_watched]

theorem passes_watched {who : Option Authentication} {found : Route.Match σ}
    (h : Passes s c request who found) : Passes s.watched c request who found.watched where
  size := h.size
  access := h.access
  route := by simp [Service.watched, Route.Table.find?_watched, h.route]
  codec := h.codec

theorem answer_passed {who : Option Authentication} {found : Route.Match σ}
    (hc : s.chain = some c) (hn : request.authentication = none)
    (h : Passes s c request who found) (world : σ) :
    s.answer request world =
      (Service.withoutBodyFor request.method
        (found.entry.handler.respond (seen s request who found) world).1,
      (found.entry.handler.respond (seen s request who found) world).2) := by
  rw [Service.answer, decide_passed hc hn h]
  rfl

theorem answer_first {gate : Gate} (hc : s.chain = some c)
    (hn : request.authentication = none) (h : gate.First s c request) (world : σ) :
    s.answer request world = (gate.rejection c, world) := by
  rw [Service.answer, decide_first hc hn h]
  rfl

variable (fresh : Http.Bytes)

theorem handle_passed {who : Option Authentication} {found : Route.Match σ}
    (hc : s.chain = some c) (hn : request.authentication = none)
    (hp : s.policy = none ∨ request.method ≠ "OPTIONS")
    (h : Passes s c request who found) (world : σ) :
    s.watched.handle fresh request (world, []) =
      ((s.handle fresh request world).1, (s.handle fresh request world).2,
        [⟨found.position, seen s (Service.identify fresh request) who found⟩]) := by
  have hn' := (Service.identify_authentication fresh request).trans hn
  have hc' : s.watched.chain = some c := hc
  rw [Service.handle_eq s.watched fresh request (world, []) hp,
    Service.handle_eq s fresh request world hp,
    answer_passed hc' hn' (passes_watched (passes_identify fresh h)),
    answer_passed hc hn' (passes_identify fresh h)]
  rfl

theorem handle_first {gate : Gate} (hc : s.chain = some c)
    (hn : request.authentication = none) (hp : s.policy = none ∨ request.method ≠ "OPTIONS")
    (h : gate.First s c request) (world : σ) :
    s.watched.handle fresh request (world, []) =
      ((s.handle fresh request world).1, (s.handle fresh request world).2, []) ∧
    (s.handle fresh request world).1 =
      s.finish (Service.identify fresh request) (gate.rejection c) := by
  have hn' := (Service.identify_authentication fresh request).trans hn
  have hc' : s.watched.chain = some c := hc
  have h' := (first_identify fresh gate).mpr h
  rw [Service.handle_eq s.watched fresh request (world, []) hp,
    Service.handle_eq s fresh request world hp,
    answer_first hc' hn' ((first_watched gate).mpr h'), answer_first hc hn' h']
  exact ⟨rfl, rfl⟩

end Called

/-- The handler of the entry found is called exactly if a request passes all gates, then
once, and as the one who passed them. Otherwise the first gate that refuses the request
gives the answer. -/
theorem handler_called_iff_passes (s : Service σ) (c : Access.Chain) (hc : s.chain = some c)
    (fresh : Http.Bytes) (method target : String) (headers : Headers) (body : Http.Bytes)
    (hp : s.policy = none ∨ method ≠ "OPTIONS") (world : σ) :
    let request := Request.ofParts method target headers body
    let calls := s.calls fresh request world
    let response := (s.handle fresh request world).1
    (∀ call, calls = [call] ↔ ∃ who found, Passes s c request who found ∧
      s.table.entries[found.position]? = some found.entry ∧
      call = ⟨found.position, seen s (Service.identify fresh request) who found⟩) ∧
    (calls = [] ↔ ¬∃ who found, Passes s c request who found) ∧
    (calls = [] → ∃ gate : Gate, gate.First s c request ∧ response.status = gate.status ∧
      (gate = .credentials →
        response.headers.get? "www-authenticate" = some c.challenge)) ∧
    s.watched.handle fresh request (world, []) =
      (response, (s.handle fresh request world).2, calls) ∧
    ∀ path, (∀ rule ∈ c.rules, rule.1.matchPath path = none) →
      c.accessFor path ≠ .permitAll := by
  intro request calls response
  have hn : request.authentication = none := rfl
  have hm : s.policy = none ∨ request.method ≠ "OPTIONS" := hp
  have hopen : ∀ path, (∀ rule ∈ c.rules, rule.1.matchPath path = none) →
      c.accessFor path ≠ .permitAll := by
    intro path hnone hopen
    rw [accessFor_unmatched hnone] at hopen
    cases hopen
  rcases passes_or_first s c request with ⟨who, found, h⟩ | ⟨gate, h⟩
  · have hw := handle_passed fresh hc hn hm h world
    have hcalls : calls = [⟨found.position, seen s (Service.identify fresh request) who found⟩] :=
      congrArg (·.2.2) hw
    have hentry := Route.Table.position_of_find? h.route
    refine ⟨fun call => ?_, ?_, ?_, ?_, hopen⟩
    · rw [hcalls, List.singleton_inj]
      constructor
      · rintro rfl
        exact ⟨who, found, h, hentry, rfl⟩
      · rintro ⟨who', found', h', -, rfl⟩
        obtain ⟨rfl, rfl⟩ := h.unique h'
        rfl
    · have hpasses : ∃ who found, Passes s c request who found := ⟨who, found, h⟩
      simp [hcalls, hpasses]
    · simp [hcalls]
    · rw [hcalls, hw]
  · obtain ⟨hw, hresponse⟩ := handle_first fresh hc hn hm h world
    have hcalls : calls = [] := congrArg (·.2.2) hw
    have hnone : ¬∃ who found, Passes s c request who found := fun ⟨_, _, hpass⟩ =>
      hpass.not_refused gate h.1
    refine ⟨fun call => ?_, ?_, fun _ => ⟨gate, h, ?_, ?_⟩, ?_, hopen⟩
    · constructor
      · intro hcall
        rw [hcalls] at hcall
        cases hcall
      · rintro ⟨who, found, hpass, -⟩
        exact absurd ⟨who, found, hpass⟩ hnone
    · exact iff_of_true hcalls hnone
    · rw [show response = _ from hresponse, Service.finish_status, Gate.status_rejection]
    · rintro rfl
      rw [show response = _ from hresponse, Service.finish_get? _ _ _ (by decide)]
      exact Headers.get?_put_self
    · rw [hcalls, hw]

def adminChain : Access.Chain where
  manager := Access.Manager.ofList [("a", "b", ["ADMIN"])]
  rules := [(⟨[.literal "", .literal "admin", .catchAll "rest"]⟩, .hasRole "ADMIN")]
  challenge := Http.bytesOf "Basic"

def adminService : Service Unit where
  table := ⟨[⟨"GET", ⟨[.literal "", .literal "admin", .var "page"]⟩,
    ⟨0, .direct, fun _ => return Response.ofStatus 200⟩⟩]⟩
  codecs := ⟨[], 10⟩
  policy := none
  maxBody := 10
  chain := some adminChain

theorem administrator_called : adminService.chain = some adminChain ∧
    (adminService.policy = none ∨ "GET" ≠ "OPTIONS") ∧
    ∃ call, adminService.calls [] (Request.ofParts "GET" "/admin/x/"
      [("authorization", Http.bytesOf "Basic YTpi")] []) () = [call] ∧ call.position = 0 ∧
      call.request.authentication = some ⟨"a", ["ADMIN"]⟩ := by
  have hlength : Service.declaredLength [("authorization", Http.bytesOf "Basic YTpi")] = none := by
    decide +kernel
  have hrule : adminChain.accessFor "/admin/x/" = .hasRole "ADMIN" := by decide +kernel
  have hfound : adminService.table.find? "GET" "/admin/x/" =
      some ⟨0, ⟨"GET", ⟨[.literal "", .literal "admin", .var "page"]⟩,
        ⟨0, .direct, fun _ => return Response.ofStatus 200⟩⟩, [("page", "x")]⟩ := by rfl
  refine ⟨rfl, .inl rfl, _, ((handler_called_iff_passes adminService adminChain rfl [] "GET"
    "/admin/x/" [("authorization", Http.bytesOf "Basic YTpi")] [] (.inl rfl) ()).1 _).mpr
      ⟨some ⟨"a", ["ADMIN"]⟩, _, ⟨?_, ?_, hfound, ?_⟩, rfl, rfl⟩, rfl, rfl⟩
  · intro n hn
    cases hlength.symm.trans hn
  · refine ⟨fun hopen => ?_, ⟨"a", "b", by decide +kernel, rfl⟩, fun role hr => ?_⟩
    · cases hrule.symm.trans hopen
    · cases hrule.symm.trans hr
      simp
  · decide +kernel

end WebApplication.Server
