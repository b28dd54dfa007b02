import WebApplication.Proofs.Access.Authentication
import WebApplication.Proofs.Access.Setup
import WebApplication.Proofs.Server.Calls
import WebApplication.Proofs.Server.Twins
import WebApplication.Proofs.SortedTable

/-!
# Rejections that reveal no user

Two services whose stores differ in one user give the same responses and call the same
handlers, as long as no request proves to be from this user while enabled. Identities that
are made for a request do not matter for that either, unless a handler looks at them.
-/

set_option autoImplicit false

namespace WebApplication.Server

open Access (Chain Encoder Manager Users)
open Http (Headers Request Response)
open Route (Call Match)

variable {σ : Type} {s : Service σ} {a b : Request} {world : σ}

/-! ## Decisions and calls -/

inductive Noted (t : Route.Table σ) : Except Response (Route.Entry σ × Request) →
    Except Response (Route.Entry (σ × List Call) × Request) → Prop
  | rejected (rejection : Response) : Noted t (.error rejection) (.error rejection)
  | passed {found : Match σ} {seen : Request}
      (h : t.find? seen.method seen.path = some found) :
      Noted t (.ok (found.entry, seen)) (.ok (found.watched.entry, seen))

theorem noted_target (s : Service σ) (a : Request) :
    Noted s.table (s.target a) (s.watched.target a) := by
  rw [Service.target, Service.target, Service.watched]
  dsimp only
  rw [Route.Table.find?_watched]
  cases hf : s.table.find? a.method a.path with
  | none => exact .rejected _
  | some found =>
    rw [Option.map_some]
    dsimp only
    by_cases hc : s.codecs.accepts a.headers = true
    · rw [if_pos hc, if_pos hc]
      have hseen : s.table.find? { a with params := found.params }.method
          { a with params := found.params }.path = some found := hf
      exact .passed hseen
    · rw [if_neg hc, if_neg hc]
      exact .rejected _

theorem noted_decide (s : Service σ) (a : Request) :
    Noted s.table (s.decide a) (s.watched.decide a) := by
  have hlimit : s.watched.limit a = s.limit a := rfl
  rw [Service.decide, Service.decide, hlimit]
  cases s.limit a with
  | error rejection => exact .rejected rejection
  | ok limited =>
    have hauthorize : s.watched.authorize limited = s.authorize limited := rfl
    simp only [bind, Except.bind, hauthorize]
    cases s.authorize limited with
    | error rejection => exact .rejected rejection
    | ok passed => exact noted_target s passed

theorem answers_and_calls (s : Service σ) (a : Request) (world : σ) :
    (∃ rejection, s.decide a = .error rejection ∧ (s.answer a world).1 = rejection ∧
      (s.watched.answer a (world, [])).2.2 = []) ∨
    ∃ found seen, s.decide a = .ok (found.entry, seen) ∧
      s.table.find? seen.method seen.path = some found ∧
      (s.answer a world).1 =
        Service.withoutBodyFor a.method (found.entry.handler.respond seen world).1 ∧
      (s.watched.answer a (world, [])).2.2 = [⟨found.position, seen⟩] := by
  have hnoted := noted_decide s a
  rw [Service.answer, Service.answer]
  generalize s.decide a = plain at hnoted ⊢
  generalize s.watched.decide a = watched at hnoted ⊢
  cases hnoted with
  | rejected rejection => exact .inl ⟨rejection, rfl, rfl, rfl⟩
  | @passed found seen h => exact .inr ⟨found, seen, rfl, h, rfl, rfl⟩

theorem calls_eq (fresh : Http.Bytes) (request : Request)
    (hp : s.policy = none ∨ request.method ≠ "OPTIONS") :
    s.calls fresh request world =
      (s.watched.answer (Service.identify fresh request) (world, [])).2.2 := by
  rw [Service.calls, Service.handle_eq s.watched fresh request (world, []) hp]

theorem calls_preflight {policy : Http.Cors.Policy} (hp : s.policy = some policy)
    {request : Request} (hm : request.method = "OPTIONS") (fresh : Http.Bytes) (world : σ) :
    s.calls fresh request world = [] := by
  rw [Service.calls, Service.handle_preflight (s := s.watched) hp hm]

/-! ## Identities -/

/-- What is sent is the same but for the identity. -/
structure SameButIdentity (x y : Response) : Prop where
  status : x.status = y.status
  body : x.body = y.body
  headers : x.headers.without Service.requestId = y.headers.without Service.requestId

/-- Handlers give the same response to requests that differ in their identities only. -/
def BlindToIdentity (s : Service σ) (world : σ) : Prop :=
  ∀ e ∈ s.table.entries, ∀ x y, Twins x y → x.method = y.method →
    (e.handler.respond x world).1 = (e.handler.respond y world).1

theorem sameButIdentity_sent (hm : a.method = b.method) (answer : Response) :
    SameButIdentity (Service.sent a answer) (Service.sent b answer) where
  status := by rw [Service.sent_status, Service.sent_status]
  body := Service.sent_body hm answer
  headers := Service.sent_without_identity (by rw [hm])

theorem Twins.commonHeaders (h : Twins a b) (policy : Http.Cors.Policy) :
    policy.commonHeaders a.headers = policy.commonHeaders b.headers := by
  have horigin : policy.allowedOrigin a.headers = policy.allowedOrigin b.headers := by
    rw [Http.Cors.Policy.allowedOrigin, Http.Cors.Policy.allowedOrigin,
      h.headers "origin" (by decide)]
  rw [Http.Cors.Policy.commonHeaders, Http.Cors.Policy.commonHeaders, horigin]

theorem Twins.preflight (h : Twins a b) (policy : Http.Cors.Policy) :
    policy.preflight a.headers = policy.preflight b.headers := by
  have hheaders : policy.allowedHeaders a.headers = policy.allowedHeaders b.headers := by
    rw [Http.Cors.Policy.allowedHeaders, Http.Cors.Policy.allowedHeaders,
      h.headers "access-control-request-headers" (by decide)]
  rw [Http.Cors.Policy.preflight, Http.Cors.Policy.preflight, Http.Cors.Policy.preflightHeaders,
    Http.Cors.Policy.preflightHeaders, h.commonHeaders, hheaders]

theorem sameButIdentity_finish (h : Twins a b) (hm : a.method = b.method) (s : Service σ)
    (answer : Response) : SameButIdentity (s.finish a answer) (s.finish b answer) := by
  rw [Service.finish, Service.finish]
  cases s.policy with
  | none => exact sameButIdentity_sent hm answer
  | some policy =>
    dsimp only
    rw [Http.Cors.Policy.decorate, Http.Cors.Policy.decorate, h.commonHeaders]
    exact sameButIdentity_sent hm _

def SameCall (x y : Call) : Prop :=
  x.position = y.position ∧ x.request.authentication = y.request.authentication

/-- Twins with one method are answered alike if no handler is called, or one that does not
look at identities. -/
theorem answers_alike (h : Paired s.table a b) (hm : a.method = b.method) (world : σ) :
    List.Forall₂ SameCall (s.watched.answer a (world, [])).2.2
      (s.watched.answer b (world, [])).2.2 ∧
    ((s.watched.answer a (world, [])).2.2 = [] ∨ BlindToIdentity s world →
      (s.answer a world).1 = (s.answer b world).1) := by
  have hagree := agree_decide h
  rcases answers_and_calls s a world with
    ⟨rejection, hdecided, hanswer, hcalls⟩ | ⟨found, seen, hdecided, hfound, hanswer, hcalls⟩ <;>
  rcases answers_and_calls s b world with
    ⟨rejection', hdecided', hanswer', hcalls'⟩ |
    ⟨found', seen', hdecided', hfound', hanswer', hcalls'⟩ <;>
  rw [hdecided, hdecided'] at hagree <;> cases hagree
  · rw [hcalls, hcalls', hanswer, hanswer']
    exact ⟨.nil, fun _ => rfl⟩
  · rename_i hmet
    have hlookup := hmet.paired.found
    rw [hfound, hfound'] at hlookup
    cases hlookup
    rw [hcalls, hcalls']
    refine ⟨.cons ⟨rfl, hmet.paired.twins.authentication⟩ .nil, fun hblind => ?_⟩
    rcases hblind with hblind | hblind
    · cases hblind
    · have hmethods : seen.method = seen'.method :=
        (decide_carried hdecided).method.trans (hm.trans (decide_carried hdecided').method.symm)
      rw [hanswer, hanswer', hm,
        hblind found.entry hmet.mem seen seen' hmet.paired.twins hmethods]

/-- Which handler is called does not depend on an identity that is made for a request, and
neither does the response if none is called that looks at it. -/
theorem identities_alike (s : Service σ) (request : Request) (fresh other : Http.Bytes)
    (world : σ) :
    List.Forall₂ SameCall (s.calls fresh request world) (s.calls other request world) ∧
    (s.calls fresh request world = [] ∨ BlindToIdentity s world →
      SameButIdentity (s.handle fresh request world).1 (s.handle other request world).1) := by
  have htwins : Twins (Service.identify fresh request) (Service.identify other request) :=
    twins_identify request request.method request.method fresh other
  have hmethod : (Service.identify fresh request).method =
      (Service.identify other request).method := by
    rw [Service.identify_method, Service.identify_method]
  rcases s.passed_or_preflight request with hp | ⟨policy, hpolicy, hoptions⟩
  · rw [calls_eq fresh request hp, calls_eq other request hp,
      Service.handle_eq s fresh request world hp, Service.handle_eq s other request world hp]
    have hpaired : Paired s.table (Service.identify fresh request)
        (Service.identify other request) := ⟨htwins, by rw [hmethod, htwins.path]⟩
    obtain ⟨hcalls, hanswers⟩ := answers_alike hpaired hmethod world
    refine ⟨hcalls, fun hblind => ?_⟩
    rw [hanswers hblind]
    exact sameButIdentity_finish htwins hmethod s _
  · rw [calls_preflight hpolicy hoptions, calls_preflight hpolicy hoptions,
      Service.handle_preflight hpolicy hoptions, Service.handle_preflight hpolicy hoptions,
      htwins.preflight]
    exact ⟨.nil, fun _ => sameButIdentity_sent hmethod _⟩

/-! ## Stores -/

section Stores

variable {c d : Chain}

theorem decide_withChain (hc : s.chain = some c)
    (h : ∀ x, Carried a x → d.authorize x = c.authorize x) :
    Service.decide { s with chain := some d } a = s.decide a := by
  rw [Service.decide, Service.decide]
  have hlimit : Service.limit { s with chain := some d } a = s.limit a := rfl
  rw [hlimit]
  cases hl : s.limit a with
  | error rejection => rfl
  | ok limited =>
    have hauthorize : Service.authorize { s with chain := some d } limited = s.authorize limited := by
      rw [Service.authorize, Service.authorize, hc]
      exact h limited (limit_carried hl)
    simp only [bind, Except.bind, hauthorize]
    rfl

theorem handle_congr {first second : Service σ} {fresh : Http.Bytes} {request : Request}
    (hp : second.policy = first.policy)
    (h : second.answer (Service.identify fresh request) =
      first.answer (Service.identify fresh request)) :
    second.handle fresh request = first.handle fresh request := by
  rw [Service.handle, Service.handle, hp]
  dsimp only
  cases first.policy with
  | none => simp only [h]
  | some policy => simp only [Http.Cors.Policy.around, h]

theorem handle_withChain (hc : s.chain = some c) {fresh : Http.Bytes} {request : Request}
    (h : ∀ x, Carried (Service.identify fresh request) x → d.authorize x = c.authorize x) :
    Service.handle { s with chain := some d } fresh request = s.handle fresh request := by
  have hpolicy : Service.policy { s with chain := some d } = s.policy := rfl
  apply handle_congr hpolicy
  rw [Service.answer, Service.answer, decide_withChain hc h]

/-- Chains whose stores agree on all users but one treat a request alike that does not prove to
be from this user. -/
theorem authorize_alike {C : Bean.Catalog} {ctx ctx' : Bean.Context C σ}
    {settings settings' : Access.Settings C σ} {before later before' later' : Bean.State C σ}
    {own : Option Manager} {stored stored' : Users} {encoder : Encoder} {user : String}
    (hfirst : settings.Guards ctx before own stored encoder c later)
    (hsecond : settings'.Guards ctx' before' own stored' encoder d later')
    (hrules : settings'.rules = settings.rules) (hrealm : settings'.realm = settings.realm)
    (hothers : ∀ name, name ≠ user → stored'.find? name = stored.find? name)
    (hunproven : ∀ password found, Access.basicCredentials a.headers = some (user, password) →
      ¬stored.Proves encoder user password found ∧ ¬stored'.Proves encoder user password found) :
    d.authorize a = c.authorize a := by
  obtain ⟨hmanager, hcompiled, hchallenge⟩ := hfirst.parts
  obtain ⟨hmanager', hcompiled', hchallenge'⟩ := hsecond.parts
  rw [hrules, hcompiled] at hcompiled'
  rw [hrealm, ← hchallenge] at hchallenge'
  apply Access.Chain.authorize_congr (Except.ok.inj hcompiled').symm hchallenge'
  intro name password hcredentials
  rw [hmanager, hmanager']
  cases own with
  | some manager => exact .of_ok_iff fun _ => Iff.rfl
  | none =>
    apply Access.sameVerdict_of_others hothers
    · rintro found rfl
      exact (hunproven password found hcredentials).1
    · rintro found rfl
      exact (hunproven password found hcredentials).2

/-- Two services whose stores agree on all users but one give the same responses to any request
that does not prove to be from this user, enabled in one of the stores, and they call the same
handlers for the same principals. -/
theorem rejections_reveal_no_user {C : Bean.Catalog} {ctx ctx' : Bean.Context C σ}
    {settings settings' : Access.Settings C σ} {before later before' later' : Bean.State C σ}
    {own : Option Manager} {stored stored' : Users} {encoder : Encoder}
    (hfirst : settings.Guards ctx before own stored encoder c later)
    (hsecond : settings'.Guards ctx' before' own stored' encoder d later')
    (hrules : settings'.rules = settings.rules) (hrealm : settings'.realm = settings.realm)
    (user : String) (hothers : ∀ name, name ≠ user → stored'.find? name = stored.find? name)
    (hc : s.chain = some c) (request : Request)
    (hunproven : ∀ password found,
      Access.basicCredentials request.headers = some (user, password) →
        ¬stored.Proves encoder user password found ∧
          ¬stored'.Proves encoder user password found)
    (fresh other : Http.Bytes) (world : σ) :
    let second : Service σ := { s with chain := some d }
    second.handle fresh request world = s.handle fresh request world ∧
    second.calls fresh request world = s.calls fresh request world ∧
    List.Forall₂ SameCall (s.calls fresh request world) (second.calls other request world) ∧
    (s.calls fresh request world = [] ∨ BlindToIdentity s world →
      SameButIdentity (s.handle fresh request world).1 (second.handle other request world).1) := by
  intro second
  have hauthorize : ∀ id x, Carried (Service.identify id request) x →
      d.authorize x = c.authorize x := by
    intro id x hx
    apply authorize_alike hfirst hsecond hrules hrealm hothers
    rwa [hx.headers, Service.identify_basicCredentials]
  have hhandle : ∀ id, second.handle id request = s.handle id request := fun id =>
    handle_withChain hc (hauthorize id)
  -- watched, the services differ in their chains only, too
  have hcalls : ∀ id, second.calls id request world = s.calls id request world := by
    intro id
    have hwatched : second.watched.handle id request = s.watched.handle id request :=
      handle_withChain (s := s.watched) hc (hauthorize id)
    rw [Service.calls, Service.calls, hwatched]
  rw [hhandle, hhandle, hcalls, hcalls]
  exact ⟨rfl, rfl, identities_alike s request fresh other world⟩

end Stores

def backwards : Encoder where
  encode raw := String.ofList raw.toList.reverse
  accepts raw encoded := raw.toList.reverse = encoded.toList
  describe := "Backwards"

def amy : Access.User := ⟨"amy", "yma", ["STAFF"], true⟩

def bob : Access.User := ⟨"bob", "ba", ["STAFF"], false⟩

def staffOnly (users : Users) : Access.Settings .plain Unit :=
  (Access.Settings.default _ _).withUsers (.given users)
    |>.withEncoder (.given backwards)
    |>.withRule "/staff/\x7b*rest\x7d" (.hasRole "STAFF")

def staffChain (users : Users) : Chain where
  manager := Manager.ofUsers users backwards
  rules := [(⟨[.literal "", .literal "staff", .catchAll "rest"]⟩, .hasRole "STAFF")]
  challenge := Access.Settings.challenge "webwire"

def staffService (users : Users) : Service Unit where
  table := ⟨[⟨"GET", ⟨[.literal "", .literal "staff", .var "room"]⟩,
    ⟨0, .direct, fun _ => return Response.ofStatus 200⟩⟩]⟩
  codecs := ⟨[], 10⟩
  policy := none
  maxBody := 10
  chain := some (staffChain users)

theorem staffOnly_guards (ctx : Bean.Context .plain Unit) (s : Bean.State .plain Unit)
    (users : Users) :
    (staffOnly users).Guards ctx s none users backwards (staffChain users) s :=
  .made rfl rfl rfl rfl rfl

theorem bob_not_revealed :
    let request := Request.ofParts "GET" "/staff/desk"
      [("authorization", Http.bytesOf "Basic Ym9iOmFi")] []
    let known := staffService (Users.ofList [amy, bob])
    let unknown := staffService (Users.ofList [amy])
    Access.basicCredentials request.headers = some ("bob", "ab") ∧
    backwards.accepts "ab" bob.password = true ∧
    known.handle [] request () = unknown.handle [] request () ∧
    (unknown.handle [] request ()).1.status = 401 := by
  intro request known unknown
  have hothers : ∀ name, name ≠ "bob" →
      (Users.ofList [amy, bob]).find? name = (Users.ofList [amy]).find? name := by
    intro name hname
    have hstore : (Users.ofList [amy, bob]).byName = [("amy", amy), ("bob", bob)] := rfl
    have hempty : (Users.ofList [amy]).byName = [("amy", amy)] := rfl
    rw [Users.find?, Users.find?, hstore, hempty]
    simp [SortedTable.lookup_cons, hname]
  have hunproven : ∀ password found,
      Access.basicCredentials request.headers = some ("bob", password) →
        ¬(Users.ofList [amy]).Proves backwards "bob" password found ∧
          ¬(Users.ofList [amy, bob]).Proves backwards "bob" password found := by
    intro password found hcredentials
    refine ⟨fun hproves => ?_, fun hproves => ?_⟩
    · have habsent : (Users.ofList [amy]).find? "bob" = none := rfl
      cases habsent.symm.trans hproves.1
    · have hthere : (Users.ofList [amy, bob]).find? "bob" = some bob := rfl
      cases hthere.symm.trans hproves.1
      cases hproves.2.2
  have hguards := staffOnly_guards ⟨⟨[], .nil⟩, [], .none, .empty⟩ (Bean.State.start ())
  have hsame := (rejections_reveal_no_user (s := unknown) (hguards (Users.ofList [amy]))
    (hguards (Users.ofList [amy, bob])) rfl rfl "bob" hothers rfl request hunproven [] [] ()).1
  exact ⟨by decide +kernel, by decide +kernel, hsame, by decide +kernel⟩

end WebApplication.Server
