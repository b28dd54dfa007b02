import WebApplication.Proofs.Http.Policy
import WebApplication.Proofs.Route.Lookup
import WebApplication.Proofs.Server.Rejections

/-!
# Routes behind rules for other origins

The policy for other origins stands before the routes. It takes every request with the method
`OPTIONS` for a preflight, also one that has none of a preflight's headers, and leaves the
routing of all other requests alone. So with rules no entry for `OPTIONS` is ever reached, and
any other entry is reached as it is without them.
-/

set_option autoImplicit false

namespace WebApplication.Server

open Http (Request Response)
open Http.Cors (Policy)
open Route (Call)

variable {σ : Type} {s : Service σ} {request : Request} {world : σ}

namespace Service

def withoutPolicy (s : Service σ) : Service σ := { s with policy := none }

def Reached (s : Service σ) (position : Nat) : Prop :=
  ∃ fresh request world, ∃ call ∈ s.calls fresh request world, call.position = position

end Service

/-! ## With and without a policy -/

theorem passed_withoutPolicy (h : s.policy = none ∨ request.method ≠ "OPTIONS")
    (fresh : Http.Bytes) (world : σ) :
    s.calls fresh request world = s.withoutPolicy.calls fresh request world ∧
      (s.handle fresh request world).2 = (s.withoutPolicy.handle fresh request world).2 := by
  have hplain : s.withoutPolicy.policy = none ∨ request.method ≠ "OPTIONS" := .inl rfl
  constructor
  · rw [calls_eq fresh request h, calls_eq fresh request hplain]
    rfl
  · rw [s.handle_eq fresh request world h, s.withoutPolicy.handle_eq fresh request world hplain]
    rfl

theorem passed_of_mem_calls {fresh : Http.Bytes} {call : Call}
    (h : call ∈ s.calls fresh request world) :
    s.policy = none ∨ request.method ≠ "OPTIONS" := by
  rcases s.passed_or_preflight request with hp | ⟨policy, hpolicy, hoptions⟩
  · exact hp
  · rw [calls_preflight hpolicy hoptions] at h
    cases h

/-- The entry called is for the method of the request, or for `GET` where that is `HEAD`. -/
theorem entry_of_mem_calls {fresh : Http.Bytes} {call : Call}
    (h : call ∈ s.calls fresh request world) :
    ∃ e, s.table.entries[call.position]? = some e ∧
      (e.method = request.method ∨ request.method = "HEAD" ∧ e.method = "GET") := by
  rw [calls_eq fresh request (passed_of_mem_calls h)] at h
  rcases answers_and_calls s (Service.identify fresh request) world with
    ⟨-, -, -, hcalls⟩ | ⟨found, seen, hdecided, hfound, -, hcalls⟩
  · rw [hcalls] at h
    cases h
  · rw [hcalls, List.mem_singleton] at h
    subst h
    have hmethod : seen.method = request.method :=
      (decide_carried hdecided).method.trans (Service.identify_method fresh request)
    have hentry := Route.Table.find?_method hfound
    rw [hmethod] at hentry
    exact ⟨found.entry, Route.Table.position_of_find? hfound, hentry⟩

theorem options_iff_of_mem_calls {position : Nat} {e : Route.Entry σ}
    (he : s.table.entries[position]? = some e) {fresh : Http.Bytes} {call : Call}
    (h : call ∈ s.calls fresh request world) (hposition : call.position = position) :
    request.method = "OPTIONS" ↔ e.method = "OPTIONS" := by
  obtain ⟨called, hcalled, hmethod⟩ := entry_of_mem_calls h
  rw [hposition, he, Option.some.injEq] at hcalled
  subst hcalled
  rcases hmethod with hsame | ⟨hhead, hget⟩
  · rw [hsame]
  · rw [hhead, hget]
    decide

/-- An entry is reached as without the policy, unless it is for `OPTIONS`. -/
theorem reached_iff {position : Nat} {e : Route.Entry σ}
    (he : s.table.entries[position]? = some e) :
    s.Reached position ↔
      s.withoutPolicy.Reached position ∧ (e.method = "OPTIONS" → s.policy = none) := by
  constructor
  · rintro ⟨fresh, request, world, call, hcall, hposition⟩
    have hp := passed_of_mem_calls hcall
    refine ⟨⟨fresh, request, world, call, ?_, hposition⟩, fun hoptions => ?_⟩
    · rwa [← (passed_withoutPolicy hp fresh world).1]
    · have hm := (options_iff_of_mem_calls he hcall hposition).mpr hoptions
      exact hp.resolve_right (not_not_intro hm)
  · rintro ⟨⟨fresh, request, world, call, hcall, hposition⟩, hoptions⟩
    have hm := options_iff_of_mem_calls (s := s.withoutPolicy) he hcall hposition
    have hp : s.policy = none ∨ request.method ≠ "OPTIONS" := by
      by_cases ho : request.method = "OPTIONS"
      · exact .inl (hoptions (hm.mp ho))
      · exact .inr ho
    refine ⟨fresh, request, world, call, ?_, hposition⟩
    rwa [(passed_withoutPolicy hp fresh world).1]

/-! ## With and without rules -/

section Rules

variable {C : Bean.Catalog} {settings : Settings C σ} {table : Route.Table σ}
  {chain : Option Access.Chain} {service : Service σ}

theorem ofRules_eq_none_iff {rules : List Http.Cors.Rule} :
    Policy.ofRules rules = none ↔ rules = [] := by
  constructor
  · intro hnone
    by_contra hrules
    rw [Policy.ofRules_eq hrules] at hnone
    cases hnone
  · rintro rfl
    rfl

theorem assemble?_eq_some_iff : Service.assemble? settings table chain = some service ↔
    (Policy.ofRules settings.cors).all (·.isSound) = true ∧
      service = ⟨table, ⟨settings.codecs, settings.maxBody⟩, Policy.ofRules settings.cors,
        settings.maxBody, chain⟩ := by
  rw [Service.assemble?]
  split
  · rename_i hsound
    simp only [Option.some.injEq, hsound, true_and]
    exact eq_comm
  · rename_i hsound
    simp [hsound]

theorem assemble?_withoutPolicy (h : Service.assemble? settings table chain = some service) :
    Service.assemble? { settings with cors := [] } table chain = some service.withoutPolicy := by
  obtain ⟨-, rfl⟩ := assemble?_eq_some_iff.mp h
  rfl

/-- Rules keep the routing of a server but for the method `OPTIONS`. A request with another
method leads to the same calls and the same state as without rules; one with this method leads
to none if there are rules, preflight or not. So what is reached with rules is what is reached
without them, less the entries for `OPTIONS`. -/
theorem routing_kept_but_for_options
    (h : Service.assemble? settings table chain = some service) :
    ∃ plain, Service.assemble? { settings with cors := [] } table chain = some plain ∧
      (∀ fresh request world, request.method ≠ "OPTIONS" ∨ settings.cors = [] →
        service.calls fresh request world = plain.calls fresh request world ∧
          (service.handle fresh request world).2 = (plain.handle fresh request world).2) ∧
      (∀ fresh request world, request.method = "OPTIONS" → settings.cors ≠ [] →
        service.calls fresh request world = [] ∧ (service.handle fresh request world).2 = world) ∧
      ∀ position e, table.entries[position]? = some e →
        (service.Reached position ↔
          plain.Reached position ∧ (e.method = "OPTIONS" → settings.cors = [])) := by
  obtain ⟨-, hservice⟩ := assemble?_eq_some_iff.mp h
  have htable : service.table = table := by rw [hservice]
  have hpolicy : service.policy = none ↔ settings.cors = [] := by
    rw [hservice]
    exact ofRules_eq_none_iff
  refine ⟨service.withoutPolicy, assemble?_withoutPolicy h, fun fresh request world hp => ?_,
    fun fresh request world hoptions hrules => ?_, fun position e he => ?_⟩
  · exact passed_withoutPolicy (hp.symm.imp_left hpolicy.mpr) fresh world
  · obtain ⟨policy, hsome⟩ := Option.ne_none_iff_exists'.mp (mt hpolicy.mp hrules)
    rw [calls_preflight hsome hoptions, Service.handle_preflight hsome hoptions]
    exact ⟨rfl, rfl⟩
  · rw [← hpolicy]
    exact reached_iff (htable ▸ he)

end Rules

def noticeTable : Route.Table Unit :=
  ⟨["OPTIONS", "GET"].map fun method => ⟨method, ⟨[.literal "", .literal "notice"]⟩,
    ⟨0, .direct, fun _ => return Response.ofStatus 200⟩⟩⟩

def noticeSettings : Settings .plain Unit :=
  (Settings.default _ _).withCors [.ofOrigin "example.com"]

def noticeService : Service Unit where
  table := noticeTable
  codecs := ⟨[], 2*1024*1024⟩
  policy := Policy.ofRules [.ofOrigin "example.com"]
  maxBody := 2*1024*1024
  chain := none

theorem notice_assembled :
    Service.assemble? noticeSettings noticeTable none = some noticeService :=
  assemble?_eq_some_iff.mpr ⟨by decide +kernel, rfl⟩

theorem notice_reached_without_rules :
    ∃ plain, Service.assemble? noticeSettings noticeTable none = some noticeService ∧
      Service.assemble? { noticeSettings with cors := [] } noticeTable none = some plain ∧
      plain.Reached 0 ∧ plain.Reached 1 ∧ ¬noticeService.Reached 0 ∧ noticeService.Reached 1 := by
  obtain ⟨plain, hplain, -, -, hreached⟩ := routing_kept_but_for_options notice_assembled
  have hpolicy : plain = noticeService.withoutPolicy :=
    Option.some.inj (hplain.symm.trans (assemble?_withoutPolicy notice_assembled))
  have hoptions : plain.Reached 0 := by
    rw [hpolicy]
    exact ⟨[], Request.ofParts "OPTIONS" "/notice" [] [], (), _, List.mem_cons_self, rfl⟩
  have hget : plain.Reached 1 := by
    rw [hpolicy]
    exact ⟨[], Request.ofParts "GET" "/notice" [] [], (), _, List.mem_cons_self, rfl⟩
  refine ⟨plain, notice_assembled, hplain, hoptions, hget, fun h => ?_, ?_⟩
  · have hnone := ((hreached 0 _ rfl).mp h).2 rfl
    cases hnone
  · exact (hreached 1 _ rfl).mpr ⟨hget, fun hm => absurd hm (by decide)⟩

/-- What a browser sends as a preflight: it tells the origin and the method that is to come. -/
def IsPreflight (request : Request) : Prop :=
  request.method = "OPTIONS" ∧ request.headers.has "origin" = true ∧
    request.headers.has "access-control-request-method" = true

instance (request : Request) : Decidable (IsPreflight request) :=
  inferInstanceAs (Decidable (_ ∧ _))

/-- Rules take more from the routes than such preflights. -/
theorem not_routing_kept : ¬∀ (settings : Settings .plain Unit) (table : Route.Table Unit)
    (chain : Option Access.Chain) (service plain : Service Unit),
    Service.assemble? settings table chain = some service →
    Service.assemble? { settings with cors := [] } table chain = some plain →
    ∀ fresh request world, ¬IsPreflight request →
      (service.calls fresh request world).map Call.position =
        (plain.calls fresh request world).map Call.position := by
  intro hkept
  have hplain := assemble?_withoutPolicy notice_assembled
  have hcalls := hkept _ _ _ _ _ notice_assembled hplain []
    (Request.ofParts "OPTIONS" "/notice" [] []) () (by decide +kernel)
  revert hcalls
  decide +kernel

end WebApplication.Server
