import WebApplication.Proofs.Access.Authentication
import WebApplication.Proofs.Server.Gates
import WebApplication.Proofs.Server.Twins

/-!
# What requests may change

If every entry leaves a part of the state alone or is found only on paths that are kept for
a role, then a request that changes this part has credentials of somebody with the role.
-/

set_option autoImplicit false

namespace WebApplication.Server

open Http (Request)

variable {σ β : Type} {s : Service σ} {c : Access.Chain} {request : Request} {world : σ}

def AcceptedAs (c : Access.Chain) (role : String) (request : Request) : Prop :=
  ∃ found, Gate.Accepts c request found ∧ role ∈ found.roles

def Keeps (part : σ → β) (e : Route.Entry σ) : Prop :=
  ∀ seen world, part (e.handler.respond seen world).2 = part world

def KeptFor (c : Access.Chain) (role : String) (e : Route.Entry σ) : Prop :=
  ∀ path params, e.pattern.matchPath path = some params → c.accessFor path = .hasRole role

theorem target_found {x : Route.Entry σ × Request} (h : s.target request = .ok x) :
    x.1 ∈ s.table.entries ∧ ∃ params, x.1.pattern.matchPath request.path = some params := by
  rw [Service.target] at h
  split at h
  · cases h
  · rename_i found hfound
    obtain ⟨hmem, hmatch⟩ := Route.Table.find?_matches hfound
    split at h
    · cases h
      exact ⟨hmem, found.params, hmatch⟩
    · cases h

theorem accepted_of_decide (hc : s.chain = some c) {role : String}
    {x : Route.Entry σ × Request} (h : s.decide request = .ok x) (hkept : KeptFor c role x.1) :
    AcceptedAs c role request := by
  obtain ⟨limited, passed, hlimit, hauthorize, htarget⟩ := decide_ok_iff.mp h
  have hlimited := limit_carried hlimit
  have hpassed := authorize_carried hauthorize
  obtain ⟨-, params, hmatch⟩ := target_found htarget
  rw [hpassed.path] at hmatch
  rw [Service.authorize, hc] at hauthorize
  obtain ⟨name, password, found, hcredentials, hfound, hrole⟩ :=
    Access.Chain.authorize_role_ok (hkept limited.path params hmatch) hauthorize
  rw [hlimited.headers] at hcredentials
  exact ⟨found, ⟨name, password, hcredentials, hfound⟩, hrole⟩

theorem answer_keeps {part : σ → β} {role : String} (hc : s.chain = some c)
    (hentries : ∀ e ∈ s.table.entries, Keeps part e ∨ KeptFor c role e)
    (h : ¬AcceptedAs c role request) : part (s.answer request world).2 = part world := by
  rw [Service.answer]
  cases hd : s.decide request with
  | error rejection => rfl
  | ok x =>
    obtain ⟨limited, passed, -, -, htarget⟩ := decide_ok_iff.mp hd
    rcases hentries x.1 (target_found htarget).1 with hkeeps | hkept
    · exact hkeeps x.2 world
    · exact absurd (accepted_of_decide hc hd hkept) h

theorem acceptedAs_identify {role : String} {fresh : Http.Bytes} :
    AcceptedAs c role (Service.identify fresh request) ↔ AcceptedAs c role request := by
  simp only [AcceptedAs, accepts_identify]

theorem handle_keeps {part : σ → β} {role : String} (hc : s.chain = some c)
    (hentries : ∀ e ∈ s.table.entries, Keeps part e ∨ KeptFor c role e)
    (h : ¬AcceptedAs c role request) (fresh : Http.Bytes) :
    part (s.handle fresh request world).2 = part world := by
  rcases s.passed_or_preflight request with hp | ⟨policy, hpolicy, hoptions⟩
  · rw [Service.handle_eq s fresh request world hp]
    exact answer_keeps hc hentries (mt acceptedAs_identify.mp h)
  · rw [Service.handle_preflight hpolicy hoptions]

end WebApplication.Server
