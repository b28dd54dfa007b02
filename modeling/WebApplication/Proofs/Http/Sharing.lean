import WebApplication.Proofs.Http.Headers
import WebApplication.Proofs.Http.Policy

/-!
# Who may send credentials

A response is shared with an origin if it allows the origin and its credentials. As one policy
stands for all rules, credentials are not kept to the origins that they were given to: an origin
that some rule is for has them as soon as any rule gives them. No other origin ever has them.
-/

set_option autoImplicit false

namespace WebApplication.Http.Cors

def Rule.IsFor (r : Rule) (origin : Bytes) : Prop :=
  Headers.value? (normalizeOrigin r.origin) = some origin

instance (r : Rule) (origin : Bytes) : Decidable (r.IsFor origin) :=
  inferInstanceAs (Decidable (_ = _))

structure SharedWith (response : Response) (origin : Bytes) : Prop where
  origin : response.headers.get? "access-control-allow-origin" = some origin
  credentials : response.headers.get? "access-control-allow-credentials" = some (bytesOf "true")

namespace Policy

/-! ## What a policy puts on a response -/

theorem place_get? (headers : Headers) (header : String × Bytes) {name : String}
    (h : name ≠ header.1) : (place headers header).get? name = headers.get? name := by
  unfold place
  split
  · exact Headers.get?_append_single h
  · exact Headers.get?_put h

theorem foldl_place_get? {added headers : Headers} {name : String}
    (h : ∀ header ∈ added, name ≠ header.1) :
    Headers.get? (added.foldl place headers) name = headers.get? name := by
  induction added generalizing headers with
  | nil => rfl
  | cons header added ih =>
    rw [List.foldl_cons, ih fun other hm => h other (by simp [hm])]
    exact place_get? headers header (h header (by simp))

theorem name_of_mem_single {name : String} {value : Option Bytes} {header : String × Bytes}
    (h : header ∈ single name value) : header.1 = name := by
  cases value with
  | none => cases h
  | some value => rw [List.mem_singleton.mp h]

theorem get?_single {name other : String} (value : Option Bytes) :
    Headers.get? (single name value) other = if other = name then value else none := by
  cases value with
  | none => simp [single, Headers.get?]
  | some value =>
    by_cases h : other = name
    · simp [single, Headers.get?, h]
    · have hb : (other == name) = false := by simpa using h
      simp [single, Headers.get?, List.lookup_cons, hb, h]

theorem get?_foldl_single {headers : Headers} {name other : String} (h : name ≠ "vary")
    (value : Option Bytes) :
    Headers.get? ((single name value).foldl place headers) other =
      if other = name then value.or (headers.get? name) else headers.get? other := by
  by_cases ho : other = name
  · rw [if_pos ho, ho]
    cases value with
    | none => rfl
    | some value =>
      rw [single, List.foldl_cons, List.foldl_nil, place, if_neg h]
      exact Headers.get?_put_self
  · rw [if_neg ho]
    exact foldl_place_get? fun header hm => name_of_mem_single hm ▸ ho

section Answers

variable {rules : List Rule} {p : Policy} {request : Headers} {response : Response}

theorem decorate_get? {name : String} (h : name ≠ "vary") :
    (p.decorate request response).headers.get? name =
      if name = "access-control-allow-credentials" then
        (if p.credentials then some (bytesOf "true") else none).or (response.headers.get? name)
      else if name = "access-control-allow-origin" then
        (p.allowedOrigin request).or (response.headers.get? name)
      else response.headers.get? name := by
  have hvary : ∀ header ∈ [("vary", bytesOf vary)], name ≠ header.1 := by simpa using h
  rw [decorate, commonHeaders, List.foldl_append, List.foldl_append]
  dsimp only
  rw [foldl_place_get? hvary, get?_foldl_single (by decide), get?_foldl_single (by decide),
    get?_foldl_single (by decide)]
  by_cases hc : name = "access-control-allow-credentials"
  · simp [hc]
  · rw [if_neg hc, if_neg hc]
    by_cases ho : name = "access-control-allow-origin" <;> simp [ho]

theorem preflight_origin :
    (p.preflight request).headers.get? "access-control-allow-origin" = p.allowedOrigin request := by
  have hvary : [("vary", bytesOf vary)] = single "vary" (some (bytesOf vary)) := rfl
  simp only [preflight, commonHeaders, preflightHeaders, hvary, Headers.get?_append, get?_single]
  simp

theorem preflight_credentials :
    (p.preflight request).headers.get? "access-control-allow-credentials" =
      if p.credentials then some (bytesOf "true") else none := by
  have hvary : [("vary", bytesOf vary)] = single "vary" (some (bytesOf vary)) := rfl
  simp only [preflight, commonHeaders, preflightHeaders, hvary, Headers.get?_append, get?_single]
  simp

theorem allowedOrigin_eq_some_iff (h : Joins rules p) (hstar : ∀ r ∈ rules, r.origin ≠ "*")
    {origin : Bytes} (horigin : request.get? "origin" = some origin) :
    p.allowedOrigin request = some origin ↔ ∃ r ∈ rules, r.IsFor origin := by
  rw [allowedOrigin, horigin]
  cases hp : p.origins with
  | any =>
    obtain ⟨r, hr, hany⟩ := h.anyOrigin.mp hp
    exact absurd hany (hstar r hr)
  | listed values =>
    have hvalues := h.origins values hp origin
    simp only [Option.filter_eq_some_iff, true_and, List.contains_iff_mem, hvalues]
    rfl

end Answers

end Policy

/-! ## Answers under rules -/

section Shared

variable {σ : Type} {rules : List Rule} {inner : Request → StateM σ Response}

def answered (rules : List Rule) (inner : Request → StateM σ Response) :
    Request → StateM σ Response :=
  match Policy.ofRules rules with
  | some p => p.around inner
  | none => inner

/-- Who answers leaves origins and their credentials to the policy. -/
def LeavesToPolicy (inner : Request → StateM σ Response) : Prop :=
  ∀ request world,
    (inner request world).1.headers.get? "access-control-allow-origin" = none ∧
    (inner request world).1.headers.get? "access-control-allow-credentials" = none

theorem around_shared_iff (hinner : LeavesToPolicy inner) (p : Policy) (request : Request)
    (world : σ) (origin : Bytes) :
    SharedWith (p.around inner request world).1 origin ↔
      p.allowedOrigin request.headers = some origin ∧ p.credentials = true := by
  have hshared : ∀ response : Response,
      response.headers.get? "access-control-allow-origin" = p.allowedOrigin request.headers →
      (response.headers.get? "access-control-allow-credentials" =
        if p.credentials then some (bytesOf "true") else none) →
      (SharedWith response origin ↔
        p.allowedOrigin request.headers = some origin ∧ p.credentials = true) := by
    intro response ho hc
    constructor
    · rintro ⟨horigin, hcredentials⟩
      rw [ho] at horigin
      rw [hc] at hcredentials
      exact ⟨horigin, by simpa using hcredentials⟩
    · rintro ⟨horigin, hcredentials⟩
      exact ⟨ho.trans horigin, by rw [hc, if_pos hcredentials]⟩
  obtain ⟨ho, hc⟩ := hinner request world
  rw [Policy.around]
  -- The policy answers a preflight itself, and adds to what anything else was answered.
  by_cases hm : request.method = "OPTIONS"
  · rw [if_pos hm]
    exact hshared _ Policy.preflight_origin Policy.preflight_credentials
  · rw [if_neg hm]
    refine hshared (p.decorate request.headers (inner request world).1) ?_ ?_
    · rw [Policy.decorate_get? (by decide), if_neg (by decide), if_pos rfl, ho, Option.or_none]
    · rw [Policy.decorate_get? (by decide), if_pos rfl, hc, Option.or_none]

theorem answered_shared_iff (hinner : LeavesToPolicy inner) (hstar : ∀ r ∈ rules, r.origin ≠ "*")
    {request : Request} {origin : Bytes} (horigin : request.headers.get? "origin" = some origin)
    (world : σ) :
    SharedWith (answered rules inner request world).1 origin ↔
      (∃ r ∈ rules, r.IsFor origin) ∧ ∃ r ∈ rules, r.credentials = true := by
  by_cases hrules : rules = []
  · subst hrules
    refine iff_of_false ?_ (by simp)
    intro hshared
    cases (hinner request world).1.symm.trans hshared.origin
  · have hp := Policy.ofRules_eq hrules
    have hjoins := Policy.joins_of_ofRules hp
    rw [answered, hp]
    dsimp only
    rw [around_shared_iff hinner, Policy.allowedOrigin_eq_some_iff hjoins hstar horigin,
      hjoins.credentials, and_iff_left hstar]

/-- Credentials that one rule gives are given to every origin that a rule is for, and to no other
origin. One more rule gives none to an origin that it is not for, unless it has credentials itself
and the origin has a rule of its own. -/
theorem credentials_shared_by_rules (hinner : LeavesToPolicy inner)
    (hstar : ∀ r ∈ rules, r.origin ≠ "*") {request : Request} {origin : Bytes}
    (horigin : request.headers.get? "origin" = some origin) (world : σ) :
    (SharedWith (answered rules inner request world).1 origin ↔
      (∃ r ∈ rules, r.IsFor origin) ∧ ∃ r ∈ rules, r.credentials = true) ∧
    ∀ added : Rule, added.origin ≠ "*" → ¬added.IsFor origin →
      (SharedWith (answered (rules++[added]) inner request world).1 origin ↔
        SharedWith (answered rules inner request world).1 origin ∨
          added.credentials = true ∧ ∃ r ∈ rules, r.IsFor origin) := by
  refine ⟨answered_shared_iff hinner hstar horigin world, fun added hadded hother => ?_⟩
  have hall : ∀ r ∈ rules++[added], r.origin ≠ "*" := by
    intro r hr
    rcases List.mem_append.mp hr with hr | hr
    · exact hstar r hr
    · exact List.mem_singleton.mp hr ▸ hadded
  rw [answered_shared_iff hinner hall horigin, answered_shared_iff hinner hstar horigin]
  simp only [List.mem_append, List.mem_singleton, or_and_right, exists_or, exists_eq_left, hother,
    or_false]
  rw [and_or_left]
  exact or_congr_right and_comm

end Shared

def shop : Rule := ⟨"https://shop.example", ["GET"], ["x-cart"], true, none⟩

def journal : Rule := .ofOrigin "journal.example/"

def visit : Request :=
  .ofParts "GET" "/" [("origin", bytesOf "https://journal.example")] []

def greeting : Request → StateM Unit Response := fun _ => pure (.ofText 200 "hello")

theorem greeting_leavesToPolicy : LeavesToPolicy greeting := by
  intro request world
  exact ⟨rfl, rfl⟩

theorem journal_shares_with_shop :
    (∀ r ∈ [journal], r.origin ≠ "*") ∧
      visit.headers.get? "origin" = some (bytesOf "https://journal.example") ∧
      ¬SharedWith (answered [journal] greeting visit ()).1 (bytesOf "https://journal.example") ∧
      SharedWith (answered ([journal]++[shop]) greeting visit ()).1
        (bytesOf "https://journal.example") := by
  have hstar : ∀ r ∈ [journal], r.origin ≠ "*" := by decide
  have hvisit : visit.headers.get? "origin" = some (bytesOf "https://journal.example") := rfl
  obtain ⟨hshared, hadded⟩ :=
    credentials_shared_by_rules greeting_leavesToPolicy hstar hvisit ()
  have halone :
      ¬SharedWith (answered [journal] greeting visit ()).1 (bytesOf "https://journal.example") := by
    rw [hshared]
    decide +kernel
  refine ⟨hstar, hvisit, halone, ?_⟩
  rw [hadded shop (by decide) (by decide +kernel)]
  exact .inr ⟨rfl, by decide +kernel⟩

def generous : Request → StateM Unit Response := fun _ =>
  pure ⟨200, [("access-control-allow-credentials", bytesOf "true")], []⟩

/-- Credentials do not stay with the origins that they were given to: the journal has those of the
shop. Where an answer allows them by itself, no rule need give any. -/
theorem not_kept_to_granted :
    (¬∀ (rules : List Rule) (p : Policy), Policy.ofRules rules = some p → p.isSound = true →
      (∀ r ∈ rules, r.origin ≠ "*") → ∀ inner : Request → StateM Unit Response,
      LeavesToPolicy inner → ∀ request origin, request.headers.get? "origin" = some origin →
      SharedWith (answered rules inner request ()).1 origin →
      ∃ r ∈ rules, r.IsFor origin ∧ r.credentials = true) ∧
    (¬∀ (rules : List Rule) (added : Rule), (∀ r ∈ rules++[added], r.origin ≠ "*") →
      ∀ inner : Request → StateM Unit Response, LeavesToPolicy inner →
      ∀ request origin, request.headers.get? "origin" = some origin → ¬added.IsFor origin →
      SharedWith (answered (rules++[added]) inner request ()).1 origin →
      SharedWith (answered rules inner request ()).1 origin) ∧
    ¬∀ rules : List Rule, (∀ r ∈ rules, r.origin ≠ "*") →
      ∀ (inner : Request → StateM Unit Response) (request : Request) (origin : Bytes),
      request.headers.get? "origin" = some origin →
      SharedWith (answered rules inner request ()).1 origin →
      ∃ r ∈ rules, r.credentials = true := by
  have hstar : ∀ r ∈ [journal]++[shop], r.origin ≠ "*" := by decide
  have hvisit : visit.headers.get? "origin" = some (bytesOf "https://journal.example") := rfl
  have hboth : SharedWith (answered ([journal]++[shop]) greeting visit ()).1
      (bytesOf "https://journal.example") := by
    rw [answered_shared_iff greeting_leavesToPolicy hstar hvisit]
    decide +kernel
  refine ⟨?_, ?_, ?_⟩
  · intro hkept
    have hgranted := hkept _ _ (Policy.ofRules_eq (List.cons_ne_nil _ _)) (by decide +kernel) hstar
      greeting greeting_leavesToPolicy visit _ hvisit hboth
    revert hgranted
    decide +kernel
  · intro hnever
    have halone := hnever [journal] shop hstar greeting greeting_leavesToPolicy visit _ hvisit
      (by decide +kernel) hboth
    rw [answered_shared_iff greeting_leavesToPolicy (by decide) hvisit] at halone
    revert halone
    decide +kernel
  · intro hgiven
    have hshared : SharedWith (answered [journal] generous visit ()).1
        (bytesOf "https://journal.example") := ⟨by decide +kernel, by decide +kernel⟩
    have hgranted := hgiven [journal] (by decide) generous visit _ hvisit hshared
    revert hgranted
    decide

end WebApplication.Http.Cors
