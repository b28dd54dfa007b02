import Mathlib.Data.List.Nodup
import WebApplication.Application.World
import WebApplication.Proofs.Bean.Dependencies
import WebApplication.Proofs.Http.Policy
import WebApplication.Proofs.Text.Trim
import WebApplication.Server.Service

/-!
# Servers that are put together

A valid server is put together, with any routes and access rules, unless its policy for other
origins is refused: its rules give credentials, and all that they list as methods or as headers is
a star. The star is a valid method and a valid name of a header, and alone in a list it reads as a
wildcard. An origin never does.
-/

set_option autoImplicit false

namespace WebApplication.Http.Cors

def OnlyStars (entries : List String) : Prop := "*" ∈ entries ∧ ∀ entry ∈ entries, entry = "*"

instance (entries : List String) : Decidable (OnlyStars entries) :=
  inferInstanceAs (Decidable (_ ∧ _))

/-- Rules whose credentials meet a star that stands alone. Headers that are not valid do not
count; without any header listed, a rule is for all of them. -/
structure Starred (rules : List Rule) : Prop where
  credentials : ∃ r ∈ rules, r.credentials = true
  origins : ∀ r ∈ rules, r.origin ≠ "*"
  star : OnlyStars (rules.flatMap Rule.methods) ∨ (∀ r ∈ rules, r.headers ≠ []) ∧
    OnlyStars ((rules.flatMap Rule.headers).filter fun header => (Headers.name? header).isSome)

/-! ## One star alone -/

theorem onlyStars_iff_eq {names : List String} (h : names.Nodup) :
    OnlyStars names ↔ names = ["*"] := by
  rw [← List.perm_singleton, List.perm_ext_iff_of_nodup h (List.nodup_singleton _)]
  constructor
  · rintro ⟨hin, hall⟩ name
    rw [List.mem_singleton]
    exact ⟨hall name, fun hname => hname ▸ hin⟩
  · intro hmem
    exact ⟨(hmem _).mpr (List.mem_singleton_self _),
      fun name hname => List.mem_singleton.mp ((hmem name).mp hname)⟩

theorem joined_eq_star_iff {names : List String} : Policy.joined names = "*" ↔ names = ["*"] := by
  rw [Policy.joined]
  match names with
  | [] => simp
  | [name] => simp
  | first::second::rest =>
    have hcomma : ',' ∈ (",".intercalate (first::second::rest)).toList := by
      simp [String.intercalate_cons_cons]
    constructor
    · intro hstar
      rw [hstar] at hcomma
      exact absurd hcomma (by decide)
    · intro hnames
      cases hnames

theorem name?_eq_star_iff {header : String} : Headers.name? header = some "*" ↔ header = "*" := by
  constructor
  · intro h
    rw [Headers.name?] at h
    split at h
    · have hlower : header.toList.map Char.toLower = ['*'] := by
        have hlist := congrArg String.toList (Option.some.inj h)
        simpa [Text.lowerAscii] using hlist
      obtain ⟨c, hc, hstar⟩ := List.map_eq_singleton_iff.mp hlower
      rw [(Text.toLower_eq_iff (by decide)).mp hstar] at hc
      exact String.toList_inj.mp hc
    · cases h
  · rintro rfl
    rfl

namespace Policy

section Wildcards

variable {rules : List Rule} {p : Policy}

theorem onlyStars_methods_iff (h : Joins rules p) :
    OnlyStars p.methods ↔ OnlyStars ((rules.flatMap Rule.methods).filter Headers.isToken) := by
  have hmem : ∀ method, method ∈ p.methods ↔
      method ∈ (rules.flatMap Rule.methods).filter Headers.isToken := by
    intro method
    rw [h.methods, List.mem_filter, List.mem_flatMap, and_comm]
  simp only [OnlyStars, hmem]

theorem onlyStars_headers_iff (h : Joins rules p) {names : List String}
    (hp : p.headers = .listed names) :
    OnlyStars names ↔
      OnlyStars ((rules.flatMap Rule.headers).filter fun header =>
        (Headers.name? header).isSome) := by
  generalize hvalid : (rules.flatMap Rule.headers).filter
    (fun header => (Headers.name? header).isSome) = valid
  have hnames : ∀ name, name ∈ names ↔ ∃ header ∈ valid, Headers.name? header = some name := by
    intro name
    rw [h.headers names hp, ← hvalid]
    simp only [List.mem_filter, List.mem_flatMap]
    constructor
    · rintro ⟨r, hr, header, hheader, hname⟩
      exact ⟨header, ⟨⟨r, hr, hheader⟩, Option.isSome_of_eq_some hname⟩, hname⟩
    · rintro ⟨header, ⟨⟨r, hr, hheader⟩, -⟩, hname⟩
      exact ⟨r, hr, header, hheader, hname⟩
  constructor
  · rintro ⟨hin, hall⟩
    obtain ⟨header, hheader, hname⟩ := (hnames "*").mp hin
    refine ⟨name?_eq_star_iff.mp hname ▸ hheader, fun other hother => ?_⟩
    have hsome : (Headers.name? other).isSome = true := by
      rw [← hvalid] at hother
      exact (List.mem_filter.mp hother).2
    obtain ⟨name, hname⟩ := Option.isSome_iff_exists.mp hsome
    have hstar : name = "*" := hall name ((hnames name).mpr ⟨other, hother, hname⟩)
    exact name?_eq_star_iff.mp (hstar ▸ hname)
  · rintro ⟨hin, hall⟩
    refine ⟨(hnames "*").mpr ⟨"*", hin, name?_eq_star_iff.mpr rfl⟩, fun name hname => ?_⟩
    obtain ⟨header, hheader, hname⟩ := (hnames name).mp hname
    exact Option.some.inj (hname.symm.trans (name?_eq_star_iff.mpr (hall header hheader)))

theorem headersAreWildcard_iff (h : Joins rules p) (hc : p.credentials = true) :
    p.headersAreWildcard = true ↔ (∀ r ∈ rules, r.headers ≠ []) ∧
      OnlyStars ((rules.flatMap Rule.headers).filter fun header =>
        (Headers.name? header).isSome) := by
  have hlisted : (∀ r ∈ rules, r.headers ≠ []) ↔ p.headers ≠ .requested := by
    rw [ne_eq, h.requested, and_iff_right hc]
    push Not
    rfl
  rw [hlisted, headersAreWildcard]
  cases hp : p.headers with
  | any => exact absurd hp (h.no_wildcard hc).2.1
  | requested => simp
  | listed names =>
    have hwild : (joined names == "*") = true ↔ joined names = "*" := beq_iff_eq
    rw [hwild, joined_eq_star_iff, ← onlyStars_iff_eq (h.headersOnce names hp),
      onlyStars_headers_iff h hp]
    simp

/-- A policy of rules with valid methods is refused just where the rules are starred. -/
theorem isSound_eq_false_iff (h : Joins rules p)
    (hvalid : ∀ r ∈ rules, ∀ method ∈ r.methods, Headers.isToken method = true) :
    p.isSound = false ↔ Starred rules := by
  have hmethods : joined p.methods = "*" ↔ OnlyStars (rules.flatMap Rule.methods) := by
    have hall : (rules.flatMap Rule.methods).filter Headers.isToken =
        rules.flatMap Rule.methods := by
      rw [List.filter_eq_self]
      intro method hmethod
      obtain ⟨r, hr, hmethod⟩ := List.mem_flatMap.mp hmethod
      exact hvalid r hr method hmethod
    rw [joined_eq_star_iff, ← onlyStars_iff_eq h.methodsOnce, onlyStars_methods_iff h, hall]
  have hsound : p.isSound = false ↔ p.credentials = true ∧
      (joined p.methods = "*" ∨ p.headersAreWildcard = true ∨ p.origins = .any) := by
    simp only [isSound, Bool.not_eq_false', Bool.and_eq_true, Bool.or_eq_true, beq_iff_eq, or_assoc]
  rw [hsound]
  constructor
  · rintro ⟨hc, hstar⟩
    obtain ⟨hgiven, horigins⟩ := h.credentials.mp hc
    refine ⟨hgiven, horigins, ?_⟩
    rcases hstar with hstar | hstar | hstar
    · exact .inl (hmethods.mp hstar)
    · exact .inr ((headersAreWildcard_iff h hc).mp hstar)
    · exact absurd hstar (h.no_wildcard hc).1
  · rintro ⟨hgiven, horigins, hstar⟩
    have hc := h.credentials.mpr ⟨hgiven, horigins⟩
    refine ⟨hc, ?_⟩
    rcases hstar with hstar | hstar
    · exact .inl (hmethods.mpr hstar)
    · exact .inr (.inl ((headersAreWildcard_iff h hc).mpr hstar))

theorem star_notMem_origins (h : Joins rules p) {values : List Bytes}
    (hp : p.origins = .listed values) : bytesOf "*" ∉ values := by
  intro hstar
  obtain ⟨r, -, hvalue⟩ := (h.origins values hp _).mp hstar
  exact value?_normalizeOrigin_ne r.origin hvalue

end Wildcards

end Policy

end WebApplication.Http.Cors

namespace WebApplication.Server

open Http (Headers bytesOf)
open Http.Cors (Policy Rule Starred)

section Valid

variable {C : Bean.Catalog} {σ : Type} {s : Settings C σ}

theorem methods_of_problems (h : s.problems = []) :
    ∀ r ∈ s.cors, ∀ method ∈ r.methods, Headers.isToken method = true := by
  intro r hr
  have hrules : (s.cors.mapIdx problemsOfRule).flatten = [] := by
    simp only [Settings.problems, List.append_eq_nil_iff] at h
    exact h.1.1.1.1
  obtain ⟨i, hi, rfl⟩ := List.getElem_of_mem hr
  have hrule : problemsOfRule i s.cors[i] = [] := by
    apply List.flatten_eq_nil_iff.mp hrules
    exact List.mem_mapIdx.mpr ⟨i, hi, rfl⟩
  simp only [problemsOfRule, List.append_eq_nil_iff] at hrule
  have hall : s.cors[i].methods.all Headers.isToken = true := by
    by_contra hnot
    simp [hnot] at hrule
  exact List.all_eq_true.mp hall

theorem assemble?_eq_none_iff (h : s.problems = []) (table : Route.Table σ)
    (chain : Option Access.Chain) :
    Service.assemble? s table chain = none ↔ Starred s.cors := by
  have hnone : Service.assemble? s table chain = none ↔
      ∃ p, Policy.ofRules s.cors = some p ∧ p.isSound = false := by
    rw [Service.assemble?]
    cases Policy.ofRules s.cors <;> simp
  rw [hnone]
  constructor
  · rintro ⟨p, hp, hsound⟩
    exact (Policy.isSound_eq_false_iff (Policy.joins_of_ofRules hp)
      (methods_of_problems h)).mp hsound
  · intro hstarred
    obtain ⟨r, hr, -⟩ := hstarred.credentials
    have hp := Policy.ofRules_eq (List.ne_nil_of_mem hr)
    exact ⟨_, hp, (Policy.isSound_eq_false_iff (Policy.joins_of_ofRules hp)
      (methods_of_problems h)).mpr hstarred⟩

/-- A valid server is put together, with any routes and any access rules, unless its rules for
other origins are starred. No origin makes a wildcard of their policy. -/
theorem assembled_unless_starred (h : s.problems = []) :
    (∀ table chain, Service.assemble? s table chain = none ↔ Starred s.cors) ∧
    ∀ p, Policy.ofRules s.cors = some p → ∀ values, p.origins = .listed values →
      bytesOf "*" ∉ values :=
  ⟨assemble?_eq_none_iff h, fun _ hp _ hvalues =>
    Policy.star_notMem_origins (Policy.joins_of_ofRules hp) hvalues⟩

end Valid

def shopRule : Rule := ⟨"https://shop.example", ["*"], ["content-type"], true, none⟩

def shop : Settings (Application.catalog .plain Nat) (Application.World Nat) :=
  (Settings.default _ _).withCors [shopRule]

theorem shop_problems : shop.problems = [] := by decide +kernel

/-- A second method would be enough. -/
theorem shop_refused :
    shop.problems = [] ∧ (∀ table chain, Service.assemble? shop table chain = none) ∧
    ∀ table chain, Service.assemble?
      (shop.withCors [.ofOrigin "https://other.example"]) table chain ≠ none := by
  have hother : (shop.withCors [.ofOrigin "https://other.example"]).problems = [] := by
    decide +kernel
  refine ⟨shop_problems, fun table chain => ?_, fun table chain => ?_⟩
  · rw [(assembled_unless_starred shop_problems).1]
    exact ⟨by decide, by decide, .inl (by decide)⟩
  · rw [ne_eq, (assembled_unless_starred hother).1]
    rintro ⟨-, -, hmethods | ⟨hheaders, -⟩⟩
    · revert hmethods
      decide
    · revert hheaders
      decide

/-- A server may be valid and not be put together. -/
theorem not_valid_assembled :
    ¬∀ (s : Settings (Application.catalog .plain Nat) (Application.World Nat)) table chain,
      s.problems = [] → Service.assemble? s table chain ≠ none := by
  intro hassembled
  apply hassembled shop .empty none shop_problems
  decide +kernel

end WebApplication.Server
