import WebApplication.Http.Cors
import WebApplication.Proofs.Text.Bytes

/-!
# One policy of many rules

What the policy of a server allows is said by its rules taken together, whichever order they are
in and however often one of them is repeated: any origin if one rule says so, and otherwise the
origins of all; the methods and headers of all; credentials if one rule gives them and none takes
every origin. With credentials neither the origins nor the headers are a wildcard.
-/

set_option autoImplicit false

namespace WebApplication.Http.Cors

/-! ## Origins -/

theorem holds_normalizeOrigin (origin : String) :
    Text.holds "://" (normalizeOrigin origin) = true := by
  rw [normalizeOrigin]
  split
  · assumption
  · simp [Text.holds, Text.holdsChars]

theorem value?_normalizeOrigin_ne (origin : String) :
    Headers.value? (normalizeOrigin origin) ≠ some (bytesOf "*") := by
  intro h
  have hbytes : bytesOf (normalizeOrigin origin) = bytesOf "*" := by
    rw [Headers.value?] at h
    split at h
    · exact Option.some.inj h
    · cases h
  have hstar : normalizeOrigin origin = "*" := Text.utf8_inj.mp hbytes
  have hholds := holds_normalizeOrigin origin
  rw [hstar] at hholds
  revert hholds
  decide

/-! ## Each entry once -/

namespace Policy

theorem mem_addNew {values : List String} {value other : String} :
    other ∈ addNew values value ↔ other ∈ values ∨ other = value := by
  rw [addNew]
  split
  · rename_i h
    constructor
    · exact .inl
    · rintro (ho | rfl)
      · exact ho
      · exact List.contains_iff_mem.mp h
  · simp

theorem nodup_addNew {values : List String} (h : values.Nodup) (value : String) :
    (addNew values value).Nodup := by
  rw [addNew]
  split
  · exact h
  · rename_i hn
    have hnew : value ∉ values := by simpa using hn
    refine List.nodup_append.mpr ⟨h, by simp, ?_⟩
    rintro a ha b hb rfl
    exact hnew (List.mem_singleton.mp hb ▸ ha)

theorem mem_foldl_addNew {added values : List String} {value : String} :
    value ∈ added.foldl addNew values ↔ value ∈ values ∨ value ∈ added := by
  induction added generalizing values with
  | nil => simp
  | cons first added ih => rw [List.foldl_cons, ih, mem_addNew, List.mem_cons, or_assoc]

theorem nodup_foldl_addNew {values : List String} (h : values.Nodup) (added : List String) :
    (added.foldl addNew values).Nodup := by
  induction added generalizing values with
  | nil => exact h
  | cons first added ih => exact ih (nodup_addNew h first)

section Unions

variable {rules : List Rule}

theorem mem_unionMethods {method : Method} :
    method ∈ unionMethods rules ↔
      Headers.isToken method = true ∧ ∃ r ∈ rules, method ∈ r.methods := by
  simp [unionMethods, mem_foldl_addNew, and_comm]

theorem mem_unionHeaders {name : String} :
    name ∈ unionHeaders rules ↔
      ∃ r ∈ rules, ∃ header ∈ r.headers, Headers.name? header = some name := by
  simp only [unionHeaders, mem_foldl_addNew, List.not_mem_nil, false_or, List.mem_filterMap,
    List.mem_flatMap]
  constructor
  · rintro ⟨header, ⟨r, hr, hheader⟩, hname⟩
    exact ⟨r, hr, header, hheader, hname⟩
  · rintro ⟨r, hr, header, hheader, hname⟩
    exact ⟨header, ⟨r, hr, hheader⟩, hname⟩

theorem mem_unionOrigins {value : Bytes} :
    value ∈ unionOrigins rules ↔
      ∃ r ∈ rules, r.origin ≠ "*" ∧ Headers.value? (normalizeOrigin r.origin) = some value := by
  simp [unionOrigins, and_assoc]

theorem nodup_unionMethods (rules : List Rule) : (unionMethods rules).Nodup :=
  nodup_foldl_addNew List.nodup_nil _

theorem nodup_unionHeaders (rules : List Rule) : (unionHeaders rules).Nodup :=
  nodup_foldl_addNew List.nodup_nil _

theorem max?_maxAge_iff {n : Nat} :
    (rules.filterMap Rule.maxAge).max? = some n ↔
      (∃ r ∈ rules, r.maxAge = some n) ∧ ∀ r ∈ rules, ∀ m, r.maxAge = some m → m ≤ n := by
  simp only [List.max?_eq_some_iff, List.mem_filterMap]
  constructor
  · rintro ⟨hn, hmost⟩
    exact ⟨hn, fun r hr m hm => hmost m ⟨r, hr, hm⟩⟩
  · rintro ⟨hn, hmost⟩
    exact ⟨hn, fun m ⟨r, hr, hm⟩ => hmost r hr m hm⟩

end Unions

theorem headers_modes (anyHeader credentials : Bool) (names : List String) :
    let headers := if !anyHeader then AllowedHeaders.listed names
      else if credentials then .requested else .any
    (headers = .any ∨ headers = .requested ↔ anyHeader = true) ∧
      (headers = .requested ↔ credentials = true ∧ anyHeader = true) ∧
      ∀ others, headers = .listed others → names = others := by
  cases anyHeader <;> cases credentials <;> simp

/-! ## The rules taken together -/

structure Joins (rules : List Rule) (p : Policy) : Prop where
  anyOrigin : p.origins = .any ↔ ∃ r ∈ rules, r.origin = "*"
  origins : ∀ values, p.origins = .listed values →
    ∀ value, value ∈ values ↔
      ∃ r ∈ rules, Headers.value? (normalizeOrigin r.origin) = some value
  methods : ∀ method, method ∈ p.methods ↔
    Headers.isToken method = true ∧ ∃ r ∈ rules, method ∈ r.methods
  anyHeader : p.headers = .any ∨ p.headers = .requested ↔ ∃ r ∈ rules, r.headers = []
  requested : p.headers = .requested ↔ p.credentials = true ∧ ∃ r ∈ rules, r.headers = []
  headers : ∀ names, p.headers = .listed names →
    ∀ name, name ∈ names ↔
      ∃ r ∈ rules, ∃ header ∈ r.headers, Headers.name? header = some name
  credentials : p.credentials = true ↔
    (∃ r ∈ rules, r.credentials = true) ∧ ∀ r ∈ rules, r.origin ≠ "*"
  maxAge : ∀ n, p.maxAge = some n ↔
    (∃ r ∈ rules, r.maxAge = some n) ∧ ∀ r ∈ rules, ∀ m, r.maxAge = some m → m ≤ n
  methodsOnce : p.methods.Nodup
  headersOnce : ∀ names, p.headers = .listed names → names.Nodup

inductive OriginsAlike : Origins → Origins → Prop
  | any : OriginsAlike .any .any
  | listed {values others : List Bytes} (h : ∀ value, value ∈ others ↔ value ∈ values) :
      OriginsAlike (.listed values) (.listed others)

inductive HeadersAlike : AllowedHeaders → AllowedHeaders → Prop
  | any : HeadersAlike .any .any
  | requested : HeadersAlike .requested .requested
  | listed {names others : List String} (h : ∀ name, name ∈ others ↔ name ∈ names) :
      HeadersAlike (.listed names) (.listed others)

structure Alike (p q : Policy) : Prop where
  origins : OriginsAlike p.origins q.origins
  methods : ∀ method, method ∈ q.methods ↔ method ∈ p.methods
  headers : HeadersAlike p.headers q.headers
  credentials : q.credentials = p.credentials
  maxAge : q.maxAge = p.maxAge

theorem ofRules_eq {rules : List Rule} (h : rules ≠ []) :
    ofRules rules = some {
      origins := if rules.any (·.origin == "*") then .any else .listed (unionOrigins rules)
      methods := unionMethods rules
      headers := if !rules.any (·.headers.isEmpty) then .listed (unionHeaders rules)
        else if !rules.any (·.origin == "*") && rules.any (·.credentials) then .requested else .any
      credentials := !rules.any (·.origin == "*") && rules.any (·.credentials)
      maxAge := (rules.filterMap Rule.maxAge).max? } := by
  rw [ofRules, if_neg (by simpa using h)]

theorem joins_of_ofRules {rules : List Rule} {p : Policy} (h : ofRules rules = some p) :
    Joins rules p := by
  have hrules : rules ≠ [] := by
    rintro rfl
    cases h
  rw [ofRules_eq hrules, Option.some.injEq] at h
  subst h
  have hany : rules.any (·.origin == "*") = true ↔ ∃ r ∈ rules, r.origin = "*" := by simp
  have hempty : rules.any (·.headers.isEmpty) = true ↔ ∃ r ∈ rules, r.headers = [] := by simp
  obtain ⟨hanyHeader, hrequested, hlisted⟩ := headers_modes (rules.any (·.headers.isEmpty))
    (!rules.any (·.origin == "*") && rules.any (·.credentials)) (unionHeaders rules)
  constructor
  case anyOrigin =>
    rw [← hany]
    cases rules.any (·.origin == "*") <;> simp
  case origins =>
    intro values hvalues value
    cases horigin : rules.any (·.origin == "*") with
    | true => simp [horigin] at hvalues
    | false =>
      have hnone : ∀ r ∈ rules, r.origin ≠ "*" := by simpa using horigin
      rw [horigin, if_neg Bool.false_ne_true, Origins.listed.injEq] at hvalues
      rw [← hvalues, mem_unionOrigins]
      constructor
      · rintro ⟨r, hr, -, hvalue⟩
        exact ⟨r, hr, hvalue⟩
      · rintro ⟨r, hr, hvalue⟩
        exact ⟨r, hr, hnone r hr, hvalue⟩
  case methods =>
    intro method
    exact mem_unionMethods
  case anyHeader => rw [hanyHeader, hempty]
  case requested => rw [hrequested, hempty]
  case headers =>
    intro names hnames name
    rw [← hlisted names hnames]
    exact mem_unionHeaders
  case credentials => simp [and_comm]
  case maxAge =>
    intro n
    exact max?_maxAge_iff
  case methodsOnce => exact nodup_unionMethods rules
  case headersOnce =>
    intro names hnames
    rw [← hlisted names hnames]
    exact nodup_unionHeaders rules

namespace Joins

variable {rules others : List Rule} {p q : Policy}

/-- Only which rules there are matters, not their order or how often one stands there. -/
theorem of_mem_iff (h : Joins rules p) (hmem : ∀ r, r ∈ others ↔ r ∈ rules) : Joins others p := by
  have hex : ∀ {P : Rule → Prop}, (∃ r ∈ rules, P r) ↔ ∃ r ∈ others, P r := by
    intro P
    exact exists_congr fun r => and_congr_left fun _ => (hmem r).symm
  have hall : ∀ {P : Rule → Prop}, (∀ r ∈ rules, P r) ↔ ∀ r ∈ others, P r := by
    intro P
    exact forall_congr' fun r => imp_congr_left (hmem r).symm
  constructor
  case anyOrigin => rw [h.anyOrigin, hex]
  case origins =>
    intro values hvalues value
    rw [h.origins values hvalues, hex]
  case methods =>
    intro method
    rw [h.methods, hex]
  case anyHeader => rw [h.anyHeader, hex]
  case requested => rw [h.requested, hex]
  case headers =>
    intro names hnames name
    rw [h.headers names hnames, hex]
  case credentials => rw [h.credentials, hex, hall]
  case maxAge =>
    intro n
    rw [h.maxAge, hex, hall]
  case methodsOnce => exact h.methodsOnce
  case headersOnce => exact h.headersOnce

theorem alike (h : Joins rules p) (hq : Joins rules q) : Alike p q where
  origins := by
    have hany : q.origins = .any ↔ p.origins = .any := hq.anyOrigin.trans h.anyOrigin.symm
    cases hp : p.origins with
    | any =>
      rw [hany.mpr hp]
      exact .any
    | listed values =>
      cases hother : q.origins with
      | any => cases hp.symm.trans (hany.mp hother)
      | listed others =>
        refine .listed fun value => ?_
        rw [hq.origins others hother, h.origins values hp]
  methods method := by rw [hq.methods, h.methods]
  headers := by
    have hrequested : q.headers = .requested ↔ p.headers = .requested := by
      rw [hq.requested, h.requested, hq.credentials, h.credentials]
    have hanyHeader := hq.anyHeader.trans h.anyHeader.symm
    cases hp : p.headers with
    | any =>
      have hother : q.headers = .any := by simpa [hp, hrequested] using hanyHeader
      rw [hother]
      exact .any
    | requested =>
      rw [hrequested.mpr hp]
      exact .requested
    | listed names =>
      cases hother : q.headers with
      | any => simp [hp, hother] at hanyHeader
      | requested => simp [hp, hother] at hanyHeader
      | listed others =>
        refine .listed fun name => ?_
        rw [hq.headers others hother, h.headers names hp]
  credentials := Bool.eq_iff_iff.mpr (hq.credentials.trans h.credentials.symm)
  maxAge := Option.ext fun n => (hq.maxAge n).trans (h.maxAge n).symm

/-- A request is allowed if its origin is one of those that the rules are for. -/
theorem allowedOrigin_eq_none_iff (h : Joins rules p) {request : Headers} {origin : Bytes}
    (horigin : request.get? "origin" = some origin) :
    p.allowedOrigin request = none ↔
      ∀ r ∈ rules, r.origin ≠ "*" ∧ Headers.value? (normalizeOrigin r.origin) ≠ some origin := by
  rw [allowedOrigin, horigin]
  cases hp : p.origins with
  | any =>
    obtain ⟨r, hr, hstar⟩ := h.anyOrigin.mp hp
    simpa using ⟨r, hr, fun hne => absurd hstar hne⟩
  | listed values =>
    have hnone : ∀ r ∈ rules, r.origin ≠ "*" := by
      intro r hr hstar
      cases hp.symm.trans (h.anyOrigin.mpr ⟨r, hr, hstar⟩)
    have hvalues := h.origins values hp origin
    constructor
    · intro hfilter r hr
      refine ⟨hnone r hr, fun hvalue => ?_⟩
      simp [hvalues.mpr ⟨r, hr, hvalue⟩] at hfilter
    · intro hall
      have hout : origin ∉ values := by
        rw [hvalues]
        rintro ⟨r, hr, hvalue⟩
        exact (hall r hr).2 hvalue
      simp [hout]

theorem allowedHeaders_eq (h : Joins rules p) (hempty : ∃ r ∈ rules, r.headers = [])
    (request : Headers) :
    p.allowedHeaders request =
      if p.credentials then request.get? "access-control-request-headers"
      else some (bytesOf "*") := by
  have hrequested : p.headers = .requested ↔ p.credentials = true := by
    rw [h.requested, and_iff_left hempty]
  rw [allowedHeaders]
  rcases h.anyHeader.mpr hempty with hp | hp
  · have hc : ¬ p.credentials = true := by simp [← hrequested, hp]
    simp [hp, hc]
  · simp [hp, hrequested.mp hp]

/-- With credentials there is no wildcard that was not listed by name. -/
theorem no_wildcard (h : Joins rules p) (hc : p.credentials = true) :
    p.origins ≠ .any ∧ p.headers ≠ .any ∧
      ∀ request, p.allowedOrigin request ≠ some (bytesOf "*") := by
  have hnone := (h.credentials.mp hc).2
  have horigins : p.origins ≠ .any := by
    intro hp
    obtain ⟨r, hr, hstar⟩ := h.anyOrigin.mp hp
    exact hnone r hr hstar
  refine ⟨horigins, fun hp => ?_, fun request hallowed => ?_⟩
  · have hrequested := h.requested.mpr ⟨hc, h.anyHeader.mp (.inl hp)⟩
    cases hp.symm.trans hrequested
  · rw [allowedOrigin] at hallowed
    cases hp : p.origins with
    | any => exact horigins hp
    | listed values =>
      rw [hp] at hallowed
      have hin := (Option.filter_eq_some_iff.mp hallowed).2
      obtain ⟨r, -, hvalue⟩ := (h.origins values hp _).mp (List.contains_iff_mem.mp hin)
      exact value?_normalizeOrigin_ne r.origin hvalue

end Joins

/-- The policy of rules is theirs taken together, and what it answers to a request says so. Rules
in another order, or repeated, have a policy that allows the same. -/
theorem policy_joins_rules (rules : List Rule) (hrules : rules ≠ []) :
    ∃ p, ofRules rules = some p ∧ Joins rules p ∧
      (∀ request origin, Headers.get? request "origin" = some origin →
        (p.allowedOrigin request = none ↔ ∀ r ∈ rules,
          r.origin ≠ "*" ∧ Headers.value? (normalizeOrigin r.origin) ≠ some origin)) ∧
      ((∃ r ∈ rules, r.headers = []) → ∀ request, p.allowedHeaders request =
        if p.credentials then Headers.get? request "access-control-request-headers"
        else some (bytesOf "*")) ∧
      (p.credentials = true → p.origins ≠ .any ∧ p.headers ≠ .any ∧
        ∀ request, p.allowedOrigin request ≠ some (bytesOf "*")) ∧
      ∀ others, (∀ r, r ∈ others ↔ r ∈ rules) → ∃ q, ofRules others = some q ∧ Alike p q := by
  have hjoins := joins_of_ofRules (ofRules_eq hrules)
  refine ⟨_, ofRules_eq hrules, hjoins, fun request origin => hjoins.allowedOrigin_eq_none_iff,
    hjoins.allowedHeaders_eq, hjoins.no_wildcard, fun others hmem => ?_⟩
  have hothers : others ≠ [] := by
    obtain ⟨r, hr⟩ := List.exists_mem_of_ne_nil rules hrules
    exact List.ne_nil_of_mem ((hmem r).mpr hr)
  have hjoined := joins_of_ofRules (ofRules_eq hothers)
  exact ⟨_, ofRules_eq hothers, hjoins.alike (hjoined.of_mem_iff fun r => (hmem r).symm)⟩

def shopRules : List Rule :=
  [⟨"shop.example/", ["GET", "bad method"], ["X-Cart"], true, some 5⟩,
    ⟨"http://localhost:3000", ["PUT", "GET"], [], false, some 600⟩]

theorem shopRules_joined :
    ∃ p q, ofRules shopRules = some p ∧ ofRules (shopRules.reverse++shopRules) = some q ∧
      Alike p q ∧ p.credentials = true ∧ p.origins ≠ .any ∧ p.maxAge = some 600 ∧
      p.allowedOrigin [("origin", bytesOf "https://shop.example")] ≠ none ∧
      p.allowedOrigin [("origin", bytesOf "http://shop.example")] = none ∧
      p.allowedHeaders [("access-control-request-headers", bytesOf "x-a")] =
        some (bytesOf "x-a") := by
  have hmem : ∀ r, r ∈ shopRules.reverse++shopRules ↔ r ∈ shopRules := by simp
  obtain ⟨p, hp, hjoins, horigin, hheaders, hwild, hothers⟩ :=
    policy_joins_rules shopRules (by decide)
  obtain ⟨q, hq, halike⟩ := hothers _ hmem
  have hcredentials : p.credentials = true := hjoins.credentials.mpr (by decide)
  have hempty : ∃ r ∈ shopRules, r.headers = [] := by decide
  refine ⟨p, q, hp, hq, halike, hcredentials, (hwild hcredentials).1,
    (hjoins.maxAge 600).mpr (by decide), ?_, ?_, ?_⟩
  · rw [ne_eq, horigin _ _ rfl]
    decide +kernel
  · rw [horigin _ _ rfl]
    decide +kernel
  · rw [hheaders hempty, hcredentials]
    rfl

end Policy

end WebApplication.Http.Cors
