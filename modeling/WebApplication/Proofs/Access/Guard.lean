import WebApplication.Access.Chain
import WebApplication.Proofs.Route.Nesting

/-!
# Prefixes under guard

A rule for all the rest of a path behind a prefix decides for every path below the prefix
that no rule before it matches. What a table nested under the prefix matches is below it,
so nothing that the table serves escapes the rule.
-/

set_option autoImplicit false

namespace WebApplication.Access

open Route (Below BraceFree)

theorem Chain.ruleFor_append {path : String} {earlier rules : List (Route.Pattern × Requirement)}
    (h : ∀ rule ∈ earlier, rule.1.matchPath path = none) :
    ruleFor path (earlier++rules) = ruleFor path rules := by
  induction earlier with
  | nil => rfl
  | cons rule earlier ih =>
    obtain ⟨hrule, hearlier⟩ := List.forall_mem_cons.mp h
    simp [ruleFor, hrule, ih hearlier]

def guardText (base : String) : String := base++"/\x7b*rest\x7d"

theorem segments_of_guard {base : String} (hb : BraceFree base) {guard : Route.Pattern}
    (h : Route.Pattern.parse (guardText base) = .ok guard) :
    guard.segments = (Text.split '/' base).map Route.Segment.literal++[.catchAll "rest"] := by
  have htext : guardText base = base++"/"++"\x7b*rest\x7d" := by
    rw [guardText, String.append_assoc]
    rfl
  rw [htext, Route.Pattern.parse_below hb] at h
  cases h
  rfl

/-- A table nested under a prefix without braces serves no path for which another access
is required than that of the rule which guards the prefix, if no rule before this one
matches anything below the prefix. A table of patterns that were read can be nested so. -/
theorem nested_guarded {σ : Type} {base : String} (hb : BraceFree base) {c : Chain}
    {earlier later : List (Route.Pattern × Requirement)} {guard : Route.Pattern}
    {access : Requirement} (hc : c.rules = earlier++(guard, access)::later)
    (hg : Route.Pattern.parse (guardText base) = .ok guard)
    (he : ∀ rule ∈ earlier, ∀ path, Below base path → rule.1.matchPath path = none)
    {table : Route.Table σ} (ht : table.Rooted) :
    (∀ nested, table.nest base = .ok nested → ∀ method path found,
      nested.find? method path = some found → c.accessFor path = access) ∧
    (base ≠ "" → table.WasRead → ∃ nested, table.nest base = .ok nested) := by
  refine ⟨fun nested hn method path found hf => ?_, fun hne => Route.Table.exists_nest hb hne ht⟩
  have hbelow := Route.Table.below_of_find? hb ht hn hf
  obtain ⟨params, hm⟩ := Route.Pattern.matchPath_of_below (segments_of_guard hb hg) hbelow
  rw [Chain.accessFor, hc, Chain.ruleFor_append fun rule hr => he rule hr path hbelow,
    Chain.ruleFor, hm]
  rfl

def apiChain : Chain where
  manager := Manager.ofList []
  rules := [(⟨[.literal "", .literal "login"]⟩, .permitAll),
    (⟨[.literal "", .literal "api", .catchAll "rest"]⟩, .hasRole "ADMIN"),
    (⟨[.literal "", .literal "api", .literal "open"]⟩, .permitAll)]
  challenge := Http.bytesOf "Basic"

def apiTable : Route.Table Unit :=
  ⟨[⟨"GET", ⟨[.literal "", .literal "open"]⟩, ⟨0, .direct, fun _ => return .ofStatus 200⟩⟩,
    ⟨"GET", ⟨[.literal "", .catchAll "page"]⟩, ⟨1, .deferred, fun _ => return .ofStatus 200⟩⟩]⟩

theorem not_below_both {path : String} (h : Below "/login" path) : ¬Below "/api" path := by
  intro hapi
  have hcomparable := h.comparable hapi
  revert hcomparable
  decide

theorem open_page_guarded : BraceFree "/api" ∧ apiTable.Rooted ∧
    ∃ nested, apiTable.nest "/api" = .ok nested ∧
      (nested.find? "HEAD" "/api/open/").isSome = true ∧
      (nested.find? "GET" "/api").isSome = true ∧
      apiChain.accessFor "/api/open/" = .hasRole "ADMIN" ∧
      apiChain.accessFor "/api" = .hasRole "ADMIN" := by
  have hb : BraceFree "/api" := by simp [BraceFree, Route.Segment.isBrace]
  have hr : apiTable.Rooted := by
    intro e he
    rcases List.mem_cons.mp he with rfl | he
    · exact ⟨"open", rfl⟩
    · rw [List.mem_singleton.mp he]
      exact ⟨"\x7b*page\x7d", rfl⟩
  have he : ∀ rule ∈ [((⟨[.literal "", .literal "login"]⟩ : Route.Pattern), Requirement.permitAll)],
      ∀ path, Below "/api" path → rule.1.matchPath path = none := by
    intro rule hrule path hpath
    rw [List.mem_singleton.mp hrule]
    rw [Option.eq_none_iff_forall_ne_some]
    intro params hm
    have hs : (⟨[.literal "", .literal "login"]⟩ : Route.Pattern).segments =
        (Text.split '/' "/login").map Route.Segment.literal++[] := rfl
    exact not_below_both (Route.Pattern.below_of_matchPath hs hm) hpath
  have hn : apiTable.nest "/api" = .ok ⟨[
      ⟨"GET", ⟨[.literal "", .literal "api", .literal "open"]⟩,
        ⟨0, .direct, fun _ => return .ofStatus 200⟩⟩,
      ⟨"GET", ⟨[.literal "", .literal "api", .catchAll "page"]⟩,
        ⟨1, .deferred, fun _ => return .ofStatus 200⟩⟩]⟩ := rfl
  have hguard := (nested_guarded hb (c := apiChain) rfl rfl he hr).1 _ hn
  exact ⟨hb, hr, _, hn, rfl, rfl, hguard "HEAD" "/api/open/" _ rfl, hguard "GET" "/api" _ rfl⟩

end WebApplication.Access
