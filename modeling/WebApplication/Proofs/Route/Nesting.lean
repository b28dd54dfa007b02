import WebApplication.Proofs.Route.Grammar
import WebApplication.Proofs.Route.Matching
import WebApplication.Proofs.Traversal
import WebApplication.Route.Table

/-!
# Tables below a prefix

A prefix without braces stands before a pattern as literal segments. What a pattern
below it matches is the prefix itself or begins with it and a slash, and the pattern that
takes all the rest of a path behind the prefix matches all of that.
-/

set_option autoImplicit false

namespace WebApplication.Route

def Below (base path : String) : Prop := path = base ∨ ∃ rest, path = base++"/"++rest

theorem below_iff_split {base path : String} :
    Below base path ↔ ∃ left, Text.split '/' path = Text.split '/' base++left := by
  constructor
  · rintro (rfl | h)
    · exact ⟨[], (List.append_nil _).symm⟩
    · have hlonger : ∃ next rest, Text.split '/' path = Text.split '/' base++next::rest :=
        Text.split_longer_iff.mpr h
      obtain ⟨next, rest, hs⟩ := hlonger
      exact ⟨next::rest, hs⟩
  · rintro ⟨left, hs⟩
    cases left with
    | nil =>
      rw [List.append_nil] at hs
      exact .inl (Text.split_injective hs)
    | cons next rest => exact .inr (Text.split_longer_iff.mp ⟨next, rest, hs⟩)

theorem Below.comparable {base other path : String} (h : Below base path) (ho : Below other path) :
    Text.split '/' base <+: Text.split '/' other ∨ Text.split '/' other <+: Text.split '/' base := by
  obtain ⟨left, hl⟩ := below_iff_split.mp h
  obtain ⟨right, hr⟩ := below_iff_split.mp ho
  exact List.prefix_or_prefix_of_prefix ⟨left, hl.symm⟩ ⟨right, hr.symm⟩

namespace Pattern

/-! ## Reading -/

variable {base rest : String}

theorem parse_below (h : BraceFree base) (rest : String) :
    parse (base++"/"++rest) =
      (parseParts (base++"/"++rest) [] (Text.split '/' rest)).map fun segments =>
        ⟨(Text.split '/' base).map Segment.literal++segments⟩ := by
  have hne : base++"/"++rest ≠ "" := by simp
  have hplain : ∀ before name after,
      (Text.split '/' base).map Segment.literal = before++.catchAll name::after →
        after = [] ∧ Text.split '/' rest = [] :=
    fun _ name _ he => absurd (by simp [he]) (plain_literals (Text.split '/' base) name)
  have hwritten := parseParts_written (base++"/"++rest) (fresh_literals h []) hplain
  rw [texts_literals, names_literals, ← split_below, List.reverse_nil, List.nil_append] at hwritten
  rw [parse, if_neg hne, hwritten]
  cases parseParts (base++"/"++rest) [] (Text.split '/' rest) <;> rfl

theorem segments_of_parse_below (h : BraceFree base) {p : Pattern}
    (hp : parse (base++"/"++rest) = .ok p) :
    ∃ segments, p.segments = (Text.split '/' base).map Segment.literal++segments := by
  rw [parse_below h] at hp
  cases hr : parseParts (base++"/"++rest) [] (Text.split '/' rest) with
  | error e =>
    rw [hr] at hp
    cases hp
  | ok segments =>
    rw [hr] at hp
    cases hp
    exact ⟨segments, rfl⟩

/-! ## Matching -/

theorem matchParts_literals {front : List String} {segments : List Segment}
    {parts : List String} {params : Params} :
    matchParts (front.map Segment.literal++segments) parts = some params ↔
      ∃ left, parts = front++left ∧ matchParts segments left = some params := by
  induction front generalizing parts with
  | nil => simp
  | cons s front ih =>
    cases parts with
    | nil => simp [matchParts]
    | cons part parts =>
      simp only [List.map_cons, List.cons_append, matchParts]
      by_cases hp : part = s
      · simp [hp, ih]
      · simp [hp]

theorem below_of_matchPath {p : Pattern} {segments : List Segment}
    (hs : p.segments = (Text.split '/' base).map Segment.literal++segments) {path : String}
    {params : Params} (h : p.matchPath path = some params) : Below base path := by
  rw [below_iff_split]
  rw [matchPath_eq_some_iff, hs] at h
  rcases h with hm | ⟨-, -, front, hsplit, -, hm⟩
  · obtain ⟨left, hl, -⟩ := matchParts_literals.mp hm
    exact ⟨left, hl⟩
  · obtain ⟨left, rfl, -⟩ := matchParts_literals.mp hm
    exact ⟨left++[""], by rw [hsplit, List.append_assoc]⟩

theorem matchPath_eq_none {p : Pattern} (other : String) (segments : List Segment)
    (hs : p.segments = (Text.split '/' other).map Segment.literal++segments)
    (hn : ¬(Text.split '/' base <+: Text.split '/' other ∨
      Text.split '/' other <+: Text.split '/' base)) {path : String} (h : Below base path) :
    p.matchPath path = none := by
  rw [Option.eq_none_iff_forall_ne_some]
  intro params hm
  exact hn (h.comparable (below_of_matchPath hs hm))

theorem matchPath_of_below {p : Pattern} {name path : String}
    (hs : p.segments = (Text.split '/' base).map Segment.literal++[.catchAll name])
    (h : Below base path) : ∃ params, p.matchPath path = some params := by
  obtain ⟨left, hl⟩ := below_iff_split.mp h
  refine ⟨[(name, Text.join '/' left)], matchPath_eq_some_iff.mpr (.inl ?_)⟩
  rw [hs, hl, matchParts_literals]
  exact ⟨left, rfl, rfl⟩

end Pattern

namespace Table

variable {σ : Type} {table nested : Table σ} {base : String}

theorem firstMatch_matches {method : Http.Method} {path : String} {position : Nat}
    {entries : List (Entry σ)} {found : Match σ}
    (h : firstMatch method path position entries = some found) :
    found.entry ∈ entries ∧ found.entry.pattern.matchPath path = some found.params := by
  induction entries generalizing position with
  | nil => cases h
  | cons e es ih =>
    rw [firstMatch] at h
    split at h
    · rename_i params hm
      cases h
      by_cases he : e.method = method
      · rw [if_pos he] at hm
        exact ⟨List.mem_cons_self, hm⟩
      · rw [if_neg he] at hm
        cases hm
    · obtain ⟨hin, hm⟩ := ih h
      exact ⟨List.mem_cons_of_mem e hin, hm⟩

theorem find?_matches {method : Http.Method} {path : String} {found : Match σ}
    (h : table.find? method path = some found) :
    found.entry ∈ table.entries ∧ found.entry.pattern.matchPath path = some found.params := by
  rw [find?] at h
  split at h
  · rename_i hf
    cases h
    exact firstMatch_matches hf
  · split at h
    · exact firstMatch_matches h
    · cases h

theorem nestEntry_eq_ok_iff {e inner : Entry σ} :
    nestEntry base e = .ok inner ↔
      Pattern.parse (base++e.pattern.text) = .ok inner.pattern ∧
        inner.method = e.method ∧ inner.handler = e.handler := by
  obtain ⟨method, pattern, handler⟩ := inner
  rw [nestEntry]
  cases Pattern.parse (base++e.pattern.text) with
  | error failure => simp [bind, Except.bind]
  | ok found => simp [bind, Except.bind, eq_comm, and_left_comm]

theorem nest_eq (hb : base ≠ "") :
    table.nest base = (table.entries.mapM (nestEntry base)).map Table.mk := by
  rw [nest, if_neg hb]
  cases table.entries.mapM (nestEntry base) <;> rfl

theorem nest_eq_ok_iff (hb : base ≠ "") : table.nest base = .ok nested ↔
    List.Forall₂ (fun e inner => nestEntry base e = .ok inner) table.entries nested.entries := by
  obtain ⟨entries⟩ := nested
  rw [nest_eq hb, ← mapM_ok_iff]
  cases table.entries.mapM (nestEntry base) <;> simp [Except.map]

def Rooted (table : Table σ) : Prop := ∀ e ∈ table.entries, ∃ rest, e.pattern.text = "/"++rest

def WasRead (table : Table σ) : Prop :=
  ∀ e ∈ table.entries, Pattern.parse e.pattern.text = .ok e.pattern

/-- All that a nested table matches is below its prefix. -/
theorem below_of_find? (hb : BraceFree base) (ht : table.Rooted)
    (hn : table.nest base = .ok nested) {method : Http.Method} {path : String}
    {found : Match σ} (h : nested.find? method path = some found) : Below base path := by
  obtain ⟨hin, hm⟩ := find?_matches h
  have hne : base ≠ "" := by
    rintro rfl
    cases hn
  rw [nest_eq hne] at hn
  cases hs : table.entries.mapM (nestEntry base) with
  | error e =>
    rw [hs] at hn
    cases hn
  | ok entries =>
    rw [hs] at hn
    cases hn
    obtain ⟨e, he, hnested⟩ := exists_of_mem_mapM hs hin
    obtain ⟨rest, htext⟩ := ht e he
    have hparse := (nestEntry_eq_ok_iff.mp hnested).1
    rw [htext, ← String.append_assoc] at hparse
    obtain ⟨segments, hsegments⟩ := Pattern.segments_of_parse_below hb hparse
    exact Pattern.below_of_matchPath hsegments hm

theorem nestEntry_of_apart {p : Pattern} (hp : p.Spells base) (hplain : Segment.Plain p.segments)
    {e : Entry σ} {rest : String} (ht : e.pattern.text = "/"++rest)
    (hr : Pattern.parse e.pattern.text = .ok e.pattern)
    (hd : ∀ name ∈ e.pattern.names, name ∉ p.names) :
    ∃ tail, tail ≠ [] ∧ e.pattern.segments = .literal ""::tail ∧
      nestEntry base e = .ok { e with pattern := ⟨p.segments++tail⟩ } := by
  have hspells := Pattern.spells_of_parse hr
  rw [ht] at hspells
  obtain ⟨tail, hs, htail⟩ := hspells.rooted
  have hne : tail ≠ [] := by
    rintro rfl
    exact Text.split_ne_nil rest htail.symm
  refine ⟨tail, hne, hs, ?_⟩
  rw [nestEntry_eq_ok_iff, ht, ← String.append_assoc]
  exact ⟨Pattern.parse_of_spells (Pattern.spells_below hp hplain hspells hs htail hd), rfl, rfl⟩

theorem exists_nest (hb : BraceFree base) (hne : base ≠ "") (ht : table.Rooted)
    (hr : table.WasRead) : ∃ nested, table.nest base = .ok nested := by
  have hall : ∀ e ∈ table.entries, ∃ inner, nestEntry base e = .ok inner := by
    intro e he
    obtain ⟨rest, htext⟩ := ht e he
    have hapart : ∀ name ∈ e.pattern.names,
        name ∉ Pattern.names ⟨(Text.split '/' base).map Segment.literal⟩ := by
      intro name _
      rw [Pattern.names, Pattern.names_literals]
      exact List.not_mem_nil
    obtain ⟨tail, -, -, hnested⟩ := nestEntry_of_apart (Pattern.spells_literals hb hne)
      (Pattern.plain_literals _) htext (hr e he) hapart
    exact ⟨_, hnested⟩
  obtain ⟨entries, hs⟩ := exists_mapM_ok hall
  exact ⟨⟨entries⟩, by rw [nest_eq hne, hs, Except.map]⟩

end Table

end WebApplication.Route
