import WebApplication.Proofs.Text.Split
import WebApplication.Route.Pattern

/-!
# Patterns that were read

Reading a pattern loses nothing of its text. Braces stand in it only around variables,
every variable is named once, and a catch-all stands at most at the end.
-/

set_option autoImplicit false

namespace WebApplication.Route

namespace Segment

theorem eq_of_inner {cs inner : List Char} (h : inner? cs = some inner) :
    cs = '{'::(inner++['}']) := by
  cases cs with
  | nil => simp [inner?] at h
  | cons c cs =>
    by_cases hc : c = '{'
    · rcases hr : cs.reverse with _ | ⟨d, ds⟩
      · simp [inner?, hc, hr] at h
      · by_cases hd : d = '}'
        · have he : ds.reverse = inner := by simpa [inner?, hc, hr, hd] using h
          have hcs : cs = ds.reverse++[d] := by simpa using congrArg List.reverse hr
          rw [hc, hcs, hd, he]
        · simp [inner?, hc, hr, hd] at h
    · simp [inner?, hc] at h

theorem text_of_parse {isLast : Bool} {part : String} {segment : Segment}
    (h : parse isLast part = .ok segment) : segment.text = part := by
  unfold parse at h
  split at h
  · split at h
    · cases h
    · cases h
      rfl
  · rename_i name hi
    split at h
    · cases h
    · split at h
      · cases h
        rw [← String.toList_inj, eq_of_inner hi]
        simp [text]
      · cases h
  · rename_i name _ hi
    split at h
    · cases h
      rw [← String.toList_inj, eq_of_inner hi]
      simp [text]
    · cases h

theorem last_of_parse {isLast : Bool} {part name : String}
    (h : parse isLast part = .ok (.catchAll name)) : isLast = true := by
  unfold parse at h
  split at h
  · split at h <;> cases h
  · split at h
    · cases h
    · split at h
      · assumption
      · cases h
  · split at h <;> cases h

def WellFormed : Segment → Prop
  | literal s => ∀ c ∈ s.toList, isBrace c = false ∧ c ≠ '/'
  | var name => name ≠ "" ∧ ∀ c ∈ name.toList, isBrace c = false ∧ c ≠ '*' ∧ c ≠ '/'
  | catchAll name => name ≠ "" ∧ ∀ c ∈ name.toList, isBrace c = false ∧ c ≠ '*' ∧ c ≠ '/'

theorem wellFormed_name {name : List Char} (h : isName name = true) (hs : '/' ∉ name) :
    String.ofList name ≠ "" ∧
      ∀ c ∈ (String.ofList name).toList, isBrace c = false ∧ c ≠ '*' ∧ c ≠ '/' := by
  obtain ⟨hn, ha⟩ : name ≠ [] ∧ ∀ c ∈ name, isBrace c = false ∧ c ≠ '*' := by
    simpa [isName] using h
  constructor
  · intro he
    exact hn (by simpa using congrArg String.toList he)
  · intro c hc
    rw [String.toList_ofList] at hc
    exact ⟨(ha c hc).1, (ha c hc).2, fun he => hs (he ▸ hc)⟩

theorem wellFormed_of_parse {isLast : Bool} {part : String} {segment : Segment}
    (h : parse isLast part = .ok segment) (hs : '/' ∉ part.toList) : segment.WellFormed := by
  have hsub : ∀ inner, inner? part.toList = some inner → '/' ∉ inner := by
    intro inner hi hm
    rw [eq_of_inner hi] at hs
    simp [hm] at hs
  unfold parse at h
  split at h
  · split at h
    · cases h
    · rename_i hb
      cases h
      intro c hc
      refine ⟨?_, fun he => hs (he ▸ hc)⟩
      simpa using fun ht => hb (List.any_eq_true.mpr ⟨c, hc, ht⟩)
  · rename_i name hi
    have hname := hsub _ hi
    split at h
    · cases h
    · rename_i hn
      split at h
      · cases h
        exact wellFormed_name (by simpa using hn) fun hm => hname (by simp [hm])
      · cases h
  · rename_i name _ hi
    split at h
    · rename_i hn
      cases h
      exact wellFormed_name hn (hsub _ hi)
    · cases h

def Proper : List Segment → Prop
  | [] => True
  | .literal s::segments => '/' ∉ s.toList ∧ Proper segments
  | .var _::segments => Proper segments
  | .catchAll _::segments => segments = []

def Plain (segments : List Segment) : Prop := ∀ name, .catchAll name ∉ segments

theorem plain_of_cons {segment : Segment} {segments : List Segment}
    (h : Plain (segment::segments)) : Plain segments :=
  fun name hm => h name (by simp [hm])

/-- A catch-all stands behind everything else. -/
theorem plain_or_catchAll {segments : List Segment} (h : Proper segments) :
    Plain segments ∨ ∃ front name, segments = front++[.catchAll name] ∧ Plain front := by
  induction segments with
  | nil => exact .inl (by simp [Plain])
  | cons segment segments ih =>
    cases segment with
    | literal s =>
      rcases ih h.2 with hp | ⟨front, name, rfl, hp⟩
      · exact .inl (by simpa [Plain] using hp)
      · exact .inr ⟨.literal s::front, name, rfl, by simpa [Plain] using hp⟩
    | var x =>
      rcases ih h with hp | ⟨front, name, rfl, hp⟩
      · exact .inl (by simpa [Plain] using hp)
      · exact .inr ⟨.var x::front, name, rfl, by simpa [Plain] using hp⟩
    | catchAll name =>
      have he : segments = [] := h
      exact .inr ⟨[], name, by simp [he], by simp [Plain]⟩

theorem proper_of_append {front back : List Segment} (h : Proper (front++back))
    (hp : Plain front) : Proper front := by
  induction front with
  | nil => trivial
  | cons segment front ih =>
    cases segment with
    | literal s => exact ⟨h.1, ih h.2 (plain_of_cons hp)⟩
    | var x => exact ih h (plain_of_cons hp)
    | catchAll name => exact absurd (by simp) (hp name)

end Segment

namespace Pattern

open Segment (Proper)

def names (p : Pattern) : List String := p.segments.filterMap Segment.name?

/-- What reading one more part can do. -/
theorem parseParts_cons {whole part : String} {names parts : List String}
    {segments : List Segment} (h : parseParts whole names (part::parts) = .ok segments) :
    ∃ segment rest seen, segments = segment::rest ∧
      Segment.parse parts.isEmpty part = .ok segment ∧ parseParts whole seen parts = .ok rest ∧
      (segment.name? = none ∧ seen = names ∨
        ∃ name, segment.name? = some name ∧ name ∉ names ∧ seen = name::names) := by
  unfold parseParts at h
  split at h
  · cases h
  · rename_i segment hs
    split at h
    · rename_i hn
      cases hr : parseParts whole names parts with
      | error e => simp [hr, bind, Except.bind] at h
      | ok rest =>
        rw [hr] at h
        cases h
        exact ⟨segment, rest, names, rfl, hs, hr, .inl ⟨hn, rfl⟩⟩
    · rename_i name hn
      split at h
      · cases h
      · rename_i hc
        cases hr : parseParts whole (name::names) parts with
        | error e => simp [hr, bind, Except.bind] at h
        | ok rest =>
          rw [hr] at h
          cases h
          exact ⟨segment, rest, name::names, rfl, hs, hr,
            .inr ⟨name, hn, by simpa using hc, rfl⟩⟩

theorem texts_of_parseParts {whole : String} {names parts : List String}
    {segments : List Segment} (h : parseParts whole names parts = .ok segments) :
    segments.map Segment.text = parts := by
  induction parts generalizing names segments with
  | nil =>
    cases h
    rfl
  | cons part parts ih =>
    obtain ⟨segment, rest, seen, rfl, hs, hr, -⟩ := parseParts_cons h
    rw [List.map_cons, ih hr, Segment.text_of_parse hs]

theorem proper_of_parseParts {whole : String} {names parts : List String}
    {segments : List Segment} (h : parseParts whole names parts = .ok segments)
    (hp : ∀ part ∈ parts, '/' ∉ part.toList) : Proper segments := by
  induction parts generalizing names segments with
  | nil =>
    cases h
    trivial
  | cons part parts ih =>
    obtain ⟨segment, rest, seen, rfl, hs, hr, -⟩ := parseParts_cons h
    have hrest : Proper rest := ih hr fun q hq => hp q (by simp [hq])
    cases segment with
    | literal s =>
      have ht : s = part := Segment.text_of_parse hs
      exact ⟨ht ▸ hp part (by simp), hrest⟩
    | var x => exact hrest
    | catchAll x =>
      have hl : parts = [] := by simpa using Segment.last_of_parse hs
      subst hl
      cases hr
      rfl

theorem wellFormed_of_parseParts {whole : String} {names parts : List String}
    {segments : List Segment} (h : parseParts whole names parts = .ok segments)
    (hp : ∀ part ∈ parts, '/' ∉ part.toList) : ∀ segment ∈ segments, segment.WellFormed := by
  induction parts generalizing names segments with
  | nil =>
    cases h
    simp
  | cons part parts ih =>
    obtain ⟨segment, rest, seen, rfl, hs, hr, -⟩ := parseParts_cons h
    intro x hx
    rcases List.mem_cons.mp hx with rfl | hx
    · exact Segment.wellFormed_of_parse hs (hp part (by simp))
    · exact ih hr (fun q hq => hp q (by simp [hq])) x hx

theorem names_of_parseParts {whole : String} {names parts : List String}
    {segments : List Segment} (h : parseParts whole names parts = .ok segments) :
    (segments.filterMap Segment.name?).Nodup ∧
      ∀ name ∈ segments.filterMap Segment.name?, name ∉ names := by
  induction parts generalizing names segments with
  | nil =>
    cases h
    simp
  | cons part parts ih =>
    obtain ⟨segment, rest, seen, rfl, -, hr, ⟨hn, rfl⟩ | ⟨name, hn, hname, rfl⟩⟩ :=
      parseParts_cons h
    · simpa [hn] using ih hr
    · obtain ⟨hd, hs⟩ := ih hr
      rw [List.filterMap_cons_some hn]
      refine ⟨List.nodup_cons.mpr ⟨fun hm => hs name hm (by simp), hd⟩, ?_⟩
      intro x hx
      rcases List.mem_cons.mp hx with rfl | hx
      · exact hname
      · exact fun hm => hs x hx (by simp [hm])

variable {whole : String} {p : Pattern}

theorem parseParts_of_parse (h : parse whole = .ok p) :
    whole ≠ "" ∧ parseParts whole [] (Text.split '/' whole) = .ok p.segments := by
  unfold parse at h
  split at h
  · cases h
  · rename_i hw
    cases hr : parseParts whole [] (Text.split '/' whole) with
    | error e => simp [hr, bind, Except.bind] at h
    | ok segments =>
      rw [hr] at h
      cases h
      exact ⟨hw, rfl⟩

theorem texts_of_parse (h : parse whole = .ok p) :
    p.segments.map Segment.text = Text.split '/' whole :=
  texts_of_parseParts (parseParts_of_parse h).2

theorem text_of_parse (h : parse whole = .ok p) : p.text = whole := by
  rw [text, texts_of_parse h, Text.join_split]

theorem segments_ne_nil (h : parse whole = .ok p) : p.segments ≠ [] := by
  intro hn
  have ht := texts_of_parse h
  rw [hn] at ht
  exact Text.split_ne_nil whole ht.symm

theorem proper_of_parse (h : parse whole = .ok p) : Proper p.segments :=
  proper_of_parseParts (parseParts_of_parse h).2 fun _ hp => Text.not_mem_of_mem_split hp

theorem wellFormed_of_parse (h : parse whole = .ok p) :
    ∀ segment ∈ p.segments, segment.WellFormed :=
  wellFormed_of_parseParts (parseParts_of_parse h).2 fun _ hp => Text.not_mem_of_mem_split hp

theorem nodup_names (h : parse whole = .ok p) : p.names.Nodup :=
  (names_of_parseParts (parseParts_of_parse h).2).1

end Pattern

end WebApplication.Route
