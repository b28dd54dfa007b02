import Mathlib.Data.List.Basic
import WebApplication.Proofs.Route.Pattern

/-!
# What a pattern matches

A pattern matches a path exactly if the path is its text with every variable replaced,
if it is such a text with one more slash, or if it is one without the slash and the
catch-all at its end. The replacement is what was captured, and there is no other.
-/

set_option autoImplicit false

namespace WebApplication.Route

open Segment (Plain Proper)

/-- The parts are the segments with every variable replaced by its text: one part
without a slash for a variable, any text for the catch-all at the end. -/
inductive Filled : List Segment → Params → List String → Prop
  | nil : Filled [] [] []
  | literal (s : String) {segments : List Segment} {params : Params} {parts : List String}
      (rest : Filled segments params parts) :
      Filled (.literal s::segments) params (s::parts)
  | var (name : String) {value : String} {segments : List Segment} {params : Params}
      {parts : List String} (nonempty : value ≠ "") (slashFree : '/' ∉ value.toList)
      (rest : Filled segments params parts) :
      Filled (.var name::segments) ((name, value)::params) (value::parts)
  | catchAll (name value : String) : Filled [.catchAll name] [(name, value)] [value]

def Replaced (segments : List Segment) (params : Params) (text : String) : Prop :=
  ∃ parts, Filled segments params parts ∧ text = Text.join '/' parts

namespace Filled

variable {segments : List Segment} {params : Params} {parts : List String}

theorem length_eq (h : Filled segments params parts) : parts.length = segments.length := by
  induction h with
  | nil => rfl
  | literal s rest ih => simp [ih]
  | var name hv hs rest ih => simp [ih]
  | catchAll name value => rfl

theorem names (h : Filled segments params parts) :
    params.map Prod.fst = segments.filterMap Segment.name? := by
  induction h with
  | nil => rfl
  | literal s rest ih => exact ih
  | var name hv hs rest ih =>
    rw [List.map_cons, ih]
    rfl
  | catchAll name value => rfl

theorem slashFree (h : Filled segments params parts) (hs : Proper segments)
    (hp : Plain segments) : ∀ part ∈ parts, '/' ∉ part.toList := by
  induction h with
  | nil => simp
  | literal s rest ih =>
    intro part hm
    rcases List.mem_cons.mp hm with rfl | hm
    · exact hs.1
    · exact ih hs.2 (Segment.plain_of_cons hp) part hm
  | var name hv hn rest ih =>
    intro part hm
    rcases List.mem_cons.mp hm with rfl | hm
    · exact hn
    · exact ih hs (Segment.plain_of_cons hp) part hm
  | catchAll name value => exact absurd (by simp) (hp name)

/-- What is filled in behind segments without a catch-all. -/
theorem append_iff {front back : List Segment} (hp : Plain front) :
    Filled (front++back) params parts ↔ ∃ captured taken others left,
      Filled front captured taken ∧ Filled back others left ∧
        params = captured++others ∧ parts = taken++left := by
  constructor
  · intro h
    induction front generalizing params parts with
    | nil => exact ⟨[], [], params, parts, .nil, h, rfl, rfl⟩
    | cons segment front ih =>
      have hp' := Segment.plain_of_cons hp
      rw [List.cons_append] at h
      generalize hl : front++back = tail at h
      cases h with
      | literal s rest =>
        subst hl
        obtain ⟨captured, taken, others, left, hf, hb, rfl, rfl⟩ := ih hp' rest
        exact ⟨captured, s::taken, others, left, .literal s hf, hb, rfl, rfl⟩
      | var x hv hs rest =>
        subst hl
        obtain ⟨captured, taken, others, left, hf, hb, rfl, rfl⟩ := ih hp' rest
        exact ⟨_::captured, _::taken, others, left, .var x hv hs hf, hb, rfl, rfl⟩
      | catchAll x value => exact absurd (by simp) (hp x)
  · rintro ⟨captured, taken, others, left, hf, hb, rfl, rfl⟩
    induction hf with
    | nil => exact hb
    | literal s rest ih => exact .literal s (ih (Segment.plain_of_cons hp))
    | var x hv hs rest ih => exact .var x hv hs (ih (Segment.plain_of_cons hp))
    | catchAll x v => exact absurd (by simp) (hp x)

theorem catchAll_iff {name : String} :
    Filled [.catchAll name] params parts ↔ ∃ value, params = [(name, value)] ∧ parts = [value] := by
  constructor
  · rintro ⟨⟩
    exact ⟨_, rfl, rfl⟩
  · rintro ⟨value, rfl, rfl⟩
    exact .catchAll name value

end Filled

namespace Pattern

/-- Segments without a catch-all take one part each, and what follows them takes the
rest of the parts. -/
theorem matchParts_append {front back : List Segment} (hp : Plain front) {parts : List String}
    (hs : ∀ part ∈ parts, '/' ∉ part.toList) (params : Params) :
    matchParts (front++back) parts = some params ↔ ∃ captured taken others left,
      Filled front captured taken ∧ matchParts back left = some others ∧
        params = captured++others ∧ parts = taken++left := by
  constructor
  · intro h
    induction front generalizing parts params with
    | nil => exact ⟨[], [], params, parts, .nil, h, rfl, rfl⟩
    | cons segment front ih =>
      have hp' := Segment.plain_of_cons hp
      rcases parts with _ | ⟨part, parts⟩
      · cases segment with
        | literal s => cases h
        | var x => cases h
        | catchAll x => exact absurd (by simp) (hp x)
      · have hs' : ∀ q ∈ parts, '/' ∉ q.toList := fun q hq => hs q (by simp [hq])
        cases segment with
        | literal s =>
          obtain ⟨rfl, hm⟩ : part = s ∧ matchParts (front++back) parts = some params := by
            simpa [matchParts] using h
          obtain ⟨captured, taken, others, left, hf, hb, rfl, rfl⟩ := ih hp' hs' params hm
          exact ⟨captured, part::taken, others, left, .literal part hf, hb, rfl, rfl⟩
        | var x =>
          obtain ⟨hv, rest, hm, rfl⟩ : part ≠ "" ∧ ∃ rest,
              matchParts (front++back) parts = some rest ∧ (x, part)::rest = params := by
            simpa [matchParts] using h
          obtain ⟨captured, taken, others, left, hf, hb, rfl, rfl⟩ := ih hp' hs' rest hm
          exact ⟨_::captured, part::taken, others, left, .var x hv (hs part (by simp)) hf, hb,
            rfl, rfl⟩
        | catchAll x => exact absurd (by simp) (hp x)
  · rintro ⟨captured, taken, others, left, hf, hb, rfl, rfl⟩
    clear hs
    induction hf with
    | nil => exact hb
    | literal s rest ih => simpa [matchParts] using ih (Segment.plain_of_cons hp)
    | var x hv _ rest ih => simp [matchParts, hv, ih (Segment.plain_of_cons hp)]
    | catchAll x v => exact absurd (by simp) (hp x)

theorem matchParts_plain {segments : List Segment} (hp : Plain segments) {parts : List String}
    (hs : ∀ part ∈ parts, '/' ∉ part.toList) (params : Params) :
    matchParts segments parts = some params ↔ Filled segments params parts := by
  rw [← List.append_nil segments, matchParts_append hp hs, List.append_nil]
  constructor
  · rintro ⟨captured, taken, others, left, hf, hb, rfl, rfl⟩
    cases left with
    | nil =>
      cases hb
      simpa using hf
    | cons part left => cases hb
  · intro hf
    exact ⟨params, parts, [], [], hf, rfl, by simp, by simp⟩

theorem matchParts_catchAll {front : List Segment} {name : String} (hp : Plain front)
    {parts : List String} (hs : ∀ part ∈ parts, '/' ∉ part.toList) (params : Params) :
    matchParts (front++[.catchAll name]) parts = some params ↔ ∃ captured taken left,
      Filled front captured taken ∧ params = captured++[(name, Text.join '/' left)] ∧
        parts = taken++left := by
  rw [matchParts_append hp hs]
  constructor
  · rintro ⟨captured, taken, others, left, hf, hb, rfl, rfl⟩
    cases hb
    exact ⟨captured, taken, left, hf, rfl, rfl⟩
  · rintro ⟨captured, taken, left, hf, rfl, rfl⟩
    exact ⟨captured, taken, _, left, hf, rfl, rfl, rfl⟩

variable {whole path : String} {p : Pattern} {params : Params}

theorem withoutSlash_eq_some_iff {parts front : List String} :
    withoutSlash? parts = some front ↔ parts = front++[""] ∧ 1 < front.length := by
  constructor
  · intro h
    obtain ⟨⟨hlast, hlen⟩, rfl⟩ : (parts.getLast? = some "" ∧ 2 < parts.length) ∧
        parts.dropLast = front := by
      simpa [withoutSlash?] using h
    refine ⟨(List.dropLast_append_getLast? _ hlast).symm, ?_⟩
    rw [List.length_dropLast]
    omega
  · rintro ⟨rfl, hl⟩
    simp [withoutSlash?, hl]

theorem matchPath_eq_some_iff : p.matchPath path = some params ↔
    matchParts p.segments (Text.split '/' path) = some params ∨
      matchParts p.segments (Text.split '/' path) = none ∧ p.endsWithSlash = false ∧
        ∃ front, Text.split '/' path = front++[""] ∧ 1 < front.length ∧
          matchParts p.segments front = some params := by
  simp only [matchPath]
  cases hm : matchParts p.segments (Text.split '/' path) with
  | some captured => simp
  | none =>
    cases hs : p.endsWithSlash with
    | true => simp
    | false => simp [Option.bind_eq_some_iff, withoutSlash_eq_some_iff, and_assoc]

theorem split_eq_append_iff {front : List String} :
    Text.split '/' path = front++[""] ∧ 1 < front.length ↔
      1 < front.length ∧ ∃ text, front = Text.split '/' text ∧ path = text++"/" := by
  constructor
  · rintro ⟨he, hl⟩
    have hne : front ≠ [] := by
      rintro rfl
      simp at hl
    have hfree : ∀ part ∈ front, '/' ∉ part.toList := fun part hpart =>
      Text.not_mem_of_mem_split (he ▸ List.mem_append_left _ hpart)
    refine ⟨hl, Text.join '/' front, (Text.split_join hne hfree).symm, ?_⟩
    rw [← Text.join_split '/' path, he, Text.join_append hne (by simp), Text.join_singleton]
    simp
  · rintro ⟨hl, text, rfl, rfl⟩
    exact ⟨Text.split_append_sep text, hl⟩

theorem replaced_iff_split (hn : p.segments ≠ []) (hs : Proper p.segments)
    (hp : Plain p.segments) (text : String) :
    Replaced p.segments params text ↔
      matchParts p.segments (Text.split '/' text) = some params := by
  rw [matchParts_plain hp fun _ => Text.not_mem_of_mem_split]
  constructor
  · rintro ⟨parts, hf, rfl⟩
    have hne : parts ≠ [] := fun he => hn (by simpa [he] using hf.length_eq.symm)
    rwa [Text.split_join hne (hf.slashFree hs hp)]
  · intro hf
    exact ⟨_, hf, (Text.join_split '/' text).symm⟩

theorem slash_mem_iff (h : parse whole = .ok p) :
    '/' ∈ whole.toList ↔ 1 < p.segments.length := by
  have hl := congrArg List.length (texts_of_parse h)
  rw [List.length_map] at hl
  rw [Text.mem_iff_length_split, hl]

theorem endsWithSlash_iff (h : parse whole = .ok p) :
    p.endsWithSlash = true ↔ whole.toList.getLast? = some '/' := by
  rw [← Text.getLast_split_iff (parseParts_of_parse h).1, ← texts_of_parse h,
    List.getLast?_map]
  cases hl : p.segments.getLast? with
  | none => simp [endsWithSlash, hl]
  | some segment =>
    cases segment with
    | literal s => simp [endsWithSlash, hl, Segment.text]
    | var x => simp [endsWithSlash, hl, Segment.text]
    | catchAll x => simp [endsWithSlash, hl, Segment.text]

/-- How a path is covered by a pattern under a replacement: as it stands, with one more
slash, or without the slash and the catch-all at the end of the pattern. -/
def Covers (p : Pattern) (params : Params) (path : String) : Prop :=
  Replaced p.segments params path ∨
  (Plain p.segments ∧ '/' ∈ p.text.toList ∧ p.text.toList.getLast? ≠ some '/' ∧
    ∃ text, Replaced p.segments params text ∧ path = text++"/") ∨
  ∃ front name captured, p.segments = front++[.catchAll name] ∧
    p.text = Pattern.text ⟨front⟩++"/"++(Segment.catchAll name).text ∧
    params = captured++[(name, "")] ∧ Replaced front captured path

theorem matchPath_plain_iff (h : parse whole = .ok p) (hp : Plain p.segments) :
    p.matchPath path = some params ↔ Replaced p.segments params path ∨
      1 < p.segments.length ∧ p.endsWithSlash = false ∧
        ∃ text, Replaced p.segments params text ∧ path = text++"/" := by
  have hreplaced : ∀ text, Replaced p.segments params text ↔
      matchParts p.segments (Text.split '/' text) = some params :=
    replaced_iff_split (segments_ne_nil h) (proper_of_parse h) hp
  have hlength : ∀ text, ∀ captured, matchParts p.segments (Text.split '/' text) = some captured →
      (Text.split '/' text).length = p.segments.length := fun text captured hm =>
    ((matchParts_plain hp (fun _ => Text.not_mem_of_mem_split) captured).mp hm).length_eq
  rw [matchPath_eq_some_iff, hreplaced]
  constructor
  · rintro (hm | ⟨-, he, front, hf, hl, hm⟩)
    · exact .inl hm
    · obtain ⟨-, text, rfl, rfl⟩ := split_eq_append_iff.mp ⟨hf, hl⟩
      exact .inr ⟨hlength text params hm ▸ hl, he, text, (hreplaced text).mpr hm, rfl⟩
  · rintro (hm | ⟨hl, he, text, hr, rfl⟩)
    · exact .inl hm
    · have hm := (hreplaced text).mp hr
      have hlen := hlength text params hm
      obtain ⟨hsplit, hl'⟩ := split_eq_append_iff.mpr ⟨hlen ▸ hl, text, rfl, rfl⟩
      refine .inr ⟨?_, he, _, hsplit, hl', hm⟩
      cases hfirst : matchParts p.segments (Text.split '/' (text++"/")) with
      | none => rfl
      | some captured =>
        have hlong := hlength _ captured hfirst
        rw [hsplit, List.length_append, List.length_singleton] at hlong
        omega

/-- With a catch-all the second attempt adds nothing. -/
theorem matchPath_catchAll_iff {front : List Segment} {name : String}
    (hp : Plain front) (he : p.segments = front++[.catchAll name]) :
    p.matchPath path = some params ↔ ∃ captured taken left, Filled front captured taken ∧
      params = captured++[(name, Text.join '/' left)] ∧ Text.split '/' path = taken++left := by
  rw [matchPath_eq_some_iff, he, ← matchParts_catchAll hp fun _ => Text.not_mem_of_mem_split]
  constructor
  · rintro (hm | ⟨hnone, -, parts, hf, -, hm⟩)
    · exact hm
    · have hfree : ∀ part ∈ parts, '/' ∉ part.toList := fun part hpart =>
        Text.not_mem_of_mem_split (hf ▸ List.mem_append_left _ hpart)
      obtain ⟨captured, taken, left, hfill, -, rfl⟩ := (matchParts_catchAll hp hfree params).mp hm
      have hparts : Text.split '/' path = taken++(left++[""]) := by rw [hf, List.append_assoc]
      have hsome : matchParts (front++[.catchAll name]) (Text.split '/' path) =
          some (captured++[(name, Text.join '/' (left++[""]))]) :=
        (matchParts_catchAll hp (fun _ => Text.not_mem_of_mem_split) _).mpr
          ⟨captured, taken, left++[""], hfill, rfl, hparts⟩
      rw [hnone] at hsome
      cases hsome
  · exact .inl

theorem covers_plain_iff (h : parse whole = .ok p) (hp : Plain p.segments) :
    p.Covers params path ↔ Replaced p.segments params path ∨
      1 < p.segments.length ∧ p.endsWithSlash = false ∧
        ∃ text, Replaced p.segments params text ∧ path = text++"/" := by
  have hslash := slash_mem_iff h
  have hends : p.endsWithSlash = false ↔ whole.toList.getLast? ≠ some '/' := by
    rw [← Bool.not_eq_true, endsWithSlash_iff h]
  rw [Covers, text_of_parse h, hslash, hends]
  constructor
  · rintro (hr | ⟨-, hl, he, ht⟩ | ⟨front, name, captured, hs, -⟩)
    · exact .inl hr
    · exact .inr ⟨hl, he, ht⟩
    · exact absurd (by simp [hs]) (hp name)
  · rintro (hr | ⟨hl, he, ht⟩)
    · exact .inl hr
    · exact .inr (.inl ⟨hp, hl, he, ht⟩)

theorem text_append_catchAll_iff {front : List Segment} {name : String}
    (he : p.segments = front++[.catchAll name]) :
    p.text = Pattern.text ⟨front⟩++"/"++(Segment.catchAll name).text ↔ front ≠ [] := by
  have ht : p.text = Text.join '/' (front.map Segment.text++[(Segment.catchAll name).text]) := by
    simp [text, he]
  constructor
  · rintro htext rfl
    rw [ht, List.map_nil, List.nil_append, Text.join_singleton] at htext
    have hl := congrArg String.length htext
    simp [text] at hl
  · intro hf
    rw [ht, Text.join_append (by simpa using hf) (by simp), Text.join_singleton]
    rfl

theorem covers_catchAll_iff {front : List Segment} {name : String} (hs : Proper p.segments)
    (hp : Plain front) (he : p.segments = front++[.catchAll name]) :
    p.Covers params path ↔ ∃ captured taken left, Filled front captured taken ∧
      params = captured++[(name, Text.join '/' left)] ∧ Text.split '/' path = taken++left := by
  have hfree : Proper front := Segment.proper_of_append (he ▸ hs) hp
  constructor
  · rintro (⟨parts, hf, rfl⟩ | ⟨hplain, -⟩ |
      ⟨front', name', captured, he', ht, rfl, taken, hf, rfl⟩)
    · rw [he, Filled.append_iff hp] at hf
      obtain ⟨captured, taken, others, left, hfront, hlast, rfl, rfl⟩ := hf
      obtain ⟨value, rfl, rfl⟩ := Filled.catchAll_iff.mp hlast
      refine ⟨captured, taken, Text.split '/' value, hfront, by rw [Text.join_split], ?_⟩
      exact Text.split_join_append (hfront.slashFree hfree hp) value
    · exact absurd (by simp [he]) (hplain name)
    · obtain ⟨rfl, hname⟩ := List.append_inj' (he.symm.trans he') rfl
      obtain rfl : name = name' := by simpa using hname
      have hne := (text_append_catchAll_iff he).mp ht
      have htaken : taken ≠ [] := fun hn => hne (by simpa [hn] using hf.length_eq.symm)
      refine ⟨captured, taken, [], hf, rfl, ?_⟩
      rw [Text.split_join htaken (hf.slashFree hfree hp), List.append_nil]
  · rintro ⟨captured, taken, left, hf, rfl, hsplit⟩
    have hpath := Text.join_split '/' path
    rw [hsplit] at hpath
    by_cases hl : left = []
    · subst hl
      have hne : front ≠ [] := by
        rintro rfl
        cases hf
        exact Text.split_ne_nil path hsplit
      exact .inr (.inr ⟨front, name, captured, he, (text_append_catchAll_iff he).mpr hne, rfl,
        taken, hf, by simpa using hpath.symm⟩)
    · refine .inl ⟨taken++[Text.join '/' left], ?_, ?_⟩
      · rw [he, Filled.append_iff hp]
        exact ⟨captured, taken, _, _, hf, .catchAll name _, rfl, rfl⟩
      · rw [Text.join_append_join taken hl, hpath]

theorem matchPath_iff_covers (h : parse whole = .ok p) :
    p.matchPath path = some params ↔ p.Covers params path := by
  have hs := proper_of_parse h
  rcases Segment.plain_or_catchAll hs with hp | ⟨front, name, he, hp⟩
  · rw [matchPath_plain_iff h hp, covers_plain_iff h hp]
  · rw [matchPath_catchAll_iff hp he, covers_catchAll_iff hs hp he]

theorem names_of_covers (hc : p.Covers params path) : params.map Prod.fst = p.names := by
  rcases hc with ⟨parts, hf, -⟩ | ⟨-, -, -, text, ⟨parts, hf, -⟩, -⟩ |
    ⟨front, name, captured, he, -, rfl, parts, hf, -⟩
  · exact hf.names
  · exact hf.names
  · rw [List.map_append, hf.names, Pattern.names, he, List.filterMap_append]
    rfl

/-- A pattern that was read matches exactly the paths that it covers. It captures the
replacement under which it covers them, and there is no other. -/
theorem matches_exactly_covered (h : parse whole = .ok p) :
    p.text = whole ∧ (∀ segment ∈ p.segments, segment.WellFormed) ∧ p.names.Nodup ∧
    ∀ path params,
      (p.matchPath path = some params ↔ p.Covers params path) ∧
      (p.Covers params path → params.map Prod.fst = p.names ∧
        ∀ other, p.Covers other path → other = params) := by
  refine ⟨text_of_parse h, wellFormed_of_parse h, nodup_names h, fun path params =>
    ⟨matchPath_iff_covers h, fun hc => ⟨names_of_covers hc, fun other ho => ?_⟩⟩⟩
  have hm := (matchPath_iff_covers h).mpr hc
  rw [(matchPath_iff_covers h).mpr ho] at hm
  exact Option.some.inj hm

theorem files_covered : ∃ p, parse "/files/{id}/{*rest}" = .ok p ∧
    p.matchPath "/files/7" = some [("id", "7"), ("rest", "")] ∧
    p.Covers [("id", "7"), ("rest", "")] "/files/7" := by
  have h : parse "/files/{id}/{*rest}" =
      .ok ⟨[.literal "", .literal "files", .var "id", .catchAll "rest"]⟩ := rfl
  have hm : (⟨[.literal "", .literal "files", .var "id", .catchAll "rest"]⟩ : Pattern).matchPath
      "/files/7" = some [("id", "7"), ("rest", "")] := by decide +kernel
  exact ⟨_, h, hm, ((matches_exactly_covered h).2.2.2 _ _).1.mp hm⟩

end Pattern

end WebApplication.Route
