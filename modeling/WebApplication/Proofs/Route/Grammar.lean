import Mathlib.Data.List.Basic
import WebApplication.Proofs.Route.Pattern

/-!
# The grammar of patterns

A text is a pattern exactly if it is not empty and each of its parts is a literal without
braces, a variable in braces or, at the end, a catch-all, all variables having names of
their own. Any other text is refused for the first of its parts that offends.
-/

set_option autoImplicit false

namespace WebApplication.Route

def BraceFree (text : String) : Prop := ∀ c ∈ text.toList, Segment.isBrace c = false

theorem BraceFree.of_mem_split {text part : String} (h : BraceFree text)
    (hp : part ∈ Text.split '/' text) : BraceFree part :=
  fun c hc => h c (Text.mem_of_mem_split hp hc)

namespace Segment

variable {isLast : Bool} {part : String} {segment : Segment}

/-! ## One part -/

theorem parse_literal {part : String} (h : BraceFree part) (isLast : Bool) :
    parse isLast part = .ok (.literal part) := by
  have hinner : inner? part.toList = none := by
    cases hc : part.toList with
    | nil => rfl
    | cons c cs =>
      have hb : isBrace c = false := h c (by simp [hc])
      have hne : c ≠ '{' := by
        rintro rfl
        cases hb
      rw [inner?, if_neg hne]
  have hany : ¬part.toList.any isBrace = true := by
    rw [List.any_eq_true]
    rintro ⟨c, hc, hb⟩
    rw [h c hc] at hb
    cases hb
  rw [parse, hinner]
  exact if_neg hany

theorem inner_braced (inner : List Char) : inner? ('{'::(inner++['}'])) = some inner := by
  simp [inner?]

theorem inner_eq_some_iff {cs inner : List Char} :
    inner? cs = some inner ↔ cs = '{'::(inner++['}']) :=
  ⟨eq_of_inner, fun h => h ▸ inner_braced inner⟩

/-- A part is written as a segment that may stand in its place. -/
structure Reads (isLast : Bool) (part : String) (segment : Segment) : Prop where
  text : segment.text = part
  wellFormed : segment.WellFormed
  last : ∀ name, segment = .catchAll name → isLast = true

/-- What is wrong with a part. -/
inductive Flawed (isLast : Bool) (part : String) : Flaw → Prop
  | malformed {inner : String} (braced : part = "\x7b"++inner++"\x7d")
      (unread : ∀ segment : Segment, segment.text = part → ¬segment.WellFormed) :
      Flawed isLast part (.malformed part)
  | unbalanced {c : Char} (mem : c ∈ part.toList) (brace : isBrace c = true)
      (unbraced : ∀ inner, part ≠ "\x7b"++inner++"\x7d") : Flawed isLast part (.unbalanced part)
  | misplaced {name : String} (text : (catchAll name).text = part)
      (wellFormed : (catchAll name).WellFormed) (early : isLast = false) :
      Flawed isLast part .misplaced

theorem isName_of {name : String} (hn : name ≠ "")
    (h : ∀ c ∈ name.toList, isBrace c = false ∧ c ≠ '*' ∧ c ≠ '/') :
    isName name.toList = true := by
  have hne : name.toList ≠ [] := by simpa using hn
  simpa [isName, hne] using fun c hc => ⟨(h c hc).1, (h c hc).2.1⟩

theorem parse_of_reads (h : Reads isLast part segment) : parse isLast part = .ok segment := by
  obtain ⟨rfl, hw, hlast⟩ := h
  cases segment with
  | literal s => exact parse_literal (fun c hc => (hw c hc).1) isLast
  | var name =>
    have hname := isName_of hw.1 hw.2
    have hinner : inner? (text (var name)).toList = some name.toList := by
      simp [text, inner_eq_some_iff]
    have hstar : ∀ rest, name.toList ≠ '*'::rest := by
      intro rest he
      exact (hw.2 '*' (by simp [he])).2.1 rfl
    rw [parse, hinner]
    split
    · simp_all
    · rename_i he
      exact absurd (Option.some.inj he) (hstar _)
    · rename_i found _ he
      obtain rfl := Option.some.inj he
      rw [if_pos hname, String.ofList_toList]
  | catchAll name =>
    have hname := isName_of hw.1 hw.2
    have hinner : inner? (text (catchAll name)).toList = some ('*'::name.toList) := by
      simp [text, inner_eq_some_iff]
    rw [parse, hinner]
    simp [hname, hlast name rfl]

theorem reads_of_parse (hs : '/' ∉ part.toList) (h : parse isLast part = .ok segment) :
    Reads isLast part segment where
  text := text_of_parse h
  wellFormed := wellFormed_of_parse h hs
  last := by
    rintro name rfl
    exact last_of_parse h

theorem eq_of_text {other : Segment} (h : segment.WellFormed) (ho : other.WellFormed)
    (he : segment.text = other.text) : segment = other := by
  have hfirst : parse true segment.text = .ok segment := parse_of_reads ⟨rfl, h, fun _ _ => rfl⟩
  have hsecond : parse true other.text = .ok other := parse_of_reads ⟨rfl, ho, fun _ _ => rfl⟩
  rw [he, hsecond] at hfirst
  exact (Except.ok.inj hfirst).symm

theorem Flawed.unique {flaw other : Flaw} (h : Flawed isLast part flaw)
    (ho : Flawed isLast part other) : flaw = other := by
  have hbraced : ∀ name, (catchAll name).text = "\x7b"++("*"++name)++"\x7d" := by
    intro name
    simp [Segment.text, ← String.toList_inj]
  cases h with
  | malformed hb hu =>
    cases ho with
    | malformed => rfl
    | unbalanced _ _ hn => exact absurd hb (hn _)
    | misplaced ht hw => exact absurd hw (hu _ ht)
  | unbalanced _ _ hn =>
    cases ho with
    | malformed hb => exact absurd hb (hn _)
    | unbalanced => rfl
    | misplaced ht => exact absurd (ht.symm.trans (hbraced _)) (hn _)
  | misplaced ht hw =>
    cases ho with
    | malformed _ hu => exact absurd hw (hu _ ht)
    | unbalanced _ _ hn => exact absurd (ht.symm.trans (hbraced _)) (hn _)
    | misplaced => rfl

theorem Flawed.not_reads {flaw : Flaw} (h : Flawed isLast part flaw) :
    ¬Reads isLast part segment := by
  rintro ⟨rfl, hw, hlast⟩
  cases h with
  | malformed _ hu => exact hu segment rfl hw
  | @unbalanced c hc hb hn =>
    cases segment with
    | literal s =>
      have hno := (hw c hc).1
      rw [hb] at hno
      cases hno
    | var name => exact hn name rfl
    | catchAll name => exact hn ("*"++name) (by simp [Segment.text, ← String.toList_inj])
  | misplaced ht hw' he =>
    have hl := hlast _ (eq_of_text hw hw' ht.symm)
    rw [he] at hl
    cases hl

theorem flawed_of_parse (hs : '/' ∉ part.toList) {flaw : Flaw}
    (h : parse isLast part = .error flaw) : Flawed isLast part flaw := by
  have hbraced : ∀ {inner : List Char}, inner? part.toList = some inner →
      part = "\x7b"++String.ofList inner++"\x7d" := by
    intro inner hi
    simp [← String.toList_inj, eq_of_inner hi]
  have hunread : (∀ found, parse true part ≠ .ok found) →
      ∀ segment : Segment, segment.text = part → ¬segment.WellFormed :=
    fun hn segment ht hw => hn segment (parse_of_reads ⟨ht, hw, fun _ _ => rfl⟩)
  unfold parse at h
  split at h
  · rename_i hi
    split at h
    · rename_i hany
      cases h
      obtain ⟨c, hc, hb⟩ := List.any_eq_true.mp hany
      refine .unbalanced hc hb fun inner he => ?_
      have hin : inner? part.toList = some inner.toList := by simp [he, inner_eq_some_iff]
      rw [hi] at hin
      cases hin
    · cases h
  · rename_i name hi
    split at h
    · rename_i hn
      cases h
      refine .malformed (hbraced hi) (hunread fun found hf => ?_)
      rw [parse, hi] at hf
      simp [hn] at hf
    · rename_i hn
      split at h
      · cases h
      · rename_i hlast
        cases h
        have hl : isLast = false := by simpa using hlast
        have hp : parse true part = .ok (.catchAll (String.ofList name)) := by
          rw [parse, hi]
          simp [hn]
        obtain ⟨ht, hw, -⟩ := reads_of_parse hs hp
        exact .misplaced ht hw hl
  · rename_i name hstar hi
    split at h
    · cases h
    · rename_i hn
      cases h
      refine .malformed (hbraced hi) (hunread fun found hf => ?_)
      rw [parse, hi] at hf
      simp [hn] at hf

theorem parse_eq_error_iff (hs : '/' ∉ part.toList) {flaw : Flaw} :
    parse isLast part = .error flaw ↔ Flawed isLast part flaw := by
  refine ⟨flawed_of_parse hs, fun hf => ?_⟩
  cases hp : parse isLast part with
  | ok segment => exact absurd (reads_of_parse hs hp) hf.not_reads
  | error other => rw [hf.unique (flawed_of_parse hs hp)]

end Segment

namespace Pattern

open Segment (Plain Reads)

/-! ## All parts -/

structure Spells (p : Pattern) (whole : String) : Prop where
  nonempty : whole ≠ ""
  parts : p.segments.map Segment.text = Text.split '/' whole
  wellFormed : ∀ segment ∈ p.segments, segment.WellFormed
  last : ∀ front name back, p.segments = front++.catchAll name::back → back = []
  distinct : p.names.Nodup

/-- A part offends behind variables that were seen: it is no segment, or it names a variable
for the second time. -/
inductive Offends (whole : String) (seen : List String) (isLast : Bool) (part : String) :
    Error → Prop
  | flawed {flaw : Segment.Flaw} (h : Segment.Flawed isLast part flaw) :
      Offends whole seen isLast part (.invalidPattern whole flaw.reason)
  | repeated {segment : Segment} {name : String} (reads : Reads isLast part segment)
      (named : segment.name? = some name) (known : name ∈ seen) :
      Offends whole seen isLast part (.duplicateVariable whole name)

variable {whole part : String} {seen parts : List String} {segment : Segment}
  {segments : List Segment} {e : Error} {p : Pattern}

def New (seen : List String) (segment : Segment) : Prop :=
  ∀ name, segment.name? = some name → name ∉ seen

theorem parseParts_of_new (h : Segment.parse parts.isEmpty part = .ok segment)
    (hn : New seen segment) :
    parseParts whole seen (part::parts) =
      (parseParts whole (segment.name?.toList++seen) parts).map (segment::·) := by
  rw [parseParts, h]
  cases hname : segment.name? with
  | none =>
    simp only [hname, Option.toList_none, List.nil_append]
    cases parseParts whole seen parts <;> rfl
  | some name =>
    simp only [hname, Option.toList_some, List.singleton_append, List.contains_eq_mem,
      hn name hname, decide_false]
    cases parseParts whole (name::seen) parts <;> rfl

theorem parseParts_of_offends (hs : '/' ∉ part.toList)
    (h : Offends whole seen parts.isEmpty part e) :
    parseParts whole seen (part::parts) = .error e := by
  cases h with
  | flawed hf => rw [parseParts, (Segment.parse_eq_error_iff hs).mpr hf]
  | repeated hr hn hm =>
    rw [parseParts, Segment.parse_of_reads hr]
    simp [hn, hm]

theorem new_or_offends (hs : '/' ∉ part.toList) (whole : String) (seen : List String)
    (isLast : Bool) :
    (∃ segment, Reads isLast part segment ∧ New seen segment) ∨
      ∃ e, Offends whole seen isLast part e := by
  cases hp : Segment.parse isLast part with
  | error flaw => exact .inr ⟨_, .flawed (Segment.flawed_of_parse hs hp)⟩
  | ok segment =>
    have hr := Segment.reads_of_parse hs hp
    by_cases hn : New seen segment
    · exact .inl ⟨segment, hr, hn⟩
    · simp only [New, not_forall, not_not] at hn
      obtain ⟨name, hname, hm⟩ := hn
      exact .inr ⟨_, .repeated hr hname hm⟩

/-- Well-formed segments, none of which names a variable that was seen or that another one
of them names. -/
structure Fresh (seen : List String) (segments : List Segment) : Prop where
  wellFormed : ∀ segment ∈ segments, segment.WellFormed
  distinct : (segments.filterMap Segment.name?).Nodup
  unseen : ∀ segment ∈ segments, New seen segment

theorem fresh_cons : Fresh seen (segment::segments) ↔
    segment.WellFormed ∧ New seen segment ∧ Fresh (segment.name?.toList++seen) segments := by
  constructor
  · rintro ⟨hw, hd, hu⟩
    rw [List.forall_mem_cons] at hw hu
    refine ⟨hw.1, hu.1, hw.2, ?_, fun s hs x hx => ?_⟩
    · exact ((List.sublist_cons_self segment segments).filterMap _).nodup hd
    · rw [List.mem_append, not_or]
      refine ⟨fun hm => ?_, hu.2 s hs x hx⟩
      have hname := Option.mem_toList.mp hm
      rw [List.filterMap_cons_some hname, List.nodup_cons] at hd
      exact hd.1 (List.mem_filterMap.mpr ⟨s, hs, hx⟩)
  · rintro ⟨hw, hn, hf⟩
    refine ⟨List.forall_mem_cons.mpr ⟨hw, hf.wellFormed⟩, ?_, ?_⟩
    · cases hname : segment.name? with
      | none =>
        rw [List.filterMap_cons_none hname]
        exact hf.distinct
      | some x =>
        rw [List.filterMap_cons_some hname, List.nodup_cons]
        refine ⟨fun hm => ?_, hf.distinct⟩
        obtain ⟨s, hs, hx⟩ := List.mem_filterMap.mp hm
        exact hf.unseen s hs x hx (by simp [hname])
    · refine List.forall_mem_cons.mpr ⟨hn, fun s hs x hx hm => ?_⟩
      exact hf.unseen s hs x hx (List.mem_append_right _ hm)

/-- Segments that are written in front are read, and their variables are seen behind them.
A catch-all may be among them only if nothing follows it. -/
theorem parseParts_written (whole : String) {front : List Segment} (hf : Fresh seen front)
    (hp : ∀ before name after, front = before++.catchAll name::after →
      after = [] ∧ parts = []) :
    parseParts whole seen (front.map Segment.text++parts) =
      (parseParts whole ((front.filterMap Segment.name?).reverse++seen) parts).map
        (front++·) := by
  induction front generalizing seen with
  | nil => cases hb : parseParts whole seen parts <;> simp [hb, Except.map]
  | cons segment front ih =>
    obtain ⟨hw, hn, hrest⟩ := fresh_cons.mp hf
    have hr : Segment.parse (front.map Segment.text++parts).isEmpty segment.text =
        .ok segment := by
      refine Segment.parse_of_reads ⟨rfl, hw, fun name he => ?_⟩
      obtain ⟨rfl, rfl⟩ := hp [] name front (by rw [he, List.nil_append])
      rfl
    have hseen : ((segment::front).filterMap Segment.name?).reverse++seen =
        (front.filterMap Segment.name?).reverse++(segment.name?.toList++seen) := by
      cases hname : segment.name? <;> simp [hname]
    rw [List.map_cons, List.cons_append, parseParts_of_new hr hn, hseen,
      ih hrest fun before name after he => hp (segment::before) name after (by rw [he]; rfl)]
    cases parseParts whole _ parts <;> rfl

theorem catchAll_last_of_proper {segments : List Segment} (h : Segment.Proper segments) :
    ∀ front name back, segments = front++.catchAll name::back → back = [] := by
  rintro front name back rfl
  rcases Segment.plain_or_catchAll h with hp | ⟨before, x, he, hp⟩
  · exact absurd (by simp) (hp name)
  · rcases List.eq_nil_or_concat back with rfl | ⟨middle, last, rfl⟩
    · rfl
    · rw [List.concat_eq_append, ← List.cons_append, ← List.append_assoc] at he
      obtain ⟨rfl, -⟩ := List.append_inj' he rfl
      exact absurd (by simp) (hp name)

theorem spells_of_parse (h : parse whole = .ok p) : p.Spells whole where
  nonempty := (parseParts_of_parse h).1
  parts := texts_of_parse h
  wellFormed := wellFormed_of_parse h
  last := catchAll_last_of_proper (proper_of_parse h)
  distinct := nodup_names h

theorem parse_of_spells (h : p.Spells whole) : parse whole = .ok p := by
  have hfresh : Fresh [] p.segments :=
    ⟨h.wellFormed, h.distinct, fun _ _ _ _ hm => List.not_mem_nil hm⟩
  have hlast : ∀ before name after, p.segments = before++.catchAll name::after →
      after = [] ∧ ([] : List String) = [] :=
    fun before name after he => ⟨h.last before name after he, rfl⟩
  have hparts := parseParts_written whole hfresh hlast
  rw [List.append_nil, h.parts] at hparts
  rw [parse, if_neg h.nonempty, hparts]
  simp [parseParts, Except.map, bind, Except.bind]

theorem parse_eq_ok_iff : parse whole = .ok p ↔ p.Spells whole :=
  ⟨spells_of_parse, parse_of_spells⟩

/-! ## Behind a prefix -/

variable {base rest : String} {r : Pattern} {tail : List Segment}

theorem split_rooted (text : String) :
    Text.split '/' ("/"++text) = ""::Text.split '/' text := by
  have hs : Text.split '/' (""++"/"++text) = Text.split '/' ""++Text.split '/' text :=
    Text.split_append "" text
  rwa [String.empty_append] at hs

theorem split_below (front text : String) :
    Text.split '/' (front++"/"++text) = Text.split '/' front++Text.split '/' text :=
  Text.split_append front text

theorem Spells.rooted (h : r.Spells ("/"++rest)) :
    ∃ tail, r.segments = .literal ""::tail ∧ tail.map Segment.text = Text.split '/' rest := by
  have hparts := h.parts
  rw [split_rooted] at hparts
  obtain ⟨first, tail, hs, hfirst, htail⟩ := List.map_eq_cons_iff.mp hparts
  refine ⟨tail, ?_, htail⟩
  rw [hs]
  cases first with
  | literal s =>
    have he : s = "" := hfirst
    rw [he]
  | var name => simp [Segment.text] at hfirst
  | catchAll name => simp [Segment.text] at hfirst

/-- Behind a prefix the segments of a pattern follow those of the prefix. -/
theorem spells_below (hp : p.Spells base) (hplain : Plain p.segments)
    (hr : r.Spells ("/"++rest)) (hs : r.segments = .literal ""::tail)
    (ht : tail.map Segment.text = Text.split '/' rest)
    (hd : ∀ name ∈ r.names, name ∉ p.names) :
    Spells ⟨p.segments++tail⟩ (base++"/"++rest) where
  nonempty := by simp
  parts := by rw [List.map_append, hp.parts, ht, split_below]
  wellFormed := by
    intro segment hm
    rcases List.mem_append.mp hm with hm | hm
    · exact hp.wellFormed segment hm
    · exact hr.wellFormed segment (by simp [hs, hm])
  last := by
    intro before name after he
    rcases List.append_eq_append_iff.mp he with ⟨middle, -, htail⟩ | ⟨middle, hfront, htail⟩
    · exact hr.last (.literal ""::middle) name after (by rw [hs, htail]; rfl)
    · cases middle with
      | nil =>
        rw [List.nil_append] at htail
        exact hr.last [.literal ""] name after (by rw [hs, ← htail]; rfl)
      | cons segment middle =>
        obtain ⟨rfl, -⟩ := List.cons.inj htail
        exact absurd (by simp [hfront]) (hplain name)
  distinct := by
    have hn : r.names = tail.filterMap Segment.name? := by rw [names, hs]; rfl
    rw [names, List.filterMap_append, List.nodup_append]
    exact ⟨hp.distinct, hn ▸ hr.distinct, fun a ha b hb he => hd b (hn ▸ hb) (he ▸ ha)⟩

theorem texts_literals (parts : List String) :
    (parts.map Segment.literal).map Segment.text = parts := by
  simp [Function.comp_def, Segment.text]

theorem names_literals (parts : List String) :
    (parts.map Segment.literal).filterMap Segment.name? = [] := by
  simp [List.filterMap_map, Function.comp_def, Segment.name?]

theorem plain_literals (parts : List String) : Plain (parts.map Segment.literal) := by
  simp [Plain]

theorem fresh_literals (h : BraceFree base) (seen : List String) :
    Fresh seen ((Text.split '/' base).map Segment.literal) where
  wellFormed := by
    intro segment hm
    obtain ⟨part, hp, rfl⟩ := List.mem_map.mp hm
    exact fun c hc => ⟨h.of_mem_split hp c hc, fun he => Text.not_mem_of_mem_split hp (he ▸ hc)⟩
  distinct := by
    rw [names_literals]
    exact .nil
  unseen := by
    intro segment hm name hn
    obtain ⟨part, -, rfl⟩ := List.mem_map.mp hm
    cases hn

theorem spells_literals (h : BraceFree base) (hb : base ≠ "") :
    Spells ⟨(Text.split '/' base).map Segment.literal⟩ base where
  nonempty := hb
  parts := texts_literals _
  wellFormed := (fresh_literals h []).wellFormed
  last := by
    intro front name back he
    have hm : .catchAll name ∈ front++.catchAll name::back := by simp
    rw [← he] at hm
    exact absurd hm (plain_literals (Text.split '/' base) name)
  distinct := (fresh_literals h []).distinct

/-! ## The first part that offends -/

theorem Offends.mono {more : List String} {isLast : Bool} (h : Offends whole seen isLast part e)
    (hs : seen ⊆ more) : Offends whole more isLast part e := by
  cases h with
  | flawed hf => exact .flawed hf
  | repeated hr hn hm => exact .repeated hr hn (hs hm)

theorem offends_of_parseParts (hs : ∀ part ∈ parts, '/' ∉ part.toList)
    (h : parseParts whole seen parts = .error e) :
    ∃ front part back, parts = front.map Segment.text++part::back ∧ Fresh seen front ∧
      Plain front ∧ Offends whole (seen++front.filterMap Segment.name?) back.isEmpty part e := by
  induction parts generalizing seen with
  | nil => cases h
  | cons part parts ih =>
    rw [List.forall_mem_cons] at hs
    rcases new_or_offends hs.1 whole seen parts.isEmpty with ⟨segment, hr, hn⟩ | ⟨found, ho⟩
    · rw [parseParts_of_new (Segment.parse_of_reads hr) hn] at h
      cases hrest : parseParts whole (segment.name?.toList++seen) parts with
      | ok rest =>
        rw [hrest] at h
        cases h
      | error other =>
        rw [hrest] at h
        cases h
        obtain ⟨front, next, back, rfl, hf, hp, ho⟩ := ih hs.2 hrest
        refine ⟨segment::front, next, back, by simp [hr.text],
          fresh_cons.mpr ⟨hr.wellFormed, hn, hf⟩, fun name hm => ?_, ho.mono fun x hx => ?_⟩
        · rcases List.mem_cons.mp hm with he | hm
          · have hl := hr.last name he.symm
            simp at hl
          · exact hp name hm
        · cases hname : segment.name? with
          | none => simpa [hname] using hx
          | some name => simpa [hname, or_left_comm] using hx
    · rw [parseParts_of_offends hs.1 ho] at h
      cases h
      refine ⟨[], part, parts, rfl, ⟨by simp, by simp, by simp⟩, by simp [Plain], ?_⟩
      exact ho.mono fun x hx => List.mem_append_left _ hx

structure Refused (whole : String) (parts : List String) (front : List Segment) (part : String)
    (back : List String) (e : Error) : Prop where
  parts : parts = front.map Segment.text++part::back
  wellFormed : ∀ segment ∈ front, segment.WellFormed
  plain : Plain front
  distinct : (front.filterMap Segment.name?).Nodup
  offends : Offends whole (front.filterMap Segment.name?) back.isEmpty part e

theorem parseParts_eq_error_iff (hs : ∀ part ∈ parts, '/' ∉ part.toList) :
    parseParts whole [] parts = .error e ↔
      ∃ front part back, Refused whole parts front part back e := by
  constructor
  · intro h
    obtain ⟨front, part, back, he, hf, hp, ho⟩ := offends_of_parseParts hs h
    exact ⟨front, part, back, he, hf.wellFormed, hp, hf.distinct, ho⟩
  · rintro ⟨front, part, back, rfl, hw, hp, hd, ho⟩
    have hpart : '/' ∉ part.toList := hs part (by simp)
    have hfresh : Fresh [] front := ⟨hw, hd, fun _ _ _ _ hm => List.not_mem_nil hm⟩
    have hplain : ∀ before name after, front = before++.catchAll name::after →
        after = [] ∧ part::back = [] := fun _ name _ he => absurd (by simp [he]) (hp name)
    rw [parseParts_written whole hfresh hplain,
      parseParts_of_offends hpart (ho.mono fun x hx => by simpa using hx)]
    rfl

/-- A text is read as a pattern exactly if it is written as that pattern. Else the error is
that of the leftmost part that offends. What was read has the text that was read, so that
patterns are the same exactly if their texts are. -/
theorem read_by_grammar (whole : String) :
    (∀ p, parse whole = .ok p ↔ p.Spells whole) ∧
    (∀ e, parse whole = .error e ↔ (whole = "" ∧ e = .emptyPath) ∨
      (whole ≠ "" ∧ ∃ front part back,
        Refused whole (Text.split '/' whole) front part back e)) ∧
    (∀ p, parse whole = .ok p → p.text = whole ∧
      ∀ other q, parse other = .ok q → (p = q ↔ whole = other)) := by
  refine ⟨fun p => parse_eq_ok_iff, fun e => ?_, fun p hp => ⟨text_of_parse hp, ?_⟩⟩
  · rw [← parseParts_eq_error_iff fun _ hp => Text.not_mem_of_mem_split hp, parse]
    by_cases hw : whole = ""
    · simp [hw, eq_comm]
    · cases parseParts whole [] (Text.split '/' whole) <;> simp [hw, bind, Except.bind]
  · intro other q hq
    constructor
    · rintro rfl
      rw [← text_of_parse hp, text_of_parse hq]
    · rintro rfl
      rw [hp] at hq
      exact Except.ok.inj hq

/-- The catch-all that comes too early is refused, and not its name, which was seen, nor the
brace behind it. -/
theorem rest_read_early_rest_refused :
    (∃ p q, parse "/shop/\x7bid\x7d/\x7b*rest\x7d" = .ok p ∧
      p.Spells "/shop/\x7bid\x7d/\x7b*rest\x7d" ∧ p.text = "/shop/\x7bid\x7d/\x7b*rest\x7d" ∧
      parse "/shop/\x7bid\x7d" = .ok q ∧ p ≠ q) ∧
    ∃ front part back, Refused "/\x7bid\x7d/\x7b*id\x7d/\x7bx"
      (Text.split '/' "/\x7bid\x7d/\x7b*id\x7d/\x7bx") front part back
      (.invalidPattern "/\x7bid\x7d/\x7b*id\x7d/\x7bx"
        "catch-all variable must be the last segment") := by
  obtain ⟨hspells, -, htext⟩ := read_by_grammar "/shop/\x7bid\x7d/\x7b*rest\x7d"
  obtain ⟨-, herror, -⟩ := read_by_grammar "/\x7bid\x7d/\x7b*id\x7d/\x7bx"
  have hp : parse "/shop/\x7bid\x7d/\x7b*rest\x7d" =
      .ok ⟨[.literal "", .literal "shop", .var "id", .catchAll "rest"]⟩ := rfl
  have hq : parse "/shop/\x7bid\x7d" = .ok ⟨[.literal "", .literal "shop", .var "id"]⟩ := rfl
  have he : parse "/\x7bid\x7d/\x7b*id\x7d/\x7bx" = .error (.invalidPattern
      "/\x7bid\x7d/\x7b*id\x7d/\x7bx" "catch-all variable must be the last segment") := rfl
  obtain ⟨hread, hsame⟩ := htext _ hp
  refine ⟨⟨_, _, hp, (hspells _).mp hp, hread, hq, ?_⟩, ?_⟩
  · rw [Ne, hsame _ _ hq]
    decide
  · rcases (herror _).mp he with ⟨hempty, -⟩ | ⟨-, hrefused⟩
    · exact absurd hempty (by decide)
    · exact hrefused

end Pattern

end WebApplication.Route
