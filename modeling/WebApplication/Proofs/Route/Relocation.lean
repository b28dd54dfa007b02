import WebApplication.Proofs.Route.Lookup
import WebApplication.Proofs.Route.Nesting

/-!
# Lookups in nested tables

A prefix may have variables of its own. Below a text that it stands for a nested table
finds what the table finds without the prefix: the entry in the same place, which captures
what it captured before and the values of the variables of the prefix. It makes no
difference whether the prefix begins or ends with a slash.
-/

set_option autoImplicit false

namespace WebApplication.Route

open Segment (Plain Proper)

namespace Pattern

variable {base front path rest : String} {p q r : Pattern} {tail : List Segment}
  {given : Params} {parts taken left : List String}

/-! ## Matching -/

theorem matchParts_filled {segments back : List Segment} (h : Filled segments given taken)
    (hp : Plain segments) (left : List String) :
    matchParts (segments++back) (taken++left) = (matchParts back left).map (given++·) := by
  induction h with
  | nil => simp
  | literal s _ ih =>
    rw [List.cons_append, List.cons_append, matchParts, if_pos rfl,
      ih (Segment.plain_of_cons hp)]
  | var name hv _ _ ih =>
    rw [List.cons_append, List.cons_append, matchParts, if_neg hv,
      ih (Segment.plain_of_cons hp), Option.map_map]
    rfl
  | catchAll name value => exact absurd (by simp) (hp name)

theorem matchParts_nil (ht : tail ≠ []) (h : matchParts tail [""] = none) :
    matchParts tail [] = none := by
  cases tail with
  | nil => exact absurd rfl ht
  | cons segment tail =>
    cases segment with
    | literal s => rfl
    | var name => rfl
    | catchAll name => cases h

theorem withoutSlash_append {front : List String} (hf : front ≠ []) (hl : 1 < left.length) :
    withoutSlash? (front++left) =
      if left.getLast? = some "" then some (front++left.dropLast) else none := by
  have hne : left ≠ [] := List.ne_nil_of_length_pos (by omega)
  have hpos := List.length_pos_iff.mpr hf
  have hlong : 2 < front.length+left.length := by omega
  rw [withoutSlash?, List.getLast?_append_of_ne_nil _ hne, List.dropLast_append_of_ne_nil hne]
  simp [hlong]

/-- With the slash at the end left out, parts are matched behind a prefix as without it. -/
theorem retry_below (hfill : Filled p.segments given taken) (hplain : Plain p.segments)
    (hn : taken ≠ []) (ht : tail ≠ []) (hl : left ≠ []) (h : matchParts tail left = none) :
    (withoutSlash? (taken++left)).bind (matchParts (p.segments++tail)) =
      ((withoutSlash? (""::left)).bind (matchParts (.literal ""::tail))).map (given++·) := by
  rcases Nat.lt_or_ge 1 left.length with hlong | hshort
  · rw [withoutSlash_append hn hlong, ← List.singleton_append,
      withoutSlash_append (List.cons_ne_nil _ _) hlong]
    by_cases he : left.getLast? = some ""
    · rw [if_pos he, if_pos he, Option.bind_some, matchParts_filled hfill hplain]
      rfl
    · rw [if_neg he, if_neg he]
      rfl
  · -- one part is left, so that the slash in front of it is the only one of the path
    obtain ⟨part, rfl⟩ := List.length_eq_one_iff.mp
      (Nat.le_antisymm hshort (List.length_pos_iff.mpr hl))
    have hnone : withoutSlash? ["", part] = none := by simp [withoutSlash?]
    rw [hnone, Option.bind_none, Option.map_none, Option.bind_eq_none_iff]
    intro before hb
    obtain ⟨he, -⟩ := withoutSlash_eq_some_iff.mp hb
    obtain ⟨rfl, hpart⟩ := List.append_inj' he rfl
    rw [List.singleton_inj.mp hpart] at h
    have hrest : matchParts (p.segments++tail) (taken++[]) = (matchParts tail []).map (given++·) :=
      matchParts_filled hfill hplain []
    rwa [List.append_nil, matchParts_nil ht h] at hrest

theorem endsWithSlash_below (hq : q.segments = p.segments++tail)
    (hr : r.segments = .literal ""::tail) (ht : tail ≠ []) :
    q.endsWithSlash = r.endsWithSlash := by
  rw [endsWithSlash, endsWithSlash, hq, hr, List.getLast?_append_of_ne_nil _ ht,
    ← List.singleton_append, List.getLast?_append_of_ne_nil _ ht]

/-- Below a text that its prefix stands for, a pattern matches what it matches without the
prefix, and captures the values of the prefix too. -/
theorem matchPath_below (hp : p.Spells base) (hplain : Plain p.segments)
    (hq : q.segments = p.segments++tail) (hr : r.segments = .literal ""::tail) (ht : tail ≠ [])
    (hfront : Replaced p.segments given front) (path : String) :
    q.matchPath (front++"/"++path) = (r.matchPath ("/"++path)).map (given++·) := by
  obtain ⟨taken, hfill, rfl⟩ := hfront
  have hproper : Proper p.segments := proper_of_parse (parse_of_spells hp)
  have hne : p.segments ≠ [] := segments_ne_nil (parse_of_spells hp)
  have htaken : taken ≠ [] := by
    rintro rfl
    exact hne (List.eq_nil_of_length_eq_zero hfill.length_eq.symm)
  have hsplit : Text.split '/' (Text.join '/' taken++"/"++path) =
      taken++Text.split '/' path := by
    rw [split_below, Text.split_join htaken (hfill.slashFree hproper hplain)]
  have hfirst : matchParts r.segments (""::Text.split '/' path) =
      matchParts tail (Text.split '/' path) := by
    rw [hr, matchParts, if_pos rfl]
  rw [matchPath, matchPath, hsplit, split_rooted, endsWithSlash_below hq hr ht]
  rw [hq, matchParts_filled hfill hplain, hfirst]
  cases hm : matchParts tail (Text.split '/' path) with
  | some others => rfl
  | none =>
    cases r.endsWithSlash with
    | true => rfl
    | false =>
      rw [hr]
      exact retry_below hfill hplain htaken ht (Text.split_ne_nil path) hm

end Pattern

namespace Table

variable {σ : Type} {base : String} {table nested : Table σ} {given : Params}

/-- What a nested table finds in place of what was found before. -/
structure Moved (base : String) (given : Params) (found inner : Match σ) : Prop where
  position : inner.position = found.position
  entry : nestEntry base found.entry = .ok inner.entry
  params : inner.params = given++found.params

theorem firstMatch_below {method : Http.Method} {path lower : String}
    {entries inners : List (Entry σ)}
    (h : List.Forall₂ (fun e inner => nestEntry base e = .ok inner ∧
      inner.pattern.matchPath lower = (e.pattern.matchPath path).map (given++·)) entries inners)
    (position : Nat) :
    Option.Rel (Moved base given) (firstMatch method path position entries)
      (firstMatch method lower position inners) := by
  induction h generalizing position with
  | nil => exact .none
  | @cons e inner entries inners he _ ih =>
    obtain ⟨hnest, hmatch⟩ := he
    obtain ⟨-, hmethod, -⟩ := nestEntry_eq_ok_iff.mp hnest
    by_cases hm : e.method = method
    · cases hp : e.pattern.matchPath path with
      | some params =>
        rw [firstMatch_taken hm hp, firstMatch_taken (hmethod.trans hm) (by rw [hmatch, hp]; rfl)]
        exact .some ⟨rfl, hnest, rfl⟩
      | none =>
        rw [firstMatch_passed fun _ => hp, firstMatch_passed fun _ => by rw [hmatch, hp]; rfl]
        exact ih (position+1)
    · rw [firstMatch_passed fun he => absurd he hm,
        firstMatch_passed fun he => absurd (hmethod.symm.trans he) hm]
      exact ih (position+1)

theorem find?_below {method : Http.Method} {path lower : String}
    (h : List.Forall₂ (fun e inner => nestEntry base e = .ok inner ∧
      inner.pattern.matchPath lower = (e.pattern.matchPath path).map (given++·))
      table.entries nested.entries) :
    Option.Rel (Moved base given) (table.find? method path) (nested.find? method lower) := by
  have hfirst : ∀ method, Option.Rel (Moved base given) (firstMatch method path 0 table.entries)
      (firstMatch method lower 0 nested.entries) := fun _ => firstMatch_below h 0
  have hown := hfirst method
  rw [find?, find?]
  generalize firstMatch method path 0 table.entries = found at hown ⊢
  generalize firstMatch method lower 0 nested.entries = inner at hown ⊢
  cases hown with
  | some hmoved => exact .some hmoved
  | none =>
    by_cases hh : method = "HEAD"
    · rw [if_pos hh, if_pos hh]
      exact hfirst "GET"
    · rw [if_neg hh, if_neg hh]
      exact .none

variable {p : Pattern}

theorem exists_nestEntry (hp : p.Spells base) (hplain : Plain p.segments) {e : Entry σ}
    {rest : String} (ht : e.pattern.text = "/"++rest)
    (hr : Pattern.parse e.pattern.text = .ok e.pattern)
    (hd : ∀ name ∈ e.pattern.names, name ∉ p.names) :
    ∃ inner, nestEntry base e = .ok inner ∧
      ∀ given front, Replaced p.segments given front → ∀ path,
        inner.pattern.matchPath (front++"/"++path) =
          (e.pattern.matchPath ("/"++path)).map (given++·) := by
  obtain ⟨tail, hne, hs, hnested⟩ := nestEntry_of_apart hp hplain ht hr hd
  refine ⟨_, hnested, fun given front hfront path => ?_⟩
  exact Pattern.matchPath_below hp hplain rfl hs hne hfront path

/-- A table can be nested below a prefix that has no catch-all and none of its variables.
Below every text that the prefix stands for, the nested table finds for every request what
the table finds for the rest of the path: the entry in the same place, or none. -/
theorem nested_finds_alike (hp : Pattern.parse base = .ok p) (hplain : Plain p.segments)
    (ht : table.Rooted) (hr : table.WasRead)
    (hd : ∀ e ∈ table.entries, ∀ name ∈ e.pattern.names, name ∉ p.names) :
    ∃ nested, table.nest base = .ok nested ∧
      ∀ given front, Replaced p.segments given front → ∀ method path,
        Option.Rel (Moved base given) (table.find? method ("/"++path))
          (nested.find? method (front++"/"++path)) := by
  have hspells := Pattern.spells_of_parse hp
  have hall : ∀ e ∈ table.entries, ∃ inner, nestEntry base e = .ok inner ∧
      ∀ given front, Replaced p.segments given front → ∀ path,
        inner.pattern.matchPath (front++"/"++path) =
          (e.pattern.matchPath ("/"++path)).map (given++·) := by
    intro e he
    obtain ⟨rest, htext⟩ := ht e he
    exact exists_nestEntry hspells hplain htext (hr e he) (hd e he)
  obtain ⟨inners, hi⟩ := exists_mapM_ok fun e he => (hall e he).imp fun _ => And.left
  have hnest : table.nest base = .ok ⟨inners⟩ := by rw [nest_eq hspells.nonempty, hi, Except.map]
  refine ⟨⟨inners⟩, hnest, fun given front hfront method path => find?_below ?_⟩
  have hboth := (List.forall₂_and_left _ _).mpr ⟨hall, mapM_ok_iff.mp hi⟩
  refine hboth.imp fun e inner h => ⟨h.2, ?_⟩
  obtain ⟨⟨found, hfound, hmatch⟩, hinner⟩ := h
  rw [hinner] at hfound
  rw [Except.ok.inj hfound]
  exact hmatch given front hfront path

def window : Table Unit :=
  ⟨[⟨"GET", ⟨[.literal "", .literal ""]⟩, ⟨0, .direct, fun _ => return .ofStatus 200⟩⟩,
    ⟨"GET", ⟨[.literal "", .var "ware"]⟩, ⟨1, .direct, fun _ => return .ofStatus 200⟩⟩,
    ⟨"GET", ⟨[.literal "", .literal "corner", .catchAll "rest"]⟩,
      ⟨2, .deferred, fun _ => return .ofStatus 200⟩⟩]⟩

theorem window_found_in_shop : ∃ nested, window.nest "/shops/\x7bshop\x7d" = .ok nested ∧
    (nested.find? "HEAD" "/shops/7/3/").map (fun found => (found.position, found.params)) =
      some (1, [("shop", "7"), ("ware", "3")]) ∧
    Option.Rel (Moved "/shops/\x7bshop\x7d" [("shop", "7")]) (window.find? "HEAD" "/3/")
      (nested.find? "HEAD" "/shops/7/3/") ∧
    Option.Rel (Moved "/shops/\x7bshop\x7d" [("shop", "7")]) (window.find? "GET" "/")
      (nested.find? "GET" "/shops/7/") := by
  have hp : Pattern.parse "/shops/\x7bshop\x7d" =
      .ok ⟨[.literal "", .literal "shops", .var "shop"]⟩ := rfl
  have hplain : Plain [.literal "", .literal "shops", .var "shop"] := by simp [Plain]
  have ht : window.Rooted := by
    simp only [Rooted, window, List.forall_mem_cons]
    exact ⟨⟨"", rfl⟩, ⟨"\x7bware\x7d", rfl⟩, ⟨"corner/\x7b*rest\x7d", rfl⟩, by simp⟩
  have hr : window.WasRead := by
    simp only [WasRead, window, List.forall_mem_cons]
    exact ⟨rfl, rfl, rfl, by simp⟩
  have hd : ∀ e ∈ window.entries, ∀ name ∈ e.pattern.names, name ∉ ["shop"] := by decide
  have hfront : Replaced [.literal "", .literal "shops", .var "shop"] [("shop", "7")] "/shops/7" :=
    ⟨["", "shops", "7"], .literal _ (.literal _ (.var _ (by decide) (by decide) .nil)), rfl⟩
  have hn : window.nest "/shops/\x7bshop\x7d" = .ok ⟨[
      ⟨"GET", ⟨[.literal "", .literal "shops", .var "shop", .literal ""]⟩,
        ⟨0, .direct, fun _ => return .ofStatus 200⟩⟩,
      ⟨"GET", ⟨[.literal "", .literal "shops", .var "shop", .var "ware"]⟩,
        ⟨1, .direct, fun _ => return .ofStatus 200⟩⟩,
      ⟨"GET", ⟨[.literal "", .literal "shops", .var "shop", .literal "corner", .catchAll "rest"]⟩,
        ⟨2, .deferred, fun _ => return .ofStatus 200⟩⟩]⟩ := rfl
  obtain ⟨nested, hnested, halike⟩ := nested_finds_alike hp hplain ht hr hd
  rw [hn] at hnested
  cases hnested
  exact ⟨_, hn, rfl, halike _ _ hfront "HEAD" "3/", halike _ _ hfront "GET" ""⟩

end Table

end WebApplication.Route
