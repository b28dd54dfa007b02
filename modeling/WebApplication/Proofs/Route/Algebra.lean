import WebApplication.Proofs.Route.Registration
import WebApplication.Proofs.Route.Relocation

/-!
# The algebra of tables

Tables are put behind one another and below prefixes. Prefixes that are put before a table
one after another are one prefix, a prefix goes to both of two tables that stand behind one
another, and a builder puts the prefixes of its scopes before a table that it includes as
the table itself does. All of this holds of the errors as well.
-/

set_option autoImplicit false

namespace WebApplication.Route

variable {σ : Type}

namespace Table

variable {a b inner : Table σ} {base outer : String}

theorem append_assoc (a b c : Table σ) : (a.append b).append c = a.append (b.append c) := by
  simp [append]

theorem empty_append (a : Table σ) : empty.append a = a := rfl

theorem append_empty (a : Table σ) : a.append empty = a := by
  simp [append, empty]

theorem nestEntry_nestEntry {e found : Entry σ} (h : nestEntry base e = .ok found)
    (outer : String) : nestEntry outer found = nestEntry (outer++base) e := by
  obtain ⟨hp, hm, hh⟩ := nestEntry_eq_ok_iff.mp h
  rw [nestEntry, nestEntry, Pattern.text_of_parse hp, String.append_assoc, hm, hh]

theorem ne_empty_of_nest (h : a.nest base = .ok inner) : base ≠ "" := by
  rintro rfl
  cases h

theorem nest_nest (h : a.nest base = .ok inner) (ho : outer ≠ "") :
    inner.nest outer = a.nest (outer++base) := by
  have hb := ne_empty_of_nest h
  have hentries := (nest_eq_ok_iff hb).mp h
  have hsame : List.Forall₂ (fun e found => nestEntry (outer++base) e = nestEntry outer found)
      a.entries inner.entries :=
    hentries.imp fun _ _ hn => (nestEntry_nestEntry hn outer).symm
  rw [nest_eq ho, nest_eq (by simp [ho]), mapM_eq_of_forall₂ hsame]

theorem nest_append (a b : Table σ) (base : String) :
    (a.append b).nest base =
      (a.nest base).bind fun first => (b.nest base).map fun second => first.append second := by
  by_cases hb : base = ""
  · subst hb
    rfl
  · rw [nest_eq hb, nest_eq hb, nest_eq hb, append, List.mapM_append]
    cases a.entries.mapM (nestEntry base) with
    | error e => rfl
    | ok first => cases b.entries.mapM (nestEntry base) <;> rfl

/-! ## Patterns that were read -/

theorem WasRead.append (ha : a.WasRead) (hb : b.WasRead) : (a.append b).WasRead := by
  intro e he
  exact (List.mem_append.mp he).elim (ha e) (hb e)

theorem wasRead_of_nest (h : a.nest base = .ok inner) : inner.WasRead := by
  intro found hf
  have hentries := mapM_ok_iff.mpr ((nest_eq_ok_iff (ne_empty_of_nest h)).mp h)
  obtain ⟨e, -, hn⟩ := exists_of_mem_mapM hentries hf
  obtain ⟨hp, -, -⟩ := nestEntry_eq_ok_iff.mp hn
  rw [Pattern.text_of_parse hp, hp]

end Table

/-! ## Scopes of builders -/

def Item.within (item : Item σ) : List String → Item σ
  | [] => item
  | scope::scopes => .nest scope [item.within scopes]

namespace Builder

variable {b : Builder σ} {scopes outer : List String}

/-- Inside of scopes a table is included as it is below all their prefixes. -/
theorem step_within (a : Table σ) (h : b.error = none) (hb : b.base = String.join outer)
    (hs : "" ∉ outer++scopes) (hn : outer++scopes ≠ []) :
    b.step ((Item.embed a).within scopes) =
      match a.nest (String.join (outer++scopes)) with
      | .ok nested => { b with entries := b.entries++nested.entries }
      | .error e => b.fail e := by
  induction scopes generalizing b outer with
  | nil =>
    rw [List.append_nil] at hs hn ⊢
    have hbase : b.base ≠ "" := fun he => hn ((join_eq_empty_iff hs).mp (hb ▸ he))
    cases hnest : a.nest b.base <;> simp [Item.within, step, embed, h, hbase, ← hb, hnest]
  | cons scope scopes ih =>
    have happend : outer++scope::scopes = (outer++[scope])++scopes := by simp
    rw [happend] at hs hn ⊢
    have hscope : scope ≠ "" := by
      rintro rfl
      simp at hs
    have hjoin : b.base++scope = String.join (outer++[scope]) := by
      simp [String.join_append, String.join_cons, hb]
    have hinner : ({ b with base := b.base++scope } : Builder σ).error = none := h
    rw [Item.within, step, if_neg hscope, run, run, ih hinner hjoin hs hn]
    cases a.nest (String.join (outer++[scope]++scopes)) <;> rfl

theorem step_embed_outside (a : Table σ) (h : b.error = none) :
    ({ b with base := "" } : Builder σ).step (.embed a) =
      { b with base := "", entries := b.entries++a.entries } := by
  rw [step, embed, if_neg (by simp [h]), if_pos rfl]

theorem wasRead_of_build {items : List (Item σ)} {table : Table σ}
    (h : (start.run items).build = .ok table)
    (hr : ∀ r ∈ registrations [] items, ∀ old, r.2 = .included old →
      Pattern.parse old.pattern.text = .ok old.pattern) : table.WasRead := by
  intro entry he
  obtain ⟨⟨scopes, r⟩, hin, ho⟩ := exists_of_mem_mapM (mapM_ok_iff.mpr (build_ok_iff.mp h)) he
  rcases Registration.read_of_outcome ho with ⟨whole, hp, -⟩ | ⟨-, hincluded⟩
  · rw [Pattern.text_of_parse hp, hp]
  · exact hr _ hin entry hincluded

end Builder

namespace Table

/-- Tables are a monoid. Nesting twice is nesting once below both prefixes, nesting tables
that stand behind one another is nesting each of them, the first error first, and a table
that is included in the scopes of a builder gives what it gives nested outside of them. -/
theorem nesting_composes (a b c : Table σ) (base outer : String) :
    (a.append b).append c = a.append (b.append c) ∧
    empty.append a = a ∧ a.append empty = a ∧
    (∀ inner, a.nest base = .ok inner → outer ≠ "" → inner.nest outer = a.nest (outer++base)) ∧
    (a.append b).nest base =
      (a.nest base).bind (fun first => (b.nest base).map fun second => first.append second) ∧
    ∀ (builder : Builder σ) (around scopes : List String),
      builder.error = none → builder.base = String.join around →
      "" ∉ around++scopes → around++scopes ≠ [] →
      builder.step ((Item.embed a).within scopes) =
        match a.nest (String.join (around++scopes)) with
        | .ok nested =>
          { ({ builder with base := "" } : Builder σ).step (.embed nested) with
            base := builder.base }
        | .error e => builder.fail e := by
  refine ⟨append_assoc a b c, empty_append a, append_empty a, fun inner => nest_nest,
    nest_append a b base, fun builder around scopes h hb hs hn => ?_⟩
  rw [Builder.step_within a h hb hs hn]
  cases a.nest (String.join (around++scopes)) with
  | error e => rfl
  | ok nested => simp only [Builder.step_embed_outside nested h]

def greetings : Table Unit :=
  ⟨[⟨"GET", ⟨[.literal "", .var "name"]⟩, ⟨0, .direct, fun _ => return .ofStatus 200⟩⟩]⟩

/-- The second prefix names the variable of the table again, outside as in the scopes. -/
theorem greetings_refused_below_name : ∃ inner, greetings.nest "/v1" = .ok inner ∧
    inner.nest "/\x7bname\x7d" =
      .error (.duplicateVariable "/\x7bname\x7d/v1/\x7bname\x7d" "name") ∧
    (greetings.append greetings).nest "/v1" = .ok (inner.append inner) ∧
    Builder.start.step ((Item.embed greetings).within ["/\x7bname\x7d", "/v1"]) =
      Builder.start.fail (.duplicateVariable "/\x7bname\x7d/v1/\x7bname\x7d" "name") ∧
    Builder.start.step ((Item.embed greetings).within ["/v1"]) =
      Builder.start.step (.embed inner) := by
  obtain ⟨-, -, -, htwice, hboth, hscopes⟩ :=
    nesting_composes greetings greetings empty "/v1" "/\x7bname\x7d"
  have hn : greetings.nest "/v1" = .ok ⟨[⟨"GET", ⟨[.literal "", .literal "v1", .var "name"]⟩,
      ⟨0, .direct, fun _ => return .ofStatus 200⟩⟩]⟩ := rfl
  have he : greetings.nest "/\x7bname\x7d/v1" =
      .error (.duplicateVariable "/\x7bname\x7d/v1/\x7bname\x7d" "name") := rfl
  refine ⟨_, hn, ?_, ?_, ?_, ?_⟩
  · rw [htwice _ hn (by decide)]
    exact he
  · rw [hboth, hn]
    rfl
  · have hfail := hscopes .start [] ["/\x7bname\x7d", "/v1"] rfl rfl (by decide) (by decide)
    have hjoin : String.join ([]++["/\x7bname\x7d", "/v1"]) = "/\x7bname\x7d/v1" := rfl
    rw [hjoin, he] at hfail
    exact hfail
  · have hok := hscopes .start [] ["/v1"] rfl rfl (by decide) (by decide)
    have hjoin : String.join ([]++["/v1"]) = "/v1" := rfl
    rw [hjoin, hn] at hok
    exact hok

end Table

end WebApplication.Route
