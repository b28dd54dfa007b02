import WebApplication.Proofs.Route.Pattern
import WebApplication.Proofs.Traversal
import WebApplication.Route.Builder

/-!
# What a description of routes registers

A description is read as the list of its registrations, depth first and in order, each
with the prefixes of the scopes around it, the outermost first. A builder, which keeps
one prefix and one error, gives the table of these registrations, or the error of the
first of them that fails, whatever comes after it.
-/

set_option autoImplicit false

namespace WebApplication.Route

variable {σ : Type}

/-- A route, an entry of a table that is included, or a scope without a prefix of its
own, inside which nothing is registered. -/
inductive Registration (σ : Type) where
  | route (method : Http.Method) (path : String) (handler : Handler σ)
  | included (entry : Entry σ)
  | bareScope

/-- What a registration gives under the prefixes of the scopes around it. Outside of all
scopes an included entry is taken as it is. -/
def Registration.outcome (scopes : List String) : Registration σ → Except Error (Entry σ)
  | .route method path handler =>
    if path = "" then .error .emptyPath
    else (Pattern.parse (String.join scopes++path)).map fun pattern => ⟨method, pattern, handler⟩
  | .included entry =>
    if scopes = [] then .ok entry
    else (Pattern.parse (String.join scopes++entry.pattern.text)).map fun pattern =>
      ⟨entry.method, pattern, entry.handler⟩
  | .bareScope => .error .emptyPrefix

def Registration.described (scopes : List String) :
    Registration σ → Option (Http.Method × String × Handler σ)
  | .route method path handler => some (method, String.join scopes++path, handler)
  | .included entry =>
    some (entry.method, String.join scopes++entry.pattern.text, entry.handler)
  | .bareScope => none

/-- An entry comes from a text that was read, or it was included outside of all scopes. -/
theorem Registration.read_of_outcome {scopes : List String} {r : Registration σ}
    {entry : Entry σ} (h : r.outcome scopes = .ok entry) :
    (∃ whole, Pattern.parse whole = .ok entry.pattern ∧
      r.described scopes = some (entry.method, whole, entry.handler)) ∨
    (scopes = [] ∧ r = .included entry) := by
  cases r with
  | route method path handler =>
    rw [outcome] at h
    split at h
    · cases h
    · cases hp : Pattern.parse (String.join scopes++path) with
      | error e =>
        rw [hp] at h
        cases h
      | ok pattern =>
        rw [hp] at h
        cases h
        exact .inl ⟨_, hp, rfl⟩
  | included old =>
    rw [outcome] at h
    split at h
    · rename_i hs
      cases h
      exact .inr ⟨hs, rfl⟩
    · cases hp : Pattern.parse (String.join scopes++old.pattern.text) with
      | error e =>
        rw [hp] at h
        cases h
      | ok pattern =>
        rw [hp] at h
        cases h
        exact .inl ⟨_, hp, rfl⟩
  | bareScope => cases h

theorem Registration.described_of_outcome {scopes : List String} {r : Registration σ}
    {entry : Entry σ} (h : r.outcome scopes = .ok entry) :
    r.described scopes = some (entry.method, entry.pattern.text, entry.handler) := by
  rcases read_of_outcome h with ⟨whole, hp, hd⟩ | ⟨rfl, rfl⟩
  · rw [hd, Pattern.text_of_parse hp]
  · simp [described]

mutual

def Item.registrations (scopes : List String) :
    Item σ → List (List String × Registration σ)
  | .add method path handler => [(scopes, .route method path handler)]
  | .embed table => table.entries.map fun entry => (scopes, .included entry)
  | .nest base items =>
    if base = "" then [(scopes, .bareScope)] else registrations (scopes++[base]) items

def registrations (scopes : List String) :
    List (Item σ) → List (List String × Registration σ)
  | [] => []
  | item::items => item.registrations scopes++registrations scopes items

end

def entriesOf (rs : List (List String × Registration σ)) : Except Error (List (Entry σ)) :=
  rs.mapM fun r => r.2.outcome r.1

theorem entriesOf_append (rs more : List (List String × Registration σ)) :
    entriesOf (rs++more) =
      (entriesOf rs).bind fun entries => (entriesOf more).map (entries++·) := by
  rw [entriesOf, List.mapM_append]
  rfl

theorem entriesOf_single (scopes : List String) (r : Registration σ) :
    entriesOf [(scopes, r)] = (r.outcome scopes).map ([·]) := by
  rw [entriesOf, List.mapM_cons]
  cases r.outcome scopes <;> rfl

theorem registrations_append (scopes : List String) (items more : List (Item σ)) :
    registrations scopes (items++more) = registrations scopes items++registrations scopes more := by
  induction items with
  | nil => rfl
  | cons item items ih => simp [registrations, ih]

theorem join_eq_empty_iff {scopes : List String} (h : "" ∉ scopes) :
    String.join scopes = "" ↔ scopes = [] := by
  cases scopes with
  | nil => simp
  | cons scope scopes =>
    have hs : scope ≠ "" := fun he => h (by simp [he])
    simp [String.join_cons, hs]

namespace Builder

/-! ## A builder that has failed -/

theorem fail_of_error {b : Builder σ} (h : b.error.isSome = true) (e : Error) : b.fail e = b := by
  obtain ⟨first, hf⟩ := Option.isSome_iff_exists.mp h
  obtain ⟨base, entries, error⟩ := b
  subst hf
  rfl

mutual

theorem step_failed {b : Builder σ} (h : b.error.isSome = true) :
    (item : Item σ) → b.step item = b
  | .add method path handler => by simp [step, add, h]
  | .embed table => by simp [step, embed, h]
  | .nest base items => by
    rw [step]
    split
    · exact fail_of_error h _
    · have hb : ({ b with base := b.base++base } : Builder σ).error.isSome = true := h
      rw [run_failed hb items]

theorem run_failed {b : Builder σ} (h : b.error.isSome = true) :
    (items : List (Item σ)) → b.run items = b
  | [] => rfl
  | item::items => by rw [run, step_failed h item, run_failed h items]

end

theorem run_append (b : Builder σ) (items more : List (Item σ)) :
    b.run (items++more) = (b.run items).run more := by
  induction items generalizing b with
  | nil => rfl
  | cons item items ih => simp [run, ih]

/-! ## A builder that has not failed yet -/

structure Got (b : Builder σ) (result : Except Error (List (Entry σ))) (after : Builder σ) :
    Prop where
  base : after.base = b.base
  entries : ∀ entries, result = .ok entries →
    after.entries = b.entries++entries ∧ after.error = none
  error : ∀ e, result = .error e → after.error = some e

theorem Got.ok {b after : Builder σ} {entries : List (Entry σ)} (hb : after.base = b.base)
    (hn : after.entries = b.entries++entries) (he : after.error = none) :
    b.Got (.ok entries) after where
  base := hb
  entries := by
    intro others h
    cases h
    exact ⟨hn, he⟩
  error := by
    intro e h
    cases h

theorem Got.fail {b : Builder σ} (h : b.error = none) (e : Error) :
    b.Got (.error e) (b.fail e) where
  base := rfl
  entries := by
    intro entries h
    cases h
  error := by
    intro other ho
    cases ho
    simp [Builder.fail, h]

/-- What follows a failure adds nothing to it. -/
theorem Got.trans {b middle after : Builder σ} {first second : Except Error (List (Entry σ))}
    (h : b.Got first middle) (hs : middle.error = none → middle.Got second after)
    (hf : middle.error.isSome = true → after = middle) :
    b.Got (first.bind fun entries => second.map (entries++·)) after := by
  cases first with
  | error e =>
    rw [hf (by simp [h.error e rfl])]
    exact h
  | ok entries =>
    obtain ⟨hn, he⟩ := h.entries entries rfl
    have hg := hs he
    have hbase := hg.base.trans h.base
    cases second with
    | error e =>
      refine ⟨hbase, fun others ho => ?_, fun other ho => ?_⟩
      · cases ho
      · cases ho
        exact hg.error e rfl
    | ok more =>
      obtain ⟨hn', he'⟩ := hg.entries more rfl
      exact .ok hbase (by rw [hn', hn, List.append_assoc]) he'

theorem add_got {b : Builder σ} (h : b.error = none) {scopes : List String}
    (hb : b.base = String.join scopes) (method : Http.Method) (path : String)
    (handler : Handler σ) :
    b.Got (entriesOf [(scopes, .route method path handler)]) (b.add method path handler) := by
  have hnot : ¬b.error.isSome = true := by simp [h]
  rw [entriesOf_single, Registration.outcome, add, if_neg hnot, hb]
  by_cases hp : path = ""
  · rw [if_pos hp, if_pos hp]
    exact .fail h .emptyPath
  · rw [if_neg hp, if_neg hp]
    cases Pattern.parse (String.join scopes++path) with
    | error e => exact .fail h e
    | ok pattern => exact .ok hb.symm rfl h

theorem entriesOf_included {scopes : List String} (h : "" ∉ scopes) (hn : scopes ≠ [])
    (table : Table σ) :
    entriesOf (table.entries.map fun entry => (scopes, Registration.included entry)) =
      (table.nest (String.join scopes)).map Table.entries := by
  have hj : String.join scopes ≠ "" := fun he => hn ((join_eq_empty_iff h).mp he)
  have ho : (fun entry : Entry σ => (Registration.included entry).outcome scopes) =
      Table.nestEntry (String.join scopes) := by
    funext entry
    simp only [Registration.outcome, hn, if_false, Table.nestEntry]
    cases Pattern.parse (String.join scopes++entry.pattern.text) <;> rfl
  simp only [entriesOf, List.mapM_map, Function.comp_def, Table.nest, hj, if_false, ho]
  cases table.entries.mapM (Table.nestEntry (String.join scopes)) <;> rfl

theorem entriesOf_included_outside (table : Table σ) :
    entriesOf (table.entries.map fun entry => ([], Registration.included entry)) =
      .ok table.entries := by
  rw [entriesOf, mapM_ok_iff, List.forall₂_map_left_iff]
  exact List.forall₂_same.mpr fun entry _ => rfl

theorem embed_got {b : Builder σ} (h : b.error = none) {scopes : List String}
    (hb : b.base = String.join scopes) (hs : "" ∉ scopes) (table : Table σ) :
    b.Got (entriesOf (table.entries.map fun entry => (scopes, .included entry)))
      (b.embed table) := by
  have hnot : ¬b.error.isSome = true := by simp [h]
  rw [embed, if_neg hnot]
  by_cases hn : scopes = []
  · subst hn
    have hbase : b.base = "" := hb
    rw [entriesOf_included_outside, if_pos hbase]
    exact .ok rfl rfl h
  · have hbase : b.base ≠ "" := fun he => hn ((join_eq_empty_iff hs).mp (hb ▸ he))
    rw [entriesOf_included hs hn, ← hb, if_neg hbase]
    cases table.nest b.base with
    | error e => exact .fail h e
    | ok nested => exact .ok rfl rfl h

mutual

/-- A step gets what its item registers in the scopes of the builder. -/
theorem step_got {b : Builder σ} (h : b.error = none) {scopes : List String}
    (hb : b.base = String.join scopes) (hs : "" ∉ scopes) :
    (item : Item σ) → b.Got (entriesOf (item.registrations scopes)) (b.step item)
  | .add method path handler => add_got h hb method path handler
  | .embed table => embed_got h hb hs table
  | .nest base items => by
    rw [Item.registrations, step]
    split
    · exact .fail h .emptyPrefix
    · rename_i hbase
      have hb' : b.base++base = String.join (scopes++[base]) := by
        simp [String.join_append, String.join_cons, hb]
      have hs' : "" ∉ scopes++[base] := by simp [hs, Ne.symm hbase]
      -- The inner builder differs in its prefix only, and that is put back.
      have hinner : ({ b with base := b.base++base } : Builder σ).error = none := h
      have hg := run_got hinner hb' hs' items
      exact ⟨rfl, hg.entries, hg.error⟩

theorem run_got {b : Builder σ} (h : b.error = none) {scopes : List String}
    (hb : b.base = String.join scopes) (hs : "" ∉ scopes) :
    (items : List (Item σ)) → b.Got (entriesOf (registrations scopes items)) (b.run items)
  | [] => .ok rfl (by simp [run]) h
  | item::items => by
    rw [registrations, entriesOf_append, run]
    have hg := step_got h hb hs item
    exact hg.trans (fun he => run_got he (hg.base.trans hb) hs items)
      (fun he => run_failed he items)

end

theorem build_eq (items : List (Item σ)) :
    (start.run items).build = (entriesOf (registrations [] items)).map Table.mk := by
  have hbase : (start : Builder σ).base = String.join [] := rfl
  have hg := run_got rfl hbase (by simp) items
  rw [build]
  cases hr : entriesOf (registrations [] items) with
  | ok entries =>
    obtain ⟨hn, he⟩ := hg.entries entries hr
    rw [he, hn]
    rfl
  | error e =>
    rw [hg.error e hr]
    rfl

theorem build_ok_iff {items : List (Item σ)} {entries : List (Entry σ)} :
    (start.run items).build = .ok ⟨entries⟩ ↔
      List.Forall₂ (fun r entry => r.2.outcome r.1 = .ok entry) (registrations [] items) entries := by
  rw [build_eq, ← mapM_ok_iff, ← entriesOf]
  cases entriesOf (registrations [] items) <;> simp [Except.map]

theorem build_error_iff {items : List (Item σ)} {e : Error} :
    (start.run items).build = .error e ↔ ∃ front r back,
      registrations [] items = front++r::back ∧
      (∀ other ∈ front, ∃ entry, other.2.outcome other.1 = .ok entry) ∧
      r.2.outcome r.1 = .error e := by
  rw [build_eq, ← mapM_error_iff, ← entriesOf]
  cases entriesOf (registrations [] items) <;> simp [Except.map]

theorem described_of_build {items : List (Item σ)} {table : Table σ}
    (h : (start.run items).build = .ok table) :
    (registrations [] items).map (fun r => r.2.described r.1) =
      table.entries.map fun e => some (e.method, e.pattern.text, e.handler) := by
  have hf := build_ok_iff.mp h
  rw [← List.forall₂_eq_eq_eq, List.forall₂_map_left_iff, List.forall₂_map_right_iff]
  exact hf.imp fun _ _ ho => Registration.described_of_outcome ho

theorem build_more (items more : List (Item σ)) :
    ((start.run items).run more).build =
      ((entriesOf (registrations [] items)).bind fun entries =>
        (entriesOf (registrations [] more)).map (entries++·)).map Table.mk := by
  rw [← run_append, build_eq, registrations_append, entriesOf_append]

/-- There is a table exactly if every registration succeeds. It holds what they give, in
order: the method and the handler of each under the text of its pattern behind the
prefixes around it. Else there is the error of the first registration that fails, which
stays. A table only grows behind its end. -/
theorem builds_registrations (items : List (Item σ)) :
    (∀ entries, (start.run items).build = .ok ⟨entries⟩ ↔
      List.Forall₂ (fun r entry => r.2.outcome r.1 = .ok entry)
        (registrations [] items) entries) ∧
    (∀ table, (start.run items).build = .ok table →
      (registrations [] items).map (fun r => r.2.described r.1) =
        table.entries.map fun e => some (e.method, e.pattern.text, e.handler)) ∧
    (∀ e, (start.run items).build = .error e ↔ ∃ front r back,
      registrations [] items = front++r::back ∧
      (∀ other ∈ front, ∃ entry, other.2.outcome other.1 = .ok entry) ∧
      r.2.outcome r.1 = .error e) ∧
    ∀ more,
      (∀ e, (start.run items).build = .error e → ((start.run items).run more).build = .error e) ∧
      ∀ table later, (start.run items).build = .ok table →
        ((start.run items).run more).build = .ok later → table.entries <+: later.entries := by
  refine ⟨fun _ => build_ok_iff, fun _ => described_of_build, fun _ => build_error_iff,
    fun more => ?_⟩
  rw [build_more, build_eq]
  cases entriesOf (registrations [] items) with
  | error first =>
    refine ⟨fun e h => h, fun table later h => ?_⟩
    cases h
  | ok entries =>
    refine ⟨fun e h => ?_, fun table later h hl => ?_⟩
    · cases h
    · cases h
      cases hm : entriesOf (registrations [] more) with
      | error e =>
        rw [hm] at hl
        cases hl
      | ok added =>
        rw [hm] at hl
        cases hl
        exact List.prefix_append entries added

def page (identity : Nat) (flavor : Flavor) : Handler Unit :=
  ⟨identity, flavor, fun _ => return Http.Response.ofStatus 200⟩

def tour : List (Item Unit) :=
  [.nest "/\x7ba" [.add "PUT" "b\x7d" (page 0 .direct)],
    .nest "/api" [.nest "/v1" [.embed ⟨[⟨"GET", ⟨[.literal "", .var "id"]⟩, page 1 .deferred⟩]⟩],
      .add "DELETE" "/" (page 2 .direct)],
    .add "POST" "/after" (page 3 .direct)]

theorem tour_built_then_refused :
    (∃ table, (start.run tour).build = .ok table ∧
      (registrations [] tour).map (fun r => r.2.described r.1) =
        table.entries.map (fun e => some (e.method, e.pattern.text, e.handler)) ∧
      table.entries.map (·.pattern.text) = ["/\x7bab\x7d", "/api/v1/\x7bid\x7d", "/api/", "/after"]) ∧
    (start.run [.nest "/api" [.add "GET" "" (page 4 .direct)]]).build = .error .emptyPath ∧
    ((start.run [.nest "/api" [.add "GET" "" (page 4 .direct)]]).run
      (.nest "" tour::tour)).build = .error .emptyPath := by
  have hbuild : (start.run tour).build = .ok ⟨[
      ⟨"PUT", ⟨[.literal "", .var "ab"]⟩, page 0 .direct⟩,
      ⟨"GET", ⟨[.literal "", .literal "api", .literal "v1", .var "id"]⟩, page 1 .deferred⟩,
      ⟨"DELETE", ⟨[.literal "", .literal "api", .literal ""]⟩, page 2 .direct⟩,
      ⟨"POST", ⟨[.literal "", .literal "after"]⟩, page 3 .direct⟩]⟩ := rfl
  have hempty : (start.run [.nest "/api" [.add "GET" "" (page 4 .direct)]]).build =
      .error .emptyPath := rfl
  obtain ⟨-, hdescribed, -, -⟩ := builds_registrations tour
  obtain ⟨-, -, -, hmore⟩ := builds_registrations [.nest "/api" [.add "GET" "" (page 4 .direct)]]
  exact ⟨⟨_, hbuild, hdescribed _ hbuild, rfl⟩, hempty, (hmore _).1 _ hempty⟩

end Builder

end WebApplication.Route
