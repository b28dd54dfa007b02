import WebApplication.Proofs.Bean.Visit

/-!
# The order of construction

There is an order exactly if every declared dependency is met and no bean needs itself,
directly or through others. It holds every bean once and behind all that it needs, and a
bean comes before one registered earlier only if something registered no later than that
one needs it. A reported cycle is one.
-/

set_option autoImplicit false

namespace WebApplication.Bean.Registry

open Relation (TransGen ReflTransGen)

variable {C : Catalog} {σ : Type} {r : Registry C σ}

def Complete (r : Registry C σ) : Prop :=
  ∀ d ∈ r.definitions, ∀ dependency ∈ d.dependencies, ∃ e, r.Meets dependency e

def Acyclic (r : Registry C σ) : Prop := ∀ name, ¬TransGen r.Needs name name

/-- What is promised of an order: every bean once, what it needs before it, and else the
order of registration. -/
structure Ordered (r : Registry C σ) (order : List String) : Prop where
  perm : order.Perm r.names
  needs : ∀ front name back, order = front++name::back →
    ∀ needed, TransGen r.Needs name needed → needed ∈ front
  ties : ∀ before earlier after, r.names = before++earlier::after → ∀ later ∈ after,
    ∀ front back, order = front++earlier::back → later ∈ front →
      ∃ root ∈ before++[earlier], TransGen r.Needs root later

theorem path_nil {name : String} : r.Path [] name where
  nodup := List.nodup_nil
  known := by simp
  chain := List.isChain_singleton name

/-! ## Visiting several definitions -/

def visitAll (r : Registry C σ) (ds : List (Definition C σ)) (order : List String) :
    Except Error (List String) :=
  ds.foldlM (fun order d => r.visit r.size [] d order) order

theorem constructionOrder_eq (r : Registry C σ) :
    r.constructionOrder = r.visitAll r.definitions [] := rfl

theorem visitAll_cons (d : Definition C σ) (ds : List (Definition C σ)) (order : List String) :
    r.visitAll (d::ds) order =
      match r.visit r.size [] d order with
      | .error e => .error e
      | .ok after => r.visitAll ds after := by
  rw [visitAll, List.foldlM_cons]
  cases r.visit r.size [] d order <;> rfl

theorem visitAll_append {ds es : List (Definition C σ)} {order after : List String}
    (h : r.visitAll (ds++es) order = .ok after) :
    ∃ middle, r.visitAll ds order = .ok middle ∧ r.visitAll es middle = .ok after := by
  induction ds generalizing order with
  | nil => exact ⟨order, rfl, h⟩
  | cons d ds ih =>
    rw [List.cons_append, visitAll_cons] at h
    rw [visitAll_cons]
    cases hv : r.visit r.size [] d order with
    | error e =>
      rw [hv] at h
      cases h
    | ok middle =>
      rw [hv] at h
      exact ih h

theorem visitAll_ok {ds : List (Definition C σ)} (hds : ∀ d ∈ ds, d ∈ r.definitions)
    {order after : List String} (hs : r.Sorted order) (h : r.visitAll ds order = .ok after) :
    r.Grows [] (fun name => ∃ root ∈ ds, ReflTransGen r.Needs root.name name) order after ∧
      ∀ d ∈ ds, d.name ∈ after := by
  induction ds generalizing order with
  | nil =>
    cases h
    exact ⟨.refl hs, by simp⟩
  | cons d ds ih =>
    rw [visitAll_cons] at h
    split at h
    · cases h
    · rename_i middle hv
      obtain ⟨hg, hin⟩ := visits r r.size [] d order middle (hds d (by simp)) hs hv
      obtain ⟨hg', hall⟩ := ih (fun e he => hds e (by simp [he])) hg.sorted h
      refine ⟨(hg.imp ?_).trans (hg'.imp ?_), ?_⟩
      · intro name hn
        exact ⟨d, by simp, hn⟩
      · intro name hn
        obtain ⟨root, hr, hn⟩ := hn
        exact ⟨root, by simp [hr], hn⟩
      · intro e he
        rcases List.mem_cons.mp he with rfl | he
        · exact hg'.keeps.subset hin
        · exact hall e he

theorem visitAll_error {ds : List (Definition C σ)} (hds : ∀ d ∈ ds, d ∈ r.definitions)
    {order : List String} {failure : Error} (h : r.visitAll ds order = .error failure) :
    r.Obstacle failure := by
  induction ds generalizing order with
  | nil => cases h
  | cons d ds ih =>
    rw [visitAll_cons] at h
    split at h
    · rename_i e hv
      cases h
      exact visit_error (hds d (by simp)) path_nil (by simp) hv
    · exact ih (fun e he => hds e (by simp [he])) h

/-! ## The whole order -/

theorem names_sorted {order : List String} (h : r.constructionOrder = .ok order) :
    r.Sorted order ∧ ∀ name ∈ r.names, name ∈ order := by
  obtain ⟨hg, hall⟩ := visitAll_ok (fun _ hd => hd) (sorted_nil r) h
  refine ⟨hg.sorted, ?_⟩
  intro name hn
  obtain ⟨d, hd, rfl⟩ := List.mem_map.mp hn
  exact hall d hd

theorem Cycle.needs_itself {chain : List String} (h : r.Cycle chain) :
    ∃ name, TransGen r.Needs name name := by
  obtain ⟨name, rest, rfl, -, hc⟩ := h
  refine ⟨name, ?_⟩
  cases rest with
  | nil => exact .single (List.isChain_pair.mp hc)
  | cons next rest =>
    obtain ⟨hn, hc⟩ := List.isChain_cons_cons.mp hc
    exact .head' hn (List.relationReflTransGen_of_exists_isChain_cons _ hc (by simp))

theorem Obstacle.obstructs {failure : Error} (h : r.Obstacle failure) :
    ¬(r.Complete ∧ r.Acyclic) := by
  intro hr
  obtain ⟨hcomplete, hacyclic⟩ := hr
  cases h with
  | cyclic hc =>
    obtain ⟨name, hn⟩ := hc.needs_itself
    exact hacyclic name hn
  | unmet hd hdep he =>
    obtain ⟨e, hm⟩ := hcomplete _ hd _ hdep
    rw [resolve_eq_ok_iff.mpr hm] at he
    cases he

theorem Obstacle.cycle {chain : List String} (h : r.Obstacle (.cyclic chain)) :
    r.Cycle chain := by
  cases h with
  | cyclic hc => exact hc
  | unmet _ _ he => exact absurd he resolve_ne_cyclic

theorem source_mem_names {name needed : String} (h : TransGen r.Needs name needed) :
    name ∈ r.names := by
  obtain ⟨middle, ⟨d, hd, rfl, -⟩, -⟩ := TransGen.head'_iff.mp h
  exact mem_names hd

theorem Sorted.complete {order : List String} (hs : r.Sorted order)
    (hall : ∀ name ∈ r.names, name ∈ order) : r.Complete := by
  intro d hd dependency hdep
  obtain ⟨front, back, he⟩ := List.append_of_mem (hall d.name (mem_names hd))
  obtain ⟨e, hm, -⟩ := hs.behind front d.name back he d hd rfl dependency hdep
  exact ⟨e, hm⟩

theorem Sorted.acyclic {order : List String} (hs : r.Sorted order)
    (hall : ∀ name ∈ r.names, name ∈ order) : r.Acyclic := by
  intro name hn
  obtain ⟨front, back, he⟩ := List.append_of_mem (hall name (source_mem_names hn))
  have hin := hs.before hn he
  have hnodup := hs.nodup
  rw [he, List.nodup_append] at hnodup
  exact hnodup.2.2 name hin name (by simp) rfl

theorem complete_of_ok {order : List String} (h : r.constructionOrder = .ok order) :
    r.Complete :=
  (names_sorted h).1.complete (names_sorted h).2

theorem acyclic_of_ok {order : List String} (h : r.constructionOrder = .ok order) :
    r.Acyclic :=
  (names_sorted h).1.acyclic (names_sorted h).2

theorem order_of_complete_acyclic (hc : r.Complete) (ha : r.Acyclic) :
    ∃ order, r.constructionOrder = .ok order := by
  cases ho : r.constructionOrder with
  | ok order => exact ⟨order, rfl⟩
  | error failure =>
    exact absurd ⟨hc, ha⟩ (visitAll_error (fun _ hd => hd) ho).obstructs

theorem mem_of_before {order middle front back : List String} {name other : String}
    (hn : order.Nodup) (hp : middle <+: order) (hin : name ∈ middle)
    (he : order = front++name::back) (hf : other ∈ front) : other ∈ middle := by
  have hfront : front <+: order := he ▸ List.prefix_append front (name::back)
  rcases List.prefix_or_prefix_of_prefix hp hfront with hm | hm
  · rw [he, List.nodup_append] at hn
    exact absurd rfl (hn.2.2 name (hm.subset hin) name (by simp))
  · exact hm.subset hf

theorem tie {before after order front back : List String} {earlier later : String}
    (h : r.constructionOrder = .ok order) (hr : r.names = before++earlier::after)
    (hl : later ∈ after) (he : order = front++earlier::back) (hf : later ∈ front) :
    ∃ root ∈ before++[earlier], TransGen r.Needs root later := by
  have hr' : r.names = (before++[earlier])++after := by simpa using hr
  obtain ⟨ds, es, hdefs, hds, hes⟩ := List.map_eq_append_iff.mp hr'
  have hsub : ∀ d ∈ ds++es, d ∈ r.definitions := fun d hd => hdefs ▸ hd
  rw [constructionOrder_eq, hdefs] at h
  obtain ⟨middle, hm, ha⟩ := visitAll_append h
  obtain ⟨hg, hall⟩ := visitAll_ok (fun d hd => hsub d (by simp [hd])) (sorted_nil r) hm
  obtain ⟨hg', -⟩ := visitAll_ok (fun d hd => hsub d (by simp [hd])) hg.sorted ha
  have hearlier : earlier ∈ middle := by
    have hmem : earlier ∈ ds.map Definition.name := by rw [hds]; simp
    obtain ⟨d, hd, rfl⟩ := List.mem_map.mp hmem
    exact hall d hd
  have hlater := mem_of_before hg'.sorted.nodup hg'.keeps hearlier he hf
  rcases hg.fresh later hlater with hnil | ⟨-, root, hroot, hneeds⟩
  · cases hnil
  · have hin : root.name ∈ before++[earlier] := hds ▸ List.mem_map_of_mem hroot
    refine ⟨root.name, hin, ?_⟩
    rcases Relation.reflTransGen_iff_eq_or_transGen.mp hneeds with rfl | hneeds
    · have hnodup : (before++[earlier]++after).Nodup := hr' ▸ r.nodup
      exact absurd rfl ((List.nodup_append.mp hnodup).2.2 _ hin _ hl)
    · exact hneeds

theorem ordered_of_ok {order : List String} (h : r.constructionOrder = .ok order) :
    r.Ordered order where
  perm := by
    obtain ⟨hs, hall⟩ := names_sorted h
    have hnodup : r.names.Nodup := r.nodup
    rw [List.perm_ext_iff_of_nodup hs.nodup hnodup]
    exact fun name => ⟨hs.known name, hall name⟩
  needs _ _ _ he _ hn := (names_sorted h).1.before hn he
  ties _ _ _ hr _ hl _ _ he hf := tie h hr hl he hf

/-- An order exists exactly if every declared dependency is met and no bean needs itself;
it is as promised, and a reported cycle is one. -/
theorem ordered_iff_complete_acyclic (r : Registry C σ) :
    ((∃ order, r.constructionOrder = .ok order) ↔ r.Complete ∧ r.Acyclic) ∧
    (∀ order, r.constructionOrder = .ok order → r.Ordered order) ∧
    ∀ chain, r.constructionOrder = .error (.cyclic chain) → r.Cycle chain := by
  refine ⟨⟨?_, ?_⟩, fun _ => ordered_of_ok, ?_⟩
  · intro h
    obtain ⟨order, h⟩ := h
    exact ⟨complete_of_ok h, acyclic_of_ok h⟩
  · intro h
    exact order_of_complete_acyclic h.1 h.2
  · intro chain h
    exact (visitAll_error (fun _ hd => hd) h).cycle

def declared (name : String) (needs : List String) : Definition .plain Unit :=
  ⟨name, (), needs.map (Dependency.named ()), .done (.ok ())⟩

def diamond : Registry .plain Unit :=
  ⟨[declared "page" ["store", "cache"], declared "cache" ["files"],
    declared "store" ["files"], declared "files" []], by decide⟩

def loop : Registry .plain Unit :=
  ⟨[declared "page" ["store"], declared "store" ["cache"], declared "cache" ["store"]],
    by decide⟩

theorem diamond_ordered_loop_reported :
    diamond.constructionOrder = .ok ["files", "store", "cache", "page"] ∧
    diamond.Ordered ["files", "store", "cache", "page"] ∧
    loop.constructionOrder = .error (.cyclic ["store", "cache", "store"]) ∧
    loop.Cycle ["store", "cache", "store"] := by
  have hd : diamond.constructionOrder = .ok ["files", "store", "cache", "page"] := rfl
  have hl : loop.constructionOrder = .error (.cyclic ["store", "cache", "store"]) := rfl
  exact ⟨hd, (ordered_iff_complete_acyclic diamond).2.1 _ hd, hl,
    (ordered_iff_complete_acyclic loop).2.2 _ hl⟩

end WebApplication.Bean.Registry
