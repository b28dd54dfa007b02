import Mathlib.Data.List.Chain
import Mathlib.Logic.Relation
import WebApplication.Proofs.Bean.Dependencies

/-!
# Visits in depth

A visit that succeeds leaves an order in which every bean stands behind all that it
needs, and adds only beans that the visited one needs. A visit that fails has met a
cycle, or a declared dependency that no bean meets.
-/

set_option autoImplicit false

namespace WebApplication.Bean.Registry

open Relation (TransGen ReflTransGen)

variable {C : Catalog} {σ : Type} {r : Registry C σ}

structure Sorted (r : Registry C σ) (order : List String) : Prop where
  nodup : order.Nodup
  known : ∀ name ∈ order, name ∈ r.names
  behind : ∀ front name back, order = front++name::back → ∀ d ∈ r.definitions, d.name = name →
    ∀ dependency ∈ d.dependencies, ∃ e, r.Meets dependency e ∧ e.name ∈ front

theorem sorted_nil (r : Registry C σ) : r.Sorted [] where
  nodup := List.nodup_nil
  known := by simp
  behind front name back h := by simp at h

/-- A name may stand behind all that it needs. -/
theorem Sorted.append {order : List String} {d : Definition C σ} (h : r.Sorted order)
    (hd : d ∈ r.definitions) (hn : d.name ∉ order)
    (hm : ∀ dependency ∈ d.dependencies, ∃ e, r.Meets dependency e ∧ e.name ∈ order) :
    r.Sorted (order++[d.name]) where
  nodup := nodup_append_single h.nodup hn
  known := by
    intro name hname
    rcases List.mem_append.mp hname with hname | hname
    · exact h.known name hname
    · rw [List.mem_singleton.mp hname]
      exact mem_names hd
  behind := by
    intro front name back he e hin hname
    rcases List.eq_nil_or_concat back with rfl | ⟨rest, last, rfl⟩
    · obtain ⟨rfl, hlast⟩ := List.append_inj' he rfl
      obtain rfl : d = e := eq_of_name hd hin (by simpa [hname] using hlast)
      exact hm
    · have he' : order++[d.name] = (front++name::rest)++[last] := by simpa using he
      obtain ⟨rfl, -⟩ := List.append_inj' he' rfl
      exact h.behind front name rest rfl e hin hname

theorem Sorted.needed_before {order front back : List String} {name needed : String}
    (h : r.Sorted order) (hn : r.Needs name needed) (he : order = front++name::back) :
    needed ∈ front := by
  obtain ⟨d, hd, hname, dependency, hdep, e, hm, rfl⟩ := hn
  obtain ⟨e', hm', hin⟩ := h.behind front name back he d hd hname dependency hdep
  rwa [hm.unique hm']

theorem Sorted.before {order front back : List String} {name needed : String}
    (h : r.Sorted order) (hn : TransGen r.Needs name needed)
    (he : order = front++name::back) : needed ∈ front := by
  induction hn using TransGen.head_induction_on generalizing front back with
  | single hs => exact h.needed_before hs he
  | head hs _ ih =>
    obtain ⟨before, between, rfl⟩ := List.append_of_mem (h.needed_before hs he)
    rw [List.append_assoc, List.cons_append] at he
    exact List.mem_append_left _ (ih he)

structure Grows (r : Registry C σ) (path : List String) (source : String → Prop)
    (order after : List String) : Prop where
  sorted : r.Sorted after
  keeps : order <+: after
  fresh : ∀ name ∈ after, name ∈ order ∨ name ∉ path ∧ source name

namespace Grows

variable {path order middle after : List String} {source other : String → Prop}

theorem refl (h : r.Sorted order) : r.Grows path source order order :=
  ⟨h, List.prefix_refl order, fun _ hn => .inl hn⟩

theorem trans (h : r.Grows path source order middle) (h' : r.Grows path source middle after) :
    r.Grows path source order after where
  sorted := h'.sorted
  keeps := h.keeps.trans h'.keeps
  fresh name hn := by
    rcases h'.fresh name hn with hm | hf
    · exact h.fresh name hm
    · exact .inr hf

theorem imp (h : r.Grows path source order after) (hs : ∀ name, source name → other name) :
    r.Grows path other order after where
  sorted := h.sorted
  keeps := h.keeps
  fresh name hn := (h.fresh name hn).imp_right fun hf => ⟨hf.1, hs name hf.2⟩

end Grows

/-! ## Visiting -/

def visitNeeds (r : Registry C σ) (depth : Nat) (path : List String) (requester : String) :
    List (Dependency C) → List String → Except Error (List String)
  | [], order => .ok order
  | dependency::rest, order =>
    match r.resolve dependency requester with
    | .error e => .error e
    | .ok d =>
      match r.visit depth path d order with
      | .error e => .error e
      | .ok order => visitNeeds r depth path requester rest order

theorem foldlM_eq_visitNeeds (r : Registry C σ) (depth : Nat) (path : List String)
    (requester : String) (dependencies : List (Dependency C)) (order : List String) :
    dependencies.foldlM (fun order dependency => do
      r.visit depth path (← r.resolve dependency requester) order) order =
        r.visitNeeds depth path requester dependencies order := by
  induction dependencies generalizing order with
  | nil => rfl
  | cons dependency rest ih =>
    rw [List.foldlM_cons, visitNeeds]
    cases r.resolve dependency requester with
    | error e => rfl
    | ok d =>
      cases hv : r.visit depth path d order with
      | error e => simp [hv, bind, Except.bind]
      | ok after => simpa [hv, bind, Except.bind] using ih after

theorem visit_succ (r : Registry C σ) (depth : Nat) (path : List String) (d : Definition C σ)
    (order : List String) : r.visit (depth+1) path d order =
      if d.name ∈ order then .ok order
      else if d.name ∈ path then .error (.cyclic (cycleFrom path d.name))
      else match r.visitNeeds depth (path++[d.name]) d.name d.dependencies order with
        | .error e => .error e
        | .ok after => .ok (after++[d.name]) := by
  rw [visit]
  split
  · rfl
  · split
    · rfl
    · simp only [foldlM_eq_visitNeeds]
      cases r.visitNeeds depth (path++[d.name]) d.name d.dependencies order <;> rfl

theorem visit_zero (r : Registry C σ) (path : List String) (d : Definition C σ)
    (order : List String) : r.visit 0 path d order =
      if d.name ∈ order then .ok order else .error (.cyclic (cycleFrom path d.name)) := by
  rw [visit]
  split
  · rfl
  · split <;> rfl

def Visits (r : Registry C σ) (depth : Nat) : Prop :=
  ∀ path d order after, d ∈ r.definitions → r.Sorted order →
    r.visit depth path d order = .ok after →
      r.Grows path (ReflTransGen r.Needs d.name) order after ∧ d.name ∈ after

theorem visitNeeds_ok {depth : Nat} (hv : r.Visits depth) {path order after : List String}
    {d : Definition C σ} (hd : d ∈ r.definitions) {dependencies : List (Dependency C)}
    (hsub : ∀ dependency ∈ dependencies, dependency ∈ d.dependencies) (hs : r.Sorted order)
    (h : r.visitNeeds depth path d.name dependencies order = .ok after) :
    r.Grows path (ReflTransGen r.Needs d.name) order after ∧
      ∀ dependency ∈ dependencies, ∃ e, r.Meets dependency e ∧ e.name ∈ after := by
  induction dependencies generalizing order with
  | nil =>
    cases h
    exact ⟨.refl hs, by simp⟩
  | cons dependency rest ih =>
    rw [visitNeeds] at h
    split at h
    · cases h
    · rename_i e he
      have hm := resolve_eq_ok_iff.mp he
      split at h
      · cases h
      · rename_i middle hmid
        obtain ⟨hg, hin⟩ := hv path e order middle hm.1 hs hmid
        obtain ⟨hg', hall⟩ := ih (fun x hx => hsub x (by simp [hx])) hg.sorted h
        have hneeds : r.Needs d.name e.name :=
          ⟨d, hd, rfl, dependency, hsub dependency (by simp), e, hm, rfl⟩
        refine ⟨(hg.imp fun name hr => hr.head hneeds).trans hg', ?_⟩
        intro x hx
        rcases List.mem_cons.mp hx with rfl | hx
        · exact ⟨e, hm, hg'.keeps.subset hin⟩
        · exact hall x hx

theorem visits (r : Registry C σ) (depth : Nat) : r.Visits depth := by
  induction depth with
  | zero =>
    intro path d order after hd hs h
    rw [visit_zero] at h
    split at h
    · rename_i hin
      cases h
      exact ⟨.refl hs, hin⟩
    · cases h
  | succ depth ih =>
    intro path d order after hd hs h
    rw [visit_succ] at h
    split at h
    · rename_i hin
      cases h
      exact ⟨.refl hs, hin⟩
    · rename_i hout
      split at h
      · cases h
      · rename_i hpath
        split at h
        · cases h
        · rename_i middle hmid
          cases h
          obtain ⟨hg, hall⟩ := visitNeeds_ok ih hd (fun _ hx => hx) hs hmid
          have hnot : d.name ∉ middle := by
            intro hin
            rcases hg.fresh d.name hin with hin | ⟨hoff, -⟩
            · exact hout hin
            · simp at hoff
          refine ⟨⟨hg.sorted.append hd hnot hall, hg.keeps.trans (List.prefix_append _ _), ?_⟩,
            by simp⟩
          intro name hname
          rcases List.mem_append.mp hname with hname | hname
          · refine (hg.fresh name hname).imp_right fun hf => ⟨fun hin => hf.1 ?_, hf.2⟩
            exact List.mem_append_left _ hin
          · rw [List.mem_singleton.mp hname]
            exact .inr ⟨hpath, .refl⟩

/-! ## Errors -/

/-- A chain of names that starts and ends with the same one, holds no other name twice,
and in which every name needs the next. -/
def Cycle (r : Registry C σ) (chain : List String) : Prop :=
  ∃ name rest, chain = name::rest++[name] ∧ (name::rest).Nodup ∧ chain.IsChain r.Needs

inductive Obstacle (r : Registry C σ) : Error → Prop
  | cyclic {chain : List String} (h : r.Cycle chain) : Obstacle r (.cyclic chain)
  | unmet {d : Definition C σ} {dependency : Dependency C} {e : Error} (hd : d ∈ r.definitions)
      (hdep : dependency ∈ d.dependencies) (h : r.resolve dependency d.name = .error e) :
      Obstacle r e

theorem cycleFrom_append {before rest : List String} {name : String} (h : name ∉ before) :
    cycleFrom (before++name::rest) name = name::rest++[name] := by
  have hall : ∀ other ∈ before, decide (other ≠ name) = true := by
    intro other ho
    rw [decide_eq_true_eq]
    rintro rfl
    exact h ho
  rw [cycleFrom, List.dropWhile_append_of_pos hall, List.dropWhile_cons_of_neg (by simp)]

theorem cycle_of_path {path : List String} {name : String} (hin : name ∈ path)
    (hn : path.Nodup) (hc : (path++[name]).IsChain r.Needs) : r.Cycle (cycleFrom path name) := by
  obtain ⟨before, rest, rfl, hout⟩ := List.eq_append_cons_of_mem hin
  refine ⟨name, rest, cycleFrom_append hout, hn.sublist (List.sublist_append_right _ _), ?_⟩
  rw [cycleFrom_append hout]
  rw [List.append_assoc] at hc
  exact hc.right_of_append

structure Path (r : Registry C σ) (path : List String) (name : String) : Prop where
  nodup : path.Nodup
  known : ∀ other ∈ path, other ∈ r.names
  chain : (path++[name]).IsChain r.Needs

theorem Path.push {path : List String} {name needed : String} (h : r.Path path name)
    (hin : name ∈ r.names) (hout : name ∉ path) (hn : r.Needs name needed) :
    r.Path (path++[name]) needed where
  nodup := nodup_append_single h.nodup hout
  known := by
    intro other ho
    rcases List.mem_append.mp ho with ho | ho
    · exact h.known other ho
    · exact List.mem_singleton.mp ho ▸ hin
  chain := by
    rw [List.isChain_append]
    refine ⟨h.chain, List.isChain_singleton needed, ?_⟩
    simpa using hn

theorem Path.length_lt {path : List String} {name : String} (h : r.Path path name)
    (hin : name ∈ r.names) (hout : name ∉ path) : path.length < r.size := by
  have hl := length_lt_of_not_mem h.nodup h.known hout hin
  rwa [names, List.length_map] at hl

theorem visitNeeds_error {depth : Nat} {path : List String} {d : Definition C σ}
    (hd : d ∈ r.definitions) (hp : ∀ needed, r.Needs d.name needed → r.Path path needed)
    (hv : ∀ e order failure, e ∈ r.definitions → r.Path path e.name →
      r.visit depth path e order = .error failure → r.Obstacle failure)
    {dependencies : List (Dependency C)}
    (hsub : ∀ dependency ∈ dependencies, dependency ∈ d.dependencies) {order : List String}
    {failure : Error} (h : r.visitNeeds depth path d.name dependencies order = .error failure) :
    r.Obstacle failure := by
  induction dependencies generalizing order with
  | nil => cases h
  | cons dependency rest ih =>
    have hdep := hsub dependency (by simp)
    rw [visitNeeds] at h
    split at h
    · rename_i e he
      cases h
      exact .unmet hd hdep he
    · rename_i e he
      have hm := resolve_eq_ok_iff.mp he
      split at h
      · rename_i e' hve
        cases h
        exact hv e order failure hm.1 (hp e.name ⟨d, hd, rfl, dependency, hdep, e, hm, rfl⟩) hve
      · exact ih (fun x hx => hsub x (by simp [hx])) h

/-- The depth never runs out before a cycle shows. -/
theorem visit_error {depth : Nat} {path : List String} {d : Definition C σ}
    {order : List String} {failure : Error} (hd : d ∈ r.definitions) (hp : r.Path path d.name)
    (hl : r.size ≤ depth+path.length) (h : r.visit depth path d order = .error failure) :
    r.Obstacle failure := by
  induction depth generalizing path d order failure with
  | zero =>
    by_cases hin : d.name ∈ path
    · rw [visit_zero] at h
      split at h
      · cases h
      · cases h
        exact .cyclic (cycle_of_path hin hp.nodup hp.chain)
    · have hlt := hp.length_lt (mem_names hd) hin
      omega
  | succ depth ih =>
    rw [visit_succ] at h
    split at h
    · cases h
    · split at h
      · rename_i hin
        cases h
        exact .cyclic (cycle_of_path hin hp.nodup hp.chain)
      · rename_i hout
        split at h
        · rename_i e he
          cases h
          refine visitNeeds_error hd (fun needed hn => hp.push (mem_names hd) hout hn) ?_
            (fun _ hx => hx) he
          intro e order failure he hpe hve
          exact ih he hpe (by rw [List.length_append, List.length_singleton]; omega) hve
        · cases h

end WebApplication.Bean.Registry
