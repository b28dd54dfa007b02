import Mathlib.Data.List.Infix
import WebApplication.Proofs.Configuration.Walk
import WebApplication.Proofs.Profile

/-!
# Blocks under a profile

Declaring only adds parts, and after an error no block comes of it. So what is declared under
a profile, at any depth, is part of the block that is built in the end, and flattening under
the profile and those around it includes it. Active are the profiles that a text lists, as
long as their names have no commas and no blanks.
-/

set_option autoImplicit false

namespace WebApplication.Configuration

variable {C : Bean.Catalog} {σ : Type} {profile name : String} {block : Block C σ}
  {declaration : Declaration C σ} {inner declarations front back : List (Declaration C σ)}

/-! ## What comes of a declaration -/

namespace Draft

variable {d : Draft C σ}

theorem build_eq_ok_iff : d.build = .ok block ↔ d.error = none ∧ block = ⟨d.name, d.parts⟩ := by
  rw [build]
  cases d.error <;> simp [eq_comm]

theorem declare_grows (d : Draft C σ) (declaration : Declaration C σ) :
    d.parts <+: (d.declare declaration).parts ∧
      ((d.declare declaration).error = none → d.error = none) := by
  cases declaration with
  | name | beans | listener | server | enable => simp [declare, add]
  | properties root binding =>
    rw [declare]
    cases flawOfPrefix root <;> simp [add, fail]
  | profile profile declarations =>
    rw [declare]
    split
    · simp [fail]
    · cases (declareAll (start s!"{d.name}[{profile}]") declarations).build <;> simp [add, fail]

theorem declareAll_grows (d : Draft C σ) (declarations : List (Declaration C σ)) :
    d.parts <+: (d.declareAll declarations).parts ∧
      ((d.declareAll declarations).error = none → d.error = none) := by
  induction declarations generalizing d with
  | nil => exact ⟨List.prefix_refl _, id⟩
  | cons declaration declarations ih =>
    obtain ⟨hparts, herror⟩ := d.declare_grows declaration
    obtain ⟨hlater, hnone⟩ := ih (d.declare declaration)
    exact ⟨hparts.trans hlater, fun h => herror (hnone h)⟩

theorem declareAll_append (d : Draft C σ) (front back : List (Declaration C σ)) :
    d.declareAll (front++back) = (d.declareAll front).declareAll back := by
  induction front generalizing d with
  | nil => rfl
  | cons declaration front ih => exact ih _

theorem declare_profile (h : (d.declare (.profile profile inner)).error = none) :
    Text.trim profile ≠ "" ∧ ∃ block,
      Block.ofDeclarations s!"{d.name}[{profile}]" inner = .ok block ∧
      d.declare (.profile profile inner) = d.add (.profile profile block.name block.parts) := by
  rw [declare] at h ⊢
  by_cases ht : Text.trim profile = ""
  · simp [ht, fail] at h
  · rw [if_neg ht] at h ⊢
    rw [Block.ofDeclarations]
    cases hb : (declareAll (start s!"{d.name}[{profile}]") inner).build with
    | error e => simp [hb, fail] at h
    | ok block => exact ⟨ht, block, rfl, rfl⟩

end Draft

theorem Block.exists_declared
    (h : Block.ofDeclarations name (front++declaration::back) = .ok block) :
    ∃ d : Draft C σ, (d.declare declaration).error = none ∧
      (d.declare declaration).parts <+: block.parts := by
  rw [ofDeclarations, Draft.declareAll_append, Draft.build_eq_ok_iff] at h
  obtain ⟨herror, rfl⟩ := h
  obtain ⟨hparts, hnone⟩ :=
    (((Draft.start name).declareAll front).declare declaration).declareAll_grows back
  exact ⟨(Draft.start name).declareAll front, hnone herror, hparts⟩

/-- Something is declared under a profile: in this block, under further profiles around it, or
in a block that is enabled. -/
inductive Within (profile : String) (inner : List (Declaration C σ)) :
    List String → List (Declaration C σ) → Prop
  | here (front back : List (Declaration C σ)) :
      Within profile inner [] (front++.profile profile inner::back)
  | deeper (outer : String) (front back : List (Declaration C σ)) {enclosing : List String}
      {declarations : List (Declaration C σ)} (h : Within profile inner enclosing declarations) :
      Within profile inner (outer::enclosing) (front++.profile outer declarations::back)
  | enabled {name : String} {block : Block C σ} (front back : List (Declaration C σ))
      {enclosing : List String} {declarations : List (Declaration C σ)}
      (hb : Block.ofDeclarations name declarations = .ok block)
      (h : Within profile inner enclosing declarations) :
      Within profile inner enclosing (front++.enable block::back)

/-! ## Flattening -/

theorem walk_part_infix (profiles : Profiles) (block : String) {part : Part C σ}
    {parts : List (Part C σ)} (h : part ∈ parts) :
    part.walk profiles block <:+: walk profiles block parts := by
  obtain ⟨front, back, rfl⟩ := List.append_of_mem h
  exact ⟨walk profiles block front, walk profiles block back, by
    rw [← List.singleton_append, walk_append, walk_append, walk_single, List.append_assoc]⟩

theorem Block.exists_profile
    (h : Block.ofDeclarations name (front++.profile profile inner::back) = .ok block) :
    Text.trim profile ≠ "" ∧ ∃ (outer : String) (nested : Block C σ),
      Block.ofDeclarations s!"{outer}[{profile}]" inner = .ok nested ∧
      ∀ profiles : Profiles, profiles.contains profile = true →
        walk profiles nested.name nested.parts <:+: walk profiles block.name block.parts := by
  obtain ⟨d, herror, hparts⟩ := Block.exists_declared h
  obtain ⟨hname, nested, hnested, hd⟩ := Draft.declare_profile herror
  refine ⟨hname, d.name, nested, hnested, fun profiles hp => ?_⟩
  have hmem : Part.profile profile nested.name nested.parts ∈ block.parts :=
    hparts.subset (by simp [hd, Draft.add])
  have hwalk := walk_part_infix profiles block.name hmem
  rwa [Part.walk, if_pos hp] at hwalk

theorem Block.enabled_infix {around : Block C σ}
    (h : Block.ofDeclarations name (front++.enable around::back) = .ok block)
    (profiles : Profiles) :
    walk profiles around.name around.parts <:+: walk profiles block.name block.parts := by
  obtain ⟨d, -, hparts⟩ := Block.exists_declared h
  have hmem : Part.enable around.name around.parts ∈ block.parts :=
    hparts.subset (by simp [Draft.declare, Draft.add])
  have hwalk := walk_part_infix profiles block.name hmem
  rwa [Part.walk] at hwalk

/-- The same at any depth, when the profiles around are active too. -/
theorem Within.exists_walk {enclosing : List String}
    (h : Within profile inner enclosing declarations)
    (hb : Block.ofDeclarations name declarations = .ok block) :
    Text.trim profile ≠ "" ∧ ∃ (outer : String) (nested : Block C σ),
      Block.ofDeclarations s!"{outer}[{profile}]" inner = .ok nested ∧
      ∀ profiles : Profiles, profiles.contains profile = true →
        (∀ outer ∈ enclosing, profiles.contains outer = true) →
        walk profiles nested.name nested.parts <:+: walk profiles block.name block.parts := by
  induction h generalizing name block with
  | here front back =>
    obtain ⟨hname, outer, nested, hnested, hwalk⟩ := Block.exists_profile hb
    exact ⟨hname, outer, nested, hnested, fun profiles hp _ => hwalk profiles hp⟩
  | deeper outer front back _ ih =>
    obtain ⟨-, _, around, haround, hwalk⟩ := Block.exists_profile hb
    obtain ⟨hname, label, nested, hnested, hinner⟩ := ih haround
    refine ⟨hname, label, nested, hnested, fun profiles hp he => ?_⟩
    obtain ⟨houter, henclosing⟩ := List.forall_mem_cons.mp he
    exact (hinner profiles hp henclosing).trans (hwalk profiles houter)
  | enabled front back haround _ ih =>
    obtain ⟨hname, outer, nested, hnested, hinner⟩ := ih haround
    refine ⟨hname, outer, nested, hnested, fun profiles hp he => ?_⟩
    exact (hinner profiles hp he).trans (Block.enabled_infix hb profiles)

structure Merged.Includes (m : Merged C σ) (met : List (Active C σ)) : Prop where
  beans : met.flatMap (·.part.beans) <:+: m.beans
  listeners : met.flatMap (·.part.listeners) <:+: m.listeners
  prefixes : met.flatMap (·.part.prefixes) <:+: m.prefixes
  server : ∀ server ∈ servers met, m.server = some server

/-- Flattening includes all that a walk meets, unless this is more than one server. -/
theorem Block.flatten_includes {profiles : Profiles} {met : List (Active C σ)}
    (h : met <:+: walk profiles block.name block.parts) :
    (∃ merged, block.flatten profiles = .ok merged ∧ merged.Includes met) ∨
      ∃ first second rest,
        servers (walk profiles block.name block.parts) = first::second::rest ∧
        block.flatten profiles = .error (.ambiguousServer first.1 second.1) := by
  rw [Block.flatten_eq]
  by_cases hfew : (servers (walk profiles block.name block.parts)).length ≤ 1
  · refine .inl ⟨_, collect_few hfew, List.IsInfix.flatMap h _, List.IsInfix.flatMap h _,
      List.IsInfix.flatMap h _, ?_⟩
    intro server hserver
    have hmem := (h.filterMap Active.server?).subset hserver
    rw [← servers] at hmem
    rcases hs : servers (walk profiles block.name block.parts) with _ | ⟨only, _ | ⟨second, rest⟩⟩
    · simp [hs] at hmem
    · simp_all
    · simp [hs] at hfew
  · rcases hs : servers (walk profiles block.name block.parts) with _ | ⟨first, _ | ⟨second, rest⟩⟩
    · simp [hs] at hfew
    · simp [hs] at hfew
    · exact .inr ⟨first, second, rest, rfl, collect_many hs⟩

/-- Flattening under some profiles includes what is declared under one of them, unless it
meets more than one server: then it fails and names the blocks of the first two. -/
def Block.Applies (block : Block C σ) (profiles : Profiles) (profile : String)
    (inner : List (Declaration C σ)) : Prop :=
  ∃ (outer : String) (nested : Block C σ),
    Block.ofDeclarations s!"{outer}[{profile}]" inner = .ok nested ∧
    ((∃ merged, block.flatten profiles = .ok merged ∧
        merged.Includes (walk profiles nested.name nested.parts)) ∨
      ∃ first second rest,
        servers (walk profiles block.name block.parts) = first::second::rest ∧
        block.flatten profiles = .error (.ambiguousServer first.1 second.1))

/-- What is declared under a profile, at any depth, is applied under every text that lists the
profile between commas, if those around it are active too. The name of the profile has to be
one that a text can list: there is no comma and no blank in it. -/
theorem Block.applies_where_listed {enclosing : List String} {spec : String}
    (hb : Block.ofDeclarations name declarations = .ok block)
    (hw : Within profile inner enclosing declarations)
    (hs : ∀ c ∈ profile.toList, Profiles.isSeparator c = false) (hl : Profiles.Lists spec profile)
    (he : ∀ outer ∈ enclosing, (Profiles.parse spec).contains outer = true) :
    block.Applies (.parse spec) profile inner := by
  obtain ⟨hname, outer, nested, hnested, hwalk⟩ := hw.exists_walk hb
  have hne : profile ≠ "" := by
    rintro rfl
    exact hname rfl
  have hactive := Profiles.contains_of_lists hl hne hs
  exact ⟨outer, nested, hnested, Block.flatten_includes (hwalk (.parse spec) hactive he)⟩

def stocked : List (Declaration .plain Unit) := [.beans [.ready () ()]]

def depot : List (Declaration .plain Unit) :=
  [.name "depot", .profile "test" [.profile "dev" stocked, .server (Server.Settings.default _ _)]]

theorem depot_applies_dev :
    ∃ block, Block.ofDeclarations "" depot = .ok block ∧
      block.Applies (.parse "data, dev,test") "dev" stocked := by
  have hall : "dev".toList.all (!Profiles.isSeparator ·) = true := by decide
  have hname : ∀ c ∈ "dev".toList, Profiles.isSeparator c = false := by
    intro c hc
    simpa using List.all_eq_true.mp hall c hc
  exact ⟨_, rfl, Block.applies_where_listed rfl
    (.deeper "test" [.name "depot"] [] (.here [] [.server (Server.Settings.default _ _)]))
    hname (by decide) (by decide)⟩

def twoTone : List (Declaration .plain Unit) := [.profile "blue green" stocked]

theorem not_always_applies_where_listed :
    ¬ ∀ (name profile spec : String) (inner declarations : List (Declaration .plain Unit))
      (enclosing : List String) (block : Block .plain Unit),
      Block.ofDeclarations name declarations = .ok block →
      Within profile inner enclosing declarations → Profiles.Lists spec profile →
      (∀ outer ∈ enclosing, (Profiles.parse spec).contains outer = true) →
      block.Applies (.parse spec) profile inner := by
  intro h
  obtain ⟨outer, nested, hnested, hflat | hmany⟩ := h "configuration" "blue green" "test,blue green"
    stocked twoTone [] _ rfl (.here [] []) (by decide) (by simp)
  · obtain ⟨merged, hmerged, hincludes⟩ := hflat
    cases hnested
    cases hmerged
    exact absurd hincludes.beans.length_le (Nat.not_succ_le_zero 0)
  · obtain ⟨first, second, rest, hservers, _⟩ := hmany
    cases hservers

end WebApplication.Configuration
