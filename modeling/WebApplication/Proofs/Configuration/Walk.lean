import WebApplication.Configuration.Block
import WebApplication.Proofs.Bean.Dependencies

/-!
# The active parts of a block

A walk through a block meets its active parts depth first and in the order of
declaration, and enters a block under a profile only if the profile is active.
Flattening gives what is met in this order, unless the walk meets a second server.
Where a block is enabled its parts may as well be declared in place, up to the name that
a server comes with, and an inactive block may be left out.
-/

set_option autoImplicit false

namespace WebApplication.Configuration

variable {C : Bean.Catalog} {σ : Type} {profiles : Profiles}

/-! ## What a part declares -/

namespace Part

def beans : Part C σ → List (Bean.Definition C σ)
  | bean definition => [definition]
  | properties _ definition => [definition]
  | _ => []

def listeners : Part C σ → List (Bean.Listener C σ)
  | listener l => [l]
  | _ => []

def prefixes : Part C σ → List String
  | properties root _ => [root]
  | _ => []

def server? : Part C σ → Option (Server.Settings C σ)
  | server settings => some settings
  | _ => none

end Part

structure Active (C : Bean.Catalog) (σ : Type) where
  block : String
  part : Part C σ

def Active.server? (a : Active C σ) : Option (String × Server.Settings C σ) :=
  a.part.server?.map fun settings => (a.block, settings)

mutual

def Part.walk (profiles : Profiles) (block : String) : Part C σ → List (Active C σ)
  | .bean definition => [⟨block, .bean definition⟩]
  | .listener listener => [⟨block, .listener listener⟩]
  | .properties root definition => [⟨block, .properties root definition⟩]
  | .server settings => [⟨block, .server settings⟩]
  | .enable name parts => walk profiles name parts
  | .profile profile name parts =>
    if profiles.contains profile then walk profiles name parts else []

def walk (profiles : Profiles) (block : String) : List (Part C σ) → List (Active C σ)
  | [] => []
  | part::parts => part.walk profiles block++walk profiles block parts

end

def servers (met : List (Active C σ)) : List (String × Server.Settings C σ) :=
  met.filterMap Active.server?

theorem walk_append (block : String) (parts others : List (Part C σ)) :
    walk profiles block (parts++others) =
      walk profiles block parts++walk profiles block others := by
  induction parts with
  | nil => rfl
  | cons part parts ih => rw [List.cons_append, walk, walk, ih, List.append_assoc]

theorem walk_single (block : String) (part : Part C σ) :
    walk profiles block [part] = part.walk profiles block := by
  rw [walk, walk, List.append_nil]

/-! ## Flattening -/

theorem servers_append (met others : List (Active C σ)) :
    servers (met++others) = servers met++servers others :=
  List.filterMap_append

/-- Takes up active parts behind what is there already, unless they bring a second server. -/
def Merged.collect (m : Merged C σ) (met : List (Active C σ)) : Except Error (Merged C σ) :=
  match m.server.toList++servers met with
  | first::second::_ => .error (.ambiguousServer first.1 second.1)
  | few => .ok ⟨m.beans++met.flatMap (·.part.beans), m.listeners++met.flatMap (·.part.listeners),
      m.prefixes++met.flatMap (·.part.prefixes), few.head?⟩

namespace Merged

theorem collect_nil (m : Merged C σ) : m.collect [] = .ok m := by
  obtain ⟨beans, listeners, prefixes, server⟩ := m
  cases server <;> simp [collect, servers]

theorem collect_append (m : Merged C σ) (met others : List (Active C σ)) :
    m.collect (met++others) =
      match m.collect met with
      | .error e => .error e
      | .ok later => later.collect others := by
  rw [collect, servers_append, ← List.append_assoc]
  generalize hfew : m.server.toList++servers met = few
  match few with
  | [] => simp [collect, hfew]
  | [server] =>
    cases hs : servers others <;> simp [collect, hfew, hs]
  | first::second::rest => simp [collect, hfew]

theorem collect_other {a : Active C σ} (h : a.server? = none) (m : Merged C σ) :
    m.collect [a] = .ok ⟨m.beans++a.part.beans, m.listeners++a.part.listeners,
      m.prefixes++a.part.prefixes, m.server⟩ := by
  have hs : servers [a] = [] := by simp [servers, h]
  rw [collect, hs]
  cases m.server <;> simp

theorem collect_server (m : Merged C σ) (block : String) (settings : Server.Settings C σ) :
    m.collect [⟨block, .server settings⟩] = m.addServer block settings := by
  have hs : servers [(⟨block, .server settings⟩ : Active C σ)] = [(block, settings)] := rfl
  rw [collect, hs, addServer]
  cases m.server <;> simp [Part.beans, Part.listeners, Part.prefixes]

mutual

/-- Adding a part is taking up what a walk meets in it. -/
theorem add_eq (profiles : Profiles) (block : String) (m : Merged C σ) :
    (part : Part C σ) → m.add profiles block part = m.collect (part.walk profiles block)
  | .bean definition => by
    rw [add, Part.walk, collect_other rfl]
    simp [Part.beans, Part.listeners, Part.prefixes]
  | .listener listener => by
    rw [add, Part.walk, collect_other rfl]
    simp [Part.beans, Part.listeners, Part.prefixes]
  | .properties root definition => by
    rw [add, Part.walk, collect_other rfl]
    simp [Part.beans, Part.listeners, Part.prefixes]
  | .server settings => by rw [add, Part.walk, collect_server]
  | .enable name parts => by rw [add, Part.walk, addAll_eq profiles name m parts]
  | .profile profile name parts => by
    rw [add, Part.walk]
    by_cases h : profiles.contains profile = true
    · rw [if_pos h, if_pos h, addAll_eq profiles name m parts]
    · rw [if_neg h, if_neg h, collect_nil]

theorem addAll_eq (profiles : Profiles) (block : String) (m : Merged C σ) :
    (parts : List (Part C σ)) → m.addAll profiles block parts =
      m.collect (walk profiles block parts)
  | [] => by rw [addAll, walk, collect_nil]
  | part::parts => by
    rw [addAll, walk, collect_append, add_eq profiles block m part]
    cases m.collect (part.walk profiles block) with
    | error e => rfl
    | ok later => exact addAll_eq profiles block later parts

end

end Merged

theorem Block.flatten_eq (b : Block C σ) (profiles : Profiles) :
    b.flatten profiles = Merged.empty.collect (walk profiles b.name b.parts) :=
  Merged.addAll_eq profiles b.name Merged.empty b.parts

theorem collect_few {met : List (Active C σ)} (h : (servers met).length ≤ 1) :
    Merged.empty.collect met = .ok ⟨met.flatMap (·.part.beans), met.flatMap (·.part.listeners),
      met.flatMap (·.part.prefixes), (servers met).head?⟩ := by
  have he : (Merged.empty : Merged C σ).server.toList = [] := rfl
  rw [Merged.collect, he, List.nil_append]
  match hs : servers met with
  | [] => rfl
  | [server] => rfl
  | first::second::rest => simp [hs] at h

theorem collect_many {met : List (Active C σ)} {first second : String × Server.Settings C σ}
    {rest : List (String × Server.Settings C σ)} (h : servers met = first::second::rest) :
    Merged.empty.collect met = .error (.ambiguousServer first.1 second.1) := by
  have he : (Merged.empty : Merged C σ).server.toList = [] := rfl
  rw [Merged.collect, he, List.nil_append, h]

/-! ## Without the names of blocks -/

def Active.nameless (a : Active C σ) : Active C σ := ⟨"", a.part⟩

def Error.nameless : Error → Error
  | ambiguousServer _ _ => ambiguousServer "" ""
  | e => e

def Merged.nameless (m : Merged C σ) : Merged C σ :=
  { m with server := m.server.map fun server => ("", server.2) }

def nameless (result : Except Error (Merged C σ)) : Except Error (Merged C σ) :=
  (result.mapError Error.nameless).map Merged.nameless

theorem servers_nameless (met : List (Active C σ)) :
    servers (met.map Active.nameless) = (servers met).map fun server => ("", server.2) := by
  rw [servers, servers, List.filterMap_map, List.map_filterMap]
  congr 1
  funext a
  cases h : a.part.server? <;> simp [Active.server?, Active.nameless, h]

theorem collect_nameless (met : List (Active C σ)) :
    nameless (Merged.empty.collect met) =
      nameless (Merged.empty.collect (met.map Active.nameless)) := by
  have hs := servers_nameless met
  by_cases hf : (servers met).length ≤ 1
  · rw [collect_few hf, collect_few (by rwa [hs, List.length_map]), hs]
    simp [nameless, Except.mapError, Except.map, Merged.nameless, Active.nameless,
      List.flatMap_map, Function.comp_def]
  · rcases hm : servers met with _ | ⟨first, _ | ⟨second, rest⟩⟩
    · simp [hm] at hf
    · simp [hm] at hf
    · rw [hm] at hs
      rw [collect_many hm, collect_many hs]
      rfl

theorem walk_part_nameless (block other : String) (part : Part C σ) :
    (part.walk profiles block).map Active.nameless =
      (part.walk profiles other).map Active.nameless := by
  cases part <;> rfl

theorem walk_nameless (block other : String) (parts : List (Part C σ)) :
    (walk profiles block parts).map Active.nameless =
      (walk profiles other parts).map Active.nameless := by
  induction parts with
  | nil => rfl
  | cons part parts ih =>
    rw [walk, walk, List.map_append, List.map_append, walk_part_nameless block other, ih]

/-! ## Parts in the place of others -/

/-- Somewhere in a tree of blocks, parts that follow one another are replaced by others. -/
inductive Replaced (old new : List (Part C σ)) : List (Part C σ) → List (Part C σ) → Prop
  | here (front back : List (Part C σ)) : Replaced old new (front++old++back) (front++new++back)
  | enabled (front back : List (Part C σ)) (name : String) {parts others : List (Part C σ)}
      (h : Replaced old new parts others) :
      Replaced old new (front++.enable name parts::back) (front++.enable name others::back)
  | profiled (front back : List (Part C σ)) (profile name : String)
      {parts others : List (Part C σ)} (h : Replaced old new parts others) :
      Replaced old new (front++.profile profile name parts::back)
        (front++.profile profile name others::back)

theorem Replaced.walk_eq {α : Type} (view : Active C σ → α) {old new parts others : List (Part C σ)}
    (h : ∀ block, (walk profiles block old).map view = (walk profiles block new).map view)
    (hr : Replaced old new parts others) (block : String) :
    (walk profiles block parts).map view = (walk profiles block others).map view := by
  induction hr generalizing block with
  | here front back => simp [walk_append, h]
  | enabled front back name _ ih => simp [walk_append, walk, Part.walk, ih]
  | profiled front back profile name _ ih =>
    by_cases hp : profiles.contains profile = true
    · simp [walk_append, walk, Part.walk, hp, ih]
    · simp [walk_append, walk, Part.walk, hp]

theorem flatten_enabled {name block : String} {inner parts others : List (Part C σ)}
    (h : Replaced [.enable name inner] inner parts others) :
    nameless (Block.flatten ⟨block, parts⟩ profiles) =
      nameless (Block.flatten ⟨block, others⟩ profiles) := by
  have hold : ∀ outer, (walk profiles outer [.enable name inner]).map Active.nameless =
      (walk profiles outer inner).map Active.nameless := by
    intro outer
    rw [walk_single, Part.walk, walk_nameless name outer]
  have hw := h.walk_eq Active.nameless hold block
  rw [Block.flatten_eq, Block.flatten_eq, collect_nameless, hw, ← collect_nameless]

theorem flatten_inactive {profile name block : String} {inner parts others : List (Part C σ)}
    (hp : profiles.contains profile = false)
    (h : Replaced [.profile profile name inner] [] parts others) :
    Block.flatten ⟨block, parts⟩ profiles = Block.flatten ⟨block, others⟩ profiles := by
  have hold : ∀ outer,
      walk profiles outer [.profile profile name inner] = walk profiles outer [] := by
    intro outer
    rw [walk_single, Part.walk, hp, if_neg Bool.false_ne_true, walk]
  have hw := h.walk_eq id (fun outer => congrArg (List.map id) (hold outer)) block
  rw [List.map_id, List.map_id] at hw
  rw [Block.flatten_eq, Block.flatten_eq, hw]

/-- Flattening gives what a walk meets, in order, and the one server among it with the
name of its block. If there are more it names the blocks of the first two. A block may be
enabled or its parts declared in place, and an inactive one may be left out. -/
theorem flattens_walk (b : Block C σ) (profiles : Profiles) :
    ((servers (walk profiles b.name b.parts)).length ≤ 1 → b.flatten profiles =
      .ok ⟨(walk profiles b.name b.parts).flatMap (·.part.beans),
        (walk profiles b.name b.parts).flatMap (·.part.listeners),
        (walk profiles b.name b.parts).flatMap (·.part.prefixes),
        (servers (walk profiles b.name b.parts)).head?⟩) ∧
    (∀ first second rest, servers (walk profiles b.name b.parts) = first::second::rest →
      b.flatten profiles = .error (.ambiguousServer first.1 second.1)) ∧
    (∀ name inner others, Replaced [.enable name inner] inner b.parts others →
      nameless (b.flatten profiles) = nameless (Block.flatten ⟨b.name, others⟩ profiles)) ∧
    ∀ profile name inner others, profiles.contains profile = false →
      Replaced [.profile profile name inner] [] b.parts others →
      b.flatten profiles = Block.flatten ⟨b.name, others⟩ profiles := by
  constructor
  · intro h
    rw [Block.flatten_eq]
    exact collect_few h
  constructor
  · intro first second rest h
    rw [Block.flatten_eq]
    exact collect_many h
  constructor
  · intro name inner others h
    exact flatten_enabled h
  · intro profile name inner others hp h
    exact flatten_inactive hp h

def counter : Part .plain Unit := .bean (.ready () ())

def till : Part .plain Unit := .server (Server.Settings.default _ _)

def rehearsal : Part .plain Unit := .profile "test" "store[test]" [counter, till]

def shop : Block .plain Unit :=
  ⟨"shop", [.enable "store" [counter, rehearsal], .properties "shop" (.ready () ()), till,
    .enable "store" [counter, rehearsal]]⟩

theorem shop_flattened :
    (∃ merged, shop.flatten .none = .ok merged ∧ merged.beans.length = 3 ∧
      merged.prefixes = ["shop"] ∧ merged.server.map Prod.fst = some "shop") ∧
    shop.flatten ⟨["test"]⟩ = .error (.ambiguousServer "store[test]" "shop") ∧
    nameless (shop.flatten ⟨["test"]⟩) = nameless (Block.flatten ⟨"shop", [counter, rehearsal,
      .properties "shop" (.ready () ()), till, .enable "store" [counter, rehearsal]]⟩ ⟨["test"]⟩) ∧
    shop.flatten .none = Block.flatten ⟨"shop", [.enable "store" [counter],
      .properties "shop" (.ready () ()), till, .enable "store" [counter, rehearsal]]⟩ .none := by
  have hplace : Replaced [.enable "store" [counter, rehearsal]] [counter, rehearsal] shop.parts
      [counter, rehearsal, .properties "shop" (.ready () ()), till,
        .enable "store" [counter, rehearsal]] := .here [] _
  have hin : Replaced [rehearsal] [] [counter, rehearsal] [counter] := .here [counter] []
  have hout : Replaced [rehearsal] [] shop.parts [.enable "store" [counter],
      .properties "shop" (.ready () ()), till, .enable "store" [counter, rehearsal]] :=
    .enabled [] _ _ hin
  exact ⟨⟨_, (flattens_walk shop .none).1 (by decide), rfl, rfl, rfl⟩,
    (flattens_walk shop ⟨["test"]⟩).2.1 _ _ _ rfl,
    (flattens_walk shop ⟨["test"]⟩).2.2.1 _ _ _ hplace,
    (flattens_walk shop .none).2.2.2 _ _ _ _ (by decide) hout⟩

end WebApplication.Configuration
