import WebApplication.Application.Realization
import WebApplication.Proofs.Property.Bind
import WebApplication.Proofs.Property.Sources

/-!
# What binding sees of the layers

Binding sees the value of the topmost layer that has a key exactly if no layer, however
far down, has a key below that key. A list in a file therefore hides the text with
commas that the environment has in its place.
-/

set_option autoImplicit false

namespace WebApplication.Application

open Property Schema

variable {code environment : Source} {files : List Source} {root key value : String}

def NothingBelow (source : Source) (root key : String) : Prop :=
  ∀ below, source.values.lookup (Source.scopeOf root++(key++"."++below)) = none

theorem nothingBelow_of_length {source : Source}
    (h : ∀ entry ∈ source.values, entry.1.length ≤ (Source.scopeOf root++key).length) :
    NothingBelow source root key := by
  intro below
  rw [SortedTable.lookup_eq_none_iff]
  intro entry he hkey
  have hlength := h entry he
  have hdot : ".".length = 1 := rfl
  rw [hkey, String.length_append, String.length_append, String.length_append,
    String.length_append] at hlength
  omega

theorem layer_eq (code : Source) (files : List Source) (environment : Source) :
    layer code files environment = (files++[environment]).foldl Source.extend code := by
  rw [List.foldl_append]
  rfl

theorem nothingBelow_layer_iff (h : ∀ s ∈ code::(files++[environment]), s.Ordered) :
    NothingBelow (layer code files environment) root key ↔
      ∀ s ∈ code::(files++[environment]), NothingBelow s root key := by
  simp only [NothingBelow, layer_eq, Source.lookup_extends_eq_none_iff h]
  constructor
  · intro hn s hs below
    exact hn below s hs
  · intro hn below s hs
    exact hn s hs below

def layers (code : List (String × String)) (files : List Toml.Table)
    (environment : List (String × String)) : List Source :=
  .ofList code::(files.map Source.ofTable++[.ofEnvironment environment])

def layered (code : List (String × String)) (files : List Toml.Table)
    (environment : List (String × String)) : Source :=
  layer (.ofList code) (files.map Source.ofTable) (.ofEnvironment environment)

theorem ordered_of_mem_layers {code : List (String × String)} {files : List Toml.Table}
    {environment : List (String × String)} {s : Source}
    (h : s ∈ layers code files environment) : s.Ordered := by
  rcases List.mem_cons.mp h with rfl | h
  · exact Source.ordered_ofList code
  · rcases List.mem_append.mp h with h | h
    · obtain ⟨table, -, rfl⟩ := List.mem_map.mp h
      exact Source.ordered_ofTable table
    · rw [List.mem_singleton.mp h]
      exact Source.ordered_ofEnvironment environment

theorem ordered_layered (code : List (String × String)) (files : List Toml.Table)
    (environment : List (String × String)) : (layered code files environment).Ordered := by
  rw [layered, layer_eq]
  exact (Source.ordered_ofList code).extends _

/-- Binding sees the value that the topmost layer with a key has, as any shape wants it,
exactly if no layer has a key below. -/
theorem topmost_bound_iff_nothing_below (code : List (String × String))
    (files : List Toml.Table) (environment : List (String × String)) (root key value : String)
    (below above : List Source) (top : Source)
    (hlayers : layers code files environment = below++top::above)
    (htop : top.values.lookup (Source.scopeOf root++key) = some value)
    (habove : ∀ s ∈ above, s.values.lookup (Source.scopeOf root++key) = none) :
    (((layered code files environment).tree root).at? (Text.split '.' key) =
        some (.leaf value) ↔
      ∀ s ∈ layers code files environment, NothingBelow s root key) ∧
    ((∀ s ∈ layers code files environment, NothingBelow s root key) → ∀ shape,
      (layered code files environment).bind root (.along (Text.split '.' key) shape) =
        ((bindText shape value).mapError (BindError.mk (normalize root))).map
          (.along (Text.split '.' key))) := by
  have hordered : ∀ s ∈ layers code files environment, s.Ordered :=
    fun _ hs => ordered_of_mem_layers hs
  have hlayered := ordered_layered code files environment
  have hvalue : (layered code files environment).values.lookup (Source.scopeOf root++key) =
      some value := by
    rw [layered, layer_eq]
    exact Source.lookup_topmost hordered hlayers htop habove
  have hseen : ((layered code files environment).tree root).at? (Text.split '.' key) =
      some (.leaf value) ↔ ∀ s ∈ layers code files environment, NothingBelow s root key := by
    rw [Source.leaf_tree_iff hlayered, and_iff_right hvalue]
    exact nothingBelow_layer_iff hordered
  refine ⟨hseen, fun hfree shape => ?_⟩
  have hbound := bindTree_along (Source.grown_tree hlayered root).ordered (hseen.mpr hfree) shape
  rw [Source.bind, hbound]
  cases bindText shape value <;> rfl

def exported : List (String × String) := [("SERVER_VALUE", "x, y")]

def textFile : Toml.Table := [("server", .table [("value", .text "a")])]

def listFile : Toml.Table := [("server", .table [("value", .array [.text "a"])])]

theorem bindText_commas : bindText (.list .text) "x, y" = .ok (.list [.text "x", .text "y"]) := by
  have hitems : commaItems "x, y" = ["x", "y"] := rfl
  have htext : ∀ text, bindText .text text = .ok (.text text) := fun text => by rw [bindText]
  rw [bindText, hitems]
  simp only [htext]
  rfl

/-- The environment is seen over a text in a file and over what code has above. -/
theorem variable_over_text :
    (layered [("server", "z")] [textFile] exported).bind "server" (.along ["value"] (.list .text)) =
      .ok (.along ["value"] (.list [.text "x", .text "y"])) := by
  have hfree : ∀ s ∈ layers [("server", "z")] [textFile] exported,
      NothingBelow s "server" "value" := by
    intro s hs
    refine nothingBelow_of_length ?_
    revert s
    decide
  have hbound := (topmost_bound_iff_nothing_below [("server", "z")] [textFile] exported
    "server" "value" "x, y" [.ofList [("server", "z")], .ofTable textFile] []
    (.ofEnvironment exported) rfl rfl (by simp)).2 hfree (.list .text)
  rw [bindText_commas] at hbound
  exact hbound

/-- A list in a file hides the text that the environment has at the key of the list. -/
theorem list_hides_variable :
    (Source.ofEnvironment exported).values.lookup (Source.scopeOf "server"++"value") =
      some "x, y" ∧
    NothingBelow (.ofEnvironment exported) "server" "value" ∧
    bindText (.list .text) "x, y" = .ok (.list [.text "x", .text "y"]) ∧
    (layered [] [listFile] exported).bind "server" (.along ["value"] (.list .text)) =
      .ok (.along ["value"] (.list [.text "a"])) := by
  have hvalues : layered [] [listFile] exported =
    ⟨[("server.value", "x, y"), ("server.value.0", "a")]⟩ := rfl
  have htree : Source.tree ⟨[("server.value", "x, y"), ("server.value.0", "a")]⟩ "server" =
    .node [("value", .node [("0", .leaf "a")])] := rfl
  have hindex : word? "0" = some 0 := by decide
  have hitem : bindTree .text (.leaf "a") = .ok (.text "a") := by
    rw [bindTree_leaf, bindText]
  have hlist : bindTree (.list .text) (.node [("0", .leaf "a")]) = .ok (.list [.text "a"]) := by
    rw [bindTree_single hindex, hitem]
    rfl
  have hordered : (Property.Tree.node [("value", .node [("0", .leaf "a")])]).Ordered := by
    rw [← htree, ← hvalues]
    exact (Source.grown_tree (ordered_layered _ _ _) _).ordered
  refine ⟨rfl, nothingBelow_of_length (by decide), bindText_commas, ?_⟩
  rw [Source.bind, hvalues, htree, Shape.along, Shape.along, bindTree_only hordered rfl, hlist]
  rfl

end WebApplication.Application
