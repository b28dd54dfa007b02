import WebApplication.Proofs.Property.Identity
import WebApplication.Proofs.Property.Sources
import WebApplication.Proofs.Text.Trim

/-!
# What binding reads of the values that were set

A source comes about by setting keys and by laying sources over one another. Binding under
a prefix reads the keys that go on behind the prefix and a dot, all of them and no others:
the tree has a value where a key ends and no other key goes on, and a node where some key
goes on. No order in which the keys are put into the tree makes a difference.
-/

set_option autoImplicit false

namespace WebApplication.Property

/-- A source that was made by setting keys and by laying made sources over it, with the
pairs that were set, a later one counting more. -/
inductive Made : List (String × String) → Source → Prop
  | empty : Made [] .empty
  | set {pairs : List (String × String)} {source : Source} (made : Made pairs source)
      (key value : String) : Made (pairs++[(key, value)]) (source.set key value)
  | extend {pairs more : List (String × String)} {lower upper : Source}
      (made : Made pairs lower) (above : Made more upper) : Made (pairs++more) (lower.extend upper)

def latest (pairs : List (String × String)) (key : String) : Option String :=
  (pairs.filter fun pair => normalize pair.1 = key).getLast?.map Prod.snd

def Entry (pairs : List (String × String)) (root : String) (path : List String)
    (value : String) : Prop :=
  ∃ rest, path = Text.split '.' rest ∧ latest pairs (Source.scopeOf root++rest) = some value

def GoesOn (pairs : List (String × String)) (root : String) (path : List String) : Prop :=
  ∃ next rest value, Entry pairs root (path++next::rest) value

variable {pairs more : List (String × String)} {source other : Source}
  {root name key value : String} {path : List String}

theorem toList_normalize (h : ∀ c ∈ key.toList, Text.isBlank c = false) :
    (normalize key).toList = key.toList.map fun c => if c = '-' then '_' else c.toLower := by
  rw [normalize, String.toList_ofList, normalizeChars, Text.trimChars_of_unblank h]

theorem latest_append (pairs more : List (String × String)) (key : String) :
    latest (pairs++more) key = (latest more key).or (latest pairs key) := by
  rw [latest, latest, latest, List.filter_append, List.getLast?_append]
  cases (more.filter fun pair => normalize pair.1 = key).getLast? <;> rfl

theorem latest_single (key value name : String) :
    latest [(key, value)] name = if name = normalize key then some value else none := by
  by_cases h : name = normalize key
  · simp [latest, h]
  · simp [latest, h, Ne.symm h]

theorem Made.ordered (h : Made pairs source) : source.Ordered := by
  induction h with
  | empty => exact Source.ordered_empty
  | set _ key value ih => exact ih.set key value
  | extend _ _ ihl _ => exact ihl.extend _

theorem made_foldl {pairs : List (String × String)} {source : Source} (h : Made pairs source)
    (more : List (String × String)) : Made (pairs++more)
      (more.foldl (fun source (key, value) => source.set key value) source) := by
  induction more generalizing pairs source with
  | nil => rwa [List.append_nil]
  | cons pair more ih =>
    have hset := ih (h.set pair.1 pair.2)
    rwa [List.append_assoc] at hset

theorem made_ofList (pairs : List (String × String)) : Made pairs (Source.ofList pairs) :=
  made_foldl .empty pairs

theorem Made.lookup (h : Made pairs source) (key : String) :
    source.values.lookup key = latest pairs key := by
  induction h with
  | empty => rfl
  | @set pairs source made name value ih =>
    have hset : (source.set name value).values.lookup key =
        if key = normalize name then some value else source.values.lookup key :=
      SortedTable.lookup_insert source.values (normalize name) value
    rw [hset, latest_append, latest_single, ih]
    split <;> rfl
  | extend made above ihl ihu =>
    rw [Source.lookup_extend made.ordered above.ordered, latest_append, ihl, ihu]

theorem Made.mem_entriesUnder (h : Made pairs source) {rest : String} :
    (rest, value) ∈ source.entriesUnder root ↔
      latest pairs (Source.scopeOf root++rest) = some value := by
  rw [Source.mem_entriesUnder h.ordered, h.lookup]

theorem Made.mem_pathsUnder (h : Made pairs source) :
    (path, value) ∈ source.pathsUnder root ↔ Entry pairs root path value := by
  rw [Source.mem_pathsUnder h.ordered]
  simp only [Entry, h.lookup]

theorem nil_notMem_pathsUnder (source : Source) (root : String) :
    [] ∉ (source.pathsUnder root).map Prod.fst := by
  intro h
  obtain ⟨entry, he, hnil⟩ := List.mem_map.mp h
  obtain ⟨found, -, rfl⟩ := List.mem_map.mp he
  exact Text.split_ne_nil found.1 hnil

theorem tree_eq_grow (source : Source) (root : String) :
    source.tree root = Tree.grow (source.pathsUnder root) := by
  rw [Tree.grow, Source.pathsUnder, List.foldl_map]
  rfl

/-- The keys at and below a member of the scope are those whose first part is its name. -/
theorem scoped_iff (hname : '.' ∉ name.toList) (scope rest : String) :
    (scope++rest = scope++name ∨ ∃ more, scope++rest = scope++name++"."++more) ↔
      ∃ tail, Text.split '.' rest = name::tail := by
  simp only [String.append_assoc, String.append_right_inj]
  constructor
  · rintro (rfl | ⟨more, rfl⟩)
    · exact ⟨[], Text.split_of_not_mem hname⟩
    · refine ⟨Text.split '.' more, ?_⟩
      have hsplit := @Text.split_append '.' name more
      rw [Text.split_of_not_mem hname] at hsplit
      rw [← String.append_assoc]
      exact hsplit
  · rintro ⟨tail, hsplit⟩
    rw [← Text.join_split '.' rest, hsplit]
    cases tail with
    | nil => exact .inl (Text.join_singleton name)
    | cons next tail =>
      refine .inr ⟨Text.join '.' (next::tail), ?_⟩
      rw [Text.join_cons_cons, String.append_assoc]
      rfl

theorem entry_name_iff (hname : '.' ∉ name.toList) :
    Entry pairs root [name] value ↔ latest pairs (Source.scopeOf root++name) = some value := by
  constructor
  · rintro ⟨rest, hsplit, hl⟩
    rw [← Text.join_split '.' rest, ← hsplit, Text.join_singleton] at hl
    exact hl
  · intro hl
    exact ⟨name, (Text.split_of_not_mem hname).symm, hl⟩

/-- Something goes on behind a member if a key is below its key. -/
theorem goesOn_name_iff (hname : '.' ∉ name.toList) :
    GoesOn pairs root [name] ↔
      ∃ rest value, latest pairs (Source.scopeOf root++name++"."++rest) = some value := by
  constructor
  · rintro ⟨next, tail, value, rest, hsplit, hl⟩
    refine ⟨Text.join '.' (next::tail), value, ?_⟩
    rw [← Text.join_split '.' rest, ← hsplit, List.singleton_append, Text.join_cons_cons,
      String.append_assoc] at hl
    rw [String.append_assoc, String.append_assoc]
    exact hl
  · rintro ⟨rest, value, hl⟩
    obtain ⟨next, tail, hrest⟩ := List.exists_cons_of_ne_nil (@Text.split_ne_nil '.' rest)
    have hsplit := @Text.split_append '.' name rest
    rw [Text.split_of_not_mem hname, hrest] at hsplit
    refine ⟨next, tail, value, name++"."++rest, hsplit.symm, ?_⟩
    rw [String.append_assoc, String.append_assoc] at hl
    rw [String.append_assoc]
    exact hl

theorem Made.branches_tree_iff (h : Made pairs source) :
    (source.tree root).Branches path ↔ GoesOn pairs root path := by
  rw [(Source.grown_tree h.ordered root).branches]
  constructor
  · rintro ⟨⟨found, value⟩, hin, next, rest, rfl⟩
    exact ⟨next, rest, value, h.mem_pathsUnder.mp hin⟩
  · rintro ⟨next, rest, value, he⟩
    exact ⟨(_, value), h.mem_pathsUnder.mpr he, next, rest, rfl⟩

theorem Made.leaf_tree_iff (h : Made pairs source) :
    (source.tree root).at? path = some (.leaf value) ↔
      Entry pairs root path value ∧ ¬GoesOn pairs root path := by
  rw [(Source.grown_tree h.ordered root).leaves, h.mem_pathsUnder, h.branches_tree_iff]

theorem Made.nodeAt_tree_iff (h : Made pairs source) :
    (source.tree root).NodeAt path ↔ path = [] ∨ GoesOn pairs root path := by
  rw [← h.branches_tree_iff, tree_eq_grow]
  exact Tree.nodeAt_grow_iff (Source.nodup_pathsUnder h.ordered root)
    (nil_notMem_pathsUnder source root)

theorem Made.tree_ordered (h : Made pairs source) (root : String) : (source.tree root).Ordered :=
  (Source.grown_tree h.ordered root).ordered

theorem Made.exists_root (h : Made pairs source) (root : String) :
    ∃ children, source.tree root = .node children := by
  obtain ⟨children, hc⟩ := (@nodeAt_tree_iff _ _ root [] h).mpr (.inl rfl)
  exact ⟨children, Option.some.inj hc⟩

/-- The scan for a prefix finds the keys behind the prefix, and the tree that is bound is made
of them: of a value where a key ends and none goes on, of nodes where keys go on. It is the
same whatever the order in which the keys are put into it, and the same for every source and
prefix with the same values at the same paths. -/
theorem tree_of_scope (h : Made pairs source) (root : String) :
    (∀ rest value, (rest, value) ∈ source.entriesUnder root ↔
      latest pairs (Source.scopeOf root++rest) = some value) ∧
    (∀ path value, (source.tree root).at? path = some (.leaf value) ↔
      Entry pairs root path value ∧ ¬GoesOn pairs root path) ∧
    (∀ path, (source.tree root).NodeAt path ↔ path = [] ∨ GoesOn pairs root path) ∧
    (∀ entries, entries.Perm (source.pathsUnder root) →
      Tree.grow entries = source.tree root) ∧
    ∀ more other base, Made more other →
      (∀ path value, Entry more base path value ↔ Entry pairs root path value) →
      other.tree base = source.tree root := by
  refine ⟨fun _ _ => h.mem_entriesUnder, fun _ _ => h.leaf_tree_iff, fun _ => h.nodeAt_tree_iff,
    fun entries hperm => ?_, fun more other base ho he => ?_⟩
  · rw [tree_eq_grow]
    have hnodup := Source.nodup_pathsUnder h.ordered root
    have hroot := nil_notMem_pathsUnder source root
    have hpaths := hperm.map Prod.fst
    exact Tree.grow_eq_of_mem_iff (hpaths.nodup_iff.mpr hnodup) hnodup
      (fun hn => hroot (hpaths.mem_iff.mp hn)) fun _ => hperm.mem_iff
  · rw [tree_eq_grow, tree_eq_grow]
    refine Tree.grow_eq_of_mem_iff (Source.nodup_pathsUnder ho.ordered base)
      (Source.nodup_pathsUnder h.ordered root) (nil_notMem_pathsUnder other base) ?_
    rintro ⟨path, value⟩
    rw [ho.mem_pathsUnder, h.mem_pathsUnder, he]

def settings : List (String × String) :=
  [("servers.x", "1"), ("Server", "2"), ("SERVER.max-size", "3"), ("server.port", "4"),
    ("server.port.tls", "5"), ("server.max_size", "6")]

theorem port_gives_way : ∃ source, Made settings source ∧
    source.tree "server" =
      .node [("max_size", .leaf "6"), ("port", .node [("tls", .leaf "5")])] ∧
    (Entry settings "server" ["max_size"] "6" ∧ ¬GoesOn settings "server" ["max_size"]) ∧
    GoesOn settings "server" ["port"] ∧
    Tree.grow [(["port"], "4"), (["port", "tls"], "5"), (["max_size"], "6")] =
      source.tree "server" := by
  have hlower : Made [("servers.x", "1"), ("Server", "2"), ("SERVER.max-size", "3"),
      ("server.port", "4")] ⟨[("server", "2"), ("server.max_size", "3"), ("server.port", "4"),
        ("servers.x", "1")]⟩ :=
    (((Made.empty.set _ _).set _ _).set _ _).set _ _
  have hupper : Made [("server.port.tls", "5"), ("server.max_size", "6")]
      ⟨[("server.max_size", "6"), ("server.port.tls", "5")]⟩ :=
    (Made.empty.set _ _).set _ _
  have hmade : Made settings ⟨[("server", "2"), ("server.max_size", "6"), ("server.port", "4"),
      ("server.port.tls", "5"), ("servers.x", "1")]⟩ := hlower.extend hupper
  obtain ⟨-, hleaf, hnode, horder, -⟩ := tree_of_scope hmade "server"
  have hport := (hnode ["port"]).mp ⟨[("tls", .leaf "5")], rfl⟩
  refine ⟨_, hmade, rfl, (hleaf _ _).mp rfl, ?_, horder _ (by decide)⟩
  exact hport.resolve_left (by decide)

end WebApplication.Property
