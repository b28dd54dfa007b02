import WebApplication.Proofs.Application.Layers
import WebApplication.Proofs.Application.Preparation
import WebApplication.Proofs.Application.Routes
import WebApplication.Proofs.Property.Files
import WebApplication.Proofs.Property.Records

/-!
# Integers of property files

An integer of a file is kept as text, and read again at another width. It comes back as it was
if the type has room for it, and is refused if not: by the record that is bound, and by the
server for its port, before there is any bean.
-/

set_option autoImplicit false

namespace WebApplication.Property

open Schema

variable {table : Toml.Table} {root name : String} {n : Int}

theorem lookup_integer (hname : '.' ∉ name.toList)
    (hn : valueAt table (Source.scopeOf root++name) = some (.integer n))
    (hfree : ∀ rest, valueAt table (Source.scopeOf root++name++"."++rest) = none) :
    ((Source.ofTable table).tree root).children.lookup name = some (.leaf (toString n)) := by
  refine Tree.lookup_of_at? ((made_ofTable table).leaf_tree_iff.mpr ⟨?_, ?_⟩)
  · rw [entry_name_iff hname, latest_settingsOf, hn]
    rfl
  · rw [goesOn_name_iff hname]
    rintro ⟨rest, value, hl⟩
    rw [latest_settingsOf, hfree] at hl
    cases hl

theorem lookup_hidden (hname : '.' ∉ name.toList) {rest : String}
    (hbelow : valueAt table (Source.scopeOf root++name++"."++rest) ≠ none) :
    ∃ children, ((Source.ofTable table).tree root).children.lookup name =
      some (.node children) := by
  have hgoes : GoesOn (settingsOf table) root [name] := by
    obtain ⟨value, hv⟩ := Option.ne_none_iff_exists'.mp hbelow
    exact (goesOn_name_iff hname).mpr ⟨rest, written value, by rw [latest_settingsOf, hv]; rfl⟩
  obtain ⟨children, hnode⟩ := (made_ofTable table).nodeAt_tree_iff.mpr (.inr hgoes)
  exact ⟨children, Tree.lookup_of_at? hnode⟩

theorem bind_integer (hname : '.' ∉ name.toList)
    (hn : valueAt table (Source.scopeOf root++name) = some (.integer n))
    (hfree : ∀ rest, valueAt table (Source.scopeOf root++name++"."++rest) = none)
    (t : IntegerType) :
    (Source.ofTable table).bind root (.record "" false [.required name (.integer t)]) =
      if t.least ≤ n ∧ n ≤ t.greatest then .ok (.record [(name, .integer n)])
      else .error ⟨normalize root, outOfRange t n⟩ := by
  have hl := lookup_integer hname hn hfree
  have ht := (made_ofTable table).tree_ordered root
  have htext := (bindTree_leaf (.integer t) (toString n)).trans (bindText_toString t n)
  by_cases hin : t.least ≤ n ∧ n ≤ t.greatest
  · rw [if_pos hin]
    exact bind_only ht hl (htext.trans (if_pos (holds_iff.mpr hin)))
  · rw [if_neg hin]
    exact bind_only_error ht hl (htext.trans (if_neg (mt holds_iff.mp hin)))

theorem bindTree_integer_node (t : IntegerType) (children : List (String × Tree)) :
    bindTree (.integer t) (.node children) = .error (invalidType "map" t.name) := by
  rw [bindTree.eq_def]
  rfl

theorem bind_hidden (hname : '.' ∉ name.toList) {rest : String}
    (hbelow : valueAt table (Source.scopeOf root++name++"."++rest) ≠ none) (t : IntegerType) :
    (Source.ofTable table).bind root (.record "" false [.required name (.integer t)]) =
      .error ⟨normalize root, invalidType "map" t.name⟩ := by
  obtain ⟨children, hl⟩ := lookup_hidden hname hbelow
  have ht := (made_ofTable table).tree_ordered root
  exact bind_only_error ht hl (bindTree_integer_node t children)

/-- A record that is bound has the integer as it is, if the type of the field has room for it. -/
theorem bind_integer_field (hname : '.' ∉ name.toList)
    (hn : valueAt table (Source.scopeOf root++name) = some (.integer n)) {t : IntegerType}
    {recordName : String} {strict : Bool} {fields : List (Member Shape)} {field : Member Shape}
    {datum : Datum} (hf : fields.find? (·.accepts name) = some field)
    (hshape : field.shape = .integer t)
    (hb : (Source.ofTable table).bind root (.record recordName strict fields) = .ok datum) :
    (t.least ≤ n ∧ n ≤ t.greatest) ∧
      ∃ values, datum = .record values ∧ values.lookup field.name = some (.integer n) := by
  have ht := (made_ofTable table).tree_ordered root
  by_cases hfree : ∀ rest, valueAt table (Source.scopeOf root++name++"."++rest) = none
  · obtain ⟨values, found, rfl, hfound, hlookup⟩ :=
      field_of_bound ht (bind_ok_iff.mp hb) (lookup_integer hname hn hfree) hf
    rw [hshape, bindTree_leaf, bindText_toString] at hfound
    split at hfound
    · rename_i hholds
      cases hfound
      exact ⟨holds_iff.mp hholds, values, rfl, hlookup⟩
    · cases hfound
  · obtain ⟨rest, hbelow⟩ := not_forall.mp hfree
    obtain ⟨children, hl⟩ := lookup_hidden hname hbelow
    obtain ⟨values, found, rfl, hfound, -⟩ := field_of_bound ht (bind_ok_iff.mp hb) hl hf
    rw [hshape, bindTree_integer_node] at hfound
    cases hfound

end WebApplication.Property

namespace WebApplication.Application

open Property Schema

variable {own : Bean.Catalog} {α : Type} {spec : Spec own α} {profiles : Profiles}
  {files : Storage.Files} {environment : Source} {n : Int}

/-! ## Ports -/

theorem port?_toString (n : Int) :
    port? (toString n) = if 0 ≤ n ∧ n < 65536 then some n.toNat else none := by
  rw [port?, trimChars_toString, integer?_toString]
  by_cases h : 0 ≤ n
  · simp [h]
  · simp [h]

def noPort (n : Int) : Configuration.Error :=
  .invalid [⟨"server.port", s!"`{n}` is not a valid port"⟩]

theorem resolvePort_toString {properties : Source} (declared : Profiled Nat) (profiles : Profiles)
    (h : properties.get? "server.port" = some (toString n)) :
    resolvePort declared profiles properties =
      if 0 ≤ n ∧ n < 65536 then .ok n.toNat else .error (noPort n) := by
  unfold resolvePort
  simp only [h, port?_toString]
  by_cases hin : 0 ≤ n ∧ n < 65536
  · simp only [if_pos hin]
  · simp only [if_neg hin]
    rfl

/-- A file of an application holds an integer for the port, and neither a later file nor the
environment has another value for it. -/
structure HoldsPort (spec : Spec own α) (files : Storage.Files) (environment : Source) (n : Int) :
    Prop where
  intro ::
  code : spec.properties.Ordered
  exported : environment.Ordered
  unset : environment.get? "server.port" = none
  file : ∃ front path back content table, spec.files = front++path::back ∧
    files.read? path = some content ∧ Toml.parse? content = some table ∧
    valueAt table "server.port" = some (.integer n) ∧
    ∀ other ∈ back, ∀ source, loadFile files other = .ok source →
      source.get? "server.port" = none

theorem ordered_of_loadFile {path : String} {source : Source}
    (h : loadFile files path = .ok source) : source.Ordered := by
  rw [loadFile] at h
  split at h
  · cases h
  · split at h
    · rename_i hsource
      cases h
      obtain ⟨table, -, rfl⟩ := Option.map_eq_some_iff.mp hsource
      exact Source.ordered_ofTable table
    · cases h

theorem loadFile_eq {path content : String} {table : Toml.Table}
    (hread : files.read? path = some content) (hparse : Toml.parse? content = some table) :
    loadFile files path = .ok (Source.ofTable table) := by
  simp only [loadFile, hread, ofText?_of_parse hparse]

theorem get?_port (source : Source) :
    source.get? "server.port" = source.values.lookup "server.port" := by
  have hkey : normalize "server.port" = "server.port" := by decide
  rw [Source.get?, hkey]

/-- The layers of the application have the integer for the port, as it is written. -/
theorem HoldsPort.get?_layer (h : HoldsPort spec files environment n) {sources : List Source}
    (hl : List.Forall₂ (fun path source => loadFile files path = .ok source) spec.files sources) :
    (layer spec.properties sources environment).get? "server.port" = some (toString n) := by
  obtain ⟨front, path, back, content, table, hfiles, hread, hparse, hn, hback⟩ := h.file
  have hordered : ∀ source ∈ spec.properties::(sources++[environment]), source.Ordered := by
    rw [List.forall_mem_cons, List.forall_mem_append, List.forall_mem_singleton]
    refine ⟨h.code, fun source hs => ?_, h.exported⟩
    obtain ⟨path, -, hload⟩ := exists_of_mem_mapM (mapM_ok_iff.mpr hl) hs
    exact ordered_of_loadFile hload
  rw [hfiles] at hl
  obtain ⟨below, source, above, rfl, hsource, habove⟩ := forall₂_append_cons hl
  obtain rfl : source = Source.ofTable table :=
    Except.ok.inj (hsource.symm.trans (loadFile_eq hread hparse))
  have htop : (Source.ofTable table).values.lookup "server.port" = some (toString n) := by
    rw [(made_ofTable table).lookup, latest_settingsOf, hn]
    rfl
  have hnone : ∀ source ∈ above++[environment], source.values.lookup "server.port" = none := by
    rw [List.forall_mem_append, List.forall_mem_singleton, ← get?_port]
    refine ⟨fun source hs => ?_, h.unset⟩
    obtain ⟨other, ho, hload⟩ := exists_of_mem_mapM (mapM_ok_iff.mpr habove) hs
    rw [← get?_port]
    exact hback other ho source hload
  have hlayers : spec.properties::(below++Source.ofTable table::above++[environment]) =
      (spec.properties::below)++Source.ofTable table::(above++[environment]) := by simp
  rw [get?_port, layer_eq]
  exact Source.lookup_topmost hordered hlayers htop hnone

theorem Spec.plan_port {plan : Plan own α}
    (h : spec.plan profiles files environment = .ok plan) :
    ∃ merged server properties,
      spec.configure profiles files environment = .ok (merged, server, properties, plan.port) := by
  rw [Spec.plan] at h
  cases hc : spec.configure profiles files environment with
  | error e =>
    rw [hc] at h
    cases h
  | ok found =>
    obtain ⟨merged, server, properties, port⟩ := found
    rw [hc] at h
    dsimp only at h
    split at h
    · cases h
    · cases h
      exact ⟨merged, server, properties, rfl⟩

/-- Where there is a port, everything is there that a port needs. -/
theorem Spec.configured_of_configure
    {result : Configuration.Merged (catalog own α) (World α) ×
      Server.Settings (catalog own α) (World α) × Source × Nat}
    (h : spec.configure profiles files environment = .ok result) :
    ∃ merged sources, spec.Configured profiles files merged sources := by
  cases hm : spec.root.flatten profiles with
  | error e =>
    rw [configure_error hm] at h
    cases h
  | ok merged =>
    rw [configure_ok hm] at h
    split at h
    · rename_i hvalid
      cases hl : spec.files.mapM (loadFile files) with
      | error e =>
        rw [hl] at h
        cases h
      | ok sources => exact ⟨merged, sources, hm, by simpa using hvalid, mapM_ok_iff.mp hl⟩
    · cases h

theorem HoldsPort.configure_eq (h : HoldsPort spec files environment n)
    {merged : Configuration.Merged (catalog own α) (World α)} {sources : List Source}
    (hc : spec.Configured profiles files merged sources) :
    spec.configure profiles files environment =
      if 0 ≤ n ∧ n < 65536 then
        .ok (merged, serverOf merged, layer spec.properties sources environment, n.toNat)
      else .error (noPort n) := by
  rw [hc.configure_eq, resolvePort_toString _ _ (h.get?_layer hc.loads)]
  split <;> rfl

theorem HoldsPort.port_eq (h : HoldsPort spec files environment n) {plan : Plan own α}
    (hp : spec.plan profiles files environment = .ok plan) : (plan.port : Int) = n := by
  obtain ⟨merged, server, properties, hconfigure⟩ := Spec.plan_port hp
  obtain ⟨merged, sources, hc⟩ := Spec.configured_of_configure hconfigure
  rw [h.configure_eq hc] at hconfigure
  split at hconfigure
  · rename_i hin
    have hport : n.toNat = plan.port :=
      congrArg (fun found => found.2.2.2) (Except.ok.inj hconfigure)
    rw [← hport]
    exact Int.toNat_of_nonneg hin.1
  · cases hconfigure

/-- Integers of files are never wrapped. A record that is bound has the integer as it is, and
only in a field with room for it. A record of this field alone is bound if there is room for the
integer and no key is below its own, and fails otherwise. The port of an application is the
integer if it has 16 bits, and else the application is refused before anything is created. -/
theorem integers_never_wrapped (n : Int) :
    (∀ (content : String) (table : Toml.Table) (root name : String) (t : IntegerType),
      Toml.parse? content = some table → '.' ∉ name.toList →
      valueAt table (Source.scopeOf root++name) = some (.integer n) →
      Source.ofText? content = some (Source.ofTable table) ∧
      ((∀ rest, valueAt table (Source.scopeOf root++name++"."++rest) = none) →
        (Source.ofTable table).bind root (.record "" false [.required name (.integer t)]) =
          if t.least ≤ n ∧ n ≤ t.greatest then .ok (.record [(name, .integer n)])
          else .error ⟨normalize root, outOfRange t n⟩) ∧
      ((∃ rest, valueAt table (Source.scopeOf root++name++"."++rest) ≠ none) →
        (Source.ofTable table).bind root (.record "" false [.required name (.integer t)]) =
          .error ⟨normalize root, invalidType "map" t.name⟩) ∧
      ∀ recordName strict fields field datum, fields.find? (·.accepts name) = some field →
        field.shape = .integer t →
        (Source.ofTable table).bind root (.record recordName strict fields) = .ok datum →
        (t.least ≤ n ∧ n ≤ t.greatest) ∧
          ∃ values, datum = .record values ∧ values.lookup field.name = some (.integer n)) ∧
    ∀ (own : Bean.Catalog) (α : Type) (spec : Spec own α) (profiles : Profiles)
      (environment : Source) (state : State own α),
      HoldsPort spec state.world.files environment n →
      (∀ r later, spec.realize profiles environment state = (.ok r, later) →
        (r.plan.port : Int) = n) ∧
      ∀ merged sources, spec.Configured profiles state.world.files merged sources →
        (0 ≤ n ∧ n < 65536 → spec.configure profiles state.world.files environment =
          .ok (merged, serverOf merged, layer spec.properties sources environment, n.toNat)) ∧
        (¬(0 ≤ n ∧ n < 65536) → spec.realize profiles environment state =
          (.error (.configuration (noPort n)), state)) := by
  refine ⟨fun content table root name t hparse hname hn =>
      ⟨ofText?_of_parse hparse, ?_, ?_, ?_⟩,
    fun own α spec profiles environment state h => ⟨?_, ?_⟩⟩
  · exact fun hfree => bind_integer hname hn hfree t
  · rintro ⟨rest, hbelow⟩
    exact bind_hidden hname hbelow t
  · exact fun recordName strict fields field datum hf hshape hb =>
      bind_integer_field hname hn hf hshape hb
  · exact fun r later hr => h.port_eq (Spec.realize_ok hr).1
  · refine fun merged sources hc => ⟨fun hin => ?_, fun hout => ?_⟩
    · exact (h.configure_eq hc).trans (if_pos hin)
    · have hplan := Spec.plan_of_configure_error ((h.configure_eq hc).trans (if_neg hout))
      rw [Spec.realize, hplan]

def wideFile : String := "[server]\nport = 70000"

def wideTable : Toml.Table := [("server", .table [("port", .integer 70000)])]

theorem parse_wideFile : Toml.parse? wideFile = some wideTable := by
  decide +kernel

def shopFiles : Storage.Files := .ofList [("shop.toml", wideFile)]

def shop : Spec .plain Nat :=
  ⟨.none, ⟨"shop", []⟩, Logging.Settings.default, .empty, ["shop.toml"]⟩

theorem valueAt_wideTable : valueAt wideTable "server.port" = some (.integer 70000) := by
  decide +kernel

theorem nothing_below_wide (rest : String) :
    valueAt wideTable ("server.port"++"."++rest) = none := by
  rw [valueAt_eq_none_iff]
  intro leaf hl hkey
  have hleaves : (Toml.Value.table wideTable).leaves = [(["server", "port"], .integer 70000)] := by
    simp [wideTable, Toml.Value.leaves, Toml.Value.entryLeaves, Toml.Value.under]
  rw [hleaves, List.mem_singleton] at hl
  have hport : normalize (Text.join '.' ["server", "port"]) = "server.port" := by decide
  rw [hl, hport] at hkey
  have hlength := congrArg String.length hkey
  rw [String.length_append, String.length_append] at hlength
  have hdot : ".".length = 1 := rfl
  omega

theorem wide_port_refused :
    (Source.ofTable wideTable).bind "server"
        (.record "" false [.required "port" (.integer ⟨32, false⟩)]) =
      .ok (.record [("port", .integer 70000)]) ∧
    (Source.ofTable wideTable).bind "server"
        (.record "" false [.required "port" (.integer ⟨16, false⟩)]) =
      .error ⟨"server", outOfRange ⟨16, false⟩ 70000⟩ ∧
    shop.realize .none .empty (Bean.State.start (World.start shopFiles 0)) =
      (.error (.configuration (noPort 70000)), Bean.State.start (World.start shopFiles 0)) := by
  obtain ⟨hbound, hport⟩ := integers_never_wrapped 70000
  have hread : shopFiles.read? "shop.toml" = some wideFile := rfl
  have hholds : HoldsPort shop shopFiles .empty 70000 :=
    ⟨Source.ordered_empty, Source.ordered_empty, rfl, [], "shop.toml", [], wideFile, wideTable, rfl,
      hread, parse_wideFile, valueAt_wideTable, by simp⟩
  have hconfigured : shop.Configured .none shopFiles _ [Source.ofTable wideTable] :=
    ⟨rfl, rfl, .cons (loadFile_eq hread parse_wideFile) .nil⟩
  have hwide := hbound wideFile wideTable "server" "port" ⟨32, false⟩ parse_wideFile (by decide)
    valueAt_wideTable
  have hnarrow := hbound wideFile wideTable "server" "port" ⟨16, false⟩ parse_wideFile (by decide)
    valueAt_wideTable
  refine ⟨?_, ?_, ?_⟩
  · exact (hwide.2.1 nothing_below_wide).trans (if_pos (by decide))
  · exact (hnarrow.2.1 nothing_below_wide).trans (if_neg (by decide))
  · exact ((hport .plain Nat shop .none .empty (Bean.State.start (World.start shopFiles 0))
      hholds).2 _ _ hconfigured).2 (by decide)

def quotedFile : String := "[web]\nvalue = 5\n\"value.x\" = 1"

def quotedTable : Toml.Table :=
  [("web", .table [("value", .integer 5), ("value.x", .integer 1)])]

theorem parse_quotedFile : Toml.parse? quotedFile = some quotedTable := by
  decide +kernel

/-- Not every integer that fits comes back: a key below its own hides it. -/
theorem not_every_integer_bound : ¬∀ (content : String) (table : Toml.Table)
    (root name : String) (n : Int) (t : IntegerType),
    Toml.parse? content = some table → '.' ∉ name.toList →
    valueAt table (Source.scopeOf root++name) = some (.integer n) →
    (Source.ofTable table).bind root (.record "" false [.required name (.integer t)]) =
      if t.least ≤ n ∧ n ≤ t.greatest then .ok (.record [(name, .integer n)])
      else .error ⟨normalize root, outOfRange t n⟩ := by
  intro h
  have hvalue : valueAt quotedTable (Source.scopeOf "web"++"value") = some (.integer 5) := by
    decide +kernel
  have hother : valueAt quotedTable (Source.scopeOf "web"++"value"++"."++"x") =
      some (.integer 1) := by
    decide +kernel
  have hbelow : valueAt quotedTable (Source.scopeOf "web"++"value"++"."++"x") ≠ none := by
    rw [hother]
    exact Option.some_ne_none _
  have hbound := h quotedFile quotedTable "web" "value" 5 ⟨8, true⟩ parse_quotedFile (by decide)
    hvalue
  rw [if_pos (by decide), bind_hidden (by decide) hbelow] at hbound
  cases hbound

end WebApplication.Application
