import WebApplication.Application.Lifecycle
import WebApplication.Proofs.Application.Integers
import WebApplication.Proofs.Server.Port

/-!
# The port of an application

A key has the value of the environment, or else of the last file that sets it, or else the
one that was declared last. If `server.port` has a value then this is the port, or the
application is refused; if it has none then the port is the one that the server declares.
-/

set_option autoImplicit false

namespace WebApplication.Application

open Property

variable {own : Bean.Catalog} {α : Type}

/-! ## Values of keys -/

def exportsOf (environment : List (String × String)) : List (String × String) :=
  environment.filterMap fun (name, value) => (Source.keyOfVariable name).map (·, value)

theorem ofEnvironment_eq (environment : List (String × String)) :
    Source.ofEnvironment environment = .ofList (exportsOf environment) := by
  rw [Source.ofEnvironment, Source.ofList, exportsOf, List.foldl_filterMap]
  congr 1
  funext source ⟨name, value⟩
  cases hkey : Source.keyOfVariable name <;> simp [hkey]

/-- The value of a key: that of the environment, or else of the last file with the key, or
else the declared one. -/
def topmost (code : List (String × String)) (files : List Toml.Table)
    (environment : List (String × String)) (key : String) : Option String :=
  (latest (exportsOf environment) key).or
    ((files.reverse.findSome? fun table => latest (settingsOf table) key).or (latest code key))

theorem lookup_files (code : List (String × String)) (files : List Toml.Table) (key : String) :
    ((files.map Source.ofTable).foldl Source.extend (.ofList code)).values.lookup key =
      (files.reverse.findSome? fun table => latest (settingsOf table) key).or
        (latest code key) := by
  induction files using List.reverseRecOn with
  | nil => exact (made_ofList code).lookup key
  | append_singleton files table ih =>
    have hbelow := (Source.ordered_ofList code).extends (files.map Source.ofTable)
    rw [List.map_append, List.map_singleton, List.foldl_append, List.foldl_cons, List.foldl_nil,
      Source.lookup_extend hbelow (Source.ordered_ofTable table), ih, (made_ofTable table).lookup,
      List.reverse_append, List.reverse_singleton, List.singleton_append, List.findSome?_cons]
    cases latest (settingsOf table) key <;> rfl

theorem lookup_layered (code : List (String × String)) (files : List Toml.Table)
    (environment : List (String × String)) (key : String) :
    (layered code files environment).values.lookup key = topmost code files environment key := by
  have hbelow := (Source.ordered_ofList code).extends (files.map Source.ofTable)
  have habove := Source.ordered_ofEnvironment environment
  rw [layered, layer, Source.lookup_extend hbelow habove, lookup_files, ofEnvironment_eq,
    (made_ofList _).lookup, topmost]

def propertiesOf (declarations : List (Declaration own α)) : List (String × String) :=
  declarations.filterMap fun
    | .property key value => some (key, value)
    | _ => none

theorem properties_of_ofDeclarations {mode : Mode} {declarations : List (Declaration own α)}
    {spec : Spec own α} (h : Spec.ofDeclarations mode declarations = .ok spec) :
    spec.properties = .ofList (propertiesOf declarations) := by
  have happly : ∀ start : Spec own α, (declarations.foldl Declaration.apply start).properties =
      (propertiesOf declarations).foldl (fun source (key, value) => source.set key value)
        start.properties := by
    intro start
    clear h
    induction declarations generalizing start with
    | nil => rfl
    | cons declaration declarations ih =>
      rw [List.foldl_cons, ih]
      cases declaration <;> rfl
  rw [Spec.ofDeclarations] at h
  cases hroot : Configuration.Block.ofDeclarations "application"
      (declarations.filterMap Declaration.blockPart) with
  | error e =>
    rw [hroot] at h
    cases h
  | ok root =>
    rw [hroot] at h
    cases h
    exact happly _

/-! ## Numbers -/

/-- The text is a number of 16 bits in decimal. There may be blanks around it, and a plus sign. -/
def PortText (raw : String) (n : Nat) : Prop :=
  ∃ digits, (Text.trimChars raw.toList = digits ∨ Text.trimChars raw.toList = '+'::digits) ∧
    digits ≠ [] ∧ (∀ c ∈ digits, c.isDigit = true) ∧ Nat.ofDigitChars 10 digits 0 = n ∧ n < 65536

theorem port?_eq_some_iff {raw : String} {n : Nat} : port? raw = some n ↔ PortText raw n := by
  constructor
  · intro h
    rw [port?] at h
    split at h
    · rename_i k hk
      obtain ⟨digits, m, htext, hm, rfl⟩ := unsigned_eq_some_iff.mp hk
      obtain ⟨hne, hdigits, hvalue⟩ := digits?_eq_some_iff.mp hm
      split at h
      · cases h
        exact ⟨digits, htext, hne, hdigits, hvalue, by omega⟩
      · cases h
    · cases h
  · rintro ⟨digits, htext, hne, hdigits, hvalue, hbound⟩
    have hm := digits?_eq_some_iff.mpr ⟨hne, hdigits, hvalue⟩
    have hk := unsigned_eq_some_iff.mpr ⟨digits, n, htext, hm, rfl⟩
    have hroom : Int.ofNat n < 65536 := Int.ofNat_lt.mpr hbound
    rw [port?, hk]
    exact if_pos hroom

inductive PortFrom (property : Option String) (declared : Nat) : Nat → Prop
  | property {raw : String} {n : Nat} (h : property = some raw) (hn : PortText raw n) :
      PortFrom property declared n
  | declared (h : property = none) : PortFrom property declared declared

def notPort (raw : String) : Configuration.Error :=
  .invalid [⟨"server.port", s!"`{raw}` is not a valid port"⟩]

theorem resolvePort_ok_iff {declared : Profiled Nat} {profiles : Profiles} {properties : Source}
    {n : Nat} : resolvePort declared profiles properties = .ok n ↔
      PortFrom (properties.get? "server.port") (declared.resolve profiles) n := by
  rw [resolvePort]
  constructor
  · intro h
    split at h
    · rename_i hnone
      cases h
      exact .declared hnone
    · rename_i raw hraw
      split at h
      · rename_i hport
        cases h
        exact .property hraw (port?_eq_some_iff.mp hport)
      · cases h
  · intro h
    cases h with
    | property hraw hn => simp [hraw, port?_eq_some_iff.mpr hn]
    | declared hnone => simp [hnone]

theorem resolvePort_error {profiles : Profiles} {properties : Source} {raw : String}
    (declared : Profiled Nat) (h : properties.get? "server.port" = some raw)
    (hraw : ∀ n, ¬PortText raw n) :
    resolvePort declared profiles properties = .error (notPort raw) := by
  have hnone : port? raw = none :=
    Option.eq_none_iff_forall_ne_some.mpr fun n hn => hraw n (port?_eq_some_iff.mp hn)
  simp [resolvePort, h, hnone, notPort]

/-! ## Realizing -/

def portProperty (declarations : List (Declaration own α)) (files : List Toml.Table)
    (environment : List (String × String)) : Option String :=
  topmost (propertiesOf declarations) files environment "server.port"

/-- An application has the port of its topmost property `server.port`, whatever its server
declares. If the text of the property is no port then nothing is created. Without the property
the port is that of the first declaration for an active profile, or else the last one for all
profiles, or 8080. -/
theorem Spec.port_realized (mode : Mode) (declarations : List (Declaration own α))
    (profiles : Profiles) (files : List Toml.Table) (environment : List (String × String))
    (steps : List (Server.Declaration (catalog own α) (World α))) (state : State own α)
    {spec : Spec own α} {merged : Configuration.Merged (catalog own α) (World α)}
    (hs : Spec.ofDeclarations mode declarations = .ok spec)
    (hc : spec.Configured profiles state.world.files merged (files.map Source.ofTable))
    (hserver : serverOf merged = Server.declared steps) :
    (∀ n, PortFrom (portProperty declarations files environment)
        (Server.portOf profiles steps) n →
      spec.configure profiles state.world.files (.ofEnvironment environment) =
        .ok (merged, Server.declared steps,
          layered (propertiesOf declarations) files environment, n)) ∧
    (∀ r later, spec.realize profiles (.ofEnvironment environment) state = (.ok r, later) →
      PortFrom (portProperty declarations files environment)
        (Server.portOf profiles steps) r.plan.port) ∧
    ∀ raw, portProperty declarations files environment = some raw → (∀ n, ¬PortText raw n) →
      spec.realize profiles (.ofEnvironment environment) state =
        (.error (.configuration (notPort raw)), state) := by
  have hget : (layered (propertiesOf declarations) files environment).get? "server.port" =
      portProperty declarations files environment := by
    rw [get?_port, lookup_layered, portProperty]
  have hconfigure : spec.configure profiles state.world.files (.ofEnvironment environment) = _ :=
    hc.configure_eq
  rw [properties_of_ofDeclarations hs, ← layered, hserver] at hconfigure
  refine ⟨fun n hn => ?_, fun r later hr => ?_, fun raw hset hraw => ?_⟩
  · rw [← hget, ← Server.resolve_declared, ← resolvePort_ok_iff] at hn
    rw [hconfigure, hn]
    rfl
  · obtain ⟨found, server, properties, hplan⟩ := Spec.plan_port (Spec.realize_ok hr).1
    rw [hconfigure] at hplan
    rw [← hget, ← Server.resolve_declared, ← resolvePort_ok_iff]
    cases hport : resolvePort (Server.declared steps).port profiles
        (layered (propertiesOf declarations) files environment) with
    | error e =>
      rw [hport] at hplan
      cases hplan
    | ok port =>
      rw [hport] at hplan
      cases hplan
      rfl
  · rw [resolvePort_error _ (hget.trans hset) hraw] at hconfigure
    rw [Spec.realize, Spec.plan_of_configure_error hconfigure]

def stages : List (Server.Declaration (catalog .plain Nat) (World Nat)) :=
  [.portFor "test" 8181, .timeout 5, .portFor "ci" 9090, .port 7000, .port 9000]

def market : List (Declaration .plain Nat) :=
  [.property "Server-Port" "1", .property "SERVER.PORT" "8000", .file "shop.toml",
    .block (.server (Server.declared stages))]

def stall : List (Declaration .plain Nat) := [.block (.server (Server.declared stages))]

theorem market_port :
    (∃ spec merged properties, Spec.ofDeclarations .none market = .ok spec ∧
      spec.configure ⟨["test"]⟩ shopFiles (.ofEnvironment [("Server__Port", " +8088 ")]) =
        .ok (merged, Server.declared stages, properties, 8088) ∧
      spec.realize ⟨["test"]⟩ (.ofEnvironment []) (Bean.State.start (World.start shopFiles 0)) =
        (.error (.configuration (notPort "70000")), Bean.State.start (World.start shopFiles 0))) ∧
    ∃ spec r later, Spec.ofDeclarations .none stall = .ok spec ∧
      spec.realize ⟨["ci", "test"]⟩ (.ofEnvironment [])
        (Bean.State.start (World.start shopFiles 0)) = (.ok r, later) ∧ r.plan.port = 8181 := by
  have hread : shopFiles.read? "shop.toml" = some wideFile := rfl
  have hloads : List.Forall₂ (fun path source => loadFile shopFiles path = .ok source)
      ["shop.toml"] [Source.ofTable wideTable] := .cons (loadFile_eq hread parse_wideFile) .nil
  have hwide : ∀ n, ¬PortText "70000" n := by
    intro n hn
    have hnone : port? "70000" = none := by decide
    rw [← port?_eq_some_iff, hnone] at hn
    cases hn
  have hexported := (Spec.port_realized .none market ⟨["test"]⟩ [wideTable]
    [("Server__Port", " +8088 ")] stages (Bean.State.start (World.start shopFiles 0))
    rfl ⟨rfl, rfl, hloads⟩ rfl).1 8088 (.property rfl (port?_eq_some_iff.mp (by decide)))
  have hrefused := (Spec.port_realized .none market ⟨["test"]⟩ [wideTable] [] stages
    (Bean.State.start (World.start shopFiles 0)) rfl ⟨rfl, rfl, hloads⟩ rfl).2.2 "70000" rfl hwide
  have hdeclared := (Spec.port_realized .none stall ⟨["ci", "test"]⟩ [] [] stages
    (Bean.State.start (World.start shopFiles 0)) rfl ⟨rfl, rfl, .nil⟩ rfl).2.1 _ _ rfl
  refine ⟨⟨_, _, _, rfl, hexported, hrefused⟩, _, _, _, rfl, rfl, ?_⟩
  cases hdeclared with
  | property h _ => cases h
  | declared _ => rfl

end WebApplication.Application
