import WebApplication.Bean.Context
import WebApplication.Http.Client
import WebApplication.Property.Bind
import WebApplication.Server.Settings

/-!
# Configuration blocks

A block is a named list of parts: beans, listeners, a server, other blocks, and blocks
that count only under a profile. Flattening a block under the active profiles walks it
in the order of declaration.
-/

set_option autoImplicit false

namespace WebApplication.Configuration

variable {C : Bean.Catalog} {σ : Type}

inductive Error where
  | invalidPrefix (root reason : String)
  | emptyProfile
  | ambiguousServer (first second : String)
  | unreadable (path : String)
  | malformed (path : String)
  | invalid (problems : List Server.Problem)
  deriving DecidableEq, Repr

def Error.message : Error → String
  | invalidPrefix root reason => s!"invalid property prefix `{root}`: {reason}"
  | emptyProfile => "profile name must not be empty"
  | ambiguousServer first second =>
    s!"ambiguous server configuration: declared by `{first}` and by `{second}`"
  | unreadable path => s!"failed to read {path}"
  | malformed path => s!"failed to parse {path}"
  | invalid problems =>
    "validation failed: "++", ".intercalate (problems.map Server.Problem.describe)

inductive Part (C : Bean.Catalog) (σ : Type) where
  | bean (definition : Bean.Definition C σ)
  | listener (listener : Bean.Listener C σ)
  /-- A bean whose value is read from the properties under `root`. -/
  | properties (root : String) (definition : Bean.Definition C σ)
  | server (settings : Server.Settings C σ)
  | enable (name : String) (parts : List (Part C σ))
  | profile (profile name : String) (parts : List (Part C σ))

structure Block (C : Bean.Catalog) (σ : Type) where
  name : String
  parts : List (Part C σ)

/-! ## Flattening -/

/-- What the active parts of a block come to. A server comes with the name of the block
that declares it. -/
structure Merged (C : Bean.Catalog) (σ : Type) where
  beans : List (Bean.Definition C σ)
  listeners : List (Bean.Listener C σ)
  prefixes : List String
  server : Option (String × Server.Settings C σ)

namespace Merged

def empty : Merged C σ := ⟨[], [], [], none⟩

def addServer (m : Merged C σ) (block : String) (settings : Server.Settings C σ) :
    Except Error (Merged C σ) :=
  match m.server with
  | some (first, _) => .error (.ambiguousServer first block)
  | none => .ok { m with server := some (block, settings) }

mutual

def add (profiles : Profiles) (block : String) (m : Merged C σ) :
    Part C σ → Except Error (Merged C σ)
  | .bean definition => .ok { m with beans := m.beans++[definition] }
  | .listener listener => .ok { m with listeners := m.listeners++[listener] }
  | .properties root definition =>
    .ok { m with prefixes := m.prefixes++[root], beans := m.beans++[definition] }
  | .server settings => m.addServer block settings
  | .enable name parts => addAll profiles name m parts
  | .profile profile name parts =>
    if profiles.contains profile then addAll profiles name m parts else .ok m

def addAll (profiles : Profiles) (block : String) (m : Merged C σ) :
    List (Part C σ) → Except Error (Merged C σ)
  | [] => .ok m
  | part::parts =>
    match add profiles block m part with
    | .error e => .error e
    | .ok m => addAll profiles block m parts

end

end Merged

def Block.flatten (b : Block C σ) (profiles : Profiles) : Except Error (Merged C σ) :=
  Merged.addAll profiles b.name Merged.empty b.parts

/-! ## Declaring -/

structure Binding (C : Bean.Catalog) where
  kind : C.Kind
  shape : Schema.Shape
  read : Schema.Datum → C.Instance kind

inductive Declaration (C : Bean.Catalog) (σ : Type) where
  | name (name : String)
  | beans (definitions : List (Bean.Definition C σ))
  | listener (listener : Bean.Listener C σ)
  | properties (root : String) (binding : Binding C)
  | server (settings : Server.Settings C σ)
  | enable (block : Block C σ)
  | profile (profile : String) (declarations : List (Declaration C σ))

def isPrefixChar (c : Char) : Bool := c.isLower || c.isDigit || c = '-' || c = '_'

def flawOfSegments : List String → Option String
  | [] => none
  | segment::rest =>
    if segment = "" then some "contains an empty segment"
    else if segment.toList.all isPrefixChar then flawOfSegments rest
    else some "only lowercase letters, digits, '-' and '_' are allowed"

def flawOfPrefix (root : String) : Option String :=
  if root = "" then some "must not be empty" else flawOfSegments (Text.split '.' root)

def Binding.definition (b : Binding C) (root : String) : Bean.Definition C σ :=
  Bean.Definition.of b.kind (.ask .view fun view =>
    match view.properties.bind root b.shape with
    | .ok value => .done (.ok (b.read value))
    | .error e => .done (.error (.own e.message)))

/-- A block being declared. The first error stays. -/
structure Draft (C : Bean.Catalog) (σ : Type) where
  name : String
  parts : List (Part C σ)
  error : Option Error

namespace Draft

def start (name : String) : Draft C σ := ⟨name, [], none⟩

def fail (d : Draft C σ) (e : Error) : Draft C σ := { d with error := some (d.error.getD e) }

def add (d : Draft C σ) (part : Part C σ) : Draft C σ := { d with parts := d.parts++[part] }

def build (d : Draft C σ) : Except Error (Block C σ) :=
  match d.error with
  | some e => .error e
  | none => .ok ⟨d.name, d.parts⟩

mutual

def declare (d : Draft C σ) : Declaration C σ → Draft C σ
  | .name name => { d with name }
  | .beans definitions => { d with parts := d.parts++definitions.map .bean }
  | .listener listener => d.add (.listener listener)
  | .properties root binding =>
    match flawOfPrefix root with
    | some reason => d.fail (.invalidPrefix root reason)
    | none => d.add (.properties root (binding.definition root))
  | .server settings => d.add (.server settings)
  | .enable block => d.add (.enable block.name block.parts)
  | .profile profile declarations =>
    if Text.trim profile = "" then d.fail .emptyProfile
    else match (declareAll (start s!"{d.name}[{profile}]") declarations).build with
      | .ok block => d.add (.profile profile block.name block.parts)
      | .error e => d.fail e

def declareAll (d : Draft C σ) : List (Declaration C σ) → Draft C σ
  | [] => d
  | declaration::declarations => declareAll (declare d declaration) declarations

end

end Draft

/-- Declares a block; its name holds until a declaration changes it. -/
def Block.ofDeclarations (name : String) (declarations : List (Declaration C σ)) :
    Except Error (Block C σ) :=
  (Draft.declareAll (Draft.start name) declarations).build

end WebApplication.Configuration
