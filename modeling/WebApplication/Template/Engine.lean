import WebApplication.Json.Value
import WebApplication.Storage.Files
import WebApplication.Template.Parser
import WebApplication.Template.Render

/-!
# Template engines

An engine renders templates by name. A template registered in code is taken from
there, any other from a file. What was read once without an error is kept, and later
changes of the file are not seen.
-/

set_option autoImplicit false

namespace WebApplication.Template

/-- A template that is not registered in code is the file `before ++ name ++ after`. -/
structure Settings where
  before : String
  after : String
  registered : SortedTable String
  deriving DecidableEq, Repr

namespace Settings

def default : Settings := ⟨"templates/", ".mustache", []⟩

def pathFor (s : Settings) (name : String) : String := s.before++name++s.after

def register (s : Settings) (name source : String) : Settings :=
  { s with registered := s.registered.insert name source }

end Settings

inductive Error where
  | notFound (name path : String)
  | malformed (name : String) (flaw : Flaw)
  deriving DecidableEq, Repr

def Error.message : Error → String
  | notFound name path => s!"template `{name}` not found at {path}"
  | malformed name flaw => s!"template `{name}` is malformed: {flaw.reason}"

abbrev Cache := List (String × List Node)

def parseNamed (name source : String) : Except Error (List Node) :=
  match parse source with
  | .ok nodes => .ok nodes
  | .error flaw => .error (.malformed name flaw)

namespace Settings

def source (s : Settings) (files : Storage.Files) (name : String) : Except Error String :=
  match s.registered.lookup name with
  | some text => .ok text
  | none =>
    match files.read? (s.pathFor name) with
    | some text => .ok text
    | none => .error (.notFound name (s.pathFor name))

def load (s : Settings) (files : Storage.Files) (name : String) (cache : Cache) :
    Except Error (List Node) × Cache :=
  match cache.lookup name with
  | some nodes => (.ok nodes, cache)
  | none =>
    match s.source files name with
    | .error e => (.error e, cache)
    | .ok text =>
      match parseNamed name text with
      | .error e => (.error e, cache)
      | .ok nodes => (.ok nodes, (name, nodes)::cache)

def render (s : Settings) (files : Storage.Files) (name : String) (model : Json.Value)
    (cache : Cache) : Except Error String × Cache :=
  match s.load files name cache with
  | (.ok nodes, cache) => (.ok (renderModel nodes model), cache)
  | (.error e, cache) => (.error e, cache)

end Settings

def renderSource (source : String) (model : Json.Value) : Except Error String := do
  .ok (renderModel (← parseNamed "<inline>" source) model)

end WebApplication.Template
