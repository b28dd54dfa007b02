import WebApplication.Application.World
import WebApplication.Bean.Context

/-!
# Probes

A probe is one question to a context, answered by a value that shows what was found.
-/

set_option autoImplicit false

namespace WebApplication.Blueprint

open Application (World catalog)
open Json (Value)

abbrev Display (C : Bean.Catalog) : Type := (kind : C.Kind) → C.Instance kind → Value

def tableToJson {σ : Type} (table : Route.Table σ) : Value :=
  .array (table.entries.map fun e =>
    .array [.string e.method, .string e.pattern.text, .string e.handler.flavor.word])

def display {own : Bean.Catalog} {α : Type} (displayOwn : Display own) : Display (catalog own α)
  | .routes, (table : Route.Table (World α)) => tableToJson table
  | .codecs, (codecs : Http.Codecs) => .array (codecs.kinds.map fun c => .string c.word)
  | .templates, (settings : Template.Settings) => .string (settings.pathFor "x")
  | .client, (client : Http.Client) => .array [.ofOption client.baseUrl, .string (client.url "/x")]
  | .users, (users : Access.Users) => .ofNat users.size
  | .encoder _, (encoder : Access.Encoder) => .string (encoder.encode "x")
  | .own kind, value => displayOwn kind value

inductive Probe (C : Bean.Catalog) where
  | find (kind : C.Kind)
  | named (kind : C.Kind) (name : String)
  | findAll (kind : C.Kind)
  | contains (kind : C.Kind)
  /-- Whether two lookups give the same instance. -/
  | same (kind : C.Kind)
  | created (name : String)
  | property (key : String)
  | profile (name : String)
  | names
  | summary

namespace Probe

variable {C : Bean.Catalog} {σ : Type}

def findValue (display : Display C) (dependency : Bean.Dependency C) :
    Bean.Program C σ (Except Bean.Error Value) :=
  .ask (.find dependency) fun
    | .ok shared => .done (.ok (display dependency.kind shared.value))
    | .error e => .done (.error e)

def sameValue (kind : C.Kind) : Bean.Program C σ (Except Bean.Error Value) :=
  .ask (.find (.of kind)) fun
    | .error e => .done (.error e)
    | .ok first => .ask (.find (.of kind)) fun
      | .error e => .done (.error e)
      | .ok second => .done (.ok (.bool (first.serial == second.serial)))

def viewValue (f : Bean.View C → Value) : Bean.Program C σ (Except Bean.Error Value) :=
  .ask .view fun view => .done (.ok (f view))

def ask (display : Display C) : Probe C → Bean.Program C σ (Except Bean.Error Value)
  | find kind => findValue display (.of kind)
  | named kind name => findValue display (.named kind name)
  | findAll kind => .ask (.findAll kind) fun
    | .ok found => .done (.ok (.array (found.map fun shared => display kind shared.value)))
    | .error e => .done (.error e)
  | contains kind => viewValue fun v => .bool (v.beans.any (·.2 = kind))
  | same kind => sameValue kind
  | created name => viewValue fun v => .bool (v.created.contains name)
  | property key => viewValue fun v => .ofOption (v.properties.get? key)
  | profile name => viewValue fun v => .bool (v.profiles.contains name)
  | names => viewValue fun v => .array (v.beans.map fun (name, _) => .string name)
  | summary => viewValue fun v => .string v.describe

end Probe

end WebApplication.Blueprint
