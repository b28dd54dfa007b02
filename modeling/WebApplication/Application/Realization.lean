import WebApplication.Application.World
import WebApplication.Configuration.Block
import WebApplication.Logging
import WebApplication.Property.File
import WebApplication.Server.Service

/-!
# Realizing applications

First everything is decided that needs no bean: the active blocks, the server, the
properties and the port. Then beans are created, listeners are told, routes and access
rules are built. The first failure ends it.
-/

set_option autoImplicit false

namespace WebApplication.Application

variable {own : Bean.Catalog} {α : Type}

inductive Mode where
  | none
  | reactive
  deriving DecidableEq, Repr

def Mode.word : Mode → String
  | none => "none"
  | reactive => "reactive"

inductive StartupError where
  | alreadyRealized
  | configuration (cause : Configuration.Error)
  | bean (cause : Bean.Error)
  | route (cause : Route.Error)
  | security (cause : Access.Error)
  | event (cause : Bean.EventError)
  | bind (address : String)
  /-- The policy for other origins lets credentials meet a wildcard. -/
  | unsoundPolicy
  deriving DecidableEq, Repr

def StartupError.message : StartupError → String
  | alreadyRealized => "application has already been realized"
  | configuration cause => cause.message
  | bean cause => cause.message
  | route cause => cause.message
  | security cause => s!"security initialization failed: {cause.message}"
  | event cause => cause.message
  | bind address => s!"failed to bind {address}"
  | unsoundPolicy => "credentials must not be combined with a wildcard"

structure Spec (own : Bean.Catalog) (α : Type) where
  mode : Mode
  root : Configuration.Block (catalog own α) (World α)
  logging : Logging.Settings
  properties : Property.Source
  files : List String

structure Plan (own : Bean.Catalog) (α : Type) where
  profiles : Profiles
  server : Server.Settings (catalog own α) (World α)
  port : Nat
  codecs : Http.Codecs
  context : Bean.Context (catalog own α) (World α)

structure Realized (own : Bean.Catalog) (α : Type) where
  plan : Plan own α
  table : Route.Table (World α)
  chain : Option Access.Chain

/-! ## Planning -/

def loadFile (files : Storage.Files) (path : String) : Except Configuration.Error Property.Source :=
  match files.read? path with
  | none => .error (.unreadable path)
  | some content =>
    match Property.Source.ofText? content with
    | some source => .ok source
    | none => .error (.malformed path)

/-- Files lie over what is set in code, each over those before it, and the environment
lies over all of them. -/
def layer (code : Property.Source) (files : List Property.Source) (environment : Property.Source) :
    Property.Source :=
  (files.foldl Property.Source.extend code).extend environment

def port? (text : String) : Option Nat :=
  match Property.integer? false (Text.trimChars text.toList) with
  | some n => if n < 65536 then some n.toNat else none
  | none => none

def resolvePort (declared : Profiled Nat) (profiles : Profiles) (properties : Property.Source) :
    Except Configuration.Error Nat :=
  match properties.get? "server.port" with
  | none => .ok (declared.resolve profiles)
  | some raw =>
    match port? raw with
    | some port => .ok port
    | none => .error (.invalid [⟨"server.port", s!"`{raw}` is not a valid port"⟩])

def serverBeans (declared : Bool) (codecs : Http.Codecs) (template : Option Template.Settings) :
    List (Bean.Definition (catalog own α) (World α)) :=
  if declared then
    .ready Kind.codecs codecs::(template.map fun t => .ready Kind.templates t).toList
  else []

def Spec.configure (spec : Spec own α) (profiles : Profiles) (files : Storage.Files)
    (environment : Property.Source) : Except Configuration.Error
      (Configuration.Merged (catalog own α) (World α) × Server.Settings (catalog own α) (World α) ×
        Property.Source × Nat) := do
  let merged ← spec.root.flatten profiles
  let server := (merged.server.map Prod.snd).getD (Server.Settings.default _ _)
  if server.problems.isEmpty then
    let properties := layer spec.properties (← spec.files.mapM (loadFile files)) environment
    .ok (merged, server, properties, ← resolvePort server.port profiles properties)
  else .error (.invalid server.problems)

def Spec.plan (spec : Spec own α) (profiles : Profiles) (files : Storage.Files)
    (environment : Property.Source) : Except StartupError (Plan own α) :=
  match spec.configure profiles files environment with
  | .error cause => .error (.configuration cause)
  | .ok (merged, server, properties, port) =>
    let codecs : Http.Codecs := ⟨server.codecs, server.maxBody⟩
    match Bean.Registry.ofList
        (merged.beans++serverBeans merged.server.isSome codecs server.template) with
    | .error cause => .error (.bean cause)
    | .ok registry =>
      .ok ⟨profiles, server, port, codecs, ⟨registry, merged.listeners, profiles, properties⟩⟩

/-! ## Starting -/

abbrev Program (own : Bean.Catalog) (α β : Type) := Bean.Program (catalog own α) (World α) β

def proceed {β γ ε : Type} (p : Program own α (Except ε β)) (fail : ε → StartupError)
    (next : β → Program own α (Except StartupError γ)) : Program own α (Except StartupError γ) :=
  p.bind fun
    | .ok b => next b
    | .error e => .done (.error (fail e))

def tableOf : Server.Registration (catalog own α) (World α) →
    Program own α (Except StartupError (Route.Table (World α)))
  | .table table => .done (.ok table)
  | .declared _ items => proceed items .bean fun items =>
    .done ((Route.Table.ofItems items).mapError .route)

def tablesOf : List (Server.Registration (catalog own α) (World α)) →
    Program own α (Except StartupError (List (Route.Table (World α))))
  | [] => .done (.ok [])
  | r::rs => proceed (tableOf r) id fun table =>
    proceed (tablesOf rs) id fun tables => .done (.ok (table::tables))

def joinTables (tables : List (Route.Table (World α))) : Route.Table (World α) :=
  tables.foldl Route.Table.append Route.Table.empty

def buildTable (routers : List (Server.Registration (catalog own α) (World α))) :
    Program own α (Except StartupError (Route.Table (World α))) :=
  proceed (tablesOf routers) id fun tables =>
    proceed (.query (.findAll Kind.routes)) .bean fun beans =>
      .done (.ok (joinTables (tables++beans.map (·.value))))

def buildChain (security : Option (Access.Settings (catalog own α) (World α))) :
    Program own α (Except StartupError (Option Access.Chain)) :=
  match security with
  | none => .done (.ok none)
  | some settings => proceed settings.chain .security fun chain => .done (.ok (some chain))

def Plan.start (plan : Plan own α) : Program own α (Except StartupError (Realized own α)) :=
  proceed (.query .createAll) .bean fun _ =>
    proceed (.query (.publish Event.refreshed)) .event fun _ =>
      proceed (buildTable plan.server.routers) id fun table =>
        proceed (buildChain plan.server.security) id fun chain =>
          proceed (.query (.publish Event.started)) .event fun _ =>
            .done (.ok ⟨plan, table, chain⟩)

namespace Realized

def bindAddress (r : Realized own α) : String := s!"{r.plan.server.host}:{r.plan.port}"

def service (r : Realized own α) : Except StartupError (Server.Service (World α)) :=
  match Server.Service.assemble? r.plan.server r.table r.chain with
  | some service => .ok service
  | none => .error .unsoundPolicy

end Realized

abbrev State (own : Bean.Catalog) (α : Type) := Bean.State (catalog own α) (World α)

def Spec.realize (spec : Spec own α) (profiles : Profiles) (environment : Property.Source) :
    StateM (State own α) (Except StartupError (Realized own α)) := fun s =>
  match spec.plan profiles s.world.files environment with
  | .error e => (.error e, s)
  | .ok plan => plan.context.run plan.start s

end WebApplication.Application
