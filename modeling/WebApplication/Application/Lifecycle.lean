import WebApplication.Application.Realization
import WebApplication.Http.Address

/-!
# The life of an application

An application is realized at most once, also if that fails. One that was realized
answers requests in process; one that runs is stopped at the end, which its listeners
are told.
-/

set_option autoImplicit false

namespace WebApplication.Application

variable {own : Bean.Catalog} {α : Type}

inductive Activity (own : Bean.Catalog) (α : Type) where
  | idle
  | ready (realized : Realized own α)
  | running (realized : Realized own α) (listening : Bool)

structure Live (own : Bean.Catalog) (α : Type) where
  spec : Spec own α
  attempted : Bool
  activity : Activity own α
  state : State own α

/-! ## Hosts -/

def isBareSign (part : List Char) : Bool := part.map Char.toLower = ['0', 'x']

/-- A four byte address that a listener can be bound to: any address, the machine itself, a
group, or all machines. -/
def isOwnValue (n : Nat) : Bool :=
  let first := n/0x1000000
  n = 0 || first = 127 || (224 ≤ first && first < 240) || n = 0xFFFFFFFF

def isOwnDotted (host : List Char) : Bool :=
  !(Text.splitChars '.' host).any isBareSign && (Http.Address.dotted? host).any isOwnValue

def isOwnPieces (pieces : List Nat) : Bool :=
  match pieces with
  | [0, 0, 0, 0, 0, 0, 0, last] => last ≤ 1
  | [0, 0, 0, 0, 0, 0xFFFF, high, low] => (high = 0 && low = 0) || high/256 = 127
  | _ => false

def withoutBrackets (host : List Char) : List Char :=
  if host.head? = some '[' && host.getLast? = some ']' then (host.drop 1).dropLast else host

def isOwnHost (host : String) : Bool :=
  Text.lowerAscii host = "localhost" || isOwnDotted host.toList ||
    (Http.Address.pieces? (withoutBrackets host.toList)).any isOwnPieces

namespace Live

def start (spec : Spec own α) (world : World α) : Live own α :=
  ⟨spec, false, .idle, Bean.State.start world⟩

def context? (app : Live own α) : Option (Bean.Context (catalog own α) (World α)) :=
  match app.activity with
  | .idle => none
  | .ready r => some r.plan.context
  | .running r _ => some r.plan.context

def ask {β : Type} (app : Live own α) (p : Program own α β) : Option β × Live own α :=
  match app.context? with
  | none => (none, app)
  | some context =>
    let (result, state) := context.run p app.state
    (some result, { app with state })

def attempt (app : Live own α) (profiles : Profiles) (environment : Property.Source) :
    Except StartupError (Realized own α) × Live own α :=
  if app.attempted then (.error .alreadyRealized, app)
  else
    let (result, state) := app.spec.realize profiles environment app.state
    (result, { app with attempted := true, state })

def realize (app : Live own α) (profiles : Profiles) (environment : Property.Source) :
    Except StartupError (Realized own α) × Live own α :=
  match app.attempt profiles environment with
  | (.ok r, app) => (.ok r, { app with activity := .ready r })
  | (.error e, app) => (.error e, app)

def listen (mode : Mode) (r : Realized own α) : Except StartupError Bool :=
  match mode with
  | .none => .ok false
  | .reactive =>
    if isOwnHost r.plan.server.host then r.service.map fun _ => true
    else .error (.bind r.bindAddress)

def run (app : Live own α) (profiles : Profiles) (environment : Property.Source) :
    Except StartupError (Realized own α × Bool) × Live own α :=
  match app.attempt profiles environment with
  | (.error e, app) => (.error e, app)
  | (.ok r, app) =>
    match listen app.spec.mode r with
    | .error e => (.error e, app)
    | .ok listening => (.ok (r, listening), { app with activity := .running r listening })

def stop (app : Live own α) : Option (Except Bean.EventError Nat) × Live own α :=
  match app.activity with
  | .running r _ =>
    let (result, state) := r.plan.context.run (.query (.publish Event.closed)) app.state
    (some result, { app with activity := .idle, state })
  | _ => (none, app)

def request (app : Live own α) (fresh : Http.Bytes) (request : Http.Request) :
    Except StartupError (Option Http.Response) × Live own α :=
  match app.activity with
  | .ready r =>
    match r.service with
    | .error e => (.error e, app)
    | .ok service =>
      let (response, world) := service.handle fresh request app.state.world
      (.ok (some response), { app with state := { app.state with world } })
  | _ => (.ok none, app)

end Live

/-! ## Declaring -/

inductive Declaration (own : Bean.Catalog) (α : Type) where
  | block (declaration : Configuration.Declaration (catalog own α) (World α))
  | property (key value : String)
  | file (path : String)
  | logging (change : Logging.Settings → Logging.Settings)

namespace Declaration

def blockPart : Declaration own α → Option (Configuration.Declaration (catalog own α) (World α))
  | block declaration => some declaration
  | _ => none

def apply (spec : Spec own α) : Declaration own α → Spec own α
  | block _ => spec
  | property key value => { spec with properties := spec.properties.set key value }
  | file path => { spec with files := spec.files++[path] }
  | logging change => { spec with logging := change spec.logging }

end Declaration

def Spec.ofDeclarations (mode : Mode) (declarations : List (Declaration own α)) :
    Except Configuration.Error (Spec own α) := do
  let root ← Configuration.Block.ofDeclarations "application"
    (declarations.filterMap Declaration.blockPart)
  .ok (declarations.foldl Declaration.apply
    ⟨mode, root, Logging.Settings.default, Property.Source.empty, []⟩)

def clientBean (settings : Http.ClientSettings) :
    Configuration.Declaration (catalog own α) (World α) :=
  .beans [.ready Kind.client (Http.Client.ofSettings settings)]

end WebApplication.Application
