import WebApplication.Access.Password
import WebApplication.Access.User
import WebApplication.Bean.Program
import WebApplication.Http.Client
import WebApplication.Route.Table
import WebApplication.Template.Engine

/-!
# What applications are made of

Besides its own beans and events an application has those of the library. Factories,
listeners and handlers share a world: the files, the templates read so far, and what
the application itself keeps.
-/

set_option autoImplicit false

namespace WebApplication.Application

structure World (α : Type) where
  files : Storage.Files
  templates : Template.Cache
  own : α

def World.start {α : Type} (files : Storage.Files) (own : α) : World α := ⟨files, [], own⟩

/-- The three encoders are beans of different types. -/
inductive EncoderKind where
  | plain
  | digest
  | delegating
  deriving DecidableEq, Repr

inductive Kind (K : Type) where
  | routes
  | codecs
  | templates
  | client
  | users
  | encoder (kind : EncoderKind)
  | own (kind : K)
  deriving DecidableEq

inductive Event (E : Type) where
  | refreshed
  | started
  | closed
  | own (event : E)
  deriving DecidableEq

def EncoderKind.typeName : EncoderKind → String
  | plain => "webwire::security::password::NoOpPasswordEncoder"
  | digest => "webwire::security::password::Sha256PasswordEncoder"
  | delegating => "webwire::security::password::DelegatingPasswordEncoder"

abbrev catalog (own : Bean.Catalog) (α : Type) : Bean.Catalog where
  Kind := Kind own.Kind
  Event := Event own.Event
  typeName
    | .routes => "webwire::routing::router::RouteTable"
    | .codecs => "webwire::http::codec::Codecs"
    | .templates => "webwire::http::template::TemplateEngine"
    | .client => "webwire::http::client::WebClient"
    | .users => "webwire::security::users::InMemoryUserDetailsService"
    | .encoder kind => kind.typeName
    | .own kind => own.typeName kind
  eventName
    | .refreshed => "webwire::context::events::ContextRefreshed"
    | .started => "webwire::context::events::ContextStarted"
    | .closed => "webwire::context::events::ContextClosed"
    | .own event => own.eventName event
  Instance
    | .routes => Route.Table (World α)
    | .codecs => Http.Codecs
    | .templates => Template.Settings
    | .client => Http.Client
    | .users => Access.Users
    | .encoder _ => Access.Encoder
    | .own kind => own.Instance kind

variable {own : Bean.Catalog} {α : Type}

def lookup (kind : (catalog own α).Kind) : Bean.Program (catalog own α) (World α)
    (Except Bean.Error ((catalog own α).Instance kind)) :=
  Bean.Program.find ⟨kind, none⟩

def renderTemplate (settings : Template.Settings) (name : String) (model : Json.Value) :
    StateM (World α) (Except Template.Error String) := fun w =>
  let (result, templates) := settings.render w.files name model w.templates
  (result, { w with templates })

end WebApplication.Application
