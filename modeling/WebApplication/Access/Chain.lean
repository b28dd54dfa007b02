import WebApplication.Access.User
import WebApplication.Bean.Program
import WebApplication.Encoding.Base64

/-!
# The access rules of a server

The first rule whose pattern matches a path says what a request for it needs; a path
that no rule matches needs an authentication. Rejections do not tell why.
-/

set_option autoImplicit false

namespace WebApplication.Access

open Http (Authentication Headers Request Response)

inductive Requirement where
  | permitAll
  | authenticated
  | hasRole (role : String)
  deriving DecidableEq, Repr

def Requirement.describe : Requirement → String
  | permitAll => "PermitAll"
  | authenticated => "Authenticated"
  | hasRole role => "HasRole("++Text.quoted role++")"

structure Rule where
  pattern : String
  access : Requirement
  deriving DecidableEq, Repr

inductive Binding (C : Bean.Catalog) (σ α : Type) where
  | given (value : α)
  | bean (lookup : Bean.Program C σ (Except Bean.Error α))

namespace Binding

variable {C : Bean.Catalog} {σ α : Type}

def resolve : Binding C σ α → Bean.Program C σ (Except Bean.Error α)
  | given value => .done (.ok value)
  | bean lookup => lookup

def describe : Binding C σ α → String
  | given _ => "Instance"
  | bean _ => "Bean"

end Binding

structure Settings (C : Bean.Catalog) (σ : Type) where
  users : Option (Binding C σ Users)
  encoder : Option (Binding C σ Encoder)
  manager : Option (Binding C σ Manager)
  rules : List Rule
  realm : String

namespace Settings

variable {C : Bean.Catalog} {σ : Type}

def default (C : Bean.Catalog) (σ : Type) : Settings C σ := ⟨none, none, none, [], "webwire"⟩

def withUsers (s : Settings C σ) (users : Binding C σ Users) : Settings C σ :=
  { s with users := some users }

def withEncoder (s : Settings C σ) (encoder : Binding C σ Encoder) : Settings C σ :=
  { s with encoder := some encoder }

def withManager (s : Settings C σ) (manager : Binding C σ Manager) : Settings C σ :=
  { s with manager := some manager }

def withRule (s : Settings C σ) (pattern : String) (access : Requirement) : Settings C σ :=
  { s with rules := s.rules++[⟨pattern, access⟩] }

def withRealm (s : Settings C σ) (realm : String) : Settings C σ := { s with realm }

end Settings

inductive Error where
  | missingAuthentication
  | lookup (collaborator : String) (cause : Bean.Error)
  | invalidRule (pattern : String) (cause : Route.Error)
  deriving DecidableEq, Repr

def Error.message : Error → String
  | missingAuthentication =>
    "security requires an authentication manager or a user details service"
  | lookup collaborator cause => s!"failed to resolve {collaborator}: {cause.message}"
  | invalidRule pattern cause => s!"invalid authorization rule `{pattern}`: {cause.message}"

structure Chain where
  manager : Manager
  rules : List (Route.Pattern × Requirement)
  challenge : Http.Bytes

namespace Settings

variable {C : Bean.Catalog} {σ : Type}

def resolved {α : Type} (collaborator : String) (b : Binding C σ α) :
    Bean.Program C σ (Except Error α) := do
  match ← b.resolve with
  | .ok value => return .ok value
  | .error cause => return .error (.lookup collaborator cause)

def resolveEncoder (s : Settings C σ) : Bean.Program C σ (Except Error Encoder) :=
  match s.encoder with
  | some encoder => resolved "password encoder" encoder
  | none => return .ok Encoder.default

def resolveManager (s : Settings C σ) : Bean.Program C σ (Except Error Manager) :=
  match s.manager, s.users with
  | some manager, _ => resolved "authentication manager" manager
  | none, some users => do
    match ← resolved "user details service" users with
    | .error e => return .error e
    | .ok users =>
      match ← s.resolveEncoder with
      | .error e => return .error e
      | .ok encoder => return .ok (Manager.ofUsers users encoder)
  | none, none => return .error .missingAuthentication

def compileRule (rule : Rule) : Except Error (Route.Pattern × Requirement) :=
  match Route.Pattern.parse rule.pattern with
  | .ok pattern => .ok (pattern, rule.access)
  | .error cause => .error (.invalidRule rule.pattern cause)

/-- A realm that no header can hold is not announced. -/
def challenge (realm : String) : Http.Bytes :=
  (Headers.value? ("Basic realm=\""++realm++"\"")).getD (Http.bytesOf "Basic")

def chainWith (s : Settings C σ) (manager : Manager) : Except Error Chain := do
  .ok ⟨manager, ← s.rules.mapM compileRule, challenge s.realm⟩

def chain (s : Settings C σ) : Bean.Program C σ (Except Error Chain) := do
  match ← s.resolveManager with
  | .error e => return .error e
  | .ok manager => return s.chainWith manager

end Settings

def basicCredentials (headers : Headers) : Option (String × String) := do
  let value ← headers.text? "authorization"
  let (scheme, encoded) ← Text.cutAt ' ' value
  if Text.lowerAscii scheme = "basic" then
    let bytes ← Encoding.Base64.decode? (Text.trimChars encoded.toList)
    Text.cutAt ':' (← Http.textOf? bytes)
  else none

namespace Chain

def describe (c : Chain) : String := s!"SecurityFilterChain \x7b rules: {c.rules.length}, .. \x7d"

def ruleFor (path : String) : List (Route.Pattern × Requirement) → Requirement
  | [] => .authenticated
  | (pattern, access)::rules =>
    if (pattern.matchPath path).isSome then access else ruleFor path rules

def accessFor (c : Chain) (path : String) : Requirement := ruleFor path c.rules

def unauthorized (c : Chain) : Response :=
  (Response.ofText 401 "Unauthorized").withHeader "www-authenticate" c.challenge

def forbidden : Response := Response.ofText 403 "Forbidden"

def authorize (c : Chain) (request : Request) : Except Response Request :=
  match c.accessFor request.path with
  | .permitAll => .ok request
  | access =>
    match basicCredentials request.headers with
    | none => .error c.unauthorized
    | some (name, password) =>
      match c.manager.authenticate name password with
      | .error _ => .error c.unauthorized
      | .ok found =>
        match access with
        | .hasRole role =>
          if found.hasRole role then .ok { request with authentication := some found }
          else .error forbidden
        | _ => .ok { request with authentication := some found }

end Chain

end WebApplication.Access
