import WebApplication.Access.Chain
import WebApplication.Http.Codec
import WebApplication.Http.Cors
import WebApplication.Profile
import WebApplication.Route.Builder
import WebApplication.Template.Engine

/-!
# Settings of a server

What a server block declares. Routes are declared by programs that run once all beans
are there, or as tables built before.
-/

set_option autoImplicit false

namespace WebApplication.Server

open Http (Codec)

variable {C : Bean.Catalog} {σ : Type}

inductive Registration (C : Bean.Catalog) (σ : Type) where
  | declared (flavor : Route.Flavor)
      (items : Bean.Program C σ (Except Bean.Error (List (Route.Item σ))))
  | table (table : Route.Table σ)

def Registration.describe : Registration C σ → String
  | .declared .direct _ => "Direct(..)"
  | .declared .deferred _ => "Deferred(..)"
  | .table t => s!"Table({t.size} routes)"

/-- The timeout is in seconds and the size of bodies in bytes. -/
structure Settings (C : Bean.Catalog) (σ : Type) where
  port : Profiled Nat
  host : String
  cors : List Http.Cors.Rule
  codecs : List Codec
  template : Option Template.Settings
  timeout : Nat
  maxBody : Nat
  routers : List (Registration C σ)
  security : Option (Access.Settings C σ)

namespace Settings

def default (C : Bean.Catalog) (σ : Type) : Settings C σ where
  port := Profiled.of 8080
  host := "0.0.0.0"
  cors := []
  codecs := []
  template := none
  timeout := 30
  maxBody := 2*1024*1024
  routers := []
  security := none

def withPort (s : Settings C σ) (port : Nat) : Settings C σ :=
  { s with port := s.port.setDefault port }

def withPortFor (s : Settings C σ) (profile : String) (port : Nat) : Settings C σ :=
  { s with port := s.port.override profile port }

def withHost (s : Settings C σ) (host : String) : Settings C σ := { s with host }

def withCors (s : Settings C σ) (rules : List Http.Cors.Rule) : Settings C σ :=
  { s with cors := s.cors++rules }

def withCodecs (s : Settings C σ) (codecs : List Codec) : Settings C σ :=
  { s with codecs := s.codecs++codecs }

/-- Selects the template engine; what was set for it before is kept. -/
def withTemplates (s : Settings C σ) (change : Template.Settings → Template.Settings) :
    Settings C σ :=
  { s with template := some (change (s.template.getD Template.Settings.default)) }

def withRoutes (s : Settings C σ) (routes : Registration C σ) : Settings C σ :=
  { s with routers := s.routers++[routes] }

def withSecurity (s : Settings C σ) (security : Access.Settings C σ) : Settings C σ :=
  { s with security := some security }

def withTimeout (s : Settings C σ) (seconds : Nat) : Settings C σ := { s with timeout := seconds }

def withMaxBody (s : Settings C σ) (bytes : Nat) : Settings C σ := { s with maxBody := bytes }

end Settings

/-! ## Problems -/

structure Problem where
  field : String
  message : String
  deriving DecidableEq, Repr

def Problem.describe (p : Problem) : String := p.field++": "++p.message

def problemsOfRule (index : Nat) (rule : Http.Cors.Rule) : List Problem :=
  (if Text.trim rule.origin = "" then [⟨s!"cors[{index}].origin", "must not be empty"⟩] else [])++
    if rule.methods.all Http.Headers.isToken then []
    else [⟨s!"cors[{index}].allowed_methods", "contains an invalid HTTP method"⟩]

def repeatedCodecs : List Codec → List Codec → List Problem
  | _, [] => []
  | seen, codec::codecs =>
    (if codec ∈ seen then [⟨"codecs", s!"{codec.title} codec registered more than once"⟩] else [])++
      repeatedCodecs (seen++[codec]) codecs

def problemsOfTemplates (s : Template.Settings) : List Problem :=
  (if s.before = "" then [⟨"template.prefix", "must not be empty"⟩] else [])++
    if s.after = "" then [⟨"template.suffix", "must not be empty"⟩] else []

def Settings.problems (s : Settings C σ) : List Problem :=
  (s.cors.mapIdx problemsOfRule).flatten++repeatedCodecs [] s.codecs++
    (if s.timeout = 0 then [⟨"request_timeout_secs", "must be greater than 0"⟩] else [])++
    (if s.maxBody = 0 then [⟨"max_body_size", "must be greater than 0"⟩] else [])++
    (s.template.map problemsOfTemplates).getD []

end WebApplication.Server
