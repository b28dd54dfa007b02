import WebApplication.Http.Message

/-!
# Requests from other origins

Rules are declared for single origins, but a server has one policy, in which all of
them are joined. A preflight is any request with the method `OPTIONS`; the policy
answers it, and other requests are passed on and get their headers afterwards.
-/

set_option autoImplicit false

namespace WebApplication.Http.Cors

/-- An empty list of headers stands for any header. -/
structure Rule where
  origin : String
  methods : List String
  headers : List String
  credentials : Bool
  maxAge : Option Nat
  deriving DecidableEq, Repr

def Rule.ofOrigin (origin : String) : Rule := ⟨origin, ["GET", "HEAD", "POST"], [], false, none⟩

/-- Drops slashes at the end; without a scheme an origin is a secure one. -/
def normalizeOrigin (origin : String) : String :=
  let origin := Text.dropEnd '/' (Text.trim origin)
  if Text.holds "://" origin then origin else "https://"++origin

inductive Origins where
  | any
  | listed (values : List Bytes)
  deriving DecidableEq, Repr

inductive AllowedHeaders where
  | any
  /-- Whatever names the request asks for. -/
  | requested
  | listed (names : List String)
  deriving DecidableEq, Repr

structure Policy where
  origins : Origins
  methods : List Method
  headers : AllowedHeaders
  credentials : Bool
  maxAge : Option Nat
  deriving DecidableEq, Repr

namespace Policy

def addNew (values : List String) (value : String) : List String :=
  if values.contains value then values else values++[value]

def unionMethods (rules : List Rule) : List Method :=
  ((rules.flatMap Rule.methods).filter Headers.isToken).foldl addNew []

def unionHeaders (rules : List Rule) : List String :=
  ((rules.flatMap Rule.headers).filterMap Headers.name?).foldl addNew []

def unionOrigins (rules : List Rule) : List Bytes :=
  (rules.filter (·.origin ≠ "*")).filterMap fun rule => Headers.value? (normalizeOrigin rule.origin)

/-- The one policy of all rules. A wildcard origin takes the credentials away, and with
credentials any header means the headers of the request. -/
def ofRules (rules : List Rule) : Option Policy :=
  if rules.isEmpty then none
  else
    let anyOrigin := rules.any (·.origin == "*")
    let anyHeader := rules.any (·.headers.isEmpty)
    let credentials := !anyOrigin && rules.any (·.credentials)
    some {
      origins := if anyOrigin then .any else .listed (unionOrigins rules)
      methods := unionMethods rules
      headers := if !anyHeader then .listed (unionHeaders rules)
        else if credentials then .requested else .any
      credentials
      maxAge := (rules.filterMap Rule.maxAge).max? }

def joined (names : List String) : String := ",".intercalate names

def headersAreWildcard (p : Policy) : Bool :=
  match p.headers with
  | .any => true
  | .requested => false
  | .listed names => joined names == "*"

/-- A policy is refused if credentials meet a wildcard, whatever it stands in. -/
def isSound (p : Policy) : Bool :=
  !(p.credentials && (joined p.methods == "*" || p.headersAreWildcard || p.origins == .any))

def single (name : String) (value : Option Bytes) : Headers :=
  match value with
  | some value => [(name, value)]
  | none => []

def nonEmpty (text : String) : Option Bytes := if text = "" then none else some (bytesOf text)

def allowedOrigin (p : Policy) (request : Headers) : Option Bytes :=
  match p.origins with
  | .any => some (bytesOf "*")
  | .listed values => (request.get? "origin").filter values.contains

def allowedHeaders (p : Policy) (request : Headers) : Option Bytes :=
  match p.headers with
  | .any => some (bytesOf "*")
  | .requested => request.get? "access-control-request-headers"
  | .listed names => nonEmpty (joined names)

def vary : String := "origin, access-control-request-method, access-control-request-headers"

def commonHeaders (p : Policy) (request : Headers) : Headers :=
  single "access-control-allow-origin" (p.allowedOrigin request)++
    single "access-control-allow-credentials"
      (if p.credentials then some (bytesOf "true") else none)++
    [("vary", bytesOf vary)]

def preflightHeaders (p : Policy) (request : Headers) : Headers :=
  single "access-control-allow-methods" (nonEmpty (joined p.methods))++
    single "access-control-allow-headers" (p.allowedHeaders request)++
    single "access-control-max-age" (p.maxAge.map fun n => bytesOf (toString n))

def preflight (p : Policy) (request : Headers) : Response :=
  ⟨200, p.commonHeaders request++p.preflightHeaders request, []⟩

/-- Puts one header of the policy on a response. It replaces those of its name, but
what a response says about variation stays in front. -/
def place (headers : Headers) (header : String × Bytes) : Headers :=
  if header.1 = "vary" then headers++[header] else headers.put header.1 header.2

def decorate (p : Policy) (request : Headers) (response : Response) : Response :=
  { response with headers := (p.commonHeaders request).foldl place response.headers }

def around {m : Type → Type} [Monad m] (p : Policy) (inner : Request → m Response)
    (request : Request) : m Response :=
  if request.method = "OPTIONS" then pure (p.preflight request.headers)
  else do return p.decorate request.headers (← inner request)

end Policy

end WebApplication.Http.Cors
