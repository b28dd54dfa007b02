import WebApplication.Blueprint.Basic
import WebApplication.Route.Builder

/-!
# Handlers given as data

A response is described by what it holds. A handler that reads bodies or renders
templates gets the codecs and the engine when its routes are declared.
-/

set_option autoImplicit false

namespace WebApplication.Blueprint

open Application (lookup)
open Http (Request Response Reply)
open Json (Value)

inductive Content where
  | none
  | text (body : String)
  | html (body : String)
  | json (value : Http.Encoded)
  | page (template : String) (model : Value)

inductive Reading where
  | text
  | json (status : Nat)
  | shaped (status : Nat) (shape : Schema.Shape)

inductive Answer where
  | plain (text : String)
  | status (code : Nat)
  /-- What the handler sees of the request, with some of its parameters. -/
  | echo (names : List String)
  | composed (status : Nat) (headers : List (String × String)) (content : Content)

structure Tools where
  codecs : Option Http.Codecs
  templates : Option Template.Settings

def Tools.none : Tools := ⟨.none, .none⟩

/-- An answer, or instead of it what was read if there are codecs to read with. -/
structure Script where
  reading : Option Reading
  answer : Answer

def echoValue (names : List String) (request : Request) : Value :=
  .sorted [("method", .string request.method), ("path", .string request.path),
    ("query", .ofOption request.query),
    ("params", .sorted (names.map fun name => (name, .ofOption (request.param? name)))),
    ("request_id", .ofOption request.id?),
    ("principal", .ofOption (request.authentication.map (·.principal))),
    ("roles", match request.authentication with
      | some a => .array (a.roles.map .string)
      | none => .null),
    ("accept", .ofOption (request.headers.text? "accept"))]

def Content.finish (tools : Tools) (reply : Reply) : Content → StateM State Response
  | none => return reply.build
  | text body => return reply.text body
  | html body => return reply.html body
  | json value => return reply.json value
  | page template model =>
    match tools.templates with
    | .none => return reply.text "no engine"
    | some settings => do
      return reply.page (← Application.renderTemplate settings template model)

def Answer.respond (tools : Tools) (request : Request) : Answer → StateM State Response
  | plain text => return Response.ofText 200 text
  | status code => return Response.ofStatus code
  | echo names => return Reply.ok.json (.ok (echoValue names request))
  | composed code headers content =>
    content.finish tools (headers.foldl (fun reply (name, value) => reply.header name value)
      (Reply.of code))

def orError (result : Except Http.CodecError Response) : Response :=
  match result with
  | .ok response => response
  | .error e => e.response

def Reading.respond (codecs : Http.Codecs) (request : Request) : Reading → Response
  | text => orError do .ok (Reply.ok.text (← codecs.readText request))
  | json status => orError do codecs.writeJson status (.ok (← codecs.readJson request))
  | shaped status shape => orError do
    codecs.writeJson status (.ok (← codecs.readShaped shape request).toJson)

def Script.respond (s : Script) (tools : Tools) (request : Request) : StateM State Response :=
  match s.reading, tools.codecs with
  | some reading, some codecs => return reading.respond codecs request
  | _, _ => s.answer.respond tools request

/-! ## Routes -/

inductive Item where
  | add (method path : String) (identity : Nat) (flavor : Route.Flavor) (script : Script)
  | embed (table : Route.Table State)
  | nest (base : String) (items : List Item)

def Script.suited (s : Script) : Route.Flavor → Script
  | .direct => { s with reading := none }
  | .deferred => s

mutual

def Item.route (tools : Tools) : Item → Route.Item State
  | .add method path identity flavor script =>
    .add method path ⟨identity, flavor, fun request => (script.suited flavor).respond tools request⟩
  | .embed table => .embed table
  | .nest base items => .nest base (routes tools items)

def routes (tools : Tools) : List Item → List (Route.Item State)
  | [] => []
  | item::items => item.route tools::routes tools items

end

inductive Need where
  | codecs
  | templates
  | other (kind : Beans.Kind)

def Need.take (tools : Tools) : Need → Program (Except Bean.Error Tools)
  | codecs => (lookup Application.Kind.codecs).bind fun
    | .ok found => .done (.ok { tools with codecs := some found })
    | .error e => .done (.error e)
  | templates => (lookup Application.Kind.templates).bind fun
    | .ok found => .done (.ok { tools with templates := some found })
    | .error e => .done (.error e)
  | other kind => (lookup kind).bind fun
    | .ok _ => .done (.ok tools)
    | .error e => .done (.error e)

def declareRoutes (items : List Item) (tools : Tools) :
    List Need → Program (Except Bean.Error (List (Route.Item State)))
  | [] => .done (.ok (routes tools items))
  | need::needs => (need.take tools).bind fun
    | .ok tools => declareRoutes items tools needs
    | .error e => .done (.error e)

end WebApplication.Blueprint
