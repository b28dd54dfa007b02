import WebApplication.Route.Pattern
import WebApplication.Text.Blank

/-!
# Requests and responses

Names of headers are kept in lower case; a header may stand several times, and its
values are bytes. A request also carries what matching and authentication found.
-/

set_option autoImplicit false

namespace WebApplication.Http

abbrev Bytes := List UInt8

def bytesOf (text : String) : Bytes := text.toUTF8.toList

def textOf? (bytes : Bytes) : Option String := String.fromUTF8? ⟨bytes.toArray⟩

/-- A method is its token, compared letter by letter. -/
abbrev Method := String

abbrev Headers := List (String × Bytes)

namespace Headers

def get? (headers : Headers) (name : String) : Option Bytes := headers.lookup name

def isVisible (byte : UInt8) : Bool := (32 ≤ byte && byte < 127) || byte == 9

def text? (headers : Headers) (name : String) : Option String :=
  match headers.get? name with
  | some value => if value.all isVisible then textOf? value else none
  | none => none

def has (headers : Headers) (name : String) : Bool := (headers.get? name).isSome

def put (headers : Headers) (name : String) (value : Bytes) : Headers :=
  headers.filter (·.1 ≠ name)++[(name, value)]

/-- A byte that a value may hold: no control character but the tab. -/
def isValueByte (byte : UInt8) : Bool := (32 ≤ byte && byte != 127) || byte == 9

def value? (text : String) : Option Bytes :=
  let bytes := bytesOf text
  if bytes.all isValueByte then some bytes else none

def isTokenChar (c : Char) : Bool :=
  c.isAlphanum || "!#$%&'*+-.^_`|~".toList.contains c

def isToken (text : String) : Bool := text ≠ "" && text.toList.all isTokenChar

def longestName : Nat := 65535

def name? (text : String) : Option String :=
  if isToken text && text.length ≤ longestName then some (Text.lowerAscii text) else none

end Headers

structure Authentication where
  principal : String
  roles : List String
  deriving DecidableEq, Repr

def Authentication.hasRole (a : Authentication) (role : String) : Bool := a.roles.contains role

/-- `bodyLimit` is the most bytes that may still be read from the body, if there is a limit. -/
structure Request where
  method : Method
  path : String
  query : Option String
  headers : Headers
  body : Bytes
  bodyLimit : Option Nat
  params : Route.Params
  authentication : Option Authentication

/-! ## Targets -/

def isSchemeChar (c : Char) : Bool := c.isAlphanum || c = '+' || c = '-' || c = '.'

def afterScheme? (target : List Char) : Option (List Char) :=
  match target.dropWhile isSchemeChar with
  | ':' :: '/' :: '/' :: rest => some rest
  | _ => none

def splitQuery (cs : List Char) : String × Option String :=
  match Text.cut '?' cs with
  | some (path, query) => (String.ofList path, some (String.ofList query))
  | none => (String.ofList cs, none)

/-- The path and the query of a target. It may be a path, a star, an absolute address
with at least a slash as its path, or a host alone, which has no path. What follows a
hash sign does not count. -/
def splitTarget (target : String) : String × Option String :=
  let target := target.toList.takeWhile (· ≠ '#')
  if target.head? = some '/' || target = ['*'] then splitQuery target
  else match afterScheme? target with
    | none => ("", none)
    | some rest =>
      let (path, query) := splitQuery (rest.dropWhile fun c => c ≠ '/' && c ≠ '?')
      (if path = "" then "/" else path, query)

namespace Request

def ofParts (method target : String) (headers : Headers) (body : Bytes) : Request :=
  let (path, query) := splitTarget target
  ⟨method, path, query, headers, body, none, [], none⟩

def param? (request : Request) (name : String) : Option String := request.params.lookup name

def id? (request : Request) : Option String := request.headers.text? "x-request-id"

end Request

/-- The whole body is known when a response is given; bodies that are streamed are left out. -/
structure Response where
  status : Nat
  headers : Headers
  body : Bytes
  deriving DecidableEq, Repr

namespace Response

def plainText : String := "text/plain; charset=utf-8"

def ofStatus (status : Nat) : Response := ⟨status, [], []⟩

def ofText (status : Nat) (text : String) : Response :=
  ⟨status, [("content-type", bytesOf plainText)], bytesOf text⟩

def withHeader (response : Response) (name : String) (value : Bytes) : Response :=
  { response with headers := response.headers.put name value }

end Response

end WebApplication.Http
