import WebApplication.Http.Codec
import WebApplication.Http.Url

/-!
# Clients

A client joins paths to its base URL and asks for the media types of its codecs. A
path with a scheme in it is taken as a whole URL.
-/

set_option autoImplicit false

namespace WebApplication.Http

structure ClientSettings where
  baseUrl : Option String
  codecs : List Codec
  timeout : Option Nat
  deriving DecidableEq, Repr

structure Client where
  baseUrl : Option String
  accept : Option String
  deriving DecidableEq, Repr

inductive Verb where
  | get
  | post
  | put
  | delete
  deriving DecidableEq, Repr

def Verb.method : Verb → Method
  | get => "GET"
  | post => "POST"
  | put => "PUT"
  | delete => "DELETE"

namespace Client

def ofSettings (s : ClientSettings) : Client where
  baseUrl := s.baseUrl.map (Text.dropEnd '/')
  accept := if s.codecs.isEmpty then none
    else some (", ".intercalate (s.codecs.map Codec.mediaType))

def url (c : Client) (path : String) : String :=
  match c.baseUrl with
  | some base => if Text.holds "://" path then path else base++path
  | none => path

def request? (c : Client) (verb : Verb) (path : String) : Option (Method × String) :=
  (Url.normalize? (c.url path)).map fun address => (verb.method, address)

end Client

end WebApplication.Http
