import WebApplication.Http.Codec

/-!
# Composing responses

A reply collects a status and headers, and a body ends it. Values that no header can
hold are left out. A body that cannot be made gives a plain response with status 500.
-/

set_option autoImplicit false

namespace WebApplication.Http

structure Reply where
  status : Nat
  headers : Headers
  deriving DecidableEq, Repr

namespace Reply

def of (status : Nat) : Reply := ⟨status, []⟩

def ok : Reply := of 200

def created : Reply := of 201

def noContent : Reply := of 204

def notFound : Reply := of 404

def header (r : Reply) (name value : String) : Reply :=
  match Headers.value? value with
  | some bytes => { r with headers := r.headers++[(name, bytes)] }
  | none => r

def contentType (r : Reply) (value : String) : Reply := r.header "content-type" value

def withBody (r : Reply) (body : Bytes) : Response := ⟨r.status, r.headers, body⟩

def build (r : Reply) : Response := r.withBody []

def text (r : Reply) (body : String) : Response :=
  (r.contentType Response.plainText).withBody (bytesOf body)

def html (r : Reply) (body : String) : Response :=
  (r.contentType "text/html; charset=utf-8").withBody (bytesOf body)

def failure (message : String) : Response := Response.ofText 500 message

def json (r : Reply) (value : Encoded) : Response :=
  match value with
  | .ok value => (r.contentType "application/json").withBody (bytesOf value.write)
  | .error _ => failure "Failed to encode response"

def page {ε : Type} (r : Reply) (rendered : Except ε String) : Response :=
  match rendered with
  | .ok text => r.html text
  | .error _ => failure "Failed to render template"

end Reply

end WebApplication.Http
