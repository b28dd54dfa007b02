import WebApplication.Http.Message
import WebApplication.Json.Shaped

/-!
# Codecs for bodies

A server lists the codecs it has; an empty list stands for all. The content type of
a request, up to its first semicolon, decides which codec reads the body.
-/

set_option autoImplicit false

namespace WebApplication.Http

inductive Codec where
  | text
  | json
  deriving DecidableEq, Repr

inductive EncodeError where
  | keyNotText
  deriving DecidableEq, Repr

def EncodeError.message : EncodeError → String
  | keyNotText => "key must be a string"

abbrev Encoded := Except EncodeError Json.Value

inductive CodecError where
  | unsupported (contentType : String)
  | tooLong
  | malformed (fault : Json.Fault)
  | unencodable (cause : EncodeError)
  | notText

namespace CodecError

def message : CodecError → String
  | unsupported contentType => s!"no codec for content type `{contentType}`"
  | tooLong => "failed to read request body: length limit exceeded"
  | malformed fault => s!"invalid JSON: {fault.describe}"
  | unencodable cause => s!"invalid JSON: {cause.message}"
  | notText => "request body is not valid UTF-8"

def status : CodecError → Nat
  | unsupported _ => 415
  | _ => 400

def response (e : CodecError) : Response := Response.ofText e.status e.message

end CodecError

def essence (contentType : String) : List Char :=
  (Text.trimChars (contentType.toList.takeWhile (· ≠ ';'))).map Char.toLower

namespace Codec

def word : Codec → String
  | text => "string"
  | json => "json"

def title : Codec → String
  | text => "String"
  | json => "Json"

def mediaType : Codec → String
  | text => "text/plain"
  | json => "application/json"

def supports : Codec → String → Bool
  | text, contentType => "text/".toList.isPrefixOf (essence contentType)
  | json, contentType =>
    essence contentType == "application/json".toList ||
      "+json".toList.isSuffixOf (essence contentType)

end Codec

structure Codecs where
  kinds : List Codec
  maxBody : Nat
  deriving DecidableEq, Repr

/-- The content type of a request; one that is no readable text counts as empty. -/
def contentType (headers : Headers) : String := (headers.text? "content-type").getD ""

namespace Codecs

def enabled (c : Codecs) (kind : Codec) : Bool := c.kinds.isEmpty || c.kinds.contains kind

def supports (c : Codecs) (contentType : String) : Bool :=
  c.kinds.isEmpty || c.kinds.any (·.supports contentType)

/-- A request without a content type has no body to decode and is accepted. -/
def accepts (c : Codecs) (headers : Headers) : Bool :=
  match headers.text? "content-type" with
  | some contentType => c.supports contentType
  | none => true

def limitFor (c : Codecs) (request : Request) : Nat :=
  match request.bodyLimit with
  | some limit => min c.maxBody limit
  | none => c.maxBody

def body (c : Codecs) (kind : Codec) (request : Request) : Except CodecError Bytes :=
  let contentType := contentType request.headers
  if !(c.enabled kind && kind.supports contentType) then .error (.unsupported contentType)
  else if c.limitFor request < request.body.length then .error .tooLong
  else .ok request.body

def readJson (c : Codecs) (request : Request) : Except CodecError Json.Value := do
  match Json.parse (← c.body .json request) with
  | .ok value => .ok value
  | .error fault => .error (.malformed fault)

def readShaped (c : Codecs) (shape : Schema.Shape) (request : Request) :
    Except CodecError Schema.Datum := do
  match Json.parseShaped shape (← c.body .json request) with
  | .ok value => .ok value
  | .error fault => .error (.malformed fault)

def readText (c : Codecs) (request : Request) : Except CodecError String := do
  match textOf? (← c.body .text request) with
  | some text => .ok text
  | none => .error .notText

def writeJson (c : Codecs) (status : Nat) (value : Encoded) : Except CodecError Response :=
  if !c.enabled .json then .error (.unsupported "application/json")
  else match value with
    | .ok value =>
      .ok ⟨status, [("content-type", bytesOf "application/json")], bytesOf value.write⟩
    | .error cause => .error (.unencodable cause)

end Codecs

end WebApplication.Http
