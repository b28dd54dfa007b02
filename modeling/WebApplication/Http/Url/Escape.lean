import WebApplication.Encoding.Hex
import WebApplication.Http.Message

/-!
# Percent signs

A byte that may not stand in a part of a URL is written as a percent sign and two
hexadecimal digits. Each part has characters of its own that must be written so.
-/

set_option autoImplicit false

namespace WebApplication.Http.Url

/-- Where in a URL a character stands. The query of a usual scheme has a rule of its own. -/
inductive Part where
  | user
  | host
  | path
  | query (usual : Bool)
  | fragment
  deriving DecidableEq, Repr

def Part.escaped : Part → String
  | user => " \"<>`#?\x7b\x7d/:;=@[\\]^|"
  | host => ""
  | path => " \"<>`#?\x7b\x7d"
  | query usual => if usual then " \"<>#'" else " \"<>#"
  | fragment => " \"<>`"

def Part.escapes (part : Part) (c : Char) : Bool :=
  c.toNat < 32 || 127 ≤ c.toNat || part.escaped.toList.contains c

def escapeByte (b : UInt8) : List Char :=
  ['%', (Encoding.hexDigit (b.toNat/16)).toUpper, (Encoding.hexDigit (b.toNat % 16)).toUpper]

def escape (part : Part) (cs : List Char) : List Char :=
  cs.flatMap fun c =>
    if part.escapes c then (bytesOf (String.singleton c)).flatMap escapeByte else [c]

/-- The bytes that a text stands for. A percent sign without two digits stands for itself. -/
def unescape : List Char → Bytes
  | [] => []
  | '%'::high::low::rest =>
    match Encoding.hexValue? high, Encoding.hexValue? low with
    | some h, some l => (h*16+l).toUInt8::unescape rest
    | _, _ => 37::unescape (high::low::rest)
  | c::rest => bytesOf (String.singleton c)++unescape rest

def unescapedText? (cs : List Char) : Option String := textOf? (unescape cs)

end WebApplication.Http.Url
