import WebApplication.Digest.Sha256
import WebApplication.Encoding.Hex
import WebApplication.SortedTable
import WebApplication.Text.Blank
import WebApplication.Text.Quoted
import WebApplication.Text.Split

/-!
# Stored passwords

An encoder writes passwords as they are stored, and accepts a password for what is stored. A
stored password is the password itself or its digest, or what an encoder of one's own makes of
it. A delegating encoder puts the name of a scheme in braces before it, so that schemes can stand
side by side.
-/

set_option autoImplicit false

namespace WebApplication.Access

structure Encoder where
  encode : String → String
  accepts : String → String → Bool
  describe : String

/-- Compares all bytes before it answers, whatever the first difference. -/
def constantTimeEq (a b : List UInt8) : Bool :=
  if a.length = b.length then
    (a.zip b).foldl (fun acc (x, y) => acc ||| (x ^^^ y)) (0 : UInt8) == 0
  else false

def sameText (a b : String) : Bool := constantTimeEq a.toUTF8.toList b.toUTF8.toList

def digestText (raw : String) : String := Encoding.hexLower (Digest.sha256 raw.toUTF8.toList)

def splitScheme (encoded : String) : Option (String × String) :=
  match encoded.toList with
  | '{'::rest => (Text.cut '}' rest).map fun (scheme, stored) =>
    (String.ofList scheme, String.ofList stored)
  | _ => none

def inBraces (scheme : String) : String := "\x7b"++scheme++"\x7d"

namespace Encoder

def plain : Encoder where
  encode raw := raw
  accepts raw encoded := sameText raw encoded
  describe := "NoOpPasswordEncoder"

def digest : Encoder where
  encode raw := digestText raw
  accepts raw encoded := sameText (digestText raw) (Text.trim encoded)
  describe := "Sha256PasswordEncoder"

/-- Encodes with the encoder of one scheme, and accepts what that of the scheme in braces does. -/
def delegating (scheme : String) (encoders : List (String × Encoder)) : Encoder where
  encode raw :=
    match encoders.lookup scheme with
    | some encoder => inBraces scheme++encoder.encode raw
    | none => inBraces "noop"++raw
  accepts raw encoded :=
    match splitScheme encoded with
    | some (found, stored) => (encoders.lookup found).any (·.accepts raw stored)
    | none => false
  describe :=
    "DelegatingPasswordEncoder \x7b encoding_id: "++Text.quoted scheme++", encoders: "++
      Text.quotedList (encoders.map Prod.fst)++" \x7d"

/-- The schemes of a delegating encoder by name; the last encoder of a name counts. -/
def delegate (scheme : String) (encoders : List (String × Encoder)) : Encoder :=
  delegating scheme (SortedTable.ofList encoders)

def default : Encoder := delegate "sha256" [("noop", plain), ("sha256", digest)]

end Encoder

end WebApplication.Access
