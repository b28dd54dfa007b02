import WebApplication.Encoding.Punycode
import WebApplication.Http.Domain.Label

/-!
# Domains in ASCII

A domain is brought to its normal form and cut into labels at its dots. A label with
other characters than ASCII is written with ASCII letters and digits behind a mark,
and a label with that mark must be such a writing.
-/

set_option autoImplicit false

namespace WebApplication.Http.Domain

def labelMark : List Char := ['x', 'n', '-', '-']

def isReserved (c : Char) : Bool :=
  c.toNat ≤ 32 || c.toNat == 127 || "%#/:<>?@[\\]^|".toList.contains c

structure Label where
  codes : List Nat
  ascii : List Char

def label? (cs : List Char) : Option Label :=
  let codes := cs.map Char.toNat
  if labelMark.isPrefixOf cs then do
    let meant := (← Encoding.Punycode.decode? (cs.drop 4)).map Char.toNat
    if meant.any (128 ≤ ·) && isLabel meant && composed meant == meant then some ⟨meant, cs⟩
    else none
  else if cs.all Encoding.Punycode.isAscii then some ⟨codes, cs⟩
  else if isLabel codes then some ⟨codes, labelMark++Encoding.Punycode.encode cs⟩
  else none

def normal? (text : List Char) : Option (List Char) := do
  let codes := composed (← mapCodes (text.map Char.toNat))
  let cs := codes.map Char.ofNat
  if cs.any isReserved then none else some cs

def toAscii? (text : List Char) : Option (List Char) := do
  let labels ← (Text.splitChars '.' (← normal? text)).mapM label?
  let fits := !(labels.any fun label => hasRightToLeft label.codes) ||
    labels.all fun label => hasOneDirection label.codes
  if fits then some (Text.joinChars '.' (labels.map Label.ascii)) else none

end WebApplication.Http.Domain
