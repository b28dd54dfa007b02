import WebApplication.Http.Url.Path

/-!
# Absolute URLs

The normal form in which a client sends a URL: scheme and host in lower case, the usual
port and the user left out, dots in the path followed, and bytes that may not stand
there written with percent signs.
-/

set_option autoImplicit false

namespace WebApplication.Http.Url

def scheme? (cs : List Char) : Option (String × List Char) := do
  let (name, rest) ← Text.cut ':' cs
  if name.all isSchemeChar && name.head?.any Char.isAlpha then
    some (Text.lowerAscii (String.ofList name), rest)
  else none

def isLineChar (c : Char) : Bool := c = '\t' || c = '\n' || c = '\r'

/-- Blanks around a URL and line ends anywhere do not count. -/
def clean (text : String) : List Char :=
  let cs := text.toList.dropWhile fun c => c.toNat ≤ 32
  ((cs.reverse.dropWhile fun c => c.toNat ≤ 32).reverse).filter fun c => !isLineChar c

def afterSlashes? (scheme : String) (cs : List Char) : Option (List Char) :=
  if (usualPorts.lookup scheme).isSome then some (cs.dropWhile (isSlash true))
  else match cs with
    | a::b::rest =>
      let usual := isUsual scheme
      if isSlash usual a && isSlash usual b then some rest else none
    | _ => none

def marked (mark : Char) (part : Part) : List Char → String
  | [] => ""
  | _::cs => String.ofList (mark::escape part cs)

def normalize? (text : String) : Option String := do
  let (scheme, rest) ← scheme? (clean text)
  let rest ← afterSlashes? scheme rest
  let (authority, rest) ← if scheme = fileScheme then fileHost? rest else authority? scheme rest
  let hierarchy := rest.takeWhile (· ≠ '#')
  let path ← path? scheme (hierarchy.takeWhile (· ≠ '?'))
  some (scheme++"://"++authority++path++
    marked '?' (.query (isUsual scheme)) (hierarchy.dropWhile (· ≠ '?'))++
    marked '#' .fragment (rest.dropWhile (· ≠ '#')))

end WebApplication.Http.Url
