import WebApplication.Http.Address
import WebApplication.Http.Domain
import WebApplication.Http.Url.Escape

/-!
# Users, hosts and ports

An authority is a user before the last at sign, a host, and a port behind a colon. A
host of a usual scheme is a domain or an address, in its normal form; other hosts are
kept. A user whose name is text is not sent as a part of the URL.
-/

set_option autoImplicit false

namespace WebApplication.Http.Url

def usualPorts : List (String × Nat) :=
  [("http", 80), ("https", 443), ("ws", 80), ("wss", 443), ("ftp", 21)]

def fileScheme : String := "file"

def isUsual (scheme : String) : Bool :=
  scheme = fileScheme || (usualPorts.lookup scheme).isSome

def isSlash (usual : Bool) (c : Char) : Bool := c = '/' || (usual && c = '\\')

def endsAuthority (usual : Bool) (c : Char) : Bool := isSlash usual c || c = '?' || c = '#'

/-! ## Users -/

def cutUser (usual : Bool) (cs : List Char) : List Char × List Char :=
  let authority := cs.takeWhile fun c => !endsAuthority usual c
  let after := authority.reverse.takeWhile (· ≠ '@')
  if after.length = authority.length then ([], cs)
  else (authority.take (authority.length-after.length-1), cs.drop (authority.length-after.length))

/-- What stays of a user. A name that is text is taken out, together with its password, and
so is a password that is text without a name. -/
def keptUser (cs : List Char) : List Char :=
  let (name, password) := (Text.cut ':' cs).getD (cs, [])
  let password? := if password.isEmpty then none else unescapedText? password
  match unescapedText? name with
  | some text => if text = "" && password?.isNone then shown name password else []
  | none => shown name password
where
  shown (name password : List Char) : List Char :=
    if name.isEmpty && password.isEmpty then []
    else escape .user name++(if password.isEmpty then [] else ':'::escape .user password)++['@']

/-! ## Hosts -/

/-- Cuts before the colon of a port or the path. A colon in brackets does not count. -/
def cutHost (usual : Bool) : Bool → List Char → List Char × List Char
  | _, [] => ([], [])
  | inside, c::cs =>
    if endsAuthority usual c || (c = ':' && !inside) then ([], c::cs)
    else
      let inside := if c = '[' then true else if c = ']' then false else inside
      let (host, rest) := cutHost usual inside cs
      (c::host, rest)

def withoutLastDot (labels : List (List Char)) : List (List Char) :=
  if labels.getLast? == some [] then labels.dropLast else labels

/-- Whether a domain must be an address, since its last label is a number. -/
def endsInNumber (cs : List Char) : Bool :=
  match (withoutLastDot (Text.splitChars '.' cs)).getLast? with
  | none => false
  | some label =>
    (!label.isEmpty && label.all Char.isDigit) || (Address.number? label).isSome

def domain? (cs : List Char) : Option String := do
  let name ← Domain.toAscii? (← unescapedText? cs).toList
  if name.isEmpty then none
  else if endsInNumber name then
    let labels := withoutLastDot (Text.splitChars '.' name)
    (Address.dotted? (Text.joinChars '.' labels)).map Address.dottedText
  else some (String.ofList name)

def isForbiddenInHost (c : Char) : Bool := c.toNat = 0 || " \t\n\r#/:<>?@[\\]^|".toList.contains c

def host? (usual : Bool) (cs : List Char) : Option String :=
  match cs with
  | [] => none
  | '['::rest =>
    if rest.getLast? = some ']' then
      (Address.pieces? rest.dropLast).map fun pieces => "["++Address.piecesText pieces++"]"
    else none
  | _ =>
    if usual then domain? cs
    else if cs.any isForbiddenInHost then none
    else some (String.ofList (escape .host cs))

/-! ## Ports -/

def maxPort : Nat := 65535

def port? (usual : Bool) : List Char → Option (Option Nat × List Char)
  | ':'::cs =>
    let digits := cs.takeWhile Char.isDigit
    let rest := cs.dropWhile Char.isDigit
    if rest.head?.any fun c => !endsAuthority usual c && c != '\\' then none
    else match Property.digits? digits with
      | none => some (none, rest)
      | some n => if n ≤ maxPort then some (some n, rest) else none
  | cs => some (none, cs)

def authority? (scheme : String) (cs : List Char) : Option (String × List Char) := do
  let usual := isUsual scheme
  let (user, rest) := cutUser usual cs
  let (host, rest) := cutHost usual false rest
  let host ← host? usual host
  let (port, rest) ← port? usual rest
  let shown := match port with
    | some n => if usualPorts.lookup scheme = some n then host else s!"{host}:{n}"
    | none => host
  some (String.ofList (keptUser user)++shown, rest)

/-! ## Hosts of files -/

def isDriveLetter (cs : List Char) : Bool :=
  match cs with
  | [letter, mark] => letter.isAlpha && (mark = ':' || mark = '|')
  | _ => false

/-- Reads the host of a file, which has neither user nor port. A drive is no host, and
neither is this machine. -/
def fileHost? (cs : List Char) : Option (String × List Char) := do
  let host := cs.takeWhile fun c => !endsAuthority true c
  let name ← host? true host
  if isDriveLetter host || name = "localhost" then none
  else some (name, cs.drop host.length)

end WebApplication.Http.Url
