import WebApplication.Text.Split

/-!
# Path patterns

A pattern is a list of segments. A literal segment matches itself, a variable any one
non-empty segment, and a catch-all, which stands last, all that is left of the path.
A pattern that does not end with a slash also matches the path with one more slash.
-/

set_option autoImplicit false

namespace WebApplication.Route

inductive Segment where
  | literal (text : String)
  | var (name : String)
  | catchAll (name : String)
  deriving DecidableEq, Repr

inductive Error where
  | emptyPath
  | emptyPrefix
  | invalidPattern (pattern reason : String)
  | duplicateVariable (pattern name : String)
  deriving DecidableEq, Repr

namespace Error

def message : Error → String
  | emptyPath => "route path must not be empty"
  | emptyPrefix => "nest prefix must not be empty"
  | invalidPattern pattern reason => s!"invalid route pattern `{pattern}`: {reason}"
  | duplicateVariable pattern name => s!"path variable `{name}` appears twice in `{pattern}`"

end Error

namespace Segment

def text : Segment → String
  | literal s => s
  | var name => "\x7b"++name++"\x7d"
  | catchAll name => "\x7b*"++name++"\x7d"

def name? : Segment → Option String
  | literal _ => none
  | var name => some name
  | catchAll name => some name

def isBrace (c : Char) : Bool := c = '{' || c = '}'

def inner? : List Char → Option (List Char)
  | [] => none
  | c::cs =>
    if c = '{' then
      match cs.reverse with
      | d::ds => if d = '}' then some ds.reverse else none
      | [] => none
    else none

inductive Flaw where
  | malformed (part : String)
  | misplaced
  | unbalanced (part : String)
  deriving DecidableEq, Repr

def Flaw.reason : Flaw → String
  | malformed part => s!"malformed variable `{part}`"
  | misplaced => "catch-all variable must be the last segment"
  | unbalanced part => s!"unbalanced braces in `{part}`"

def isName (cs : List Char) : Bool := !cs.isEmpty && !cs.any fun c => isBrace c || c = '*'

/-- Reads one part of a pattern; only the last part may be a catch-all. -/
def parse (isLast : Bool) (part : String) : Except Flaw Segment :=
  match inner? part.toList with
  | none =>
    if part.toList.any isBrace then .error (.unbalanced part) else .ok (.literal part)
  | some ('*'::name) =>
    if !isName name then .error (.malformed part)
    else if isLast then .ok (.catchAll (String.ofList name))
    else .error .misplaced
  | some name =>
    if isName name then .ok (.var (String.ofList name)) else .error (.malformed part)

end Segment

abbrev Params := List (String × String)

structure Pattern where
  segments : List Segment
  deriving DecidableEq, Repr

namespace Pattern

def text (p : Pattern) : String := Text.join '/' (p.segments.map Segment.text)

def parseParts (whole : String) : List String → List String → Except Error (List Segment)
  | _, [] => .ok []
  | names, part::parts =>
    match Segment.parse parts.isEmpty part with
    | .error flaw => .error (.invalidPattern whole flaw.reason)
    | .ok segment =>
      match segment.name? with
      | none => do .ok (segment::(← parseParts whole names parts))
      | some name =>
        if names.contains name then .error (.duplicateVariable whole name)
        else do .ok (segment::(← parseParts whole (name::names) parts))

def parse (whole : String) : Except Error Pattern :=
  if whole = "" then .error .emptyPath
  else do .ok ⟨← parseParts whole [] (Text.split '/' whole)⟩

def matchParts : List Segment → List String → Option Params
  | [], [] => some []
  | [], _::_ => none
  | .catchAll name::_, parts => some [(name, Text.join '/' parts)]
  | .literal s::segments, part::parts =>
    if part = s then matchParts segments parts else none
  | .var name::segments, part::parts =>
    if part = "" then none else (matchParts segments parts).map ((name, part)::·)
  | .literal _::_, [] => none
  | .var _::_, [] => none

def endsWithSlash (p : Pattern) : Bool := p.segments.getLast? == some (.literal "")

def withoutSlash? (parts : List String) : Option (List String) :=
  if parts.getLast? = some "" && 2 < parts.length then some parts.dropLast else none

def matchPath (p : Pattern) (path : String) : Option Params :=
  let parts := Text.split '/' path
  match matchParts p.segments parts with
  | some params => some params
  | none =>
    if p.endsWithSlash then none else (withoutSlash? parts).bind (matchParts p.segments)

end Pattern

end WebApplication.Route
