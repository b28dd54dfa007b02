import WebApplication.Http.Url.Authority

/-!
# Paths of URLs

A path is a list of segments. A segment of one dot is left out, and one of two dots takes
the segment before it away, unless that names a drive.
-/

set_option autoImplicit false

namespace WebApplication.Http.Url

abbrev Segments := List (List Char)

def isDot (segment : List Char) : Bool :=
  [".", "%2e"].contains (String.ofList (segment.map Char.toLower))

def isTwoDots (segment : List Char) : Bool :=
  ["..", ".%2e", "%2e.", "%2e%2e"].contains (String.ofList (segment.map Char.toLower))

def namesDrive (segment : List Char) : Bool :=
  isDriveLetter (segment.take 2) && (segment.drop 2).head?.all (· = '\\')

def leave : Segments → Segments
  | [] => []
  | last::rest => if namesDrive last then last::rest else rest

/-- Follows dots; the segments reached are kept backwards. A dot at the end leaves an
empty segment. The path of a file may not begin with a drive. -/
def follow (file : Bool) : Segments → Segments → Option Segments
  | reached, [] => some reached.reverse
  | reached, segment::rest =>
    let ending : Segments := if rest.isEmpty then [[]] else []
    if isTwoDots segment then follow file (ending++leave reached) rest
    else if isDot segment then follow file (ending++reached) rest
    else if file && reached.isEmpty && isDriveLetter segment then none
    else follow file (segment::reached) rest

def pathText (segments : Segments) : String :=
  String.ofList ('/'::Text.joinChars '/' (segments.map (escape .path)))

/-- The normal form of a path. Only a scheme of its own may have an empty one; the path of
a file has one slash at its start. -/
def path? (scheme : String) (cs : List Char) : Option String :=
  let usual := isUsual scheme
  let file := scheme = fileScheme
  let cs := cs.map fun c => if isSlash usual c then '/' else c
  if cs.isEmpty && !usual then some ""
  else
    let cs := if cs.head? = some '/' then cs.drop 1 else cs
    (follow file [] (Text.splitChars '/' cs)).map fun segments =>
      pathText (if file then segments.dropWhile List.isEmpty else segments)

end WebApplication.Http.Url
