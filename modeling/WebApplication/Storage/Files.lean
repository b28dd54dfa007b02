import WebApplication.SortedTable
import WebApplication.Text.Split

/-!
# Text files

A path is followed from the root if it starts with a slash, and else from the working directory.
Empty parts of a path and single dots do not count, and two dots go back to the folder above,
from a folder that exists. The root is above itself. Writing a file makes the folders above it,
and a folder stays when its last file is removed.
-/

set_option autoImplicit false

namespace WebApplication.Storage

/-- Files by the parts of their paths from the root. One that was removed, or that holds no text,
has no content. -/
structure Files where
  directory : List String
  entries : SortedTable (Option String)

namespace Files

def within (directory : List String) : Files := ⟨directory, []⟩

def empty : Files := within ["home"]

def isAbove (folder parts : List String) : Bool :=
  folder.isPrefixOf parts && folder.length < parts.length

def isFolder (files : Files) (folder : List String) : Bool :=
  folder.isPrefixOf files.directory ||
    files.entries.any fun entry => isAbove folder (Text.split '/' entry.1)

/-- Follows the parts of a path; the folder reached is kept backwards. -/
def resolve (files : Files) : List String → List String → Option (List String)
  | folder, [] => some folder.reverse
  | folder, part::parts =>
    if part = "" || part = "." then resolve files folder parts
    else if part = ".." then
      if files.isFolder folder.reverse then resolve files folder.tail parts else none
    else resolve files (part::folder) parts

/-- The key that a file is kept under; a path that ends like a folder names no file. -/
def key? (files : Files) (path : String) : Option String :=
  let parts := Text.split '/' path
  let start := if path.toList.head? = some '/' then [] else files.directory.reverse
  if path.toList.contains '\x00' || ["", ".", ".."].contains (parts.getLast?.getD "") then none
  else (files.resolve start parts).map (Text.join '/')

def content? (files : Files) (key : String) : Option String := (files.entries.lookup key).join

def hasRoom (files : Files) (key : String) : Bool :=
  !files.isFolder (Text.split '/' key) &&
    files.entries.all fun entry =>
      entry.2.isNone || !isAbove (Text.split '/' entry.1) (Text.split '/' key)

def put (files : Files) (key : String) (content : Option String) : Files :=
  { files with entries := files.entries.insert key content }

def write (files : Files) (path content : String) : Files :=
  match files.key? path with
  | some key => if files.hasRoom key then files.put key (some content) else files
  | none => files

def remove (files : Files) (path : String) : Files :=
  match files.key? path with
  | some key => if (files.content? key).isSome then files.put key none else files
  | none => files

def read? (files : Files) (path : String) : Option String := do
  files.content? (← files.key? path)

def ofList (entries : List (String × String)) : Files :=
  entries.foldl (fun files (path, content) => files.write path content) empty

end Files

end WebApplication.Storage
