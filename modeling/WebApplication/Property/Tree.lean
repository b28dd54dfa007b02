import WebApplication.Property.Source

/-!
# The tree of properties under a prefix

Keys under a prefix are cut at their dots into paths, and the paths form a tree. A
value at a path gives way to values below that path.
-/

set_option autoImplicit false

namespace WebApplication.Property

inductive Tree where
  | leaf (value : String)
  | node (children : List (String × Tree))
  deriving Inhabited

namespace Tree

def empty : Tree := .node []

def children : Tree → SortedTable Tree
  | .leaf _ => []
  | .node children => children

/-- A value never replaces a subtree that has members. -/
def insert (tree : Tree) : List String → String → Tree
  | [], value =>
    match tree with
    | .node (child::rest) => .node (child::rest)
    | _ => .leaf value
  | segment::path, value =>
    .node (SortedTable.alter segment (fun old => insert (old.getD empty) path value)
      tree.children)

end Tree

def dropPrefix : List Char → List Char → Option (List Char)
  | [], rest => some rest
  | p::ps, c::cs => if p = c then dropPrefix ps cs else none
  | _::_, [] => none

namespace Source

def scopeOf (root : String) : String := normalize root++"."

/-- The entries in a scope with the rest of their keys. Keys are sorted, so the scan
starts at the first key not below the scope and stops at the first outside it. -/
def scan (scope : String) (values : SortedTable String) : List (String × String) :=
  ((values.dropWhile fun (key, _) => key < scope).map fun (key, value) =>
      (dropPrefix scope.toList key.toList, value)).takeWhile (fun (rest, _) => rest.isSome)
    |>.filterMap fun (rest, value) => rest.map fun cs => (String.ofList cs, value)

def entriesUnder (source : Source) (root : String) : List (String × String) :=
  scan (scopeOf root) source.values

def tree (source : Source) (root : String) : Tree :=
  (source.entriesUnder root).foldl
    (fun tree (rest, value) => tree.insert (Text.split '.' rest) value) Tree.empty

end Source

end WebApplication.Property
