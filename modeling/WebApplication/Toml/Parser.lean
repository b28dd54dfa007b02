import WebApplication.Toml.Document
import WebApplication.Toml.Scalar
import WebApplication.Toml.Sorted

/-!
# Reading TOML documents

A document is a list of lines: blank ones, keys with values, and table headers. The
readers that call each other take a bound on their steps, which the length of the
text gives.
-/

set_option autoImplicit false

namespace WebApplication.Toml

mutual

/-- Reads a value; `depth` counts the arrays and inline tables that may still open. -/
def value : Nat → Nat → Reader Value
  | 0, _, _ => none
  | steps+1, depth, cs =>
    match cs with
    | '['::rest => if depth ≤ 1 then none else arrayItems steps (depth-1) [] rest
    | '{'::rest => if depth ≤ 1 then none else inlineFirst steps (depth-1) rest
    | c::_ =>
      if c = '"' || c = '\'' then (string cs).map fun (s, rest) => (.text s, rest)
      else scalar cs
    | [] => none

def arrayItems : Nat → Nat → List Value → Reader Value
  | 0, _, _, _ => none
  | steps+1, depth, acc, cs =>
    match skipBlankLines cs with
    | ']'::rest => some (.array acc.reverse, rest)
    | cs => do
      let (v, rest) ← value steps depth cs
      match skipBlankLines rest with
      | ','::rest => arrayItems steps depth (v::acc) rest
      | ']'::rest => some (.array (v::acc).reverse, rest)
      | _ => none

def inlineFirst : Nat → Nat → Reader Value
  | 0, _, _ => none
  | steps+1, depth, cs =>
    match skipSpaces cs with
    | '}'::rest => some (.table [], rest)
    | cs => inlinePairs steps depth [] cs

/-- Reads the pairs of an inline table, which all stand on one line. -/
def inlinePairs : Nat → Nat → Items → Reader Value
  | 0, _, _, _ => none
  | steps+1, depth, items, cs => do
    let (keys, rest) ← dottedKey cs
    let rest ← mark '=' rest
    let (v, rest) ← value steps depth (skipSpaces rest)
    let key ← keys.getLast?
    let items ← Items.put key v .header keys.dropLast items
    match skipSpaces rest with
    | ','::rest => inlinePairs steps depth items rest
    | '}'::rest => some (.table (Items.itemsToEntries items), rest)
    | _ => none

end

def endOfLine (cs : List Char) : Option (List Char) :=
  match skipComment (skipSpaces cs) with
  | [] => some []
  | rest => newline? rest

def header (doc : Document) : List Char → Option (Document × List Char)
  | '[' :: '[' :: cs => do
    let (path, rest) ← dottedKey cs
    some (← doc.openRepeated path, ← mark ']' (← mark ']' rest))
  | '['::cs => do
    let (path, rest) ← dottedKey cs
    some (← doc.openTable path, ← mark ']' rest)
  | _ => none

def pair (doc : Document) (cs : List Char) : Option (Document × List Char) := do
  let (keys, rest) ← dottedKey cs
  let rest ← mark '=' rest
  let (v, rest) ← value (2*cs.length+8) depthLimit (skipSpaces rest)
  some (← doc.setKey keys.dropLast (← keys.getLast?) v, rest)

def lines : Nat → Document → List Char → Option Document
  | 0, _, _ => none
  | steps+1, doc, cs =>
    match skipSpaces cs with
    | [] => some doc
    | c::rest =>
      if c = '#' || c = '\n' || c = '\r' then do lines steps doc (← endOfLine (c::rest))
      else do
        let (doc, rest) ← if c = '[' then header doc (c::rest) else pair doc (c::rest)
        lines steps doc (← endOfLine rest)

def withoutMark : List Char → List Char
  | c::cs => if c.toNat = 0xFEFF then cs else c::cs
  | [] => []

def parse? (text : String) : Option Table := do
  let cs := withoutMark text.toList
  let doc ← lines (cs.length+1) Document.start cs
  Value.sortedEntries (Items.itemsToEntries (← doc.finish))

end WebApplication.Toml
