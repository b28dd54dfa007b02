import WebApplication.Property.Scalar
import WebApplication.Property.Tree
import WebApplication.Schema.Shape

/-!
# Binding properties to a shape

All properties are text; the shape decides how a text is read. A list is a text with
commas or a node whose keys are indices. The message of a failure names what stood
there and what was wanted.
-/

set_option autoImplicit false

namespace WebApplication.Property

open Schema

def scalarName (t : IntegerType) : String :=
  if t.signed then "an integer" else "an unsigned integer"

def bindScalar (text expected : String) (value : Option Datum) : Except String Datum :=
  match value with
  | some d => .ok d
  | none => .error (invalidValue (foundText text) expected)

def integerOf (t : IntegerType) (cs : List Char) : Option Datum :=
  match integer? t.signed cs with
  | some n => if t.holds n then some (.integer n) else none
  | none => none

/-- The items of a text with commas; empty ones do not count. -/
def commaItems (text : String) : List String :=
  ((Text.split ',' text).map Text.trim).filter (· ≠ "")

def indexed (children : List (String × Tree)) : Except String (List Tree) := do
  let pairs ← children.mapM fun (key, child) =>
    match word? key with
    | some index => .ok (index, child)
    | none => .error (invalidValue (foundText key) "a list index")
  .ok ((pairs.mergeSort fun a b => a.1 ≤ b.1).map Prod.snd)

mutual

def dataOfTree : Tree → Datum
  | .leaf value => .text value
  | .node children => .table (dataOfChildren children)

def dataOfChildren : List (String × Tree) → List (String × Datum)
  | [] => []
  | (key, child)::rest => (key, dataOfTree child)::dataOfChildren rest

end

def bindText (shape : Shape) (text : String) : Except String Datum :=
  let cs := Text.trimChars text.toList
  match shape with
  | .bool =>
    bindScalar text "a boolean" (if cs = "true".toList then some (.bool true)
      else if cs = "false".toList then some (.bool false) else none)
  | .integer t => bindScalar text (scalarName t) (integerOf t cs)
  | .wide => .error "u128 is not supported"
  | .single => bindScalar text "a number" ((binary? Decimal.single cs).map .single)
  | .double => bindScalar text "a number" ((binary? Decimal.double cs).map .double)
  | .character =>
    bindScalar text "a single character"
      (match cs with | [c] => some (.text (String.singleton c)) | _ => none)
  | .text => .ok (.text text)
  | .unit => .ok .unit
  | .optional inner => if text = "" then .ok .absent else bindText inner text
  | .wrapper _ inner => bindText inner text
  | .list item => do .ok (.list (← (commaItems text).mapM fun t => bindText item t))
  | .choice _ alternatives =>
    let name := String.ofList cs
    match alternatives.lookup name with
    | some alternative =>
      match alternative.refusal with
      | none => .ok (.text name)
      | some message => .error message
    | none => .error (unknownVariant name (alternatives.map Prod.fst))
  | .tree => .ok (.text text)
  | other => .error (invalidType (foundText text) other.expecting)

mutual

def bindTree : Shape → Tree → Except String Datum
  | shape, .leaf text => bindText shape text
  | .optional inner, tree => bindTree inner tree
  | .wrapper _ inner, tree => bindTree inner tree
  | .wide, _ => .error "u128 is not supported"
  | .list item, .node children => do
    .ok (.list (← (← indexed children).mapM fun child => bindTree item child))
  | .table keys item, .node children => do
    .ok (.table (← children.mapM fun (key, child) =>
      match keys with
      | some t => .error (invalidType (foundText key) t.name)
      | none => do .ok (key, ← bindTree item child)))
  | .record _ strict fields, .node children => do
    let seen ← children.foldlM (fun seen (key, child) => bindMember strict
      (fields.map Member.name) fields seen key child) []
    .ok (.record (← complete fields seen))
  | .choice _ _, .node _ => .error (invalidType "map" "a unit variant")
  | .tree, tree => .ok (dataOfTree tree)
  | other, .node _ => .error (invalidType "map" other.expecting)

def bindMember (strict : Bool) (known : List String) : List (Member Shape) →
    List (String × Datum) → String → Tree → Except String (List (String × Datum))
  | [], seen, key, _ => if strict then .error (unknownField key known) else .ok seen
  | ⟨name, others, shape, _⟩::fields, seen, key, child =>
    if name == key || others.contains key then
      if (seen.lookup name).isSome then .error (duplicateField name)
      else do .ok ((name, ← bindTree shape child)::seen)
    else bindMember strict known fields seen key child

end

structure BindError where
  root : String
  reason : String
  deriving DecidableEq, Repr

def BindError.message (e : BindError) : String :=
  s!"failed to bind properties under `{e.root}`: {e.reason}"

def Source.bind (source : Source) (root : String) (shape : Shape) : Except BindError Datum :=
  match bindTree shape (source.tree root) with
  | .ok d => .ok d
  | .error reason => .error ⟨normalize root, reason⟩

end WebApplication.Property
