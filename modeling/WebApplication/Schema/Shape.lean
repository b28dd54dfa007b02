import WebApplication.Schema.Datum
import WebApplication.Text.Quoted

/-!
# Shapes of typed data

A shape says what a value must look like and how a message names it. The same
shapes are read from properties, which are all text, and from JSON.
-/

set_option autoImplicit false

namespace WebApplication.Schema

structure IntegerType where
  bits : Nat
  signed : Bool
  deriving DecidableEq, Repr

namespace IntegerType

def least (t : IntegerType) : Int := if t.signed then -(Nat.pow 2 (t.bits-1) : Int) else 0

def greatest (t : IntegerType) : Int :=
  if t.signed then (Nat.pow 2 (t.bits-1) : Int)-1 else (Nat.pow 2 t.bits : Int)-1

def holds (t : IntegerType) (n : Int) : Bool := t.least ≤ n && n ≤ t.greatest

def name (t : IntegerType) : String := (if t.signed then "i" else "u")++toString t.bits

end IntegerType

inductive Alternative where
  | bare
  | wrapped
  | fielded
  deriving DecidableEq, Repr

/-- A member of a record is found under its name or under another accepted for it; one that is
missing takes its default, and one without a default must be there. -/
structure Member (σ : Type) where
  name : String
  others : List String
  shape : σ
  default : Option Datum

inductive Shape where
  | bool
  | integer (type : IntegerType)
  /-- Integers of 128 bits, which no reader supports. -/
  | wide
  | single
  | double
  | character
  | text
  | unit
  | marker (name : String)
  | optional (inner : Shape)
  | list (item : Shape)
  /-- A table from texts to values; integer keys are never read from texts. -/
  | table (integerKeys : Option IntegerType) (item : Shape)
  | tuple (items : List Shape)
  | choice (name : String) (alternatives : List (String × Alternative))
  | record (name : String) (strict : Bool) (fields : List (Member Shape))
  | wrapper (name : String) (inner : Shape)
  /-- Any text, or a tree of texts. -/
  | tree

def Shape.isOptional : Shape → Bool
  | .optional _ => true
  | _ => false

def Shape.expecting : Shape → String
  | .bool => "a boolean"
  | .integer t => t.name
  | .wide => "u128"
  | .single => "f32"
  | .double => "f64"
  | .character => "a character"
  | .text => "a string"
  | .unit => "unit"
  | .marker name => s!"unit struct {name}"
  | .optional _ => "option"
  | .list _ => "a sequence"
  | .table _ _ => "a map"
  | .tuple items => s!"a tuple of size {items.length}"
  | .choice name _ => s!"enum {name}"
  | .record name _ _ => s!"struct {name}"
  | .wrapper name _ => s!"tuple struct {name}"
  | .tree => "a string or a map"

def Member.required (name : String) (shape : Shape) : Member Shape := ⟨name, [], shape, none⟩

def Member.withDefault (name : String) (shape : Shape) (value : Datum) : Member Shape :=
  ⟨name, [], shape, some value⟩

def Member.whenMissing (f : Member Shape) : Option Datum :=
  match f.default with
  | some d => some d
  | none => if f.shape.isOptional then some .absent else none

def Member.accepts (f : Member Shape) (name : String) : Bool :=
  f.name == name || f.others.contains name

/-! ## Messages -/

def invalidType (found expected : String) : String := s!"invalid type: {found}, expected {expected}"

def invalidValue (found expected : String) : String :=
  s!"invalid value: {found}, expected {expected}"

def foundText (text : String) : String := s!"string {Text.quoted text}"

def missingField (name : String) : String := s!"missing field `{name}`"

def duplicateField (name : String) : String := s!"duplicate field `{name}`"

def oneOf (what : String) : List String → String
  | [] => s!"there are no {what}"
  | [a] => s!"expected `{a}`"
  | [a, b] => s!"expected `{a}` or `{b}`"
  | names => "expected one of "++", ".intercalate (names.map fun name => s!"`{name}`")

def unknownField (name : String) (known : List String) : String :=
  s!"unknown field `{name}`, "++oneOf "fields" known

def unknownVariant (name : String) (known : List String) : String :=
  s!"unknown variant `{name}`, "++oneOf "variants" known

def complete (fields : List (Member Shape)) (seen : List (String × Datum)) :
    Except String (List (String × Datum)) :=
  fields.mapM fun f =>
    match seen.lookup f.name with
    | some d => .ok (f.name, d)
    | none =>
      match f.whenMissing with
      | some d => .ok (f.name, d)
      | none => .error (missingField f.name)

def Alternative.refusal : Alternative → Option String
  | .bare => none
  | .wrapped => some (invalidType "unit variant" "newtype variant")
  | .fielded => some (invalidType "unit variant" "struct variant")

end WebApplication.Schema
