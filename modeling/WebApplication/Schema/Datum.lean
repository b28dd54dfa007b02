import WebApplication.Decimal.Shortest
import WebApplication.Json.Value

/-!
# Data read against a shape

What reading text, properties or JSON against a shape gives. A record lists its
fields in the order in which they are declared.
-/

set_option autoImplicit false

namespace WebApplication.Schema

inductive Datum where
  | unit
  | bool (value : Bool)
  | integer (value : Int)
  | single (bits : Nat)
  | double (bits : Nat)
  | text (value : String)
  | absent
  | list (items : List Datum)
  | table (entries : List (String × Datum))
  | record (fields : List (String × Datum))
  deriving Inhabited, Repr

namespace Datum

mutual

def same : Datum → Datum → Bool
  | .unit, .unit => true
  | .bool a, .bool b => a = b
  | .integer a, .integer b => a = b
  | .single a, .single b => a = b
  | .double a, .double b => a = b
  | .text a, .text b => a = b
  | .absent, .absent => true
  | .list as, .list bs => sameItems as bs
  | .table as, .table bs => sameFields as bs
  | .record as, .record bs => sameFields as bs
  | _, _ => false

def sameItems : List Datum → List Datum → Bool
  | [], [] => true
  | a::as, b::bs => same a b && sameItems as bs
  | _, _ => false

def sameFields : List (String × Datum) → List (String × Datum) → Bool
  | [], [] => true
  | (m, a)::as, (n, b)::bs => m = n && same a b && sameFields as bs
  | _, _ => false

end

mutual

theorem same_iff (a b : Datum) : same a b = true ↔ a = b := by
  cases a with
  | list as => cases b <;> simp [same, sameItems_iff as]
  | table as => cases b <;> simp [same, sameFields_iff as]
  | record as => cases b <;> simp [same, sameFields_iff as]
  | _ => cases b <;> simp [same]

theorem sameItems_iff (as bs : List Datum) : sameItems as bs = true ↔ as = bs := by
  cases as with
  | nil => cases bs <;> simp [sameItems]
  | cons a as => cases bs <;> simp [sameItems, same_iff a, sameItems_iff as]

theorem sameFields_iff (as bs : List (String × Datum)) :
    sameFields as bs = true ↔ as = bs := by
  cases as with
  | nil => cases bs <;> simp [sameFields]
  | cons field as =>
    obtain ⟨m, a⟩ := field
    cases bs <;> simp [sameFields, same_iff a, sameFields_iff as, Prod.ext_iff]

end

instance : DecidableEq Datum := fun a b => decidable_of_iff _ (same_iff a b)

mutual

/-- Floating point numbers are shown as text with all their digits. -/
def toJson : Datum → Json.Value
  | .unit => .null
  | .bool b => .bool b
  | .integer n => .ofInt n
  | .single bits => .string (Decimal.Layout.plain.write Decimal.single bits)
  | .double bits => .string (Decimal.Layout.plain.write Decimal.double bits)
  | .text s => .string s
  | .absent => .null
  | .list items => .array (itemsToJson items)
  | .table entries => .object (fieldsToJson entries)
  | .record fields => .object (fieldsToJson fields)

def itemsToJson : List Datum → List Json.Value
  | [] => []
  | d::ds => d.toJson::itemsToJson ds

def fieldsToJson : List (String × Datum) → Json.Members
  | [] => []
  | (name, d)::rest => (name, d.toJson)::fieldsToJson rest

end

end Datum

end WebApplication.Schema
