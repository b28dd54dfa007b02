import WebApplication.SortedTable

/-!
# TOML values

A moment in time is kept as the text in which it is written back.
-/

set_option autoImplicit false

namespace WebApplication.Toml

inductive Value where
  | text (value : String)
  | integer (value : Int)
  | float (bits : Nat)
  | bool (value : Bool)
  | moment (value : String)
  | array (items : List Value)
  | table (entries : List (String × Value))
  deriving Inhabited, Repr

namespace Value

mutual

def same : Value → Value → Bool
  | .text a, .text b => a = b
  | .integer a, .integer b => a = b
  | .float a, .float b => a = b
  | .bool a, .bool b => a = b
  | .moment a, .moment b => a = b
  | .array as, .array bs => sameItems as bs
  | .table as, .table bs => sameEntries as bs
  | _, _ => false

def sameItems : List Value → List Value → Bool
  | [], [] => true
  | a::as, b::bs => same a b && sameItems as bs
  | _, _ => false

def sameEntries : List (String × Value) → List (String × Value) → Bool
  | [], [] => true
  | (m, a)::as, (n, b)::bs => m = n && same a b && sameEntries as bs
  | _, _ => false

end

mutual

theorem same_iff (a b : Value) : same a b = true ↔ a = b := by
  cases a with
  | array as => cases b <;> simp [same, sameItems_iff as]
  | table as => cases b <;> simp [same, sameEntries_iff as]
  | _ => cases b <;> simp [same]

theorem sameItems_iff (as bs : List Value) : sameItems as bs = true ↔ as = bs := by
  cases as with
  | nil => cases bs <;> simp [sameItems]
  | cons a as => cases bs <;> simp [sameItems, same_iff a, sameItems_iff as]

theorem sameEntries_iff (as bs : List (String × Value)) :
    sameEntries as bs = true ↔ as = bs := by
  cases as with
  | nil => cases bs <;> simp [sameEntries]
  | cons entry as =>
    obtain ⟨m, a⟩ := entry
    cases bs <;> simp [sameEntries, same_iff a, sameEntries_iff as, Prod.ext_iff]

end

instance : DecidableEq Value := fun a b => decidable_of_iff _ (same_iff a b)

end Value

abbrev Table := SortedTable Value

abbrev Reader (α : Type) := List Char → Option (α × List Char)

def isSpace (c : Char) : Bool := c = ' ' || c = '\t'

def skipSpaces (cs : List Char) : List Char := cs.dropWhile isSpace

def isContent (c : Char) : Bool := c = '\t' || (32 ≤ c.toNat && c.toNat ≠ 127)

def newline? : List Char → Option (List Char)
  | '\n'::cs => some cs
  | '\r' :: '\n' :: cs => some cs
  | _ => none

def skipComment : List Char → List Char
  | '#'::cs => cs.dropWhile isContent
  | cs => cs

/-- Skips blanks, line ends and comments. The steps are bounded by the length. -/
def skipLines : Nat → List Char → List Char
  | 0, cs => cs
  | steps+1, cs =>
    match skipSpaces cs with
    | '#'::rest => skipLines steps (rest.dropWhile isContent)
    | rest =>
      match newline? rest with
      | some after => skipLines steps after
      | none => rest

def skipBlankLines (cs : List Char) : List Char := skipLines (cs.length+1) cs

end WebApplication.Toml
