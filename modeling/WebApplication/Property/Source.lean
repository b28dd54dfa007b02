import WebApplication.SortedTable
import WebApplication.Text.Blank
import WebApplication.Text.Split

/-!
# Property sources

A source maps dotted keys to text. Keys are compared without regard to letter case,
and `-` counts as `_`. An environment variable `CITY_NAME` is the key `city.name`.
-/

set_option autoImplicit false

namespace WebApplication.Property

def normalizeChars (key : List Char) : List Char :=
  (Text.trimChars key).map fun c => if c = '-' then '_' else c.toLower

def normalize (key : String) : String := String.ofList (normalizeChars key.toList)

structure Source where
  values : SortedTable String
  deriving DecidableEq, Repr

namespace Source

def empty : Source := ⟨[]⟩

def set (source : Source) (key value : String) : Source :=
  ⟨source.values.insert (normalize key) value⟩

def get? (source : Source) (key : String) : Option String := source.values.lookup (normalize key)

def size (source : Source) : Nat := source.values.length

def isEmpty (source : Source) : Bool := source.values.isEmpty

def extend (lower upper : Source) : Source := ⟨lower.values.overlay upper.values⟩

def isNameChar (c : Char) : Bool := c.isAlphanum || c = '_'

/-- The key of an environment variable: its words joined with dots. Other names than
those of letters, digits and `_` have none. -/
def keyOfVariable (name : String) : Option String :=
  if name.toList.all isNameChar then
    match (Text.split '_' name).filter (· ≠ "") with
    | [] => none
    | words => some (Text.join '.' words)
  else none

def ofEnvironment (environment : List (String × String)) : Source :=
  environment.foldl (fun source (name, value) =>
    match keyOfVariable name with
    | some key => source.set key value
    | none => source) empty

end Source

end WebApplication.Property
