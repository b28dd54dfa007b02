import WebApplication.Text.Blank
import WebApplication.Text.Quoted
import WebApplication.Text.Split

/-!
# Profiles

The active profiles are names in the order of activation, without repetition. A
setting may have other values under some profiles; of those whose profile is active
the one declared first wins.
-/

set_option autoImplicit false

namespace WebApplication

structure Profiles where
  active : List String
  deriving DecidableEq, Repr

namespace Profiles

def none : Profiles := ⟨[]⟩

def isSeparator (c : Char) : Bool := c = ',' || Text.isBlank c

def words : List Char → List (List Char)
  | [] => [[]]
  | c::cs =>
    if isSeparator c then []::words cs
    else match words cs with
      | [] => [[c]]
      | word::rest => (c::word)::rest

def activate (active : List String) (name : String) : List String :=
  if name = "" || active.contains name then active else active++[name]

def parse (spec : String) : Profiles :=
  ⟨((words spec.toList).map String.ofList).foldl activate []⟩

def contains (p : Profiles) (name : String) : Bool := p.active.contains name

def isEmpty (p : Profiles) : Bool := p.active.isEmpty

def text (p : Profiles) : String := ",".intercalate p.active

def describe (p : Profiles) : String :=
  "Profiles \x7b active: "++Text.quotedList p.active++" \x7d"

end Profiles

structure Profiled (α : Type) where
  default : α
  overrides : List (String × α)
  deriving DecidableEq, Repr

namespace Profiled

variable {α : Type}

def of (default : α) : Profiled α := ⟨default, []⟩

def override (p : Profiled α) (profile : String) (value : α) : Profiled α :=
  { p with overrides := p.overrides++[(profile, value)] }

def setDefault (p : Profiled α) (value : α) : Profiled α := { p with default := value }

def resolve (p : Profiled α) (profiles : Profiles) : α :=
  match p.overrides.find? fun (profile, _) => profiles.contains profile with
  | some (_, value) => value
  | none => p.default

end Profiled

end WebApplication
