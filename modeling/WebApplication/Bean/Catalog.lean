/-!
# Kinds of beans

A catalog lists the kinds of beans and of events an application knows. A lookup
names a kind, and with it the type of the instance it wants.
-/

set_option autoImplicit false

namespace WebApplication.Bean

structure Catalog where
  Kind : Type
  Event : Type
  [kindEq : DecidableEq Kind]
  [eventEq : DecidableEq Event]
  typeName : Kind → String
  eventName : Event → String
  Instance : Kind → Type

attribute [instance] Catalog.kindEq Catalog.eventEq

structure Dependency (C : Catalog) where
  kind : C.Kind
  name : Option String

namespace Dependency

variable {C : Catalog}

def of (kind : C.Kind) : Dependency C := ⟨kind, none⟩

def named (kind : C.Kind) (name : String) : Dependency C := ⟨kind, some name⟩

def describe (d : Dependency C) : String := d.name.getD (C.typeName d.kind)

end Dependency

inductive Error where
  | duplicate (name : String)
  | unresolved (bean dependency : String)
  | cyclic (chain : List String)
  | ambiguous (typeName : String) (candidates : List String)
  | mismatch (name expected : String)
  | creation (name reason : String)
  deriving DecidableEq, Repr

def Error.message : Error → String
  | duplicate name => s!"bean `{name}` is defined more than once"
  | unresolved bean dependency =>
    s!"bean `{bean}` depends on `{dependency}`, which is not defined"
  | cyclic chain => "cyclic bean dependency: "++" -> ".intercalate chain
  | ambiguous typeName candidates =>
    s!"expected a single bean of type `{typeName}` but found {candidates.length}: "++
      ", ".intercalate candidates
  | mismatch name expected => s!"bean `{name}` is not of type `{expected}`"
  | creation name reason => s!"failed to create bean `{name}`: {reason}"

/-- How a factory, a listener or a function that declares routes fails: with the error
of a lookup, or on its own. -/
inductive Failure where
  | lookup (error : Error)
  | own (message : String)
  deriving DecidableEq, Repr

def Failure.message : Failure → String
  | lookup e => e.message
  | own message => message

/-- A listener failed; listeners of an event are counted from zero. -/
structure EventError where
  event : String
  index : Nat
  cause : Failure
  deriving DecidableEq, Repr

def EventError.message (e : EventError) : String :=
  s!"listener #{e.index} for `{e.event}` failed: {e.cause.message}"

end WebApplication.Bean
