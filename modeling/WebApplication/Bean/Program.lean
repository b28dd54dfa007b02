import WebApplication.Bean.Catalog
import WebApplication.Profile
import WebApplication.Property.Source

/-!
# Programs on a context

Factories and listeners are programs: they ask the context questions one after
another, each chosen from the answers so far, and may change the state of the
application between them. Every program ends.
-/

set_option autoImplicit false

namespace WebApplication.Bean

/-- An instance in a context, with the number of instances stored before it. Two
lookups gave the same instance if their serial numbers agree. -/
structure Shared (α : Type) where
  serial : Nat
  value : α

structure View (C : Catalog) where
  beans : List (String × C.Kind)
  created : List String
  listeners : Nat
  profiles : Profiles
  properties : Property.Source

def View.describe {C : Catalog} (v : View C) : String :=
  s!"ApplicationContext \x7b beans: {v.beans.length}, created: {v.created.length}, profiles: "++
    v.profiles.describe++s!", listeners: {v.listeners} \x7d"

inductive Query (C : Catalog) where
  | find (dependency : Dependency C)
  | findAll (kind : C.Kind)
  | createAll
  | publish (event : C.Event)
  | view

def Answer (C : Catalog) : Query C → Type
  | .find dependency => Except Error (Shared (C.Instance dependency.kind))
  | .findAll kind => Except Error (List (Shared (C.Instance kind)))
  | .createAll => Except Error Unit
  | .publish _ => Except EventError Nat
  | .view => View C

inductive Program (C : Catalog) (σ α : Type) where
  | done (result : α)
  | ask (query : Query C) (next : Answer C query → Program C σ α)
  | update (change : σ → σ) (next : σ → Program C σ α)

namespace Program

variable {C : Catalog} {σ α β : Type}

def bind : Program C σ α → (α → Program C σ β) → Program C σ β
  | .done a, f => f a
  | .ask q next, f => .ask q fun answer => bind (next answer) f
  | .update change next, f => .update change fun old => bind (next old) f

instance : Monad (Program C σ) where
  pure := .done
  bind := bind

def query (q : Query C) : Program C σ (Answer C q) := .ask q .done

def find (dependency : Dependency C) : Program C σ (Except Error (C.Instance dependency.kind)) :=
  .ask (.find dependency) fun
    | .ok shared => .done (.ok shared.value)
    | .error e => .done (.error e)

end Program

end WebApplication.Bean
