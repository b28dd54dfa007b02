import WebApplication.Route.Table

/-!
# Building route tables

A builder takes registrations one after another under the prefixes of the scopes it
is in. The first error stays, and nothing is registered after it.
-/

set_option autoImplicit false

namespace WebApplication.Route

inductive Item (σ : Type) where
  | add (method : Http.Method) (path : String) (handler : Handler σ)
  | embed (table : Table σ)
  | nest (base : String) (items : List (Item σ))

structure Builder (σ : Type) where
  base : String
  entries : List (Entry σ)
  error : Option Error

namespace Builder

variable {σ : Type}

def start : Builder σ := ⟨"", [], none⟩

def fail (b : Builder σ) (e : Error) : Builder σ := { b with error := some (b.error.getD e) }

def add (b : Builder σ) (method : Http.Method) (path : String) (handler : Handler σ) : Builder σ :=
  if b.error.isSome then b
  else if path = "" then b.fail .emptyPath
  else match Pattern.parse (b.base++path) with
    | .ok pattern => { b with entries := b.entries++[⟨method, pattern, handler⟩] }
    | .error e => b.fail e

def embed (b : Builder σ) (table : Table σ) : Builder σ :=
  if b.error.isSome then b
  else if b.base = "" then { b with entries := b.entries++table.entries }
  else match table.nest b.base with
    | .ok nested => { b with entries := b.entries++nested.entries }
    | .error e => b.fail e

mutual

def step (b : Builder σ) : Item σ → Builder σ
  | .add method path handler => b.add method path handler
  | .embed table => b.embed table
  | .nest base items =>
    if base = "" then b.fail .emptyPrefix
    else { run { b with base := b.base++base } items with base := b.base }

def run (b : Builder σ) : List (Item σ) → Builder σ
  | [] => b
  | item::items => run (step b item) items

end

def build (b : Builder σ) : Except Error (Table σ) :=
  match b.error with
  | some e => .error e
  | none => .ok ⟨b.entries⟩

end Builder

def Table.ofItems {σ : Type} (items : List (Item σ)) : Except Error (Table σ) :=
  (Builder.start.run items).build

end WebApplication.Route
