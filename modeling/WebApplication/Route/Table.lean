import WebApplication.Http.Message

/-!
# Route tables

A table is a list of entries, searched from the front. A `HEAD` request without an
entry of its own goes where a `GET` request goes.
-/

set_option autoImplicit false

namespace WebApplication.Route

open Http (Method Request Response)

inductive Flavor where
  | direct
  | deferred
  deriving DecidableEq, Repr

def Flavor.word : Flavor → String
  | direct => "direct"
  | deferred => "deferred"

/-- A handler answers a request and may change the state of the application. Two
handlers are the same if they have the same flavor and identity. -/
structure Handler (σ : Type) where
  identity : Nat
  flavor : Flavor
  respond : Request → StateM σ Response

namespace Handler

variable {σ : Type}

def same (a b : Handler σ) : Bool := a.flavor == b.flavor && a.identity == b.identity

def describe (h : Handler σ) : String :=
  match h.flavor with
  | .direct => "Handler::Direct"
  | .deferred => "Handler::Deferred"

end Handler

structure Entry (σ : Type) where
  method : Method
  pattern : Pattern
  handler : Handler σ

def Entry.same {σ : Type} (a b : Entry σ) : Bool :=
  a.method == b.method && a.pattern == b.pattern && a.handler.same b.handler

structure Table (σ : Type) where
  entries : List (Entry σ)

structure Match (σ : Type) where
  position : Nat
  entry : Entry σ
  params : Params

namespace Table

variable {σ : Type}

def empty : Table σ := ⟨[]⟩

def size (t : Table σ) : Nat := t.entries.length

/-- The first of the entries with this method whose pattern matches; positions are
counted from `position`. -/
def firstMatch (method : Method) (path : String) : Nat → List (Entry σ) → Option (Match σ)
  | _, [] => none
  | position, e::es =>
    match if e.method = method then e.pattern.matchPath path else none with
    | some params => some ⟨position, e, params⟩
    | none => firstMatch method path (position+1) es

def find? (t : Table σ) (method : Method) (path : String) : Option (Match σ) :=
  match firstMatch method path 0 t.entries with
  | some found => some found
  | none => if method = "HEAD" then firstMatch "GET" path 0 t.entries else none

def append (a b : Table σ) : Table σ := ⟨a.entries++b.entries⟩

def nestEntry (base : String) (e : Entry σ) : Except Error (Entry σ) := do
  .ok { e with pattern := ← Pattern.parse (base++e.pattern.text) }

def nest (t : Table σ) (base : String) : Except Error (Table σ) :=
  if base = "" then .error .emptyPrefix
  else do .ok ⟨← t.entries.mapM (nestEntry base)⟩

def sameEntries : List (Entry σ) → List (Entry σ) → Bool
  | [], [] => true
  | a::as, b::bs => a.same b && sameEntries as bs
  | _, _ => false

def same (a b : Table σ) : Bool := sameEntries a.entries b.entries

end Table

end WebApplication.Route
