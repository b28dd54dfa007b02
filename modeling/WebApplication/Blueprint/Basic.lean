import WebApplication.Application.World
import WebApplication.Bean.Context
import WebApplication.Http.Reply

/-!
# Applications given as data

A blueprint describes beans, listeners and handlers by data instead of code. What
happens is written to a ledger.
-/

set_option autoImplicit false

namespace WebApplication.Blueprint

open Application (World)

/-- The log of what happened, the failures of each label, and how many beans were
completed. -/
structure Ledger where
  log : List String
  failures : SortedTable Nat
  completed : Nat
  deriving DecidableEq, Repr

def Ledger.start : Ledger := ⟨[], [], 0⟩

structure Part where
  label : String
  serial : Nat
  found : List Json.Value

inductive Kind where
  | part (typeName : String)
  | bound (typeName : String)
  | manager (typeName : String)
  deriving DecidableEq, Repr

def Kind.typeName : Kind → String
  | part name => name
  | bound name => name
  | manager name => name

/-- Events of a blueprint are known by their names. -/
abbrev ownCatalog : Bean.Catalog where
  Kind := Kind
  Event := String
  typeName := Kind.typeName
  eventName := id
  Instance
    | .part _ => Part
    | .bound _ => Schema.Datum
    | .manager _ => Access.Manager

abbrev State : Type := World Ledger

abbrev Beans : Bean.Catalog := Application.catalog ownCatalog Ledger

abbrev Program (β : Type) : Type := Bean.Program Beans State β

def log (line : String) : Program Unit :=
  .update (fun w => { w with own := { w.own with log := w.own.log++[line] } }) fun _ => .done ()

def manager (typeName : String) : Program (Except Bean.Error Access.Manager) :=
  .ask (.find (.of (Application.Kind.own (Kind.manager typeName)))) fun
    | .ok shared => .done (.ok shared.value)
    | .error e => .done (.error e)

def Part.toJson (p : Part) : Json.Value :=
  .sorted [("label", .string p.label), ("seq", .ofNat p.serial), ("deps", .array p.found)]

def displayOwn : (kind : Kind) → ownCatalog.Instance kind → Json.Value
  | .part _, (p : Part) => p.toJson
  | .bound _, (d : Schema.Datum) => d.toJson
  | .manager _, _ => .string "manager"

end WebApplication.Blueprint
