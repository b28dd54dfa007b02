import WebApplication.Bean.Program

/-!
# Bean definitions

Definitions are kept in the order of registration under names that differ. The order
of construction goes through them depth first: what a bean declares that it needs
comes before it, and otherwise the order of registration holds.
-/

set_option autoImplicit false

namespace WebApplication.Bean

structure Definition (C : Catalog) (σ : Type) where
  name : String
  kind : C.Kind
  dependencies : List (Dependency C)
  factory : Program C σ (Except Failure (C.Instance kind))

namespace Definition

variable {C : Catalog} {σ : Type}

def of (kind : C.Kind) (factory : Program C σ (Except Failure (C.Instance kind))) :
    Definition C σ :=
  ⟨C.typeName kind, kind, [], factory⟩

def ready (kind : C.Kind) (value : C.Instance kind) : Definition C σ := of kind (.done (.ok value))

def named (d : Definition C σ) (name : String) : Definition C σ := { d with name := name }

def needing (d : Definition C σ) (dependency : Dependency C) : Definition C σ :=
  { d with dependencies := d.dependencies++[dependency] }

end Definition

structure Registry (C : Catalog) (σ : Type) where
  definitions : List (Definition C σ)
  nodup : (definitions.map Definition.name).Nodup

def firstRepeated : List String → List String → Option String
  | _, [] => none
  | seen, name::names =>
    if name ∈ seen then some name else firstRepeated (name::seen) names

theorem nodup_of_firstRepeated {seen names : List String} (h : firstRepeated seen names = none) :
    names.Nodup ∧ ∀ name ∈ names, name ∉ seen := by
  induction names generalizing seen with
  | nil => simp
  | cons name names ih =>
    unfold firstRepeated at h
    split at h
    · simp at h
    · rename_i hn
      obtain ⟨hd, hs⟩ := ih h
      constructor
      · exact List.nodup_cons.mpr ⟨fun hm => hs name hm (by simp), hd⟩
      · intro x hx
        rcases List.mem_cons.mp hx with rfl | hx
        · exact hn
        · exact fun hm => hs x hx (by simp [hm])

namespace Registry

variable {C : Catalog} {σ : Type}

def ofList (definitions : List (Definition C σ)) : Except Error (Registry C σ) :=
  match h : firstRepeated [] (definitions.map Definition.name) with
  | some name => .error (.duplicate name)
  | none => .ok ⟨definitions, (nodup_of_firstRepeated h).1⟩

def names (r : Registry C σ) : List String := r.definitions.map Definition.name

def size (r : Registry C σ) : Nat := r.definitions.length

def get? (r : Registry C σ) (name : String) : Option (Definition C σ) :=
  r.definitions.find? (·.name == name)

def ofKind (r : Registry C σ) (kind : C.Kind) : List (Definition C σ) :=
  r.definitions.filter (·.kind = kind)

def resolve (r : Registry C σ) (dependency : Dependency C) (requester : String) :
    Except Error (Definition C σ) :=
  match dependency.name with
  | some name =>
    match r.get? name with
    | none => .error (.unresolved requester dependency.describe)
    | some d =>
      if d.kind = dependency.kind then .ok d
      else .error (.mismatch name (C.typeName dependency.kind))
  | none =>
    match r.ofKind dependency.kind with
    | [] => .error (.unresolved requester dependency.describe)
    | [d] => .ok d
    | ds => .error (.ambiguous (C.typeName dependency.kind) (ds.map Definition.name))

def cycleFrom (path : List String) (name : String) : List String :=
  path.dropWhile (· ≠ name)++[name]

/-- Puts a bean behind what it needs. The names on the way to it are in `path`, the
outermost first; as they differ, the depth never runs out before a cycle shows. -/
def visit (r : Registry C σ) (depth : Nat) (path : List String) (d : Definition C σ)
    (order : List String) : Except Error (List String) :=
  if d.name ∈ order then .ok order
  else if d.name ∈ path then .error (.cyclic (cycleFrom path d.name))
  else match depth with
    | 0 => .error (.cyclic (cycleFrom path d.name))
    | depth+1 => do
      let order ← d.dependencies.foldlM (fun order dependency => do
        visit r depth (path++[d.name]) (← r.resolve dependency d.name) order) order
      .ok (order++[d.name])

def constructionOrder (r : Registry C σ) : Except Error (List String) :=
  r.definitions.foldlM (fun order d => r.visit r.size [] d order) []

end Registry

end WebApplication.Bean
