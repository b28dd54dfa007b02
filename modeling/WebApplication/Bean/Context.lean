import WebApplication.Bean.Registry

/-!
# The bean context

A context creates each bean when it is first looked up and keeps it. While a factory
runs its bean is being created, and a lookup that comes back to it is a cycle. A
failed creation leaves nothing behind, so the next lookup tries again.
-/

set_option autoImplicit false

namespace WebApplication.Bean

structure Listener (C : Catalog) (σ : Type) where
  event : C.Event
  action : Program C σ (Except Failure Unit)

structure Context (C : Catalog) (σ : Type) where
  registry : Registry C σ
  listeners : List (Listener C σ)
  profiles : Profiles
  properties : Property.Source

structure Stored (C : Catalog) where
  name : String
  kind : C.Kind
  value : C.Instance kind

/-- What changes: the instances in the order in which they were stored, the names of
the beans being created and the events being published, the outermost first, and the
state of the application. -/
structure State (C : Catalog) (σ : Type) where
  stored : List (Stored C)
  creating : List String
  publishing : List C.Event
  world : σ

abbrev Responder (C : Catalog) (σ : Type) := (q : Query C) → StateM (State C σ) (Answer C q)

def Program.run {C : Catalog} {σ α : Type} (respond : Responder C σ) :
    Program C σ α → StateM (State C σ) α
  | .done a, s => (a, s)
  | .ask q next, s =>
    let (answer, s) := respond q s
    run respond (next answer) s
  | .update change next, s => run respond (next s.world) { s with world := change s.world }

namespace State

variable {C : Catalog} {σ : Type}

def start (world : σ) : State C σ := ⟨[], [], [], world⟩

def find? (s : State C σ) (name : String) : Option (Shared (Stored C)) :=
  match s.stored.find? (·.name == name) with
  | some stored => some ⟨s.stored.findIdx (·.name == name), stored⟩
  | none => none

def store (s : State C σ) (stored : Stored C) : Shared (Stored C) × State C σ :=
  match s.find? stored.name with
  | some old => (old, s)
  | none => (⟨s.stored.length, stored⟩, { s with stored := s.stored++[stored] })

end State

namespace Context

variable {C : Catalog} {σ : Type}

def view (ctx : Context C σ) (s : State C σ) : View C :=
  ⟨ctx.registry.definitions.map fun d => (d.name, d.kind), s.stored.map Stored.name,
    ctx.listeners.length, ctx.profiles, ctx.properties⟩

/-- The error of a bean whose factory failed. An error of a lookup stays as it is. -/
def creationError (name : String) : Failure → Error
  | .lookup e => e
  | .own message => .creation name message

def create (inner : Responder C σ) (d : Definition C σ) :
    StateM (State C σ) (Except Error (Shared (Stored C))) := fun s =>
  let (result, s) := d.factory.run inner { s with creating := s.creating++[d.name] }
  let s := { s with creating := s.creating.filter (· ≠ d.name) }
  match result with
  | .error failure => (.error (creationError d.name failure), s)
  | .ok value =>
    let (stored, s) := s.store ⟨d.name, d.kind, value⟩
    (.ok stored, s)

/-- The instance of a name, created if need be. Without `inner` nothing may be created. -/
def obtain (ctx : Context C σ) (inner : Option (Responder C σ)) (name : String) :
    StateM (State C σ) (Except Error (Shared (Stored C))) := fun s =>
  match s.find? name with
  | some stored => (.ok stored, s)
  | none =>
    match ctx.registry.get? name with
    | none => (.error (.unresolved "<lookup>" name), s)
    | some d =>
      if name ∈ s.creating then (.error (.cyclic (Registry.cycleFrom s.creating name)), s)
      else match inner with
        | some inner => create inner d s
        | none => (.error (.cyclic (Registry.cycleFrom s.creating name)), s)

def cast (kind : C.Kind) (stored : Shared (Stored C)) :
    Except Error (Shared (C.Instance kind)) :=
  if h : stored.value.kind = kind then .ok ⟨stored.serial, h ▸ stored.value.value⟩
  else .error (.mismatch stored.value.name (C.typeName kind))

def obtainAs (ctx : Context C σ) (inner : Option (Responder C σ)) (kind : C.Kind)
    (name : String) : StateM (State C σ) (Except Error (Shared (C.Instance kind))) := fun s =>
  match ctx.obtain inner name s with
  | (.error e, s) => (.error e, s)
  | (.ok stored, s) => (cast kind stored, s)

def forNames {α : Type} (f : String → StateM (State C σ) (Except Error α)) :
    List String → StateM (State C σ) (Except Error (List α))
  | [], s => (.ok [], s)
  | name::names, s =>
    match f name s with
    | (.error e, s) => (.error e, s)
    | (.ok a, s) =>
      match forNames f names s with
      | (.error e, s) => (.error e, s)
      | (.ok rest, s) => (.ok (a::rest), s)

def notify (inner : Responder C σ) (event : C.Event) :
    Nat → List (Listener C σ) → StateM (State C σ) (Except EventError Nat)
  | index, [], s => (.ok index, s)
  | index, listener::rest, s =>
    match listener.action.run inner s with
    | (.error cause, s) => (.error ⟨C.eventName event, index, cause⟩, s)
    | (.ok (), s) => notify inner event (index+1) rest s

/-- The refusal of `publish`, which the program that is modelled does not have. -/
def alreadyPublishing (event : C.Event) : EventError :=
  ⟨C.eventName event, 0, .own "the event is already being published"⟩

/-- Publishes an event to its listeners in the order of registration. Publishing it again while
its own listeners run is refused, which departs from the program that is modelled: that one has no
such refusal, tells the listeners again, and does not end unless they stop by themselves. -/
def publish (ctx : Context C σ) (inner : Option (Responder C σ)) (event : C.Event) :
    StateM (State C σ) (Except EventError Nat) := fun s =>
  match ctx.listeners.filter (·.event = event), inner with
  | [], _ => (.ok 0, s)
  | listeners, some inner =>
    if event ∈ s.publishing then (.error (alreadyPublishing event), s)
    else
      let (result, s) := notify inner event 0 listeners
        { s with publishing := s.publishing++[event] }
      (result, { s with publishing := s.publishing.filter (· ≠ event) })
  | _, none => (.error (alreadyPublishing event), s)

def respond (ctx : Context C σ) (inner : Option (Responder C σ)) : Responder C σ
  | .find dependency, s =>
    match ctx.registry.resolve dependency "<lookup>" with
    | .error e => (.error e, s)
    | .ok d => ctx.obtainAs inner dependency.kind d.name s
  | .findAll kind, s =>
    forNames (ctx.obtainAs inner kind) ((ctx.registry.ofKind kind).map Definition.name) s
  | .createAll, s =>
    match ctx.registry.constructionOrder with
    | .error e => (.error e, s)
    | .ok order =>
      match forNames (ctx.obtain inner) order s with
      | (.error e, s) => (.error e, s)
      | (.ok _, s) => (.ok (), s)
  | .publish event, s => ctx.publish inner event s
  | .view, s => (ctx.view s, s)

/-- Answers questions with at most so many factories and publications one inside another. -/
def respondWithin (ctx : Context C σ) : Nat → Responder C σ
  | 0 => ctx.respond none
  | depth+1 => ctx.respond (some (respondWithin ctx depth))

/-- Beans being created differ and so do events being published, so nesting never gets
deeper than this. -/
def depth (ctx : Context C σ) : Nat := ctx.registry.size+ctx.listeners.length

def answer (ctx : Context C σ) : Responder C σ := ctx.respondWithin ctx.depth

def run {α : Type} (ctx : Context C σ) (p : Program C σ α) : StateM (State C σ) α :=
  p.run ctx.answer

end Context

end WebApplication.Bean
