import WebApplication.Server.Service

/-!
# Services that write down which handlers are called

A watched service answers as the service does. Beside the state of the application it
keeps the calls of handlers: where in the table the entry stands, and the request that
its handler saw.
-/

set_option autoImplicit false

namespace WebApplication

open Http (Request Response)

variable {σ : Type}

structure Route.Call where
  position : Nat
  request : Request

namespace Route

def Handler.watched (position : Nat) (h : Handler σ) : Handler (σ × List Call) where
  identity := h.identity
  flavor := h.flavor
  respond request := fun (world, calls) =>
    let (response, after) := h.respond request world
    (response, after, calls++[⟨position, request⟩])

def Entry.watched (position : Nat) (e : Entry σ) : Entry (σ × List Call) :=
  ⟨e.method, e.pattern, e.handler.watched position⟩

def watchedFrom : Nat → List (Entry σ) → List (Entry (σ × List Call))
  | _, [] => []
  | position, e::es => e.watched position::watchedFrom (position+1) es

def Table.watched (t : Table σ) : Table (σ × List Call) := ⟨watchedFrom 0 t.entries⟩

def Match.watched (found : Match σ) : Match (σ × List Call) :=
  ⟨found.position, found.entry.watched found.position, found.params⟩

namespace Table

theorem firstMatch_watched (method : Http.Method) (path : String) (position : Nat)
    (entries : List (Entry σ)) :
    firstMatch method path position (watchedFrom position entries) =
      (firstMatch method path position entries).map Match.watched := by
  induction entries generalizing position with
  | nil => rfl
  | cons e es ih =>
    simp only [watchedFrom, firstMatch, Entry.watched]
    split
    · rfl
    · exact ih (position+1)

theorem find?_watched (t : Table σ) (method : Http.Method) (path : String) :
    t.watched.find? method path = (t.find? method path).map Match.watched := by
  simp only [find?, watched, firstMatch_watched]
  cases firstMatch method path 0 t.entries with
  | some found => rfl
  | none => by_cases hm : method = "HEAD" <;> simp [hm]

theorem position_of_firstMatch {method : Http.Method} {path : String} {position : Nat}
    {entries : List (Entry σ)} {found : Match σ}
    (h : firstMatch method path position entries = some found) :
    position ≤ found.position ∧ entries[found.position-position]? = some found.entry := by
  induction entries generalizing position with
  | nil => cases h
  | cons e es ih =>
    unfold firstMatch at h
    split at h
    · cases h
      simp
    · obtain ⟨hle, he⟩ := ih h
      refine ⟨by omega, ?_⟩
      rw [show found.position-position = found.position-(position+1)+1 by omega]
      exact he

theorem position_of_find? {t : Table σ} {method : Http.Method} {path : String}
    {found : Match σ} (h : t.find? method path = some found) :
    t.entries[found.position]? = some found.entry := by
  unfold find? at h
  split at h
  · rename_i hf
    cases h
    exact (position_of_firstMatch hf).2
  · split at h
    · exact (position_of_firstMatch h).2
    · cases h

end Table

end Route

namespace Server.Service

open Route (Call)

def watched (s : Service σ) : Service (σ × List Call) :=
  { s with table := s.table.watched }

def calls (s : Service σ) (fresh : Http.Bytes) (request : Request) (world : σ) : List Call :=
  (s.watched.handle fresh request (world, [])).2.2

end Server.Service

end WebApplication
