import WebApplication.Access.Password
import WebApplication.Http.Message

/-!
# Users and authentication

A manager turns a name and a password into an authentication or refuses them. The
usual manager looks the user up and checks the password before anything else.
-/

set_option autoImplicit false

namespace WebApplication.Access

open Http (Authentication)

/-- The password is stored encoded. -/
structure User where
  name : String
  password : String
  roles : List String
  enabled : Bool
  deriving DecidableEq, Repr

def User.describe (u : User) : String :=
  "UserDetails \x7b username: "++Text.quoted u.name++", password: \"[redacted]\", roles: "++
    Text.quotedList u.roles++s!", enabled: {u.enabled} \x7d"

structure Users where
  byName : SortedTable User
  deriving DecidableEq, Repr

namespace Users

/-- Of users with one name the last counts. -/
def ofList (users : List User) : Users := ⟨SortedTable.ofList (users.map fun u => (u.name, u))⟩

def find? (users : Users) (name : String) : Option User := users.byName.lookup name

def size (users : Users) : Nat := users.byName.length

end Users

inductive Refusal where
  | badCredentials
  | disabled (name : String)
  deriving DecidableEq, Repr

def Refusal.message : Refusal → String
  | badCredentials => "bad credentials"
  | disabled name => s!"user `{name}` is disabled"

structure Manager where
  authenticate : String → String → Except Refusal Authentication

namespace Manager

def ofUsers (users : Users) (encoder : Encoder) : Manager where
  authenticate name password :=
    match users.find? name with
    | none => .error .badCredentials
    | some user =>
      if !encoder.accepts password user.password then .error .badCredentials
      else if !user.enabled then .error (.disabled user.name)
      else .ok ⟨user.name, user.roles⟩

def ofList (accepted : List (String × String × List String)) : Manager where
  authenticate name password :=
    match accepted.find? fun (n, p, _) => n = name && p = password with
    | some (n, _, roles) => .ok ⟨n, roles⟩
    | none => .error .badCredentials

end Manager

end WebApplication.Access
