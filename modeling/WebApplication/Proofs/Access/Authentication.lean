import WebApplication.Access.Chain

/-!
# Who is authenticated

A manager made of users accepts a name and a password exactly if the user of that name is
enabled and has that password. Chains with the same rules treat a request alike if their
managers accept the same of its credentials, whatever reasons they have for a refusal.
-/

set_option autoImplicit false

namespace WebApplication.Access

open Http (Authentication Headers Request)

variable {users a b : Users} {encoder : Encoder} {name password : String}

def Users.Proves (users : Users) (encoder : Encoder) (name password : String) (user : User) :
    Prop :=
  users.find? name = some user ∧ encoder.accepts password user.password = true ∧
    user.enabled = true

theorem authenticate_ok_iff {found : Authentication} :
    (Manager.ofUsers users encoder).authenticate name password = .ok found ↔
      ∃ user, users.Proves encoder name password user ∧ found = ⟨user.name, user.roles⟩ := by
  constructor
  · intro h
    cases hfind : users.find? name with
    | none => simp [Manager.ofUsers, hfind] at h
    | some user =>
      cases haccepts : encoder.accepts password user.password with
      | false => simp [Manager.ofUsers, hfind, haccepts] at h
      | true =>
        cases henabled : user.enabled with
        | false => simp [Manager.ofUsers, hfind, haccepts, henabled] at h
        | true =>
          simp only [Manager.ofUsers, hfind, haccepts, henabled] at h
          exact ⟨user, ⟨hfind, haccepts, henabled⟩, (Except.ok.inj h).symm⟩
  · rintro ⟨user, ⟨hfind, haccepts, henabled⟩, rfl⟩
    simp [Manager.ofUsers, hfind, haccepts, henabled]

/-- Two managers accept the same, or both refuse, for reasons that may differ. -/
inductive SameVerdict :
    Except Refusal Authentication → Except Refusal Authentication → Prop
  | refused (first second : Refusal) : SameVerdict (.error first) (.error second)
  | accepted (found : Authentication) : SameVerdict (.ok found) (.ok found)

theorem SameVerdict.of_ok_iff {x y : Except Refusal Authentication}
    (h : ∀ found, x = .ok found ↔ y = .ok found) : SameVerdict x y := by
  cases x with
  | ok found =>
    rw [(h found).mp rfl]
    exact .accepted found
  | error first =>
    cases y with
    | ok found => cases (h found).mpr rfl
    | error second => exact .refused first second

/-- Stores that agree on all other users accept the same, unless it is the password of an
enabled user in one of them. -/
theorem sameVerdict_of_others {name' : String}
    (hothers : ∀ other, other ≠ name' → b.find? other = a.find? other)
    (ha : ∀ user, name = name' → ¬a.Proves encoder name password user)
    (hb : ∀ user, name = name' → ¬b.Proves encoder name password user) :
    SameVerdict ((Manager.ofUsers a encoder).authenticate name password)
      ((Manager.ofUsers b encoder).authenticate name password) := by
  apply SameVerdict.of_ok_iff
  intro found
  rw [authenticate_ok_iff, authenticate_ok_iff]
  by_cases hname : name = name'
  · constructor
    · rintro ⟨user, h, -⟩
      exact absurd h (ha user hname)
    · rintro ⟨user, h, -⟩
      exact absurd h (hb user hname)
  · simp only [Users.Proves, hothers name hname]

theorem Chain.authorize_congr {c d : Chain} {request : Request} (hrules : d.rules = c.rules)
    (hchallenge : d.challenge = c.challenge)
    (hverdicts : ∀ name password, basicCredentials request.headers = some (name, password) →
      SameVerdict (c.manager.authenticate name password) (d.manager.authenticate name password)) :
    d.authorize request = c.authorize request := by
  have hrejects : d.unauthorized = c.unauthorized := by
    rw [Chain.unauthorized, Chain.unauthorized, hchallenge]
  have haccess : d.accessFor request.path = c.accessFor request.path := by
    rw [Chain.accessFor, Chain.accessFor, hrules]
  rw [Chain.authorize, Chain.authorize, haccess, hrejects]
  cases hcredentials : basicCredentials request.headers with
  | none => rfl
  | some pair =>
    obtain ⟨name, password⟩ := pair
    have hverdict := hverdicts name password hcredentials
    dsimp only
    generalize c.manager.authenticate name password = first at hverdict ⊢
    generalize d.manager.authenticate name password = second at hverdict ⊢
    -- no branch shows the reason of a refusal
    cases hverdict <;> rfl

/-- Where a role is required only those who have it pass. -/
theorem Chain.authorize_role_ok {c : Chain} {request passed : Request} {role : String}
    (hrole : c.accessFor request.path = .hasRole role) (h : c.authorize request = .ok passed) :
    ∃ name password found, basicCredentials request.headers = some (name, password) ∧
      c.manager.authenticate name password = .ok found ∧ role ∈ found.roles := by
  rw [Chain.authorize, hrole] at h
  dsimp only at h
  cases hcredentials : basicCredentials request.headers with
  | none =>
    rw [hcredentials] at h
    cases h
  | some pair =>
    obtain ⟨name, password⟩ := pair
    rw [hcredentials] at h
    dsimp only at h
    cases hfound : c.manager.authenticate name password with
    | error refusal =>
      rw [hfound] at h
      cases h
    | ok found =>
      rw [hfound] at h
      dsimp only at h
      refine ⟨name, password, found, rfl, hfound, ?_⟩
      by_cases hr : found.hasRole role = true
      · simpa [Authentication.hasRole] using hr
      · rw [if_neg hr] at h
        cases h

end WebApplication.Access
