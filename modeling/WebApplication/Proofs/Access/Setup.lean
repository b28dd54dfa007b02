import WebApplication.Access.Chain
import WebApplication.Proofs.Bean.Stages

/-!
# Access rules that are set up

A chain asks the manager that was given, or one made of users and an encoder. The users and
the encoder are looked up only for that, the users first.
-/

set_option autoImplicit false

namespace WebApplication.Access.Settings

variable {C : Bean.Catalog} {σ : Type} {ctx : Bean.Context C σ} {settings : Settings C σ}
  {s later : Bean.State C σ}

/-- Settings give a chain, with the manager that was given if there is one, and otherwise
with the users and the encoder that were found. -/
inductive Guards (settings : Settings C σ) (ctx : Bean.Context C σ) (s : Bean.State C σ) :
    Option Manager → Users → Encoder → Chain → Bean.State C σ → Prop
  | given {binding : Binding C σ Manager} {manager : Manager} {later : Bean.State C σ}
      {rules : List (Route.Pattern × Requirement)} (users : Users) (encoder : Encoder)
      (hgiven : settings.manager = some binding)
      (hmanager : ctx.run binding.resolve s = (.ok manager, later))
      (hrules : settings.rules.mapM compileRule = .ok rules) :
      Guards settings ctx s (some manager) users encoder
        ⟨manager, rules, challenge settings.realm⟩ later
  | made {binding : Binding C σ Users} {users : Users} {encoder : Encoder}
      {middle later : Bean.State C σ} {rules : List (Route.Pattern × Requirement)}
      (hnone : settings.manager = none) (hstore : settings.users = some binding)
      (husers : ctx.run binding.resolve s = (.ok users, middle))
      (hencoder : ctx.run settings.resolveEncoder middle = (.ok encoder, later))
      (hrules : settings.rules.mapM compileRule = .ok rules) :
      Guards settings ctx s none users encoder
        ⟨Manager.ofUsers users encoder, rules, challenge settings.realm⟩ later

theorem Guards.parts {own : Option Manager} {users : Users} {encoder : Encoder} {c : Chain}
    (h : settings.Guards ctx s own users encoder c later) :
    c.manager = own.getD (Manager.ofUsers users encoder) ∧
      settings.rules.mapM compileRule = .ok c.rules ∧ c.challenge = challenge settings.realm := by
  cases h with
  | given users encoder hgiven hmanager hrules => exact ⟨rfl, hrules, rfl⟩
  | made hnone hstore husers hencoder hrules => exact ⟨rfl, hrules, rfl⟩

theorem run_resolved_ok_iff {β : Type} {collaborator : String} {binding : Binding C σ β} {b : β} :
    ctx.run (resolved collaborator binding) s = (.ok b, later) ↔
      ctx.run binding.resolve s = (.ok b, later) := by
  have hsame : resolved collaborator binding =
      binding.resolve.andThen (.lookup collaborator) fun value => .done (.ok value) :=
    Bean.Program.bind_eq_andThen (fun _ => rfl) fun _ => rfl
  rw [hsame, Bean.Context.run_andThen_ok_iff]
  constructor
  · rintro ⟨b, middle, hrun, h⟩
    cases h
    exact hrun
  · exact fun hrun => ⟨b, later, hrun, rfl⟩

theorem run_given_ok_iff {binding : Binding C σ Manager} (h : settings.manager = some binding)
    {manager : Manager} :
    ctx.run settings.resolveManager s = (.ok manager, later) ↔
      ctx.run binding.resolve s = (.ok manager, later) := by
  rw [resolveManager, h]
  exact run_resolved_ok_iff

/-- Otherwise the users are looked up and then the encoder. -/
theorem run_made_ok_iff {binding : Binding C σ Users} (hnone : settings.manager = none)
    (hstore : settings.users = some binding) {manager : Manager} :
    ctx.run settings.resolveManager s = (.ok manager, later) ↔
      ∃ users middle encoder, ctx.run binding.resolve s = (.ok users, middle) ∧
        ctx.run settings.resolveEncoder middle = (.ok encoder, later) ∧
        manager = Manager.ofUsers users encoder := by
  have hsame : settings.resolveManager =
      (resolved "user details service" binding).andThen id fun users =>
        settings.resolveEncoder.andThen id fun encoder =>
          .done (.ok (Manager.ofUsers users encoder)) := by
    rw [resolveManager, hnone, hstore]
    exact Bean.Program.bind_eq_andThen (fun _ => Bean.Program.bind_eq_andThen (fun _ => rfl) fun _ => rfl) fun _ => rfl
  rw [hsame, Bean.Context.run_andThen_ok_iff]
  constructor
  · rintro ⟨users, middle, husers, h⟩
    obtain ⟨encoder, last, hencoder, h⟩ := Bean.Context.run_andThen_ok_iff.mp h
    cases h
    exact ⟨users, middle, encoder, run_resolved_ok_iff.mp husers, hencoder, rfl⟩
  · rintro ⟨users, middle, encoder, husers, hencoder, rfl⟩
    exact ⟨users, middle, run_resolved_ok_iff.mpr husers,
      Bean.Context.run_andThen_ok_iff.mpr ⟨encoder, later, hencoder, rfl⟩⟩

theorem chainWith_ok_iff {manager : Manager} {c : Chain} :
    settings.chainWith manager = .ok c ↔
      ∃ rules, settings.rules.mapM compileRule = .ok rules ∧
        c = ⟨manager, rules, challenge settings.realm⟩ := by
  rw [chainWith]
  cases settings.rules.mapM compileRule with
  | error e => simp [bind, Except.bind]
  | ok rules => simp [bind, Except.bind, eq_comm]

theorem run_chain_ok_iff {c : Chain} :
    ctx.run settings.chain s = (.ok c, later) ↔
      ∃ own users encoder, settings.Guards ctx s own users encoder c later := by
  have hsame : settings.chain = settings.resolveManager.andThen id fun manager =>
      .done (settings.chainWith manager) := Bean.Program.bind_eq_andThen (fun _ => rfl) fun _ => rfl
  rw [hsame, Bean.Context.run_andThen_ok_iff]
  constructor
  · rintro ⟨manager, middle, hmanager, h⟩
    obtain ⟨hchain, rfl⟩ := Prod.mk.inj h
    obtain ⟨rules, hrules, rfl⟩ := chainWith_ok_iff.mp hchain
    cases hgiven : settings.manager with
    | some binding =>
      have hrun := (run_given_ok_iff hgiven).mp hmanager
      exact ⟨some manager, ⟨[]⟩, .plain, .given _ _ hgiven hrun hrules⟩
    | none =>
      cases hstore : settings.users with
      | none =>
        rw [resolveManager, hgiven, hstore] at hmanager
        cases hmanager
      | some binding =>
        obtain ⟨users, middle, encoder, husers, hencoder, rfl⟩ :=
          (run_made_ok_iff hgiven hstore).mp hmanager
        exact ⟨none, users, encoder, .made hgiven hstore husers hencoder hrules⟩
  · rintro ⟨own, users, encoder, h⟩
    cases h with
    | given users encoder hgiven hmanager hrules =>
      exact ⟨_, later, (run_given_ok_iff hgiven).mpr hmanager,
        congrArg (·, later) (chainWith_ok_iff.mpr ⟨_, hrules, rfl⟩)⟩
    | made hnone hstore husers hencoder hrules =>
      exact ⟨_, later, (run_made_ok_iff hnone hstore).mpr ⟨users, _, encoder, husers, hencoder, rfl⟩,
        congrArg (·, later) (chainWith_ok_iff.mpr ⟨_, hrules, rfl⟩)⟩

end WebApplication.Access.Settings
