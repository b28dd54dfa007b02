import WebApplication.Application.Realization
import WebApplication.Proofs.Access.Setup
import WebApplication.Proofs.Bean.Singletons
import WebApplication.Proofs.Bean.Stages
import WebApplication.Proofs.Route.Lookup

/-!
# Routes of a realized application

A realized application serves the tables of its registrations in the order of declaration,
and behind them the tables that are beans in the order of registration. A lookup goes
through all of them as one table, also when it looks for a way to answer `HEAD`.
-/

set_option autoImplicit false

namespace WebApplication.Application

open Route (First Table Untaken)

variable {own : Bean.Catalog} {α : Type}

/-! ## Programs that gave a value -/

section Steps

variable {β γ ε : Type} {ctx : Bean.Context (catalog own α) (World α)} {s later : State own α}

theorem run_proceed_ok_iff {p : Program own α (Except ε β)} {fail : ε → StartupError}
    {next : β → Program own α (Except StartupError γ)} {c : γ} :
    ctx.run (proceed p fail next) s = (.ok c, later) ↔
      ∃ b middle, ctx.run p s = (.ok b, middle) ∧ ctx.run (next b) middle = (.ok c, later) :=
  Bean.Context.run_andThen_ok_iff

theorem run_done_ok_iff {b c : β} :
    ctx.run (.done (.ok b) : Program own α (Except StartupError β)) s = (.ok c, later) ↔
      c = b ∧ later = s := by
  constructor
  · intro h
    cases h
    exact ⟨rfl, rfl⟩
  · rintro ⟨rfl, rfl⟩
    rfl

inductive Plan.Starts (plan : Plan own α) (s : State own α) : Realized own α → State own α → Prop
  | intro {created refreshed routed guarded later : State own α} {heard told : Nat}
      {table : Table (World α)} {chain : Option Access.Chain}
      (hcreated : plan.context.run (.query .createAll) s = (.ok (), created))
      (hrefreshed : plan.context.run (.query (.publish Event.refreshed)) created =
        (.ok heard, refreshed))
      (htable : plan.context.run (buildTable plan.server.routers) refreshed = (.ok table, routed))
      (hchain : plan.context.run (buildChain plan.server.security) routed = (.ok chain, guarded))
      (hstarted : plan.context.run (.query (.publish Event.started)) guarded = (.ok told, later)) :
      Starts plan s ⟨plan, table, chain⟩ later

theorem run_buildChain_ok {security : Option (Access.Settings (catalog own α) (World α))}
    {chain : Option Access.Chain} (h : ctx.run (buildChain security) s = (.ok chain, later)) :
    (security = none ∧ chain = none) ∨ ∃ settings c own users encoder, security = some settings ∧
      chain = some c ∧ settings.Guards ctx s own users encoder c later := by
  cases security with
  | none =>
    obtain ⟨rfl, -⟩ := run_done_ok_iff.mp h
    exact .inl ⟨rfl, rfl⟩
  | some settings =>
    obtain ⟨c, middle, hrun, h⟩ := run_proceed_ok_iff.mp h
    obtain ⟨rfl, rfl⟩ := run_done_ok_iff.mp h
    obtain ⟨own, users, encoder, hguards⟩ := Access.Settings.run_chain_ok_iff.mp hrun
    exact .inr ⟨settings, c, own, users, encoder, rfl, rfl, hguards⟩

theorem Plan.run_start_ok {plan : Plan own α} {r : Realized own α}
    (h : plan.context.run plan.start s = (.ok r, later)) : plan.Starts s r later := by
  obtain ⟨⟨⟩, created, hcreated, h⟩ := run_proceed_ok_iff.mp h
  obtain ⟨heard, refreshed, hrefreshed, h⟩ := run_proceed_ok_iff.mp h
  obtain ⟨table, routed, htable, h⟩ := run_proceed_ok_iff.mp h
  obtain ⟨chain, guarded, hchain, h⟩ := run_proceed_ok_iff.mp h
  obtain ⟨told, last, hstarted, h⟩ := run_proceed_ok_iff.mp h
  obtain ⟨rfl, rfl⟩ := run_done_ok_iff.mp h
  exact .intro hcreated hrefreshed htable hchain hstarted

theorem Spec.realize_ok {spec : Spec own α} {profiles : Profiles} {environment : Property.Source}
    {r : Realized own α} (h : spec.realize profiles environment s = (.ok r, later)) :
    spec.plan profiles s.world.files environment = .ok r.plan ∧ r.plan.Starts s r later := by
  rw [Spec.realize] at h
  cases hp : spec.plan profiles s.world.files environment with
  | error e =>
    rw [hp] at h
    cases h
  | ok plan =>
    rw [hp] at h
    have hstarts := Plan.run_start_ok h
    cases hstarts with
    | intro hcreated hrefreshed htable hchain hstarted =>
      exact ⟨rfl, .intro hcreated hrefreshed htable hchain hstarted⟩

end Steps

/-! ## Tables -/

section Tables

variable {ctx : Bean.Context (catalog own α) (World α)} {s later : State own α}

/-- A registration gives a table: the one it holds, or the one that is built from the items
that its program declares. -/
inductive Gives (ctx : Bean.Context (catalog own α) (World α)) :
    Server.Registration (catalog own α) (World α) → State own α → Table (World α) →
      State own α → Prop
  | table (table : Table (World α)) (s : State own α) : Gives ctx (.table table) s table s
  | declared {flavor : Route.Flavor}
      {program : Program own α (Except Bean.Error (List (Route.Item (World α))))}
      {items : List (Route.Item (World α))} {table : Table (World α)} {s later : State own α}
      (hrun : ctx.run program s = (.ok items, later)) (hbuild : Table.ofItems items = .ok table) :
      Gives ctx (.declared flavor program) s table later

inductive GiveAll (ctx : Bean.Context (catalog own α) (World α)) :
    List (Server.Registration (catalog own α) (World α)) → State own α → List (Table (World α)) →
      State own α → Prop
  | nil (s : State own α) : GiveAll ctx [] s [] s
  | cons {r : Server.Registration (catalog own α) (World α)}
      {rs : List (Server.Registration (catalog own α) (World α))} {table : Table (World α)}
      {tables : List (Table (World α))} {s middle later : State own α}
      (h : Gives ctx r s table middle) (hrest : GiveAll ctx rs middle tables later) :
      GiveAll ctx (r::rs) s (table::tables) later

theorem run_tableOf_ok_iff {r : Server.Registration (catalog own α) (World α)}
    {table : Table (World α)} :
    ctx.run (tableOf r) s = (.ok table, later) ↔ Gives ctx r s table later := by
  cases r with
  | table given =>
    rw [tableOf, run_done_ok_iff]
    constructor
    · rintro ⟨rfl, rfl⟩
      exact .table table later
    · intro h
      cases h
      exact ⟨rfl, rfl⟩
  | declared flavor program =>
    rw [tableOf, run_proceed_ok_iff]
    constructor
    · rintro ⟨items, middle, hrun, h⟩
      cases hbuild : Table.ofItems items with
      | error e =>
        rw [hbuild] at h
        cases h
      | ok built =>
        rw [hbuild] at h
        cases h
        exact .declared hrun hbuild
    · intro h
      cases h with
      | declared hrun hbuild =>
        refine ⟨_, later, hrun, ?_⟩
        rw [hbuild]
        rfl

theorem run_tablesOf_ok_iff {rs : List (Server.Registration (catalog own α) (World α))}
    {tables : List (Table (World α))} :
    ctx.run (tablesOf rs) s = (.ok tables, later) ↔ GiveAll ctx rs s tables later := by
  induction rs generalizing s tables with
  | nil =>
    rw [tablesOf, run_done_ok_iff]
    constructor
    · rintro ⟨rfl, rfl⟩
      exact .nil later
    · intro h
      cases h
      exact ⟨rfl, rfl⟩
  | cons r rs ih =>
    rw [tablesOf, run_proceed_ok_iff]
    constructor
    · rintro ⟨table, middle, hr, h⟩
      obtain ⟨rest, last, hrest, h⟩ := run_proceed_ok_iff.mp h
      obtain ⟨rfl, rfl⟩ := run_done_ok_iff.mp h
      exact .cons (run_tableOf_ok_iff.mp hr) (ih.mp hrest)
    · intro h
      cases h with
      | cons hr hrest =>
        refine ⟨_, _, run_tableOf_ok_iff.mpr hr, run_proceed_ok_iff.mpr ?_⟩
        exact ⟨_, later, ih.mpr hrest, rfl⟩

theorem entries_foldl_append (tables : List (Table (World α))) (first : Table (World α)) :
    (tables.foldl Table.append first).entries = first.entries++tables.flatMap Table.entries := by
  induction tables generalizing first with
  | nil => simp
  | cons table tables ih =>
    rw [List.foldl_cons, ih, List.flatMap_cons, ← List.append_assoc]
    rfl

theorem entries_joinTables (tables : List (Table (World α))) :
    (joinTables tables).entries = tables.flatMap Table.entries := by
  rw [joinTables, entries_foldl_append]
  rfl

theorem run_buildTable_ok {routers : List (Server.Registration (catalog own α) (World α))}
    {table : Table (World α)} (h : ctx.run (buildTable routers) s = (.ok table, later)) :
    ∃ declared middle beans, GiveAll ctx routers s declared middle ∧
      ctx.run (.query (.findAll Kind.routes)) middle = (.ok beans, later) ∧
      table.entries =
        declared.flatMap Table.entries++beans.flatMap fun bean => bean.value.entries := by
  obtain ⟨declared, middle, hdeclared, h⟩ := run_proceed_ok_iff.mp h
  obtain ⟨beans, last, hbeans, h⟩ := run_proceed_ok_iff.mp h
  obtain ⟨rfl, rfl⟩ := run_done_ok_iff.mp h
  refine ⟨declared, middle, beans, run_tablesOf_ok_iff.mp hdeclared, hbeans, ?_⟩
  rw [entries_joinTables, List.flatMap_append, List.flatMap_map]

theorem stored_run {β : Type} (ctx : Bean.Context (catalog own α) (World α))
    (p : Program own α β) (s : State own α) : s.stored <+: (ctx.run p s).2.stored :=
  Bean.Context.stored_of_explained (ctx.session_explained p s)

end Tables

/-! ## Lookups -/

section Lookups

variable {spec : Spec own α} {profiles : Profiles} {environment : Property.Source}
  {s later : State own α} {r : Realized own α}

/-- The tables whose entries a realized application serves, in their order. -/
structure Served (s : State own α) (r : Realized own α) (later : State own α)
    (declared beans : List (Table (World α))) : Prop where
  registered : ∃ created refreshed heard routed,
    r.plan.context.run (.query .createAll) s = (.ok (), created) ∧
    r.plan.context.run (.query (.publish Event.refreshed)) created = (.ok heard, refreshed) ∧
    GiveAll r.plan.context r.plan.server.routers refreshed declared routed
  stored : List.Forall₂ (fun name table => ∃ serial,
      Bean.Context.Holds (C := catalog own α) later Kind.routes name ⟨serial, table⟩)
    ((r.plan.context.registry.ofKind Kind.routes).map Bean.Definition.name) beans
  entries : r.table.entries = (declared++beans).flatMap Table.entries

theorem Plan.Starts.served {plan : Plan own α} (h : plan.Starts s r later) :
    ∃ declared beans, Served s r later declared beans := by
  cases h with
  | @intro created refreshed routed guarded _ heard told table chain
      hcreated hrefreshed htable hchain hstarted =>
    obtain ⟨declared, middle, beans, hdeclared, hbeans, hentries⟩ := run_buildTable_ok htable
    have hkept : routed.stored <+: later.stored := by
      have hguarded := stored_run plan.context (buildChain plan.server.security) routed
      have htold := stored_run plan.context (.query (.publish Event.started)) guarded
      rw [hchain] at hguarded
      rw [hstarted] at htold
      exact hguarded.trans htold
    have hheld := Bean.Context.findAll_holds hbeans
    refine ⟨declared, beans.map (·.value), ?_, ?_, ?_⟩
    · exact ⟨created, refreshed, heard, middle, hcreated, hrefreshed, hdeclared⟩
    · rw [List.forall₂_map_right_iff]
      exact hheld.imp fun name bean hb => ⟨bean.serial, hb.grow hkept⟩
    · rw [List.flatMap_append, List.flatMap_map]
      exact hentries

/-- A realized application serves the tables of its registrations in the order in which they
were declared, and then those of its beans in the order of registration. Of all their
entries the first that takes a request is found. For `HEAD` one that takes it as it is comes
before all others, and only without such an entry is found what `GET` finds. -/
theorem realized_lookups
    (h : spec.realize profiles environment s = (.ok r, later)) :
    spec.plan profiles s.world.files environment = .ok r.plan ∧
    ∃ declared beans, Served s r later declared beans ∧ ∀ path,
      (∀ method, method ≠ "HEAD" →
        (∀ found, r.table.find? method path = some found ↔
          First ((declared++beans).flatMap Table.entries) method path found) ∧
        (r.table.find? method path = none ↔
          Untaken ((declared++beans).flatMap Table.entries) method path)) ∧
      (∀ found, First ((declared++beans).flatMap Table.entries) "HEAD" path found →
        r.table.find? "HEAD" path = some found) ∧
      (Untaken ((declared++beans).flatMap Table.entries) "HEAD" path →
        r.table.find? "HEAD" path = r.table.find? "GET" path) := by
  obtain ⟨hplan, hstarts⟩ := Spec.realize_ok h
  obtain ⟨declared, beans, hserved⟩ := hstarts.served
  refine ⟨hplan, declared, beans, hserved, fun path => ?_⟩
  rw [← hserved.entries]
  refine ⟨fun method hm => ⟨fun found => Table.find?_eq_some_iff hm, Table.find?_eq_none_iff hm⟩,
    fun found => Table.find?_head_of_first, Table.find?_head_of_untaken⟩

end Lookups

def hall (identity : Nat) : Route.Handler (World Nat) :=
  ⟨identity, .direct, fun _ => return .ofStatus 200⟩

def galleryEntries : List (Route.Entry (World Nat)) :=
  [⟨"GET", ⟨[.literal "", .literal "hall"]⟩, hall 0⟩, ⟨"GET", ⟨[.literal "", .var "room"]⟩, hall 1⟩,
    ⟨"HEAD", ⟨[.literal "", .literal "hall"]⟩, hall 2⟩]

def gallery : Spec .plain Nat :=
  ⟨.none, ⟨"gallery", [.bean (.ready Kind.routes ⟨galleryEntries.drop 2⟩),
    .server ((Server.Settings.default _ _).withRoutes (.table ⟨galleryEntries.take 1⟩)
      |>.withRoutes (.declared .direct (.done (.ok [.add "GET" "/\x7broom\x7d" (hall 1)]))))]⟩,
    Logging.Settings.default, .empty, []⟩

theorem gallery_realized : ∃ r later,
    gallery.realize .none .empty (Bean.State.start (World.start .empty 0)) = (.ok r, later) ∧
    r.table.entries = galleryEntries :=
  ⟨_, _, rfl, rfl⟩

/-- The entry of the bean answers `HEAD`, though the first table answers `GET`. -/
theorem gallery_head_found : ∃ r later,
    gallery.realize .none .empty (Bean.State.start (World.start .empty 0)) = (.ok r, later) ∧
    r.table.find? "GET" "/hall/" = some ⟨0, ⟨"GET", ⟨[.literal "", .literal "hall"]⟩, hall 0⟩, []⟩ ∧
    r.table.find? "HEAD" "/hall/" =
      some ⟨2, ⟨"HEAD", ⟨[.literal "", .literal "hall"]⟩, hall 2⟩, []⟩ ∧
    r.table.find? "HEAD" "/lobby" = r.table.find? "GET" "/lobby" := by
  obtain ⟨r, later, h, hentries⟩ := gallery_realized
  obtain ⟨-, declared, beans, hserved, hlookups⟩ := realized_lookups h
  have hserves : (declared++beans).flatMap Table.entries = galleryEntries :=
    hserved.entries.symm.trans hentries
  rw [hserves] at hlookups
  obtain ⟨hget, hhead, -⟩ := hlookups "/hall/"
  refine ⟨r, later, h, (((hget "GET" (by decide)).1 _).mpr ?_), hhead _ ?_,
    (hlookups "/lobby").2.2 ?_⟩
  · exact ⟨[], _, rfl, rfl, by simp [Untaken], rfl, rfl⟩
  · refine ⟨galleryEntries.take 2, [], rfl, rfl, ?_, rfl, rfl⟩
    simp [Untaken, galleryEntries]
  · simp only [Untaken, galleryEntries, List.forall_mem_cons, List.not_mem_nil]
    exact ⟨fun h => absurd h (by decide), fun h => absurd h (by decide), fun _ => rfl,
      fun _ h => h.elim⟩

end WebApplication.Application
