import WebApplication.Proofs.Bean.CreateAll
import WebApplication.Proofs.Bean.Nesting

/-!
# Failures keep their cause

If factories pass on the errors of their lookups and otherwise fail only on their own, a
question fails exactly with what was raised at the innermost point: by a lookup that no
bean meets, a lookup of a bean whose factory is running, or a factory that failed on its
own. The factories around that point neither change the error nor give it their name.
-/

set_option autoImplicit false

namespace WebApplication.Bean

variable {C : Catalog} {σ α : Type}

/-! ## Factories that pass errors on -/

def failureOf : Except Error α → Option Error
  | .ok _ => none
  | .error e => some e

theorem failureOf_eq_some_iff {result : Except Error α} {e : Error} :
    failureOf result = some e ↔ result = .error e := by
  cases result with
  | ok a => constructor <;> intro h <;> cases h
  | error cause =>
    exact ⟨fun h => congrArg _ (Option.some.inj h), fun h => congrArg _ (Except.error.inj h)⟩

def Query.failure? : (q : Query C) → Answer C q → Option Error
  | .find _ => failureOf
  | .findAll _ => failureOf
  | .createAll => failureOf
  | .publish _ => fun _ => none
  | .view => fun _ => none

namespace Program

inductive Returns (result : α) : Program C σ α → Prop
  | done : Returns result (.done result)
  | ask {q : Query C} {next : Answer C q → Program C σ α}
      (h : ∀ answer, Returns result (next answer)) : Returns result (.ask q next)
  | update {change : σ → σ} {next : σ → Program C σ α} (h : ∀ old, Returns result (next old)) :
      Returns result (.update change next)

/-- A program that returns the error of a failed lookup unchanged, and otherwise succeeds or
fails on its own. -/
inductive Forwards : Program C σ (Except Failure α) → Prop
  | succeed (value : α) : Forwards (.done (.ok value))
  | fail (message : String) : Forwards (.done (.error (.own message)))
  | ask {q : Query C} {next : Answer C q → Program C σ (Except Failure α)}
      (hpassed : ∀ answer, q.failure? answer = none → Forwards (next answer))
      (hfailed : ∀ answer e, q.failure? answer = some e →
        Returns (.error (.lookup e)) (next answer)) : Forwards (.ask q next)
  | update {change : σ → σ} {next : σ → Program C σ (Except Failure α)}
      (h : ∀ old, Forwards (next old)) : Forwards (.update change next)

theorem Returns.run {result : α} {p : Program C σ α} (h : p.Returns result)
    (respond : Responder C σ) (s : State C σ) : (p.run respond s).1 = result := by
  induction h generalizing s with
  | done => rfl
  | ask _ ih => exact ih _ _
  | update _ ih => exact ih _ _

/-- The error of a lookup that such a program fails with is the error of a question it asked. -/
theorem Forwards.asked {respond : Responder C σ} {p : Program C σ (Except Failure α)}
    (h : p.Forwards) {s : State C σ} {e : Error} (hr : (p.run respond s).1 = .error (.lookup e)) :
    ∃ q there, p.Asks respond s q there ∧ q.failure? (respond q there).1 = some e := by
  induction h generalizing s with
  | succeed value => cases hr
  | fail message => cases hr
  | @ask q next _ hfailed ih =>
    rw [Program.run] at hr
    cases ha : q.failure? (respond q s).1 with
    | none =>
      obtain ⟨asked, there, hasked, hfailure⟩ := ih _ ha hr
      exact ⟨asked, there, .later hasked, hfailure⟩
    | some cause =>
      -- the rest of the program cannot end in any other way
      have hreturned := (hfailed _ _ ha).run respond (respond q s).2
      cases hreturned.symm.trans hr
      exact ⟨q, s, .here q next s, ha⟩
  | @update change next _ ih =>
    obtain ⟨asked, there, hasked, hfailure⟩ := ih s.world hr
    exact ⟨asked, there, .update hasked, hfailure⟩

theorem forwards_following {result : Except Failure α} (lookups : List (Dependency C))
    (h : ∀ e, result ≠ .error (.lookup e)) :
    Forwards (following result lookups : Program C σ (Except Failure α)) := by
  induction lookups with
  | nil =>
    rcases result with ⟨e | message⟩ | value
    · exact absurd rfl (h e)
    · exact .fail message
    · exact .succeed value
  | cons dependency rest ih =>
    refine .ask ?_ ?_
    · rintro (e | shared) ha
      · cases ha
      · exact ih
    · rintro (e | shared) cause ha
      · cases ha
        exact .done
      · cases ha

end Program

namespace Context

variable {ctx : Context C σ} {depth : Nat} {s middle : State C σ} {q : Query C} {e : Error}

/-! ## Where errors are raised -/

def Unmet (ctx : Context C σ) : Query C → Error → Prop
  | .find dependency, e => ctx.registry.resolve dependency "<lookup>" = .error e
  | .createAll, e => ctx.registry.constructionOrder = .error e
  | _, _ => False

/-- A question fails at its own lookup, and not inside the factory that it runs. -/
inductive Fails (ctx : Context C σ) : Query C → State C σ → Error → Prop
  | unmet {q : Query C} {s : State C σ} {e : Error} (h : ctx.Unmet q e) : Fails ctx q s e
  | refused {q : Query C} {d : Definition C σ} {s middle : State C σ}
      (hl : ctx.LooksUp q s d.name middle) (hd : d ∈ ctx.registry.definitions)
      (hs : middle.find? d.name = none) (hc : d.name ∈ middle.creating) :
      Fails ctx q s (.cyclic (Registry.cycleFrom middle.creating d.name))
  | own {q : Query C} {d : Definition C σ} {message : String} {s middle : State C σ}
      (hl : ctx.LooksUp q s d.name middle) (hb : ctx.Begins d middle)
      (hr : (d.factory.run ctx.answer (entered d.name middle)).1 = .error (.own message)) :
      Fails ctx q s (.creation d.name message)

/-- An error is raised inside these factories, the outermost first, and each of them ends
with it. -/
inductive Raised (ctx : Context C σ) : Query C → State C σ → List String → Error → Prop
  | here {q : Query C} {s : State C σ} {e : Error} (h : ctx.Fails q s e) : Raised ctx q s [] e
  | inside {q asked : Query C} {d : Definition C σ} {path : List String} {e : Error}
      {s middle start : State C σ} (hl : ctx.LooksUp q s d.name middle)
      (hb : ctx.Begins d middle)
      (hr : (d.factory.run ctx.answer (entered d.name middle)).1 = .error (.lookup e))
      (ha : d.factory.Asks ctx.answer (entered d.name middle) asked start)
      (h : Raised ctx asked start path e) : Raised ctx q s (d.name::path) e

/-! ## Failed lookups -/

theorem LooksUp.known {name : String} (h : ctx.LooksUp q s name middle) :
    ∃ d ∈ ctx.registry.definitions, d.name = name := by
  cases h with
  | find h => exact ⟨_, (Registry.resolve_eq_ok_iff.mp h).1, rfl⟩
  | @findAll kind front back name found s middle hn _ =>
    have hin : name ∈ (ctx.registry.ofKind kind).map Definition.name :=
      hn ▸ List.mem_append_right _ List.mem_cons_self
    obtain ⟨d, hd, hname⟩ := List.mem_map.mp hin
    exact ⟨d, (Registry.mem_ofKind.mp hd).1, hname⟩
  | @createAll front back name found s middle ho _ =>
    have hin : name ∈ front++name::back := List.mem_append_right _ List.mem_cons_self
    exact List.mem_map.mp ((Registry.names_sorted ho).1.known name hin)

theorem forNames_error_iff {f : String → StateM (State C σ) (Except Error α)}
    {names : List String} :
    (forNames f names s).1 = .error e ↔ ∃ front name back found middle,
      names = front++name::back ∧ forNames f front s = (.ok found, middle) ∧
      (f name middle).1 = .error e := by
  induction names generalizing s with
  | nil =>
    constructor
    · intro h
      cases h
    · rintro ⟨front, name, back, -, -, hn, -⟩
      exact absurd hn.symm (by simp)
  | cons name names ih =>
    rcases hr : f name s with ⟨cause | a, later⟩
    · rw [forNames_error hr]
      constructor
      · intro h
        refine ⟨[], name, names, [], s, rfl, rfl, ?_⟩
        rw [hr]
        exact congrArg _ (Except.error.inj h)
      · rintro ⟨front, other, back, found, middle, hn, hfront, hother⟩
        cases front with
        | nil =>
          cases hn
          cases hfront
          rw [hr] at hother
          exact congrArg _ (Except.error.inj hother)
        | cons first front =>
          cases hn
          rw [forNames_error hr] at hfront
          cases hfront
    · have hmap : (forNames f names later).1.map (a::·) = .error e ↔
          (forNames f names later).1 = .error e := by
        cases (forNames f names later).1 <;> simp [Except.map]
      rw [forNames_ok hr, hmap, ih]
      constructor
      · rintro ⟨front, other, back, found, middle, rfl, hfront, hother⟩
        refine ⟨name::front, other, back, a::found, middle, rfl, ?_, hother⟩
        rw [forNames_ok hr, hfront]
        rfl
      · rintro ⟨front, other, back, found, middle, hn, hfront, hother⟩
        cases front with
        | nil =>
          cases hn
          cases hfront
          rw [hr] at hother
          cases hother
        | cons first front =>
          cases hn
          rw [forNames_ok hr] at hfront
          rcases hrest : forNames f front later with ⟨cause | rest, last⟩
          · rw [hrest] at hfront
            cases hfront
          · rw [hrest] at hfront
            cases hfront
            exact ⟨front, other, back, rest, last, rfl, hrest, hother⟩

def Stops (ctx : Context C σ) (q : Query C) (s : State C σ) (e : Error) : Prop :=
  ∃ name middle, ctx.LooksUp q s name middle ∧
    (ctx.obtain (some ctx.answer) name middle).1 = .error e

theorem find_error_iff {dependency : Dependency C} (hf : ctx.Fits depth s) :
    (ctx.respond (some ctx.answer) (.find dependency) s).1 = .error e ↔
      ctx.Unmet (.find dependency) e ∨ ctx.Stops (.find dependency) s e := by
  rw [respond]
  cases hr : ctx.registry.resolve dependency "<lookup>" with
  | error cause =>
    constructor
    · intro h
      cases h
      exact .inl hr
    · rintro (h | ⟨name, middle, hl, -⟩)
      · exact congrArg _ (Except.error.inj (hr.symm.trans h))
      · cases hl with
        | find h => cases hr.symm.trans h
  | ok d =>
    obtain ⟨hd, hk, -⟩ := Registry.resolve_eq_ok_iff.mp hr
    have hdeep := hf.deepen (Nat.le_succ ctx.depth)
    refine (obtainAs_error_iff (inner_answer ctx) hdeep hd hk).trans ⟨?_, ?_⟩
    · intro h
      exact .inr ⟨d.name, s, .find hr, h⟩
    · rintro (h | ⟨name, middle, hl, h⟩)
      · cases hr.symm.trans h
      · cases hl with
        | find h' =>
          cases hr.symm.trans h'
          exact h

theorem findAll_error_iff {kind : C.Kind} (hf : ctx.Fits depth s) :
    (ctx.respond (some ctx.answer) (.findAll kind) s).1 = .error e ↔
      ctx.Stops (.findAll kind) s e := by
  -- what is looked up has the kind, in whatever state the names before it leave
  have hsame : ∀ {name : String} {front back : List String}
      {found : List (Shared (C.Instance kind))} {middle : State C σ},
      (ctx.registry.ofKind kind).map Definition.name = front++name::back →
      forNames (ctx.obtainAs (some ctx.answer) kind) front s = (.ok found, middle) →
      ((ctx.obtainAs (some ctx.answer) kind name middle).1 = .error e ↔
        (ctx.obtain (some ctx.answer) name middle).1 = .error e) := by
    intro name front back found middle hn hfront
    have hin : name ∈ (ctx.registry.ofKind kind).map Definition.name :=
      hn ▸ List.mem_append_right _ List.mem_cons_self
    obtain ⟨d, hd, rfl⟩ := List.mem_map.mp hin
    obtain ⟨hdef, hk⟩ := Registry.mem_ofKind.mp hd
    have hmiddle := (hf.looksUp (.findAll hn hfront)).deepen (Nat.le_succ ctx.depth)
    exact obtainAs_error_iff (inner_answer ctx) hmiddle hdef hk
  refine forNames_error_iff.trans ⟨?_, ?_⟩
  · rintro ⟨front, name, back, found, middle, hn, hfront, h⟩
    exact ⟨name, middle, .findAll hn hfront, (hsame hn hfront).mp h⟩
  · rintro ⟨name, middle, hl, h⟩
    cases hl with
    | findAll hn hfront => exact ⟨_, _, _, _, _, hn, hfront, (hsame hn hfront).mpr h⟩

theorem createAll_error_iff :
    (ctx.respond (some ctx.answer) .createAll s).1 = .error e ↔
      ctx.Unmet .createAll e ∨ ctx.Stops .createAll s e := by
  rw [respond]
  cases ho : ctx.registry.constructionOrder with
  | error cause =>
    constructor
    · intro h
      cases h
      exact .inl ho
    · rintro (h | ⟨name, middle, hl, -⟩)
      · exact congrArg _ (Except.error.inj (ho.symm.trans h))
      · cases hl with
        | createAll h => cases ho.symm.trans h
  | ok order =>
    have hall : (ctx.respond (some ctx.answer) .createAll s).1 = .error e ↔
        (forNames (ctx.obtain (some ctx.answer)) order s).1 = .error e := by
      rw [respond, ho]
      dsimp only
      rcases forNames (ctx.obtain (some ctx.answer)) order s with ⟨cause | all, later⟩
      · exact ⟨fun h => congrArg _ (Except.error.inj h), fun h => congrArg _ (Except.error.inj h)⟩
      · constructor <;> intro h <;> cases h
    rw [respond, ho] at hall
    refine hall.trans (forNames_error_iff.trans ⟨?_, ?_⟩)
    · rintro ⟨front, name, back, found, middle, rfl, hfront, h⟩
      exact .inr ⟨name, middle, .createAll ho hfront, h⟩
    · rintro (h | ⟨name, middle, hl, h⟩)
      · cases ho.symm.trans h
      · cases hl with
        | createAll ho' hfront =>
          exact ⟨_, _, _, _, _, Except.ok.inj (ho.symm.trans ho'), hfront, h⟩

/-- A question fails if there is nothing to look up for it, or with the first lookup that
fails. -/
theorem failure_iff (hf : ctx.Fits depth s) :
    q.failure? (ctx.answer q s).1 = some e ↔ ctx.Unmet q e ∨ ctx.Stops q s e := by
  rw [answer_eq hf]
  cases q with
  | find dependency => exact failureOf_eq_some_iff.trans (find_error_iff hf)
  | findAll kind =>
    refine (failureOf_eq_some_iff.trans (findAll_error_iff hf)).trans ⟨.inr, ?_⟩
    rintro (h | h)
    · exact h.elim
    · exact h
  | createAll => exact failureOf_eq_some_iff.trans createAll_error_iff
  | publish event =>
    constructor
    · intro h
      cases h
    · rintro (h | ⟨name, middle, hl, -⟩)
      · exact h.elim
      · cases hl
  | view =>
    constructor
    · intro h
      cases h
    · rintro (h | ⟨name, middle, hl, -⟩)
      · exact h.elim
      · cases hl

/-- A lookup fails because the factory of its bean is running, or with what that factory
fails with. -/
theorem obtain_error_iff {inner : Responder C σ} {d : Definition C σ}
    (hd : d ∈ ctx.registry.definitions) :
    (ctx.obtain (some inner) d.name s).1 = .error e ↔
      (s.find? d.name = none ∧ d.name ∈ s.creating ∧
        e = .cyclic (Registry.cycleFrom s.creating d.name)) ∨
      ctx.Begins d s ∧ ∃ failure,
        (d.factory.run inner (entered d.name s)).1 = .error failure ∧
        e = creationError d.name failure := by
  rw [obtain]
  cases hs : s.find? d.name with
  | some shared =>
    constructor
    · intro h
      cases h
    · rintro (⟨h, -⟩ | ⟨hb, -⟩)
      · cases h
      · cases hs.symm.trans hb.missing
  | none =>
    rw [Registry.get?_eq_some_iff.mpr ⟨hd, rfl⟩]
    dsimp only
    by_cases hc : d.name ∈ s.creating
    · rw [if_pos hc]
      constructor
      · intro h
        exact .inl ⟨rfl, hc, (Except.error.inj h).symm⟩
      · rintro (⟨-, -, rfl⟩ | ⟨hb, -⟩)
        · rfl
        · exact absurd hc hb.free
    · rw [if_neg hc]
      rcases hr : d.factory.run inner (entered d.name s) with ⟨failure | value, later⟩
      · rw [create_error hr]
        constructor
        · intro h
          exact .inr ⟨⟨hd, hs, hc⟩, failure, rfl, (Except.error.inj h).symm⟩
        · rintro (⟨-, h, -⟩ | ⟨-, other, ho, rfl⟩)
          · exact absurd h hc
          · rw [Except.error.inj ho]
      · rw [create_ok hr]
        constructor
        · intro h
          cases h
        · rintro (⟨-, h, -⟩ | ⟨-, other, ho, -⟩)
          · exact absurd h hc
          · cases ho

/-! ## Failures and where they were raised -/

theorem failure_of_raised {path : List String} (hf : ctx.Fits depth s)
    (h : ctx.Raised q s path e) : q.failure? (ctx.answer q s).1 = some e := by
  rw [failure_iff hf]
  cases h with
  | here h =>
    cases h with
    | unmet h => exact .inl h
    | refused hl hd hs hc => exact .inr ⟨_, _, hl, (obtain_error_iff hd).mpr (.inl ⟨hs, hc, rfl⟩)⟩
    | own hl hb hr =>
      exact .inr ⟨_, _, hl, (obtain_error_iff hb.defined).mpr (.inr ⟨hb, _, hr, rfl⟩)⟩
  | inside hl hb hr _ _ =>
    exact .inr ⟨_, _, hl, (obtain_error_iff hb.defined).mpr (.inr ⟨hb, _, hr, rfl⟩)⟩

def Accounts (ctx : Context C σ) (depth : Nat) : Prop :=
  ∀ q s e, ctx.Fits depth s → q.failure? (ctx.answer q s).1 = some e →
    ∃ path, ctx.Raised q s path e

theorem failure_raised (hforwards : ∀ d ∈ ctx.registry.definitions, d.factory.Forwards)
    (h : ∀ inner, depth = inner+1 → ctx.Accounts inner) : ctx.Accounts depth := by
  intro q s e hf hfailure
  rcases (failure_iff hf).mp hfailure with hunmet | ⟨name, middle, hl, hstop⟩
  · exact ⟨[], .here (.unmet hunmet)⟩
  · obtain ⟨d, hd, rfl⟩ := hl.known
    rcases (obtain_error_iff hd).mp hstop with ⟨hs, hc, rfl⟩ | ⟨hb, failure, hr, rfl⟩
    · exact ⟨[], .here (.refused hl hd hs hc)⟩
    · cases failure with
      | own message => exact ⟨[], .here (.own hl hb hr)⟩
      | lookup cause =>
        -- the factory only passed on what a question inside it failed with
        cases depth with
        | zero => exact absurd ((hf.looksUp hl).mem_creating (Registry.mem_names hd)) hb.free
        | succ inner =>
          obtain ⟨asked, there, ha, hasked⟩ := (hforwards d hd).asked hr
          obtain ⟨path, hpath⟩ := h inner rfl asked there cause (hf.inside hl hb ha) hasked
          exact ⟨d.name::path, .inside hl hb hr ha hpath⟩

theorem accounts (hforwards : ∀ d ∈ ctx.registry.definitions, d.factory.Forwards)
    (depth : Nat) : ctx.Accounts depth :=
  at_every_depth (fun _ h => failure_raised hforwards h) depth

theorem resolve_ne_creation {r : Registry C σ} {dependency : Dependency C}
    {requester name message : String} :
    r.resolve dependency requester ≠ .error (.creation name message) := by
  intro h
  unfold Registry.resolve at h
  split at h
  · split at h
    · cases h
    · split at h <;> cases h
  · split at h <;> cases h

theorem unmet_ne_creation {name message : String} (h : ctx.Unmet q e) :
    e ≠ .creation name message := by
  rintro rfl
  cases q with
  | find dependency => exact resolve_ne_creation h
  | createAll =>
    have hobstacle := Registry.visitAll_error (fun _ hd => hd) h
    cases hobstacle with
    | unmet _ _ hr => exact resolve_ne_creation hr
  | findAll kind => exact h
  | publish event => exact h
  | view => exact h

def FailedAlone (ctx : Context C σ) (name message : String) : Prop :=
  ∃ d ∈ ctx.registry.definitions, d.name = name ∧ ∃ middle,
    (d.factory.run ctx.answer (entered name middle)).1 = .error (.own message)

/-- An error is raised inside factories of different beans, and it names none of them. -/
theorem raised_apart {path : List String} (hf : ctx.Fits ctx.depth s)
    (h : ctx.Raised q s path e) :
    (s.creating++path).Nodup ∧ ∀ name message, e = .creation name message →
      name ∉ s.creating++path ∧ ctx.FailedAlone name message := by
  induction h with
  | @here q s e h =>
    rw [List.append_nil]
    refine ⟨hf.sound.creating, ?_⟩
    rintro name message rfl
    cases h with
    | unmet h => exact absurd rfl (unmet_ne_creation h)
    | own hl hb hr =>
      obtain ⟨steps, he⟩ := looksUp_explained hl
      exact ⟨he.creating ▸ hb.free, _, hb.defined, rfl, _, hr⟩
  | @inside q asked d path e s middle start hl hb _ ha _ ih =>
    have hcreating : start.creating++path = s.creating++d.name::path := by
      rw [creating_inside hl ha, List.append_assoc, List.singleton_append]
    rw [← hcreating]
    exact ih ((hf.deepen (Nat.le_succ _)).inside hl hb ha)

/-- Wherever a session asks a question, the question fails exactly with what is raised at an
innermost point, and the factories around that point pass it on as it is. If it names a
bean, the factory of that bean failed on its own, and it is none of those around it. -/
theorem failures_keep_cause (ctx : Context C σ)
    (hforwards : ∀ d ∈ ctx.registry.definitions, d.factory.Forwards) (p : Program C σ α)
    (world : σ) (running : List String) (q : Query C) (s : State C σ)
    (h : ctx.AskedIn p world running q s) :
    (∀ e, q.failure? (ctx.answer q s).1 = some e ↔ ∃ path, ctx.Raised q s path e) ∧
    ∀ path e, ctx.Raised q s path e →
      (running++path).Nodup ∧ ∀ name message, e = .creation name message →
        name ∉ running++path ∧ ctx.FailedAlone name message := by
  obtain ⟨rfl, hf⟩ := h.running
  refine ⟨fun e => ⟨accounts hforwards ctx.depth q s e hf, ?_⟩, fun path e => raised_apart hf⟩
  rintro ⟨path, hraised⟩
  exact failure_of_raised hf hraised

def outage : Context .plain Unit where
  registry := ⟨[unannounced "page" ["store"], unannounced "store" ["files"],
    ⟨"files", (), [], .following (.error (.own "disk unavailable")) []⟩], by decide⟩
  listeners := []
  profiles := .none
  properties := .empty

theorem outage_forwards : ∀ d ∈ outage.registry.definitions, d.factory.Forwards := by
  intro d hd
  simp only [outage, List.mem_cons, List.not_mem_nil, or_false] at hd
  rcases hd with rfl | rfl | rfl
  · exact Program.forwards_following _ (fun e h => by cases h)
  · exact Program.forwards_following _ (fun e h => by cases h)
  · exact Program.forwards_following _ (fun e h => by cases h)

theorem files_blamed :
    outage.Raised (.find (.named () "page")) (State.start ()) ["page", "store"]
      (.creation "files" "disk unavailable") ∧
    (outage.answer (.find (.named () "page")) (State.start ())).1 =
      .error (.creation "files" "disk unavailable") ∧
    "files" ∉ ["page", "store"] ∧ outage.FailedAlone "files" "disk unavailable" := by
  have hraised : outage.Raised (.find (.named () "page")) (State.start ()) ["page", "store"]
      (.creation "files" "disk unavailable") := by
    refine .inside (d := unannounced "page" ["store"]) (.find rfl) ⟨?_, rfl, ?_⟩ rfl
      (.here _ _ _) (.inside (d := unannounced "store" ["files"]) (.find rfl) ⟨?_, rfl, ?_⟩ rfl
        (.here _ _ _) (.here (.own (d := ⟨"files", (), [], _⟩) (.find rfl) ⟨?_, rfl, ?_⟩ rfl)))
    · exact List.mem_cons_self
    · exact List.not_mem_nil
    · exact List.mem_cons_of_mem _ List.mem_cons_self
    · decide
    · exact List.mem_cons_of_mem _ (List.mem_cons_of_mem _ List.mem_cons_self)
    · decide
  obtain ⟨hfailure, hpath⟩ := failures_keep_cause outage outage_forwards
    (.query (.find (.named () "page"))) () [] _ _ ⟨_, _, .here _ _ _, .here _ _⟩
  obtain ⟨-, hnamed⟩ := hpath _ _ hraised
  obtain ⟨hout, halone⟩ := hnamed _ _ rfl
  exact ⟨hraised, failureOf_eq_some_iff.mp ((hfailure _).mpr ⟨_, hraised⟩), hout, halone⟩

end Context

end WebApplication.Bean
