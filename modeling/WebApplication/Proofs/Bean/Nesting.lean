import WebApplication.Proofs.Bean.Depth
import WebApplication.Proofs.Bean.Singletons
import WebApplication.Proofs.Bean.Visit

/-!
# Factories inside factories

A factory that looks up a bean may run the factory of that bean inside its own. The
factories that run at a moment are those of different beans. A lookup that comes back to
one of them is refused there, and every other lookup is not; so every session ends, even
if factories ask again for what they were refused.
-/

set_option autoImplicit false

namespace WebApplication.Bean

variable {C : Catalog} {σ α : Type}

/-! ## Factories begun and ended -/

namespace Stock

variable {r : Registry C σ}

theorem length_filter_ne {names : List String} {name : String} (hn : names.Nodup)
    (h : name ∈ names) : (names.filter (· ≠ name)).length+1 = names.length := by
  have he : names.erase name = names.filter (· ≠ name) := by
    rw [hn.erase_eq_filter]
    exact List.filter_congr fun _ _ => Bool.eq_iff_iff.mpr (by simp)
  rw [← he, List.length_erase_of_mem h]
  have hpos := List.length_pos_of_mem h
  omega

theorem length_creating_step {step : Step C} {stock : Stock C} (hs : stock.Sound r)
    (h : Ready r step stock) :
    (stock.step step).creating.length+(if step.ends then 1 else 0) =
      stock.creating.length+(if step.begins then 1 else 0) := by
  cases step with
  | began name => exact List.length_append
  | failed name => exact length_filter_ne hs.creating h
  | made x => exact length_filter_ne hs.creating h.1
  | _ => rfl

theorem begins_eq {steps : List (Step C)} {stock : Stock C} (hs : stock.Sound r)
    (h : stock.Safe r steps) :
    steps.countP Step.begins+stock.creating.length =
      steps.countP Step.ends+(stock.run steps).creating.length := by
  induction steps generalizing stock with
  | nil => rfl
  | cons step steps ih =>
    obtain ⟨hready, hsafe⟩ := h
    have hstep := length_creating_step hs hready
    have hrest := ih (sound_step hs hready) hsafe
    rw [run, List.countP_cons, List.countP_cons]
    omega

theorem Sound.creating_le {stock : Stock C} (hs : stock.Sound r) :
    stock.creating.length ≤ r.size := by
  have hl := (List.subperm_of_subset hs.creating hs.known).length_le
  rwa [Registry.names, List.length_map] at hl

end Stock

/-! ## Where questions are asked -/

inductive Program.Asks (respond : Responder C σ) :
    Program C σ α → State C σ → Query C → State C σ → Prop
  | here (q : Query C) (next : Answer C q → Program C σ α) (s : State C σ) :
      Asks respond (.ask q next) s q s
  | later {q asked : Query C} {next : Answer C q → Program C σ α} {s there : State C σ}
      (h : Asks respond (next (respond q s).1) (respond q s).2 asked there) :
      Asks respond (.ask q next) s asked there
  | update {change : σ → σ} {next : σ → Program C σ α} {asked : Query C} {s there : State C σ}
      (h : Asks respond (next s.world) { s with world := change s.world } asked there) :
      Asks respond (.update change next) s asked there

namespace Context

variable {ctx : Context C σ} {depth : Nat} {s there middle later : State C σ}
  {q asked : Query C}

/-- A question looks up a name, at once or after the names before it were found. -/
inductive LooksUp (ctx : Context C σ) : Query C → State C σ → String → State C σ → Prop
  | find {dependency : Dependency C} {d : Definition C σ} {s : State C σ}
      (h : ctx.registry.resolve dependency "<lookup>" = .ok d) :
      LooksUp ctx (.find dependency) s d.name s
  | findAll {kind : C.Kind} {front back : List String} {name : String}
      {found : List (Shared (C.Instance kind))} {s middle : State C σ}
      (hn : (ctx.registry.ofKind kind).map Definition.name = front++name::back)
      (h : forNames (ctx.obtainAs (some ctx.answer) kind) front s = (.ok found, middle)) :
      LooksUp ctx (.findAll kind) s name middle
  | createAll {front back : List String} {name : String} {found : List (Shared (Stored C))}
      {s middle : State C σ} (ho : ctx.registry.constructionOrder = .ok (front++name::back))
      (h : forNames (ctx.obtain (some ctx.answer)) front s = (.ok found, middle)) :
      LooksUp ctx .createAll s name middle

structure Begins (ctx : Context C σ) (d : Definition C σ) (s : State C σ) : Prop where
  defined : d ∈ ctx.registry.definitions
  missing : s.find? d.name = none
  free : d.name ∉ s.creating

/-- While one question is answered another one is asked, inside the factories of these
beans, the outermost first. -/
inductive Reaches (ctx : Context C σ) :
    Query C → State C σ → List String → Query C → State C σ → Prop
  | here (q : Query C) (s : State C σ) : Reaches ctx q s [] q s
  | factory {q inside asked : Query C} {d : Definition C σ} {running : List String}
      {s middle start there : State C σ} (hl : ctx.LooksUp q s d.name middle)
      (hb : ctx.Begins d middle)
      (ha : d.factory.Asks ctx.answer (entered d.name middle) inside start)
      (h : Reaches ctx inside start running asked there) :
      Reaches ctx q s (d.name::running) asked there
  | listener {event : C.Event} {inside asked : Query C} {front back : List (Listener C σ)}
      {listener : Listener C σ} {ran : Nat} {running : List String}
      {s middle start there : State C σ} (hp : event ∉ s.publishing)
      (hl : ctx.listeners.filter (·.event = event) = front++listener::back)
      (hn : notify ctx.answer event 0 front { s with publishing := s.publishing++[event] } =
        (.ok ran, middle))
      (ha : listener.action.Asks ctx.answer middle inside start)
      (h : Reaches ctx inside start running asked there) :
      Reaches ctx (.publish event) s running asked there

def AskedIn (ctx : Context C σ) (p : Program C σ α) (world : σ) (running : List String)
    (asked : Query C) (there : State C σ) : Prop :=
  ∃ q s, p.Asks ctx.answer (State.start world) q s ∧ ctx.Reaches q s running asked there

/-! ## What is running is being created -/

theorem asks_explained {respond : Responder C σ} {tracer : Tracer C σ}
    (ht : ctx.Traced depth respond tracer) {p : Program C σ α}
    (h : p.Asks respond s asked there) : ∃ steps, ctx.Explains depth s steps there := by
  induction h with
  | here q next s => exact ⟨[], .refl s⟩
  | later _ ih =>
    obtain ⟨steps, he⟩ := ih
    exact ⟨_, (ht _ _).trans he⟩
  | update _ ih =>
    obtain ⟨steps, hrun, hc, hp, hs⟩ := ih
    exact ⟨steps, hrun, hc, hp, fun hf => hs ⟨hf.sound, hf.publishing, hf.heard, hf.room⟩⟩

theorem inner_answer (ctx : Context C σ) :
    ctx.Inner (ctx.depth+1) (some ctx.answer) (ctx.traceWithin ctx.depth) :=
  .some (within_explained ctx ctx.depth)

theorem looksUp_explained {name : String} (h : ctx.LooksUp q s name middle) :
    ∃ steps, ctx.Explains (ctx.depth+1) s steps middle := by
  cases h with
  | find _ => exact ⟨[], .refl s⟩
  | @findAll kind front back name found s middle hn h =>
    have hin : ∀ other ∈ front, other ∈ (ctx.registry.ofKind kind).map Definition.name :=
      fun other ho => hn ▸ List.mem_append_left _ ho
    have hall := names_explained
      (fun other ho s => ofKind_explained (inner_answer ctx) (hin other ho) s) s
    rw [h] at hall
    exact ⟨_, hall⟩
  | @createAll front back name found s middle ho h =>
    have hall := names_explained
      (fun other (_ : other ∈ front) s => obtain_explained (inner_answer ctx) other s) s
    rw [h] at hall
    exact ⟨_, hall⟩

theorem Begins.ready {d : Definition C σ} (h : ctx.Begins d s) :
    Stock.Ready ctx.registry (.began d.name) s.stock :=
  ⟨Registry.mem_names h.defined, Stock.find?_eq_none_iff.mp h.missing, h.free⟩

theorem Begins.obtain_eq {d : Definition C σ} (h : ctx.Begins d s) (inner : Responder C σ) :
    ctx.obtain (some inner) d.name s = create inner d s := by
  rw [obtain, h.missing, Registry.get?_eq_some_iff.mpr ⟨h.defined, rfl⟩]
  exact if_neg h.free

theorem Begins.trace_eq {d : Definition C σ} (h : ctx.Begins d s) (inner : Responder C σ)
    (tracer : Tracer C σ) :
    ctx.traceObtain (some inner) tracer d.name s = traceCreate inner tracer d s := by
  rw [traceObtain, h.missing, Registry.get?_eq_some_iff.mpr ⟨h.defined, rfl⟩]
  exact if_neg h.free

theorem Fits.looksUp (hf : ctx.Fits depth s) {name : String} (h : ctx.LooksUp q s name middle) :
    ctx.Fits depth middle := by
  obtain ⟨steps, he⟩ := looksUp_explained h
  exact hf.explained (Nat.le_succ _) he

theorem Fits.inside (hf : ctx.Fits (depth+1) s) {d : Definition C σ}
    (hl : ctx.LooksUp q s d.name middle) (hb : ctx.Begins d middle)
    (ha : d.factory.Asks ctx.answer (entered d.name middle) asked there) :
    ctx.Fits depth there := by
  obtain ⟨steps, he⟩ := asks_explained (within_explained ctx ctx.depth) ha
  exact ((hf.looksUp hl).enter hb.ready).explained (Nat.le_refl _) he

theorem creating_inside {d : Definition C σ} (hl : ctx.LooksUp q s d.name middle)
    (ha : d.factory.Asks ctx.answer (entered d.name middle) asked there) :
    there.creating = s.creating++[d.name] := by
  obtain ⟨before, hbefore⟩ := looksUp_explained hl
  obtain ⟨after, hafter⟩ := asks_explained (within_explained ctx ctx.depth) ha
  rw [hafter.creating, entered, hbefore.creating]

/-- Beans being created are the running factories, the outermost first. -/
theorem reaches_running {running : List String} (h : ctx.Reaches q s running asked there)
    (hf : ctx.Fits ctx.depth s) :
    there.creating = s.creating++running ∧ ctx.Fits ctx.depth there := by
  induction h with
  | here q s => exact ⟨(List.append_nil _).symm, hf⟩
  | factory hl hb ha _ ih =>
    obtain ⟨hthere, hfits⟩ := ih ((hf.deepen (Nat.le_succ _)).inside hl hb ha)
    refine ⟨?_, hfits⟩
    rw [hthere, creating_inside hl ha, List.append_assoc, List.singleton_append]
  | @listener event inside asked front back listener ran running s middle start there
      hp hl hn ha _ ih =>
    have hheard : event ∈ ctx.listeners.map Listener.event :=
      heard_of_filter (hl ▸ List.mem_append_right front List.mem_cons_self)
    have hnotify := notify_explained (within_explained ctx ctx.depth) event 0 front
      { s with publishing := s.publishing++[event] }
    obtain ⟨after, hafter⟩ := asks_explained (within_explained ctx ctx.depth) ha
    have hannounced := (hf.deepen (Nat.le_succ _)).announce hheard hp
    have hmiddle := hannounced.after hnotify
    rw [show notify (ctx.respondWithin ctx.depth) event 0 front _ = _ from hn] at hmiddle hnotify
    obtain ⟨hthere, hfits⟩ := ih (hmiddle.after hafter)
    refine ⟨?_, hfits⟩
    rw [hthere, hafter.creating, hnotify.creating]

theorem AskedIn.running {p : Program C σ α} {world : σ} {running : List String}
    (h : ctx.AskedIn p world running asked there) :
    there.creating = running ∧ ctx.Fits ctx.depth there := by
  obtain ⟨q, s, ha, hr⟩ := h
  obtain ⟨steps, he⟩ := asks_explained (within_explained ctx ctx.depth) ha
  obtain ⟨hcreating, hfits⟩ := reaches_running hr ((fits_start ctx world).after he)
  rw [he.creating] at hcreating
  exact ⟨hcreating, hfits⟩

/-! ## Refused lookups -/

def Refused {β : Type} (result : Except Error β) (steps : List (Step C)) (chain : List String) :
    Prop :=
  result = .error (.cyclic chain) ∧ ∀ name, .began name ∉ steps

/-- The running factories from the one of a bean to the innermost, and that bean again. -/
def Closes (running : List String) (name : String) (chain : List String) : Prop :=
  ∃ outer inner, running = outer++name::inner ∧ chain = name::inner++[name]

theorem closes_iff {running : List String} {name : String} {chain : List String}
    (hn : running.Nodup) :
    Closes running name chain ↔
      name ∈ running ∧ chain = Registry.cycleFrom running name := by
  constructor
  · rintro ⟨outer, inner, rfl, rfl⟩
    have hout : name ∉ outer := fun hin =>
      (List.nodup_append.mp hn).2.2 name hin name List.mem_cons_self rfl
    exact ⟨List.mem_append_right _ List.mem_cons_self, (Registry.cycleFrom_append hout).symm⟩
  · rintro ⟨hin, rfl⟩
    obtain ⟨outer, inner, rfl, hout⟩ := List.eq_append_cons_of_mem hin
    exact ⟨outer, inner, rfl, Registry.cycleFrom_append hout⟩

section Refused

variable {inner : Option (Responder C σ)} {tracer : Tracer C σ} {d : Definition C σ}
  {chain : List String}

theorem obtain_refused_iff (hi : ctx.Inner depth inner tracer) (hf : ctx.Fits depth s)
    (hd : d ∈ ctx.registry.definitions) :
    Refused (ctx.obtain inner d.name s).1 (ctx.traceObtain inner tracer d.name s) chain ↔
      d.name ∈ s.creating ∧ chain = Registry.cycleFrom s.creating d.name := by
  rw [obtain, traceObtain]
  cases hs : s.find? d.name with
  | some shared =>
    -- what is stored is not being created
    have hout : d.name ∉ s.creating := by
      intro hin
      have hnone : s.find? d.name = none := Stock.find?_eq_none_iff.mpr (hf.sound.apart _ hin)
      rw [hs] at hnone
      cases hnone
    constructor
    · rintro ⟨h, -⟩
      cases h
    · rintro ⟨h, -⟩
      exact absurd h hout
  | none =>
    rw [Registry.get?_eq_some_iff.mpr ⟨hd, rfl⟩]
    dsimp only
    by_cases hc : d.name ∈ s.creating
    · rw [if_pos hc, if_pos hc]
      constructor
      · rintro ⟨h, -⟩
        cases h
        exact ⟨hc, rfl⟩
      · rintro ⟨-, rfl⟩
        refine ⟨rfl, fun name hin => ?_⟩
        cases List.mem_singleton.mp hin
    · rw [if_neg hc, if_neg hc]
      cases hi with
      | none => exact absurd (hf.mem_creating (Registry.mem_names hd)) hc
      | some _ => exact ⟨fun h => absurd List.mem_cons_self (h.2 d.name), fun h => absurd h.1 hc⟩

theorem obtainAs_error_iff (hi : ctx.Inner depth inner tracer) (hf : ctx.Fits depth s)
    (hd : d ∈ ctx.registry.definitions) {kind : C.Kind} (hk : d.kind = kind) {e : Error} :
    (ctx.obtainAs inner kind d.name s).1 = .error e ↔
      (ctx.obtain inner d.name s).1 = .error e := by
  rcases ho : ctx.obtain inner d.name s with ⟨cause | shared, later⟩
  · rw [obtainAs_error ho]
    exact ⟨fun h => congrArg _ (Except.error.inj h), fun h => congrArg _ (Except.error.inj h)⟩
  · obtain ⟨value, hcast⟩ := cast_of_kind ((hf.obtained hi hd ho).2.trans hk)
    rw [obtainAs_ok ho, hcast]
    constructor <;> intro h <;> cases h

theorem obtainAs_refused_iff (hi : ctx.Inner depth inner tracer) (hf : ctx.Fits depth s)
    (hd : d ∈ ctx.registry.definitions) {kind : C.Kind} (hk : d.kind = kind) :
    Refused (ctx.obtainAs inner kind d.name s).1 (ctx.traceObtainAs inner tracer kind d.name s)
        chain ↔
      Refused (ctx.obtain inner d.name s).1 (ctx.traceObtain inner tracer d.name s) chain := by
  rw [Refused, Refused, obtainAs_error_iff hi hf hd hk, traceObtainAs]
  refine and_congr_right fun h => ?_
  rw [h]
  dsimp only
  rw [List.append_nil]

theorem find_refused_iff (hf : ctx.Fits ctx.depth s) {dependency : Dependency C}
    (hm : ctx.registry.Meets dependency d) :
    Refused (ctx.answer (.find dependency) s).1 (ctx.traceWithin ctx.depth (.find dependency) s)
        chain ↔
      d.name ∈ s.creating ∧ chain = Registry.cycleFrom s.creating d.name := by
  rw [answer, respondWithin_eq, traceWithin_eq, respond, traceAnswer,
    Registry.resolve_eq_ok_iff.mpr hm]
  have hi := ctx.inner_below ctx.depth
  exact (obtainAs_refused_iff hi hf hm.1 hm.2.1).trans (obtain_refused_iff hi hf hm.1)

end Refused

/-- No session depends on what would answer deeper than its depth, and at no moment of a
session have more factories begun and not ended than there are beans, as they write it down
themselves, too. Wherever a lookup is made, in a factory, in a listener or in the session itself, it is refused exactly if the
factory of its bean is running, with the running factories from that one on. -/
theorem circles_refused (ctx : Context C σ) (p : Program C σ α) (world : σ) :
    (∀ base, p.run (ctx.unfolded base (ctx.depth+1)) (State.start world) =
      ctx.run p (State.start world)) ∧
    (∀ front, front <+: ctx.trace p (State.start world) →
      front.countP Step.begins ≤ front.countP Step.ends+ctx.registry.size) ∧
    (∀ front, front <+: (ctx.logged.run p.watched ((State.start world).noted [])).2.world.2 →
      front.countP Step.begins ≤ front.countP Step.ends+ctx.registry.size) ∧
    ∀ running q s, ctx.AskedIn p world running q s →
      running.length ≤ ctx.registry.size ∧
      (∀ log, ctx.logged.answer q (s.noted log) = ((ctx.answer q s).1,
        (ctx.answer q s).2.noted (log++turnsOf (ctx.traceWithin ctx.depth q s)))) ∧
      ctx.answer q s = ctx.respond (some ctx.answer) q s ∧
      (∀ d ∈ ctx.registry.definitions, ∀ middle, ctx.LooksUp q s d.name middle → ∀ chain,
        Refused (ctx.obtain (some ctx.answer) d.name middle).1
            (ctx.traceObtain (some ctx.answer) (ctx.traceWithin ctx.depth) d.name middle) chain ↔
          Closes running d.name chain) ∧
      ∀ dependency d, ctx.registry.Meets dependency d → ∀ chain,
        Refused (ctx.answer (.find dependency) s).1
            (ctx.traceWithin ctx.depth (.find dependency) s) chain ↔
          Closes running d.name chain := by
  have ht := within_explained ctx ctx.depth
  have hcount : ∀ front, front <+: ctx.trace p (State.start world) →
      front.countP Step.begins ≤ front.countP Step.ends+ctx.registry.size := by
    rintro front ⟨back, he⟩
    have hsafe := (session_explained ctx p (State.start world)).safe (fits_start ctx world)
    rw [← he, Stock.safe_append] at hsafe
    have hsound := Stock.sound_run (Stock.sound_empty ctx.registry) hsafe.1
    have hbegins := Stock.begins_eq (Stock.sound_empty ctx.registry) hsafe.1
    have hcreating := hsound.creating_le
    have hempty : (Stock.empty (C := C)).creating.length = 0 := rfl
    omega
  refine ⟨?_, hcount, ?_, ?_⟩
  · intro base
    exact (program_agree ht (unfolded_agree ctx base ctx.depth) p (fits_start ctx world)).symm
  · intro front hfront
    rw [run_logged] at hfront
    obtain ⟨full, hfull, rfl⟩ := prefix_turnsOf_iff.mp hfront
    rw [(countP_turnsOf full).1, (countP_turnsOf full).2]
    exact hcount full hfull
  · intro running q s h
    -- from here on the running factories are the beans being created
    obtain ⟨rfl, hf⟩ := h.running
    have hn : s.creating.Nodup := hf.sound.creating
    refine ⟨hf.sound.creating_le, answer_logged ctx q s, answer_eq hf q, ?_, ?_⟩
    · intro d hd middle hl chain
      obtain ⟨steps, he⟩ := looksUp_explained hl
      have hmiddle := (hf.looksUp hl).deepen (Nat.le_succ _)
      rw [obtain_refused_iff (inner_answer ctx) hmiddle hd, he.creating, closes_iff hn]
    · intro dependency d hm chain
      rw [find_refused_iff hf hm, closes_iff hn]

def insistentPage : Definition .plain Unit :=
  ⟨"page", (), [], .ask (.find (.named () "store")) fun _ =>
    .ask (.find (.named () "store")) fun _ => .done (.ok ())⟩

def insistentStore : Definition .plain Unit :=
  ⟨"store", (), [], .ask (.find (.named () "page")) fun
    | .ok _ => .done (.ok ())
    | .error e => .done (.error (.lookup e))⟩

def insistent : Context .plain Unit where
  registry := ⟨[insistentPage, insistentStore], by decide⟩
  listeners := []
  profiles := .none
  properties := .empty

def askPage : Program .plain Unit (Answer .plain (.find (.named () "page"))) :=
  .query (.find (.named () "page"))

def secondAttempt : State .plain Unit := ⟨[], ["page", "store"], [], ()⟩

theorem page_refused_in_store :
    insistent.AskedIn askPage () ["page", "store"] (.find (.named () "page")) secondAttempt ∧
    (insistent.answer (.find (.named () "page")) secondAttempt).1 =
      .error (.cyclic ["page", "store", "page"]) ∧
    insistent.trace askPage (State.start ()) =
      [.began "page", .began "store", .refused "page", .failed "store", .began "store",
        .refused "page", .failed "store", .made ⟨"page", (), ()⟩,
        .returned () ⟨0, "page", (), ()⟩] ∧
    (insistent.trace askPage (State.start ())).countP Step.begins ≤ 3+2 := by
  have hasked : insistent.AskedIn askPage () ["page", "store"] (.find (.named () "page"))
      secondAttempt := by
    refine ⟨_, _, .here _ _ _, .factory (d := insistentPage) (.find rfl) ⟨?_, rfl, ?_⟩
      (.later (.here _ _ _)) (.factory (d := insistentStore) (.find rfl) ⟨?_, rfl, ?_⟩
        (.here _ _ _) (.here _ _))⟩
    · exact List.mem_cons_self
    · exact List.not_mem_nil
    · exact List.mem_cons_of_mem _ List.mem_cons_self
    · decide
  have htrace : insistent.trace askPage (State.start ()) =
      [.began "page", .began "store", .refused "page", .failed "store", .began "store",
        .refused "page", .failed "store", .made ⟨"page", (), ()⟩,
        .returned () ⟨0, "page", (), ()⟩] := rfl
  obtain ⟨-, hcount, -, hmoments⟩ := circles_refused insistent askPage ()
  obtain ⟨-, -, -, -, hfind⟩ := hmoments _ _ _ hasked
  have hmeets : insistent.registry.Meets (.named () "page") insistentPage :=
    ⟨List.mem_cons_self, rfl, rfl⟩
  exact ⟨hasked, ((hfind _ _ hmeets _).mpr ⟨[], ["store"], rfl, rfl⟩).1, htrace,
    hcount _ (List.prefix_refl _)⟩

end Context

end WebApplication.Bean
