import WebApplication.Proofs.Bean.Silent

/-!
# Stages

A stage is a program that may fail. Stages are run one after another until one fails,
and a program performs them if, watched, it writes down the stages that begin and gives
the error of the one that fails. Telling an event to listeners that publish nothing is
performing a stage for each of them, in the order of registration. A stage that publishes
something itself has listeners told in its course, but nothing else called.
-/

set_option autoImplicit false

namespace WebApplication.Bean

variable {C : Catalog} {σ α β ε δ : Type}

def Program.andThen (p : Program C σ (Except δ α)) (fail : δ → ε)
    (next : α → Program C σ (Except ε β)) : Program C σ (Except ε β) :=
  p.bind fun
    | .ok a => next a
    | .error e => .done (.error (fail e))

theorem Program.bind_eq_andThen {p : Program C σ (Except δ α)} {fail : δ → ε}
    {next : α → Program C σ (Except ε β)} {f : Except δ α → Program C σ (Except ε β)}
    (hok : ∀ a, f (.ok a) = next a) (herror : ∀ e, f (.error e) = .done (.error (fail e))) :
    p.bind f = p.andThen fail next := by
  have hf : f = fun
      | .ok a => next a
      | .error e => .done (.error (fail e)) := by
    funext result
    cases result with
    | ok a => exact hok a
    | error e => exact herror e
  rw [hf]
  rfl

structure Stage (C : Catalog) (σ ε : Type) where
  call : Call
  program : Program C σ (Except ε Unit)

def Stage.of (call : Call) (fail : δ → ε) (p : Program C σ (Except δ α)) : Stage C σ ε :=
  ⟨call, p.andThen fail fun _ => .done (.ok ())⟩

/-- Calls in the course of a stage. There are none if the stage publishes nothing. Else
they are of listeners, which find every bean there. -/
structure Stage.Tells (stage : Stage C σ ε) (told : List Call) : Prop where
  silent : stage.program.Silent → told = []
  listener : ∀ call ∈ told, ∃ position, call = .listener position []

theorem Stage.tells_nil (stage : Stage C σ ε) : stage.Tells [] where
  silent _ := rfl
  listener := by simp

theorem Stage.silent_of {p : Program C σ (Except δ α)} (h : p.Silent) (call : Call)
    (fail : δ → ε) : (Stage.of call fail p).program.Silent := by
  apply h.bind
  intro result
  cases result with
  | error e => exact .done _
  | ok a => exact .done _

namespace Context

variable {ctx : Context C σ} {fail : δ → ε}

theorem run_andThen_ok {p : Program C σ (Except δ α)} {s later : State C σ} {a : α}
    (h : ctx.run p s = (.ok a, later)) (next : α → Program C σ (Except ε β)) :
    ctx.run (p.andThen fail next) s = ctx.run (next a) later := by
  rw [Context.run] at h
  rw [Context.run, Program.andThen, Program.run_bind, h]
  rfl

theorem run_andThen_error {p : Program C σ (Except δ α)} {s later : State C σ} {e : δ}
    (h : ctx.run p s = (.error e, later)) (next : α → Program C σ (Except ε β)) :
    ctx.run (p.andThen fail next) s = (.error (fail e), later) := by
  rw [Context.run] at h
  rw [Context.run, Program.andThen, Program.run_bind, h]
  rfl

theorem run_andThen_ok_iff {p : Program C σ (Except δ α)} {next : α → Program C σ (Except ε β)}
    {s later : State C σ} {b : β} :
    ctx.run (p.andThen fail next) s = (.ok b, later) ↔
      ∃ a middle, ctx.run p s = (.ok a, middle) ∧ ctx.run (next a) middle = (.ok b, later) := by
  cases hp : ctx.run p s with
  | mk result middle =>
    cases result with
    | error e =>
      rw [run_andThen_error hp]
      constructor
      · intro h
        cases h
      · rintro ⟨a, other, h, -⟩
        cases h
    | ok a =>
      rw [run_andThen_ok hp]
      constructor
      · intro h
        exact ⟨a, middle, rfl, h⟩
      · rintro ⟨a', other, h, hnext⟩
        cases h
        exact hnext

inductive Ends (ctx : Context C σ) :
    List (Stage C σ ε) → State C σ → Except ε Unit → List Call → State C σ → Prop
  | done (s : State C σ) : Ends ctx [] s (.ok ()) [] s
  | failed {stage : Stage C σ ε} {s later : State C σ} {e : ε} {told : List Call}
      (rest : List (Stage C σ ε)) (ht : stage.Tells told)
      (h : ctx.run stage.program s = (.error e, later)) :
      Ends ctx (stage::rest) s (.error e) (stage.call::told) later
  | passed {stage : Stage C σ ε} {rest : List (Stage C σ ε)} {s middle later : State C σ}
      {result : Except ε Unit} {told calls : List Call} (ht : stage.Tells told)
      (h : ctx.run stage.program s = (.ok (), middle))
      (hrest : Ends ctx rest middle result calls later) :
      Ends ctx (stage::rest) s result (stage.call::(told++calls)) later

variable {stages more : List (Stage C σ ε)} {s middle later : State C σ}
  {result : Except ε Unit} {calls others told : List Call}

theorem Ends.append_failed {e : ε} (h : ctx.Ends stages s (.error e) calls later)
    (more : List (Stage C σ ε)) : ctx.Ends (stages++more) s (.error e) calls later := by
  generalize hr : Except.error e = result at h
  induction h with
  | done s => cases hr
  | failed rest ht h => exact .failed (rest++more) ht h
  | passed ht h _ ih => exact .passed ht h (ih hr)

theorem Ends.append_passed (h : ctx.Ends stages s (.ok ()) calls middle)
    (h' : ctx.Ends more middle result others later) :
    ctx.Ends (stages++more) s result (calls++others) later := by
  generalize hr : Except.ok () = passed at h
  induction h with
  | done s => exact h'
  | failed rest ht h => cases hr
  | passed ht h _ ih =>
    simpa only [List.cons_append, List.append_assoc] using Ends.passed ht h (ih h' hr)

theorem Ends.mem_calls (h : ctx.Ends stages s result calls later) {call : Call}
    (hc : call ∈ calls) :
    call ∈ stages.map Stage.call ∨ ∃ position, call = .listener position [] := by
  induction h with
  | done s => cases hc
  | failed rest ht h =>
    rcases List.mem_cons.mp hc with rfl | hc
    · exact .inl List.mem_cons_self
    · exact .inr (ht.listener call hc)
  | passed ht h _ ih =>
    rcases List.mem_cons.mp hc with rfl | hc
    · exact .inl List.mem_cons_self
    rcases List.mem_append.mp hc with hc | hc
    · exact .inr (ht.listener call hc)
    · exact (ih hc).imp_left (List.mem_cons_of_mem _)

theorem ends_single {p : Program C σ (Except δ α)} {r : Except δ α} {call : Call}
    (ht : (Stage.of call fail p).Tells told) (h : ctx.run p s = (r, later)) :
    ctx.Ends [.of call fail p] s ((r.mapError fail).map fun _ => ()) (call::told) later := by
  cases r with
  | error e => exact .failed [] ht (run_andThen_error h _)
  | ok a =>
    have hends : ctx.Ends [.of call fail p] s (.ok ()) (call::(told++[])) later :=
      .passed ht (run_andThen_ok h _) (.done later)
    rwa [List.append_nil] at hends

/-! ## Programs that perform stages -/

structure AtRest (ctx : Context C σ) (s : State C σ) : Prop where
  full : ctx.Full s.stored
  fits : ctx.Fits ctx.depth s
  publishing : s.publishing = []

theorem AtRest.update (h : ctx.AtRest s) (world : σ) : ctx.AtRest { s with world } where
  full := h.full
  fits := ⟨h.fits.sound, h.fits.publishing, h.fits.heard, h.fits.room⟩
  publishing := h.publishing

/-- Once every bean is there, a watched program writes down what stages begin, and ends as
they do. -/
def Performs (ctx : Context C σ) (fail : δ → ε) (p : Program C (σ × List Call) (Except δ α))
    (stages : List (Stage C σ ε)) : Prop :=
  ∀ t : State C (σ × List Call), ctx.AtRest t.plain → ∃ result after calls,
    ctx.watched.run p t = (result, { t with world := (after, t.world.2++calls) }) ∧
    ctx.Ends stages t.plain ((result.mapError fail).map fun _ => ()) calls
      { t.plain with world := after }

theorem performs_done (a : α) : ctx.Performs fail (.done (.ok a)) [] := by
  intro t _
  refine ⟨.ok a, t.world.1, [], ?_, .done t.plain⟩
  rw [List.append_nil]
  rfl

theorem Performs.andThen {p : Program C (σ × List Call) (Except δ α)}
    {next : α → Program C (σ × List Call) (Except ε β)} (hp : ctx.Performs fail p stages)
    (hnext : ∀ a, ctx.Performs id (next a) more) :
    ctx.Performs id (p.andThen fail next) (stages++more) := by
  intro t ht
  obtain ⟨result, after, calls, hrun, hends⟩ := hp t ht
  cases result with
  | error e =>
    exact ⟨.error (fail e), after, calls, run_andThen_error hrun next, hends.append_failed more⟩
  | ok a =>
    have ht' : ctx.AtRest { t.plain with world := after } := ht.update after
    obtain ⟨result, last, others, hrun', hends'⟩ :=
      hnext a { t with world := (after, t.world.2++calls) } ht'
    refine ⟨result, last, calls++others, ?_, hends.append_passed hends'⟩
    rw [run_andThen_ok hrun, hrun']
    show _ = (_, ({ t with world := (last, t.world.2++(calls++others)) } : State C _))
    rw [← List.append_assoc]

/-! ## Telling an event -/

def tellings (fail : EventError → ε) (event : C.Event) (index : Nat)
    (told : List (Listener C σ × Nat)) : List (Stage C σ ε) :=
  (told.zipIdx index).map fun ((l, position), index) =>
    .of (.listener position []) (fun cause => fail ⟨C.eventName event, index, cause⟩) l.action

theorem listener_of_tellings {fail : EventError → ε} {event : C.Event} {index : Nat}
    {told : List (Listener C σ × Nat)} {call : Call}
    (h : call ∈ (tellings fail event index told).map Stage.call) :
    ∃ position, call = .listener position [] := by
  rw [tellings, List.map_map] at h
  obtain ⟨⟨⟨l, position⟩, index⟩, -, rfl⟩ := List.mem_map.mp h
  exact ⟨position, rfl⟩

theorem silent_tellings {told : List (Listener C σ × Nat)}
    (hs : ∀ pair ∈ told, pair.1.action.Silent) (fail : EventError → ε) (event : C.Event)
    (index : Nat) {stage : Stage C σ ε} (h : stage ∈ tellings fail event index told) :
    stage.program.Silent := by
  obtain ⟨⟨pair, index'⟩, hin, rfl⟩ := List.mem_map.mp h
  exact Stage.silent_of (hs pair (List.fst_mem_of_mem_zipIdx hin)) _ _

theorem missing_of_full (h : ctx.Full s.stored) : (ctx.view s).missing = [] := by
  rw [View.missing, List.filter_eq_nil_iff]
  intro name hn
  have hname : name ∈ ctx.registry.names := by
    rw [view, List.map_map] at hn
    exact hn
  have hin : name ∈ (ctx.view s).created := h name hname
  simp [hin]

/-- Listeners are told one after another. -/
theorem notify_ends (depth : Nat) (event : C.Event) (index : Nat) (fail : EventError → ε)
    {told : List (Listener C σ × Nat)} (hs : ∀ pair ∈ told, pair.1.action.Silent)
    (t : State C (σ × List Call)) (hfull : ctx.Full t.stored) :
    ∃ result after calls,
      notify (ctx.watched.respondWithin depth) event index
          (told.map fun (l, position) => l.observed .calls position) t =
        (result, { t with world := (after, t.world.2++calls) }) ∧
      ∀ s : State C σ, s.stored = t.stored → s.world = t.world.1 →
        ctx.Ends (tellings fail event index told) s ((result.mapError fail).map fun _ => ()) calls
          { s with world := after } := by
  induction told generalizing index t with
  | nil =>
    refine ⟨.ok index, t.world.1, [], ?_, ?_⟩
    · rw [List.append_nil]
      rfl
    · intro s _ hw
      rw [← hw]
      exact .done s
  | cons pair told ih =>
    obtain ⟨l, position⟩ := pair
    have hview : ∀ t, (ctx.watched.respondWithin depth .view t).2 = t := by
      intro t
      rw [respondWithin_view]
    have hmissing : (ctx.watched.respondWithin depth .view t).1.missing = [] := by
      rw [respondWithin_view]
      exact missing_of_full (full_watched hfull)
    obtain ⟨result, after, hset⟩ :=
      settled_of_silent hfull (hs (l, position) List.mem_cons_self) t.world.1
    have hfirst : (l.observed .calls position).action.run (ctx.watched.respondWithin depth) t =
        (result, { t with world := (after, t.world.2++[.listener position []]) }) := by
      show Program.run _ (Observer.calls.listener position l) t = _
      rw [Observer.run_listener hview, hmissing, respondWithin_eq]
      exact hset.watched _ { t with world := (t.world.1, t.world.2++[.listener position []]) }
        rfl rfl
    have hplain : ∀ s : State C σ, s.stored = t.stored → s.world = t.world.1 →
        ctx.run l.action s = (result, { s with world := after }) := by
      intro s hstored hw
      rw [Context.run, answer, respondWithin_eq]
      exact hset.run _ s hstored hw
    rw [List.map_cons, notify, hfirst]
    cases result with
    | error cause =>
      refine ⟨_, after, [.listener position []], rfl, fun s hstored hw => ?_⟩
      exact .failed _ (Stage.tells_nil _) (run_andThen_error (hplain s hstored hw) _)
    | ok a =>
      obtain ⟨result, last, calls, hrest, hends⟩ := ih (index+1)
        (fun pair hp => hs pair (List.mem_cons_of_mem _ hp))
        { t with world := (after, t.world.2++[.listener position []]) } hfull
      refine ⟨result, last, .listener position []::calls, ?_, fun s hstored hw => ?_⟩
      · have hcalls : t.world.2++Call.listener position []::calls =
            t.world.2++[.listener position []]++calls := List.append_cons _ _ _
        rw [hcalls]
        exact hrest
      · exact .passed (Stage.tells_nil _) (run_andThen_ok (hplain s hstored hw) _)
          (hends { s with world := after } hstored rfl)

theorem audience_silent (hs : ∀ l ∈ ctx.listeners, l.action.Silent) (event : C.Event) :
    ∀ pair ∈ ctx.audience event, pair.1.action.Silent := by
  intro pair hp
  exact hs pair.1 (List.fst_mem_of_mem_zipIdx (List.mem_filter.mp hp).1)

theorem publish_ends (hs : ∀ l ∈ ctx.listeners, l.action.Silent) (event : C.Event)
    (fail : EventError → ε) {t : State C (σ × List Call)} (ht : ctx.AtRest t.plain) :
    ∃ result after calls,
      ctx.watched.publish (ctx.watched.below ctx.depth) event t =
        (result, { t with world := (after, t.world.2++calls) }) ∧
      ctx.Ends (tellings fail event 0 (ctx.audience event)) t.plain
        ((result.mapError fail).map fun _ => ()) calls { t.plain with world := after } := by
  have hpublishing : t.publishing = [] := ht.publishing
  have hsilent := audience_silent hs event
  unfold publish
  rw [watched_of_event]
  cases ha : ctx.audience event with
  | nil =>
    refine ⟨.ok 0, t.world.1, [], ?_, .done t.plain⟩
    rw [List.append_nil]
    rfl
  | cons pair told =>
    rw [ha] at hsilent
    -- an event that is heard leaves depth for those who hear it
    obtain ⟨depth, hdepth⟩ : ∃ depth, ctx.depth = depth+1 := by
      have hmem : pair ∈ ctx.listeners.zipIdx :=
        (List.mem_filter.mp (ha ▸ List.mem_cons_self : pair ∈ ctx.audience event)).1
      have hlength := List.length_pos_of_mem hmem
      rw [List.length_zipIdx] at hlength
      exact ⟨ctx.depth-1, by rw [Context.depth]; omega⟩
    obtain ⟨result, after, calls, hrun, hends⟩ := notify_ends depth event 0 fail hsilent
      { t with publishing := t.publishing++[event] } ht.full
    refine ⟨result, after, calls, ?_, hends t.plain rfl rfl⟩
    have hout : event ∉ t.publishing := by simp [hpublishing]
    have hleft : (t.publishing++[event]).filter (· ≠ event) = t.publishing :=
      filter_append_single hout
    rw [hdepth]
    simp only [below, List.map_cons, if_neg hout]
    rw [List.map_cons] at hrun
    rw [hrun]
    dsimp only
    rw [hleft]

theorem performs_publish (hs : ∀ l ∈ ctx.listeners, l.action.Silent) (event : C.Event)
    (fail : EventError → ε) :
    ctx.Performs fail (.query (.publish event)) (tellings fail event 0 (ctx.audience event)) := by
  intro t ht
  have hquery : ctx.watched.run (.query (.publish event)) t =
      ctx.watched.publish (ctx.watched.below ctx.depth) event t := by
    rw [Context.run, answer, depth_watched, respondWithin_eq]
    rfl
  obtain ⟨result, after, calls, hrun, hends⟩ := publish_ends hs event fail ht
  exact ⟨result, after, calls, hquery.trans hrun, hends⟩

/-- At rest a program changes nothing but the state of the application, and what it has
called are listeners. -/
theorem run_atRest (hs : ∀ l ∈ ctx.listeners, l.action.Silent) (p : Program C σ α)
    (t : State C (σ × List Call)) (ht : ctx.AtRest t.plain) :
    ∃ result after told,
      ctx.watched.run p.watched t = (result, { t with world := (after, t.world.2++told) }) ∧
      (p.Silent → told = []) ∧ ∀ call ∈ told, ∃ position, call = .listener position [] := by
  induction p generalizing t with
  | done a =>
    refine ⟨a, t.world.1, [], ?_, fun _ => rfl, by simp⟩
    rw [List.append_nil]
    rfl
  | ask q next ih =>
    -- only a publication has something called, and that are its listeners
    by_cases hq : q.Silent
    · obtain ⟨answer, ha⟩ := respond_settled (full_watched ht.full) hq
      have hanswer : ctx.watched.answer q t = (answer, t) := by
        rw [Context.answer, respondWithin_eq]
        exact ha _ t rfl
      obtain ⟨result, after, told, hrun, hsilent, htold⟩ := ih answer t ht
      refine ⟨result, after, told, ?_, ?_, htold⟩
      · rw [Context.run, Program.watched, Program.run, hanswer]
        exact hrun
      · intro hp
        cases hp with
        | ask _ h => exact hsilent (h answer)
    · obtain ⟨event, rfl⟩ : ∃ event, q = .publish event := by simpa [Query.Silent] using hq
      obtain ⟨answer, middle, calls, hpublish, hends⟩ := publish_ends hs event id ht
      have hanswer : ctx.watched.answer (.publish event) t =
          (answer, { t with world := (middle, t.world.2++calls) }) := by
        rw [Context.answer, depth_watched, respondWithin_eq]
        exact hpublish
      have ht' : ctx.AtRest { t.plain with world := middle } := ht.update middle
      obtain ⟨result, after, told, hrun, -, htold⟩ :=
        ih answer { t with world := (middle, t.world.2++calls) } ht'
      refine ⟨result, after, calls++told, ?_, ?_, ?_⟩
      · rw [Context.run, Program.watched, Program.run, hanswer, ← List.append_assoc]
        exact hrun
      · intro hp
        cases hp with
        | ask hsilent => exact absurd hsilent hq
      · intro call hc
        rcases List.mem_append.mp hc with hc | hc
        · exact (hends.mem_calls hc).elim listener_of_tellings id
        · exact htold call hc
  | update change next ih =>
    obtain ⟨result, after, told, hrun, hsilent, htold⟩ :=
      ih t.world.1 { t with world := (change t.world.1, t.world.2) } (ht.update _)
    refine ⟨result, after, told, hrun, ?_, htold⟩
    intro hp
    cases hp with
    | update h => exact hsilent (h t.world.1)

theorem performs_noting (hs : ∀ l ∈ ctx.listeners, l.action.Silent)
    (p : Program C σ (Except δ α)) (call : Call) (fail : δ → ε) :
    ctx.Performs fail (p.noting call) [.of call fail p] := by
  intro t ht
  obtain ⟨result, after, told, hrun, hsilent, htold⟩ :=
    run_atRest hs p { t with world := (t.world.1, t.world.2++[call]) } ht
  have hplain : ctx.run p t.plain = (result, { t.plain with world := after }) :=
    (run_watched ctx p { t with world := (t.world.1, t.world.2++[call]) }).symm.trans
      (congrArg plainly hrun)
  have htells : (Stage.of call fail p).Tells told := ⟨fun h => hsilent h.of_bind, htold⟩
  refine ⟨result, after, call::told, ?_, ends_single htells hplain⟩
  rw [List.append_cons]
  exact hrun

/-- Looking up all beans of a kind is no stage. It does not fail. -/
theorem performs_findAll (ctx : Context C σ) (kind : C.Kind) (fail : Error → ε) :
    ctx.Performs fail (.query (.findAll kind)) [] := by
  intro t ht
  obtain ⟨answer, ha⟩ :=
    respond_settled (full_watched ht.full) (nofun : Query.Silent (.findAll kind))
  obtain ⟨all, hall⟩ := findAll_ok_of_full ht.fits ht.full kind
  have hwatched : ctx.watched.run (.query (.findAll kind)) t = (answer, t) := by
    rw [Context.run, Context.answer, respondWithin_eq]
    exact ha _ t rfl
  have hplain : (answer, t.plain) = (.ok all, t.plain) := by
    have hm := run_watched ctx (.query (.findAll kind)) t
    rw [← hall]
    refine Eq.trans ?_ hm
    exact (congrArg plainly hwatched).symm
  obtain rfl : answer = .ok all := congrArg Prod.fst hplain
  refine ⟨.ok all, t.world.1, [], ?_, .done t.plain⟩
  rw [List.append_nil]
  exact hwatched

end Context

end WebApplication.Bean
