import WebApplication.Proofs.Bean.Explanation

/-!
# Answers need no depth

The depth within which a context answers is only there to make the recursion plain. Beans
being created differ and so do events being published, so the answers do not depend on
what would answer deeper, and they satisfy the recursion without any depth.
-/

set_option autoImplicit false

namespace WebApplication.Bean.Context

variable {C : Catalog} {σ α : Type} {ctx : Context C σ} {depth : Nat} {s later : State C σ}

def unfolded (ctx : Context C σ) (base : Responder C σ) : Nat → Responder C σ
  | 0 => base
  | depth+1 => ctx.respond (some (unfolded ctx base depth))

/-! ## States that fit -/

theorem Fits.deepen (hf : ctx.Fits depth s) {deep : Nat} (hd : ctx.depth ≤ deep) :
    ctx.Fits deep s where
  sound := hf.sound
  publishing := hf.publishing
  heard := hf.heard
  room := by omega

theorem Fits.explained (hf : ctx.Fits depth s) {deep : Nat} (hd : ctx.depth ≤ deep)
    {steps : List (Step C)} (h : ctx.Explains deep s steps later) : ctx.Fits depth later where
  sound := ((hf.deepen hd).after h).sound
  publishing := ((hf.deepen hd).after h).publishing
  heard := ((hf.deepen hd).after h).heard
  room := by
    rw [h.creating, h.publishing]
    exact hf.room

theorem Fits.mem_publishing (hf : ctx.Fits 0 s) {event : C.Event}
    (he : event ∈ ctx.listeners.map Listener.event) : event ∈ s.publishing := by
  by_contra hout
  have hp : s.publishing.length < (ctx.listeners.map Listener.event).length :=
    Registry.length_lt_of_not_mem hf.publishing hf.heard hout he
  have hc := (List.subperm_of_subset hf.sound.creating hf.sound.known).length_le
  have hr := hf.room
  rw [List.length_map] at hp
  rw [Registry.names, List.length_map] at hc
  rw [depth, Registry.size] at hr
  have hcreating : s.stock.creating = s.creating := rfl
  rw [hcreating] at hc
  omega

/-! ## Responders that agree -/

def Agree (ctx : Context C σ) (depth : Nat) (f g : Responder C σ) : Prop :=
  ∀ q s, ctx.Fits depth s → f q s = g q s

/-- What answers inner questions, and what may take its place: without depth anything, and
else a responder that agrees. -/
inductive Replaces (ctx : Context C σ) :
    Nat → Option (Responder C σ) → Option (Responder C σ) → Prop
  | none (other : Option (Responder C σ)) : Replaces ctx 0 none other
  | some {depth : Nat} {f g : Responder C σ} {tracer : Tracer C σ}
      (ht : ctx.Traced depth f tracer) (h : ctx.Agree depth f g) :
      Replaces ctx (depth+1) (some f) (some g)

section Agree

variable {f g : Responder C σ} {tracer : Tracer C σ} (ht : ctx.Traced depth f tracer)
  (h : ctx.Agree depth f g)

include ht h

theorem program_agree (p : Program C σ α) (hf : ctx.Fits depth s) : p.run f s = p.run g s := by
  induction p generalizing s with
  | done a => rfl
  | ask q next ih =>
    rw [Program.run, Program.run, ← h q s hf]
    exact ih _ (hf.after (ht q s))
  | update change next ih => exact ih s.world ⟨hf.sound, hf.publishing, hf.heard, hf.room⟩

theorem create_agree (d : Definition C σ) (hf : ctx.Fits depth (entered d.name s)) :
    create f d s = create g d s := by
  have hrun := program_agree ht h d.factory hf
  rcases hr : d.factory.run f (entered d.name s) with ⟨failure | value, later⟩
  · rw [create_error hr, create_error (hrun.symm.trans hr)]
  · rw [create_ok hr, create_ok (hrun.symm.trans hr)]

theorem notify_agree (event : C.Event) (index : Nat) (listeners : List (Listener C σ))
    (hf : ctx.Fits depth s) :
    notify f event index listeners s = notify g event index listeners s := by
  induction listeners generalizing index s with
  | nil => rfl
  | cons listener rest ih =>
    have he := program_explained ht listener.action s
    rw [notify, notify, ← program_agree ht h listener.action hf]
    rcases hr : listener.action.run f s with ⟨cause | ⟨⟩, later⟩
    · rfl
    · rw [hr] at he
      exact ih (index+1) (hf.after he)

end Agree

section Replaces

variable {inner other : Option (Responder C σ)} {tracer : Tracer C σ}

theorem forNames_agree {f g : String → StateM (State C σ) (Except Error α)}
    {tracer : String → State C σ → List (Step C)} {names : List String}
    (he : ∀ name ∈ names, ∀ s, ctx.Explains depth s (tracer name s) (f name s).2)
    (h : ∀ name s, ctx.Fits depth s → f name s = g name s) (hf : ctx.Fits depth s) :
    forNames f names s = forNames g names s := by
  induction names generalizing s with
  | nil => rfl
  | cons name names ih =>
    have hname := he name List.mem_cons_self s
    have hsame := h name s hf
    rcases hr : f name s with ⟨e | a, later⟩
    · rw [forNames_error hr, forNames_error (hsame.symm.trans hr)]
    · rw [hr] at hname
      rw [forNames_ok hr, forNames_ok (hsame.symm.trans hr),
        ih (fun other ho => he other (List.mem_cons_of_mem name ho)) (hf.after hname)]

variable (h : ctx.Replaces depth inner other)

include h

theorem obtain_agree (name : String) (hf : ctx.Fits depth s) :
    ctx.obtain inner name s = ctx.obtain other name s := by
  rw [obtain, obtain]
  cases hs : s.find? name with
  | some shared => rfl
  | none =>
    cases hg : ctx.registry.get? name with
    | none => rfl
    | some d =>
      obtain ⟨hd, rfl⟩ := Registry.get?_eq_some_iff.mp hg
      dsimp only
      by_cases hc : d.name ∈ s.creating
      · rw [if_pos hc, if_pos hc]
      · rw [if_neg hc, if_neg hc]
        cases h with
        | none other => exact absurd (hf.mem_creating (Registry.mem_names hd)) hc
        | some ht h =>
          have hready : Stock.Ready ctx.registry (.began d.name) s.stock :=
            ⟨Registry.mem_names hd, Stock.find?_eq_none_iff.mp hs, hc⟩
          exact create_agree ht h d (hf.enter hready)

theorem obtainAs_agree (kind : C.Kind) (name : String) (hf : ctx.Fits depth s) :
    ctx.obtainAs inner kind name s = ctx.obtainAs other kind name s := by
  rw [obtainAs, obtainAs, obtain_agree h name hf]

theorem publish_agree (event : C.Event) (hf : ctx.Fits depth s) :
    ctx.publish inner event s = ctx.publish other event s := by
  unfold publish
  cases hl : List.filter (·.event = event) ctx.listeners with
  | nil => rfl
  | cons listener rest =>
    have hheard : event ∈ ctx.listeners.map Listener.event :=
      heard_of_filter (hl ▸ List.mem_cons_self)
    cases h with
    | none other =>
      cases other with
      | none => rfl
      | some g =>
        dsimp only
        rw [if_pos (hf.mem_publishing hheard)]
    | some ht h =>
      dsimp only
      by_cases hp : event ∈ s.publishing
      · rw [if_pos hp, if_pos hp]
      · rw [if_neg hp, if_neg hp, notify_agree ht h event 0 _ (hf.announce hheard hp)]

theorem respond_agree (hi : ctx.Inner depth inner tracer) :
    ctx.Agree depth (ctx.respond inner) (ctx.respond other) := by
  intro q s hf
  cases q with
  | find dependency =>
    rw [respond, respond]
    cases ctx.registry.resolve dependency "<lookup>" with
    | error e => rfl
    | ok d => exact obtainAs_agree h dependency.kind d.name hf
  | findAll kind =>
    exact forNames_agree (fun _ hn s => ofKind_explained hi hn s)
      (fun name s => obtainAs_agree h kind name) hf
  | createAll =>
    rw [respond, respond]
    cases ctx.registry.constructionOrder with
    | error e => rfl
    | ok order =>
      have hall : forNames (ctx.obtain inner) order s = forNames (ctx.obtain other) order s :=
        forNames_agree (fun name _ s => obtain_explained hi name s)
          (fun name s => obtain_agree h name) hf
      dsimp only
      rw [hall]
  | publish event => exact publish_agree h event hf
  | view => rfl

end Replaces

/-! ## Answers without depth -/

theorem unfolded_agree (ctx : Context C σ) (base : Responder C σ) (depth : Nat) :
    ctx.Agree depth (ctx.respondWithin depth) (ctx.unfolded base (depth+1)) := by
  induction depth with
  | zero => exact respond_agree (.none _) (.none fun _ _ => [])
  | succ depth ih =>
    have ht := within_explained ctx depth
    exact respond_agree (.some ht ih) (.some ht)

theorem unfolded_respondWithin (ctx : Context C σ) (deep depth : Nat) :
    ctx.unfolded (ctx.respondWithin deep) depth = ctx.respondWithin (deep+depth) := by
  induction depth with
  | zero => rfl
  | succ depth ih =>
    rw [unfolded, ih]
    rfl

theorem deeper_agree (ctx : Context C σ) {deep : Nat} (h : depth ≤ deep) :
    ctx.Agree depth (ctx.respondWithin depth) (ctx.respondWithin deep) := by
  rcases Nat.eq_or_lt_of_le h with rfl | hlt
  · exact fun _ _ _ => rfl
  · have hunfolded := unfolded_respondWithin ctx (deep-(depth+1)) (depth+1)
    rw [Nat.sub_add_cancel hlt] at hunfolded
    rw [← hunfolded]
    exact unfolded_agree ctx _ depth

theorem answer_agree (ctx : Context C σ) (depth : Nat) :
    ctx.Agree depth (ctx.respondWithin depth) ctx.answer := by
  intro q s hf
  rcases Nat.le_total depth ctx.depth with h | h
  · exact deeper_agree ctx h q s hf
  · exact (deeper_agree ctx h q s (hf.deepen (Nat.le_refl _))).symm

theorem answer_eq (hf : ctx.Fits depth s) (q : Query C) :
    ctx.answer q s = ctx.respond (some ctx.answer) q s :=
  deeper_agree ctx (Nat.le_succ _) q s (hf.deepen (Nat.le_refl _))

theorem replaces_below (ctx : Context C σ) (depth : Nat) :
    ctx.Replaces depth (ctx.below depth) (some ctx.answer) := by
  cases depth with
  | zero => exact .none _
  | succ depth => exact .some (within_explained ctx depth) (answer_agree ctx depth)

end WebApplication.Bean.Context
