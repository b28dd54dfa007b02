import WebApplication.Shutdown

/-!
# No signal is lost

Whatever is done with a coordinator and its clones, in any order, a wait that is polled is
resolved exactly if a signal was sent since it began, and the channel has one receiver for
every subscription and for every wait that is neither resolved nor dropped. Of channels
nothing is used but what is documented.
-/

set_option autoImplicit false

namespace WebApplication

/-! ## What is documented of channels -/

namespace Broadcast

/-- What an operation on a channel does: the numbers of receivers and senders after it,
and how many more messages each receiver has still to see. -/
structure Effect (B : Broadcast) (unseen : B.Channel → B.Receiver → Option Nat)
    (before after : B.Channel) (receivers senders sent : Nat) : Prop where
  receivers : B.receivers after = receivers
  senders : B.senders after = senders
  unseen : ∀ r n, unseen before r = some n → unseen after r = some (n+sent)

/-- A receiver has still to see what was sent since it subscribed and since it saw the last
message. If there is such a message it does not wait, even if some were lost; else it
waits, as long as there is a sender. Who left is not counted any more, and nothing is sent
to nobody. `unseen` gives nothing for what is no receiver of a channel. -/
structure Lawful (B : Broadcast) (unseen : B.Channel → B.Receiver → Option Nat) : Prop where
  create : ∀ n, B.receivers (B.create n).2 = 1 ∧ B.senders (B.create n).2 = 1
  subscribe : ∀ c, B.Effect unseen c (B.subscribe c).2 (B.receivers c+1) (B.senders c) 0
  subscribed : ∀ c, unseen (B.subscribe c).2 (B.subscribe c).1 = some 0
  leave : ∀ r c, B.Effect unseen c (B.leave r c) (B.receivers c-1) (B.senders c) 0
  send : ∀ c, B.Effect unseen c (B.send c) (B.receivers c) (B.senders c)
    (if B.receivers c = 0 then 0 else 1)
  addSender : ∀ c, B.Effect unseen c (B.addSender c) (B.receivers c) (B.senders c+1) 0
  dropSender : ∀ c, B.Effect unseen c (B.dropSender c) (B.receivers c) (B.senders c-1) 0
  receive : ∀ r c, B.Effect unseen c (B.receive r c).2.2 (B.receivers c) (B.senders c) 0
  seen : ∀ r c, unseen c r = some 0 → 0 < B.senders c → (B.receive r c).1 = .waiting ∧
    unseen (B.receive r c).2.2 (B.receive r c).2.1 = some 0
  unread : ∀ r c n, unseen c r = some (n+1) → (B.receive r c).1 = .message ∨
    ∃ missed, (B.receive r c).1 = .lagged missed

end Broadcast

namespace Tally

def unseen (c : Tally) (next : Nat) : Option Nat :=
  if next ≤ c.sent then some (c.sent-next) else none

end Tally

namespace Shutdown

/-! ## Operations -/

/-- What can be done with a coordinator, its clones, the subscriptions and the waits. Waits
are numbered in the order in which they began. -/
inductive Op where
  | subscribe
  | quit (i : Nat)
  | wait
  | poll (i : Nat)
  | drop (i : Nat)
  | trigger
  | clone
  | release
  deriving DecidableEq, Repr

variable {B : Broadcast} {unseen : B.Channel → B.Receiver → Option Nat}

def step (s : Shutdown B) : Op → Shutdown B
  | .subscribe => s.subscribe
  | .quit i => s.quit i
  | .wait => s.wait
  | .poll i => s.poll i
  | .drop i => s.drop i
  | .trigger => s.trigger
  | .clone => s.clone
  | .release => s.release

def run (s : Shutdown B) (ops : List Op) : Shutdown B := ops.foldl step s

theorem run_append (s : Shutdown B) (ops more : List Op) :
    s.run (ops++more) = (s.run ops).run more :=
  List.foldl_append

def clonesAfter (clones : Nat) : Op → Nat
  | .clone => clones+1
  | .release => clones-1
  | _ => clones

def Alive : Nat → List Op → Prop
  | clones, [] => 0 < clones
  | clones, op::ops => 0 < clones ∧ Alive (clonesAfter clones op) ops

/-! ## Polling and dropping -/

def Ends (s : Shutdown B) (receiver : B.Receiver) : Prop :=
  (B.receive receiver s.channel).1 ≠ .waiting

variable {s : Shutdown B} {i : Nat} {receiver : B.Receiver}

theorem poll_other (hw : ∀ receiver, s.waits[i]? ≠ some (.pending receiver)) : s.poll i = s := by
  rw [poll]
  split
  · rename_i receiver h
    exact absurd h (hw receiver)
  · rfl

theorem poll_waiting (hw : s.waits[i]? = some (.pending receiver)) (he : ¬s.Ends receiver) :
    s.poll i = { s with
      channel := (B.receive receiver s.channel).2.2
      waits := s.waits.set i (.pending (B.receive receiver s.channel).2.1) } := by
  have hr : (B.receive receiver s.channel).1 = .waiting := Decidable.not_not.mp he
  rw [poll, hw]
  rcases hc : B.receive receiver s.channel with ⟨found, receiver', channel⟩
  rw [hc] at hr
  cases hr
  simp only [hc]

theorem poll_ends (hw : s.waits[i]? = some (.pending receiver)) (he : s.Ends receiver) :
    s.poll i = { s with
      channel := B.leave (B.receive receiver s.channel).2.1 (B.receive receiver s.channel).2.2
      waits := s.waits.set i .resolved } := by
  rw [poll, hw]
  rw [Ends] at he
  rcases hc : B.receive receiver s.channel with ⟨found, receiver', channel⟩
  rw [hc] at he
  cases found with
  | waiting => exact absurd rfl he
  | message => simp only [hc]
  | lagged missed => simp only [hc]
  | closed => simp only [hc]

theorem drop_other (hw : ∀ receiver, s.waits[i]? ≠ some (.pending receiver)) : s.drop i = s := by
  rw [drop]
  split
  · rename_i receiver h
    exact absurd h (hw receiver)
  · rfl

theorem drop_pending (hw : s.waits[i]? = some (.pending receiver)) :
    s.drop i = { s with
      channel := B.leave receiver s.channel
      waits := s.waits.set i .dropped } := by
  rw [drop, hw]

theorem pending_or_other (s : Shutdown B) (i : Nat) :
    (∃ receiver, s.waits[i]? = some (.pending receiver)) ∨
      ∀ receiver, s.waits[i]? ≠ some (.pending receiver) := by
  by_cases hw : ∃ receiver, s.waits[i]? = some (.pending receiver)
  · exact .inl hw
  · exact .inr fun receiver h => hw ⟨receiver, h⟩

/-! ## Receivers and clones -/

def pendingIn (waits : List (Wait B)) : Nat := waits.countP (·.phase = .pending)

structure Sound (clones : Nat) (s : Shutdown B) : Prop where
  receivers : s.receiverCount = s.subscribers.length+pendingIn s.waits
  senders : B.senders s.channel = clones

theorem pendingIn_set {waits : List (Wait B)} (hw : waits[i]? = some (.pending receiver))
    (w : Wait B) : pendingIn (waits.set i w)+1 =
      pendingIn waits+if w.phase = .pending then 1 else 0 := by
  obtain ⟨hi, he⟩ := List.getElem?_eq_some_iff.mp hw
  have hin : Wait.pending receiver ∈ waits := he ▸ List.getElem_mem hi
  have hpos : 0 < waits.countP (·.phase = .pending) := List.countP_pos_iff.mpr ⟨_, hin, rfl⟩
  have hfirst : (if decide ((Wait.pending receiver : Wait B).phase = .pending) = true then 1
      else 0) = 1 := rfl
  rw [pendingIn, List.countP_set hi, he, hfirst, pendingIn]
  simp only [decide_eq_true_eq]
  omega

theorem pendingIn_resolve {waits : List (Wait B)} (hw : waits[i]? = some (.pending receiver)) :
    pendingIn (waits.set i .resolved)+1 = pendingIn waits :=
  pendingIn_set hw .resolved

theorem pendingIn_drop {waits : List (Wait B)} (hw : waits[i]? = some (.pending receiver)) :
    pendingIn (waits.set i .dropped)+1 = pendingIn waits :=
  pendingIn_set hw .dropped

theorem pendingIn_keep {waits : List (Wait B)} (hw : waits[i]? = some (.pending receiver))
    (other : B.Receiver) : pendingIn (waits.set i (.pending other)) = pendingIn waits :=
  Nat.succ.inj (pendingIn_set hw (.pending other))

section Lawful

variable (h : B.Lawful unseen)

include h

theorem sound_poll {clones : Nat} (hs : s.Sound clones) (i : Nat) : (s.poll i).Sound clones := by
  rcases s.pending_or_other i with ⟨receiver, hw⟩ | hw
  · have hr := h.receive receiver s.channel
    have hcount : B.receivers s.channel = s.subscribers.length+pendingIn s.waits := hs.receivers
    by_cases he : s.Ends receiver
    · have hl := h.leave (B.receive receiver s.channel).2.1 (B.receive receiver s.channel).2.2
      have hset := pendingIn_resolve hw
      rw [poll_ends hw he]
      refine ⟨?_, (hl.senders.trans hr.senders).trans hs.senders⟩
      show B.receivers (B.leave _ _) = s.subscribers.length+pendingIn (s.waits.set i .resolved)
      rw [hl.receivers, hr.receivers, hcount]
      omega
    · rw [poll_waiting hw he]
      refine ⟨?_, hr.senders.trans hs.senders⟩
      show B.receivers _ = s.subscribers.length+pendingIn (s.waits.set i (.pending _))
      rw [pendingIn_keep hw, hr.receivers, hcount]
  · rwa [poll_other hw]

theorem sound_drop {clones : Nat} (hs : s.Sound clones) (i : Nat) : (s.drop i).Sound clones := by
  rcases s.pending_or_other i with ⟨receiver, hw⟩ | hw
  · have hl := h.leave receiver s.channel
    have hcount : B.receivers s.channel = s.subscribers.length+pendingIn s.waits := hs.receivers
    have hset := pendingIn_drop hw
    rw [drop_pending hw]
    refine ⟨?_, hl.senders.trans hs.senders⟩
    show B.receivers (B.leave _ _) = s.subscribers.length+pendingIn (s.waits.set i .dropped)
    rw [hl.receivers, hcount]
    omega
  · rwa [drop_other hw]

theorem sound_quit {clones : Nat} (hs : s.Sound clones) (i : Nat) : (s.quit i).Sound clones := by
  rw [quit]
  split
  · rename_i receiver hr
    obtain ⟨hi, -⟩ := List.getElem?_eq_some_iff.mp hr
    have hl := h.leave receiver s.channel
    have hcount : B.receivers s.channel = s.subscribers.length+pendingIn s.waits := hs.receivers
    refine ⟨?_, hl.senders.trans hs.senders⟩
    show B.receivers (B.leave _ _) = (s.subscribers.eraseIdx i).length+pendingIn s.waits
    rw [hl.receivers, hcount, List.length_eraseIdx, if_pos hi]
    omega
  · exact hs

/-- One operation keeps the counts right. -/
theorem sound_step {clones : Nat} (hs : s.Sound clones) (op : Op) :
    (s.step op).Sound (clonesAfter clones op) := by
  obtain ⟨hcount, hsenders⟩ := hs
  cases op with
  | subscribe =>
    have he := h.subscribe s.channel
    refine ⟨?_, he.senders.trans hsenders⟩
    show B.receivers (B.subscribe s.channel).2 = (s.subscribers++[_]).length+pendingIn s.waits
    rw [receiverCount] at hcount
    rw [he.receivers, hcount, List.length_append, List.length_singleton]
    omega
  | wait =>
    have he := h.subscribe s.channel
    refine ⟨?_, he.senders.trans hsenders⟩
    show B.receivers (B.subscribe s.channel).2 =
      s.subscribers.length+pendingIn (s.waits++[.pending _])
    rw [receiverCount] at hcount
    rw [he.receivers, hcount, pendingIn, pendingIn, List.countP_append]
    rfl
  | quit i => exact sound_quit h ⟨hcount, hsenders⟩ i
  | poll i => exact sound_poll h ⟨hcount, hsenders⟩ i
  | drop i => exact sound_drop h ⟨hcount, hsenders⟩ i
  | trigger =>
    have he := h.send s.channel
    exact ⟨he.receivers.trans hcount, he.senders.trans hsenders⟩
  | clone =>
    have he := h.addSender s.channel
    exact ⟨he.receivers.trans hcount, he.senders.trans (hsenders ▸ rfl)⟩
  | release =>
    have he := h.dropSender s.channel
    exact ⟨he.receivers.trans hcount, he.senders.trans (hsenders ▸ rfl)⟩

theorem sound_run {clones : Nat} (hs : s.Sound clones) (ops : List Op) :
    (s.run ops).Sound (ops.foldl clonesAfter clones) := by
  induction ops generalizing s clones with
  | nil => exact hs
  | cons op ops ih => exact ih (sound_step h hs op)

end Lawful

theorem Alive.last {clones : Nat} {ops : List Op} (h : Alive clones ops) :
    0 < ops.foldl clonesAfter clones := by
  induction ops generalizing clones with
  | nil => exact h
  | cons op ops ih => exact ih h.2

/-! ## One wait -/

/-- Nothing but its own polls and drops changes a wait. -/
theorem waits_step {w : Wait B} (hw : s.waits[i]? = some w) {op : Op} (hp : op ≠ .poll i)
    (hd : op ≠ .drop i) : (s.step op).waits[i]? = some w := by
  cases op with
  | wait =>
    obtain ⟨hi, -⟩ := List.getElem?_eq_some_iff.mp hw
    exact (List.getElem?_append_left hi).trans hw
  | quit j =>
    show (s.quit j).waits[i]? = some w
    rw [quit]
    split <;> exact hw
  | poll j =>
    have hne : j ≠ i := fun he => hp (he ▸ rfl)
    show (s.poll j).waits[i]? = some w
    rcases s.pending_or_other j with ⟨receiver, hj⟩ | hj
    · by_cases he : s.Ends receiver
      · rw [poll_ends hj he]
        exact (List.getElem?_set_ne hne).trans hw
      · rw [poll_waiting hj he]
        exact (List.getElem?_set_ne hne).trans hw
    · rwa [poll_other hj]
  | drop j =>
    have hne : j ≠ i := fun he => hd (he ▸ rfl)
    show (s.drop j).waits[i]? = some w
    rcases s.pending_or_other j with ⟨receiver, hj⟩ | hj
    · rw [drop_pending hj]
      exact (List.getElem?_set_ne hne).trans hw
    · rwa [drop_other hj]
  | _ => exact hw

theorem resolved_step (hw : s.waits[i]? = some .resolved) (op : Op) :
    (s.step op).waits[i]? = some .resolved := by
  have hother : ∀ receiver, s.waits[i]? ≠ some (.pending receiver) := by
    intro receiver h
    rw [hw] at h
    cases h
  by_cases hp : op = .poll i
  · rw [hp]
    show (s.poll i).waits[i]? = _
    rwa [poll_other hother]
  by_cases hd : op = .drop i
  · rw [hd]
    show (s.drop i).waits[i]? = _
    rwa [drop_other hother]
  exact waits_step hw hp hd

def Awaits (unseen : B.Channel → B.Receiver → Option Nat) (s : Shutdown B) (i n : Nat) : Prop :=
  ∃ receiver, s.waits[i]? = some (.pending receiver) ∧ unseen s.channel receiver = some n

/-- A wait that is not dropped is pending, with messages to see if there was a signal, or it
is resolved and there was one. -/
inductive Follows (unseen : B.Channel → B.Receiver → Option Nat) (s : Shutdown B) (i : Nat)
    (signalled : Prop) : Prop
  | pending {n : Nat} (h : Awaits unseen s i n) (hn : 0 < n ↔ signalled)
  | resolved (h : s.waits[i]? = some .resolved) (hs : signalled)

section Lawful

variable (h : B.Lawful unseen) {n : Nat}

include h

theorem unseen_step (hn : unseen s.channel receiver = some n) (op : Op) :
    unseen (s.step op).channel receiver =
      some (n+if op = .trigger ∧ s.receiverCount ≠ 0 then 1 else 0) := by
  cases op with
  | subscribe => exact (h.subscribe _).unseen _ _ hn
  | wait => exact (h.subscribe _).unseen _ _ hn
  | quit j =>
    show unseen (s.quit j).channel receiver = some n
    rw [quit]
    split
    · exact (h.leave _ _).unseen _ _ hn
    · exact hn
  | poll j =>
    show unseen (s.poll j).channel receiver = some n
    rcases s.pending_or_other j with ⟨other, hj⟩ | hj
    · have hreceive := (h.receive other s.channel).unseen _ _ hn
      by_cases he : s.Ends other
      · rw [poll_ends hj he]
        exact (h.leave _ _).unseen _ _ hreceive
      · rw [poll_waiting hj he]
        exact hreceive
    · rwa [poll_other hj]
  | drop j =>
    show unseen (s.drop j).channel receiver = some n
    rcases s.pending_or_other j with ⟨other, hj⟩ | hj
    · rw [drop_pending hj]
      exact (h.leave _ _).unseen _ _ hn
    · rwa [drop_other hj]
  | trigger =>
    have hsent := (h.send s.channel).unseen _ _ hn
    show unseen (B.send s.channel) receiver = _
    rw [hsent, receiverCount]
    by_cases hr : B.receivers s.channel = 0 <;> simp [hr]
  | clone => exact (h.addSender _).unseen _ _ hn
  | release => exact (h.dropSender _).unseen _ _ hn

variable {clones : Nat} (hs : s.Sound clones)

include hs

theorem Awaits.step (ha : Awaits unseen s i n) {op : Op} (hp : op ≠ .poll i)
    (hd : op ≠ .drop i) :
    Awaits unseen (s.step op) i (n+if op = .trigger then 1 else 0) := by
  obtain ⟨receiver, hw, hn⟩ := ha
  refine ⟨receiver, waits_step hw hp hd, ?_⟩
  have hreceivers : s.receiverCount ≠ 0 := by
    have hset := pendingIn_drop hw
    rw [hs.receivers]
    omega
  rw [unseen_step h hn]
  simp [hreceivers]

theorem Follows.poll {signalled : Prop} (hc : 0 < clones) (hf : Follows unseen s i signalled) :
    Follows unseen (s.poll i) i signalled ∧
      (signalled → (s.poll i).waits[i]? = some .resolved) := by
  cases hf with
  | resolved hw hsignalled =>
    have hw' : (s.poll i).waits[i]? = some .resolved := resolved_step hw (.poll i)
    exact ⟨.resolved hw' hsignalled, fun _ => hw'⟩
  | @pending n ha hn =>
    obtain ⟨receiver, hw, hunseen⟩ := ha
    obtain ⟨hi, -⟩ := List.getElem?_eq_some_iff.mp hw
    cases n with
    | zero =>
      have hsenders : 0 < B.senders s.channel := hs.senders ▸ hc
      obtain ⟨hwaiting, hlater⟩ := h.seen receiver s.channel hunseen hsenders
      have hp : Awaits unseen (s.poll i) i 0 := by
        rw [poll_waiting hw (fun he => he hwaiting)]
        exact ⟨_, List.getElem?_set_self hi, hlater⟩
      exact ⟨.pending hp hn, fun hsignalled => absurd (hn.mpr hsignalled) (Nat.lt_irrefl 0)⟩
    | succ n =>
      have he : s.Ends receiver := by
        rcases h.unread receiver s.channel n hunseen with hm | ⟨missed, hm⟩
        · simp [Ends, hm]
        · simp [Ends, hm]
      have hw' : (s.poll i).waits[i]? = some .resolved := by
        rw [poll_ends hw he]
        exact List.getElem?_set_self hi
      exact ⟨.resolved hw' (hn.mp (Nat.succ_pos n)), fun _ => hw'⟩

theorem Follows.step {signalled : Prop} (hc : 0 < clones) (hf : Follows unseen s i signalled)
    {op : Op} (hd : op ≠ .drop i) : Follows unseen (s.step op) i (signalled ∨ op = .trigger) := by
  by_cases hp : op = .poll i
  · subst hp
    show Follows unseen (s.poll i) i _
    simpa using (hf.poll h hs hc).1
  · cases hf with
    | resolved hw hsignalled => exact .resolved (resolved_step hw op) (.inl hsignalled)
    | @pending n ha hn =>
      refine .pending (ha.step h hs hp hd) ?_
      rw [← hn]
      by_cases ht : op = .trigger <;> simp [ht]

end Lawful

/-- Whatever is done, a wait that is not dropped follows the signals sent since. -/
theorem Follows.run (h : B.Lawful unseen) {clones : Nat} (hs : s.Sound clones) {ops : List Op}
    (hc : Alive clones ops) (hd : .drop i ∉ ops) {signalled : Prop}
    (hf : Follows unseen s i signalled) :
    Follows unseen (s.run ops) i (signalled ∨ .trigger ∈ ops) := by
  induction ops generalizing s clones signalled with
  | nil =>
    show Follows unseen s i _
    simpa using hf
  | cons op ops ih =>
    have hne : op ≠ .drop i := fun he => hd (he ▸ List.mem_cons_self)
    have hrest := ih (sound_step h hs op) hc.2 (fun hin => hd (List.mem_cons_of_mem op hin))
      (hf.step h hs hc.1 hne)
    have hsame : (signalled ∨ op = .trigger) ∨ .trigger ∈ ops ↔
        signalled ∨ .trigger ∈ op::ops := by
      rw [List.mem_cons, or_assoc, eq_comm]
    rwa [hsame] at hrest

end Shutdown

end WebApplication
