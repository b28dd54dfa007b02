/-!
# Broadcast channels

What is sent on a channel reaches everyone who is a receiver at the time. A receiver that
looks finds a message, or that the channel no longer keeps the ones it missed, or nothing
yet. A channel that nobody can send on any more is closed.
-/

set_option autoImplicit false

namespace WebApplication

inductive Received where
  | waiting
  | message
  | lagged (missed : Nat)
  | closed
  deriving DecidableEq, Repr

/-- A kind of channels whose messages say nothing but that they were sent. -/
structure Broadcast where
  Channel : Type
  Receiver : Type
  /-- A channel that keeps so many messages, with one sender and one receiver. -/
  create : Nat → Receiver × Channel
  subscribe : Channel → Receiver × Channel
  receive : Receiver → Channel → Received × Receiver × Channel
  leave : Receiver → Channel → Channel
  send : Channel → Channel
  addSender : Channel → Channel
  dropSender : Channel → Channel
  receivers : Channel → Nat
  senders : Channel → Nat

/-- A channel that counts its messages. A receiver knows how many were sent before the one
that it is to see next. -/
structure Tally where
  capacity : Nat
  sent : Nat
  receivers : Nat
  senders : Nat
  deriving DecidableEq, Repr

namespace Tally

/-- Messages stay until they have been seen; of those sent since, only so many are kept. -/
def receive (next : Nat) (c : Tally) : Received × Nat × Tally :=
  if c.sent ≤ next then (if c.senders = 0 then .closed else .waiting, next, c)
  else if c.sent ≤ next+c.capacity then (.message, next+1, c)
  else (.lagged (c.sent-c.capacity-next), c.sent-c.capacity, c)

def send (c : Tally) : Tally := if c.receivers = 0 then c else { c with sent := c.sent+1 }

end Tally

def Broadcast.counting : Broadcast where
  Channel := Tally
  Receiver := Nat
  create capacity := (0, ⟨capacity, 0, 1, 1⟩)
  subscribe c := (c.sent, { c with receivers := c.receivers+1 })
  receive := Tally.receive
  leave _ c := { c with receivers := c.receivers-1 }
  send := Tally.send
  addSender c := { c with senders := c.senders+1 }
  dropSender c := { c with senders := c.senders-1 }
  receivers := Tally.receivers
  senders := Tally.senders

end WebApplication
