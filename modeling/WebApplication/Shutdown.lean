import WebApplication.Broadcast

/-!
# Shutdown signals

A coordinator signals on a channel that keeps a single message, and its clones share the
channel. A wait subscribes at once, not when it is first polled, so it misses no signal
sent since it began. Whatever its receiver finds ends it, a message or that some were lost.
-/

set_option autoImplicit false

namespace WebApplication

inductive Phase where
  | pending
  | resolved
  | dropped
  deriving DecidableEq, Repr

inductive Wait (B : Broadcast) where
  | pending (receiver : B.Receiver)
  | resolved
  | dropped

def Wait.phase {B : Broadcast} : Wait B → Phase
  | .pending _ => .pending
  | .resolved => .resolved
  | .dropped => .dropped

/-- A coordinator's channel with the receivers that others hold: those of the
subscriptions, and those inside waits. -/
structure Shutdown (B : Broadcast := .counting) where
  channel : B.Channel
  subscribers : List B.Receiver
  waits : List (Wait B)

namespace Shutdown

variable {B : Broadcast}

def start : Shutdown B :=
  let (receiver, channel) := B.create 1
  ⟨B.leave receiver channel, [], []⟩

def subscribe (s : Shutdown B) : Shutdown B :=
  let (receiver, channel) := B.subscribe s.channel
  { s with channel, subscribers := s.subscribers++[receiver] }

def quit (s : Shutdown B) (i : Nat) : Shutdown B :=
  match s.subscribers[i]? with
  | some receiver =>
    { s with channel := B.leave receiver s.channel, subscribers := s.subscribers.eraseIdx i }
  | none => s

def unsubscribe (s : Shutdown B) : Shutdown B := s.quit (s.subscribers.length-1)

def trigger (s : Shutdown B) : Shutdown B := { s with channel := B.send s.channel }

def wait (s : Shutdown B) : Shutdown B :=
  let (receiver, channel) := B.subscribe s.channel
  { s with channel, waits := s.waits++[.pending receiver] }

def poll (s : Shutdown B) (i : Nat) : Shutdown B :=
  match s.waits[i]? with
  | some (.pending receiver) =>
    match B.receive receiver s.channel with
    | (.waiting, receiver, channel) =>
      { s with channel, waits := s.waits.set i (.pending receiver) }
    | (_, receiver, channel) =>
      { s with channel := B.leave receiver channel, waits := s.waits.set i .resolved }
  | _ => s

def pollAll (s : Shutdown B) : Shutdown B := (List.range s.waits.length).foldl poll s

def drop (s : Shutdown B) (i : Nat) : Shutdown B :=
  match s.waits[i]? with
  | some (.pending receiver) =>
    { s with channel := B.leave receiver s.channel, waits := s.waits.set i .dropped }
  | _ => s

def clone (s : Shutdown B) : Shutdown B := { s with channel := B.addSender s.channel }

def release (s : Shutdown B) : Shutdown B := { s with channel := B.dropSender s.channel }

def receiverCount (s : Shutdown B) : Nat := B.receivers s.channel

def isResolved (w : Wait B) : Bool := w.phase = .resolved

end Shutdown

end WebApplication
