import Mdkd.Framework.Broadcast
import Mdkd.Impl.Client

/-!
# The tasks that pass events on

`main` starts the client, whose event loop takes events from the node, turns
each into the client's (`handle_ldk_event`), acknowledges it to the node
(`event_handled`) and emits it on a broadcast channel; then it spawns the
daemon's event loop, which subscribes and hands what it receives to
`handle_event`. The splice manager emits on the same channel. Tasks interleave
at every step, and a stop or a crash is where a run ends.
-/

namespace Mdkd.EventLoop

open Framework

/-- An event of the node, numbered by its place among all of them. -/
structure Numbered where
  number : Nat
  event : LdkEvent
  deriving DecidableEq

/-- A message on the channel, with the node's event it was made from. -/
structure Message where
  source : Option Numbered
  event : MdkEvent
  deriving DecidableEq

/-- Where the client's event loop is: waiting for an event, before the
acknowledgement of one, or between that and emitting it. -/
inductive ClientLoop where
  | notStarted
  | waiting
  | handling (e : Numbered)
  | acknowledged (e : Numbered)
  deriving DecidableEq

/-- `broadcast::channel(256)`. -/
abbrev channelCapacity : Nat := 256

/-- The node's queue of events, the client's loop, the events acknowledged to
the node, the daemon's receiver once it has subscribed, and the messages handed
to `handle_event`. -/
structure System where
  queue : List Numbered
  next : Nat
  client : ClientLoop
  acknowledged : List Numbered
  daemon : Option (Receiver Message channelCapacity)
  handled : List Message

def System.init : System := ⟨[], 0, .notStarted, [], none, []⟩

inductive Input where
  | enqueue (event : LdkEvent)
  | start
  | nextEvent
  | eventHandled (ok : Bool)
  | emit
  | spliceManagerEmit (event : MdkEvent)
  | subscribe
  | recv

/-- The message a step sends on the channel. -/
def System.sends (s : System) : Input → Option Message
  | .emit =>
    match s.client with
    | .acknowledged e => (Client.handleLdkEvent e.event).2.map (⟨some e, ·⟩)
    | _ => none
  | .spliceManagerEmit event => if s.client = .notStarted then none else some ⟨none, event⟩
  | _ => none

/-- A send: without a receiver it drops the message. -/
def System.send (s : System) (m : Option Message) : System :=
  match m with
  | none => s
  | some m => { s with daemon := s.daemon.map (·.send m) }

/-- `event_handled`: the node removes the event, unless the call fails. -/
def System.eventHandled (s : System) (e : Numbered) (ok : Bool) : System :=
  if ok then { s with queue := s.queue.tail, acknowledged := s.acknowledged ++ [e] } else s

/-- One read of the daemon's event loop. -/
def System.recv (s : System) : System :=
  match s.daemon with
  | none => s
  | some r =>
    { s with daemon := some r.recv.2, handled := s.handled ++ r.recv.1.message?.toList }

def step (s : System) : Input → System
  | .enqueue event => { s with queue := s.queue ++ [⟨s.next, event⟩], next := s.next + 1 }
  | .start => if s.client = .notStarted then { s with client := .waiting } else s
  | .nextEvent =>
    match s.client, s.queue with
    | .waiting, e :: _ => { s with client := .handling e }
    | _, _ => s
  | .eventHandled ok =>
    match s.client with
    | .handling e => { s.eventHandled e ok with client := .acknowledged e }
    | _ => s
  | .emit =>
    match s.client with
    | .acknowledged _ => { s.send (s.sends .emit) with client := .waiting }
    | _ => s
  | .spliceManagerEmit event => s.send (s.sends (.spliceManagerEmit event))
  | .subscribe =>
    if s.client ≠ .notStarted ∧ s.daemon = none then { s with daemon := some .subscribe } else s
  | .recv => s.recv

end Mdkd.EventLoop
