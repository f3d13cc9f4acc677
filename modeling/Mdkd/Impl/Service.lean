import Mdkd.Framework.Pool
import Mdkd.Impl.Dispatcher
import Mdkd.Impl.EventLoop
import Mdkd.Impl.Websocket

/-!
# The daemon at work

What `main` spawns, together: the client's event loop and the daemon's
(`EventLoop`), the store they and the API write (`Daemon`), the expiry monitor
with its timer, the webhook deliveries these start (`Dispatcher`), and the
websocket connections their messages go to (`Websocket`). A step is one task's,
or of the time that passes; tasks interleave at every step. The clock is in
nanoseconds from the Unix epoch.
-/

namespace Mdkd.Service

open Framework

/-- `POLL_INTERVAL`: 30 s. -/
def pollInterval : Nat := 30 * 10 ^ 9

/-- `nextPoll` is when the expiry monitor's sleep ends. -/
structure System where
  clock : Nat
  loop : EventLoop.System
  daemon : Daemon.State
  nextPoll : Nat
  tasks : List Dispatcher.Task
  streams : List Websocket.Stream

/-- A daemon that starts with a database. -/
def System.start (clock : Nat) (store : InvoiceMetadataStore) : System :=
  ⟨clock, .init, ⟨store, [], []⟩, clock + pollInterval, [], []⟩

/-- `seconds_since_epoch`. -/
def System.secondsSinceEpoch (s : System) : UInt64 := .ofNat (s.clock / 10 ^ 9)

/-- The steps of the node, of the client's tasks, and of the daemon's event loop
up to its subscription. The splice manager emits two events of its own. -/
inductive LoopInput where
  | enqueue (event : LdkEvent)
  | start
  | nextEvent
  | eventHandled (ok : Bool)
  | emit
  | spliceInitiated (channelId : String)
  | spliceFailed (channelId reason : String)
  | subscribe

def LoopInput.toInput : LoopInput → EventLoop.Input
  | .enqueue event => .enqueue event
  | .start => .start
  | .nextEvent => .nextEvent
  | .eventHandled ok => .eventHandled ok
  | .emit => .emit
  | .spliceInitiated channelId => .spliceManagerEmit (.spliceInitiated channelId)
  | .spliceFailed channelId reason => .spliceManagerEmit (.spliceFailed channelId reason)
  | .subscribe => .subscribe

inductive Input where
  | tick (nanos : Nat)
  | loop (i : LoopInput)
  | recv (lookupOk markOk : Bool)
  | insert (metadata : InvoiceMetadata) (ok : Bool)
  | poll (queryOk : Bool) (markOk : String → Bool)
  | wake (task : Nat)
  | answer (task : Nat) (reply : Dispatcher.Reply)
  | connect
  | read (stream : Nat) (sendOk : Bool)

/-- The text of a websocket message. -/
def text (env : Dispatcher.Env) (event : Daemon.WebhookEvent) : String := env.toString event.json

/-- A step of the daemon: the messages it sends go to the streams, and the
deliveries it spawns start. -/
def System.act (env : Dispatcher.Env) (s : System) (i : Daemon.Input) : System :=
  let daemon := Daemon.step s.daemon i
  let messages := daemon.messages.drop s.daemon.messages.length
  let spawned := daemon.spawned.drop s.daemon.spawned.length
  { s with
    daemon
    tasks := s.tasks ++ spawned.map (.spawn s.clock)
    streams := s.streams.map fun c => (messages.map (text env)).foldl .send c }

/-- The message the daemon's event loop reads next. -/
def System.received (s : System) : Option EventLoop.Message :=
  s.loop.daemon.bind fun rx => rx.recv.1.message?

/-- A turn of the daemon's event loop. -/
def System.recv (env : Dispatcher.Env) (s : System) (lookupOk markOk : Bool) : System :=
  let s' := { s with loop := s.loop.recv }
  match s.received with
  | none => s'
  | some m => s'.act env (.event m.event s.secondsSinceEpoch lookupOk markOk)

/-- A turn of the expiry monitor, once its sleep is over. -/
def System.poll (env : Dispatcher.Env) (s : System) (queryOk : Bool) (markOk : String → Bool) :
    System :=
  if s.clock < s.nextPoll then s
  else
    { s.act env (.poll s.secondsSinceEpoch queryOk markOk) with
      nextPoll := s.clock + pollInterval }

def step (env : Dispatcher.Env) (s : System) : Input → System
  | .tick nanos => { s with clock := s.clock + nanos }
  | .loop i => { s with loop := EventLoop.step s.loop i.toInput }
  | .recv lookupOk markOk => s.recv env lookupOk markOk
  | .insert metadata ok => s.act env (.insert metadata ok)
  | .poll queryOk markOk => s.poll env queryOk markOk
  | .wake n => { s with tasks := s.tasks.modify n (.wake env s.clock) }
  | .answer n reply => { s with tasks := s.tasks.modify n (.answer s.clock reply) }
  | .connect => { s with streams := s.streams ++ [.subscribe] }
  | .read n sendOk => { s with streams := s.streams.modify n (.turn sendOk) }

end Mdkd.Service
