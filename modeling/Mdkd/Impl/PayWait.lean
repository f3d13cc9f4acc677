import Mdkd.Impl.EventLoop
import Mdkd.Impl.Pay

/-!
# Waiting for a payment

`daemon::api::pay_any::handle_pay` with seconds to wait, from its subscription
to its reply, beside the tasks that send on the channel it reads and the node
that keeps the records of payments. They interleave at every step; what the
environment decides (the events of the node, its records, the payment's id, the
timeout) is in the inputs.
-/

namespace Mdkd.PayWait

open Framework Pay
open EventLoop (Message channelCapacity)

def hexTable : List Char :=
  ['0', '1', '2', '3', '4', '5', '6', '7', '8', '9', 'a', 'b', 'c', 'd', 'e', 'f']

/-- `DisplayHex::to_lower_hex_string`: two characters of the table for each byte. -/
def toLowerHexString (bytes : Bytes32) : String :=
  String.ofList (bytes.toList.flatMap fun (b : UInt8) =>
    [hexTable.getD (b >>> 4).toNat '0', hexTable.getD (b &&& 15).toNat '0'])

/-- Why the wait loop is over. -/
inductive Ended where
  | settled (event : MdkEvent)
  | closed
  | timedOut
  deriving DecidableEq

/-- Where the call is. The receiver exists from the subscription on; the id is
known once the payment is dispatched. -/
inductive Call where
  | resolved
  | subscribed (rx : Receiver Message channelCapacity)
  | refused (e : AppError)
  | waiting (paymentId : PaymentId) (rx : Receiver Message channelCapacity)
  | ended (paymentId : PaymentId) (why : Ended)
  | replied (paymentId : PaymentId) (why : Ended) (response : PayResponse)

/-- The call, the tasks around it, and the node's records of payments. -/
structure System where
  tasks : EventLoop.System
  clientDropped : Bool
  node : PaymentStore
  target : PaymentTarget
  call : Call

/-- A call whose target is resolved. -/
def System.init (tasks : EventLoop.System) (node : PaymentStore) (target : PaymentTarget) :
    System :=
  ⟨tasks, false, node, target, .resolved⟩

inductive Input where
  | task (i : EventLoop.Input)
  | records (node : PaymentStore)
  | dropClient
  | subscribe
  | dispatch (result : Except AppError PaymentId)
  | recv
  | timeout
  | reply

/-- The events the loop returns on. -/
def settles (paymentIdHex : String) : MdkEvent → Bool
  | .paymentSuccessful paymentId _ _ | .paymentFailed paymentId _ => paymentId = paymentIdHex
  | _ => false

/-- The message a step sends on the channel. -/
def System.sends (s : System) : Input → Option Message
  | .task i => if s.clientDropped then none else s.tasks.sends i
  | _ => none

/-! ## The call -/

def Call.subscribe : Call → Call
  | .resolved => .subscribed .subscribe
  | c => c

/-- The payment is handed to the node, which answers with its id. -/
def Call.dispatch (result : Except AppError PaymentId) : Call → Call
  | .subscribed rx =>
    match result with
    | .ok id => .waiting id rx
    | .error e => .refused e
  | c => c

/-- A send, to the call's receiver if there is one. -/
def Call.send (m : Option Message) : Call → Call
  | .subscribed rx => .subscribed (m.elim rx rx.send)
  | .waiting id rx => .waiting id (m.elim rx rx.send)
  | c => c

/-- One turn of the loop. A closed channel gives what is left in it first. -/
def turn (clientDropped : Bool) (id : PaymentId) (rx : Receiver Message channelCapacity) : Call :=
  match rx.recv.1 with
  | .message m =>
    if settles (toLowerHexString id.bytes) m.event then .ended id (.settled m.event)
    else .waiting id rx.recv.2
  | .lagged _ => .waiting id rx.recv.2
  | .empty => if clientDropped then .ended id .closed else .waiting id rx.recv.2

def Call.recv (clientDropped : Bool) : Call → Call
  | .waiting id rx => turn clientDropped id rx
  | c => c

def Call.timeout : Call → Call
  | .waiting id _ => .ended id .timedOut
  | c => c

/-- The response, from the node's record after the loop is over. -/
def replyTo (node : PaymentStore) (target : PaymentTarget) (id : PaymentId) : PayResponse :=
  let details := node.payment id
  let fallback := match details with
    | some d => mapStatus d.status
    | none => .pending
  buildResponse id details target fallback

def Call.reply (node : PaymentStore) (target : PaymentTarget) : Call → Call
  | .ended id why => .replied id why (replyTo node target id)
  | c => c

/-! ## Steps -/

def step (s : System) : Input → System
  | .task i =>
    if s.clientDropped then s
    else { s with tasks := EventLoop.step s.tasks i, call := s.call.send (s.sends (.task i)) }
  | .records node => { s with node }
  | .dropClient => { s with clientDropped := true }
  | .subscribe => { s with call := s.call.subscribe }
  | .dispatch result => { s with call := s.call.dispatch result }
  | .recv => { s with call := s.call.recv s.clientDropped }
  | .timeout => { s with call := s.call.timeout }
  | .reply => { s with call := s.call.reply s.node s.target }

end Mdkd.PayWait
