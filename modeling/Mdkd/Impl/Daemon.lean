import Mdkd.Impl.Store
import Mdkd.Impl.Types

/-!
# The daemon's tasks

`daemon::event_loop` and `daemon::expiry`: what an event of the client and an
iteration of the expiry monitor do to the store, and the notifications they
send. Each reads the clock, and for each store operation whether it succeeded,
from its arguments. A websocket message is the event whose JSON it is.
-/

namespace Mdkd.Daemon

/-- `WebhookEvent`. -/
inductive WebhookEvent where
  | paymentReceived (paymentHash : String) (amountMsat : UInt64) (externalId : Option String)
      (timestamp : UInt64)
  | invoiceExpired (paymentHash : String) (externalId : Option String) (timestamp : UInt64)
  deriving DecidableEq

/-- A value in a JSON object. -/
inductive JsonValue where
  | text (s : String)
  | number (n : UInt64)
  | null
  deriving DecidableEq

def JsonValue.ofText : Option String → JsonValue
  | some s => .text s
  | none => .null

/-- The fields of the JSON object of an event, in order. A webhook is sent this
object as its body, and the websocket as a text. -/
def WebhookEvent.toJson : WebhookEvent → List (String × JsonValue)
  | .paymentReceived paymentHash amountMsat externalId timestamp =>
    [("event", .text "payment_received"), ("paymentHash", .text paymentHash),
      ("amountMsat", .number amountMsat), ("externalId", .ofText externalId),
      ("timestamp", .number timestamp)]
  | .invoiceExpired paymentHash externalId timestamp =>
    [("event", .text "invoice_expired"), ("paymentHash", .text paymentHash),
      ("externalId", .ofText externalId), ("timestamp", .number timestamp)]

/-- A call of `spawn_webhook_delivery`. -/
structure Delivery where
  webhookUrl : String
  event : WebhookEvent
  deriving DecidableEq

/-- The store, the webhook deliveries spawned and the websocket messages sent. -/
structure State where
  store : InvoiceMetadataStore
  spawned : List Delivery
  messages : List WebhookEvent

/-- A daemon on an empty database. -/
def State.init : State := ⟨.empty, [], []⟩

/-- `handle_event`. -/
def handleEvent (now : UInt64) (lookupOk markOk : Bool) (s : State) (event : MdkEvent) : State :=
  match event with
  | .paymentReceived paymentHash amountSats =>
    if ¬ lookupOk then s
    else
      match s.store.getByPaymentHash paymentHash with
      | none => s
      | some metadata =>
        let webhookEvent : WebhookEvent :=
          .paymentReceived paymentHash (amountSats * 1000) metadata.externalId now
        { store := if markOk then s.store.markPaid paymentHash else s.store
          spawned := s.spawned ++ (metadata.webhookUrl.map (⟨·, webhookEvent⟩)).toList
          messages := s.messages ++ [webhookEvent] }
  | _ => s

/-- The notification of an expired invoice, if it has a webhook. -/
def expiredDelivery (now : UInt64) (metadata : InvoiceMetadata) : Option Delivery :=
  metadata.webhookUrl.map fun webhookUrl =>
    ⟨webhookUrl, .invoiceExpired metadata.paymentHash metadata.externalId now⟩

/-- One invoice of an iteration of `run_expiry_monitor`. -/
def notifyExpired (now : UInt64) (markOk : String → Bool) (s : State) (metadata : InvoiceMetadata) :
    State :=
  match expiredDelivery now metadata with
  | none => s
  | some delivery =>
    { s with
      spawned := s.spawned ++ [delivery]
      store :=
        if markOk metadata.paymentHash then s.store.markExpiredNotified metadata.paymentHash
        else s.store }

/-- An iteration of `run_expiry_monitor`. -/
def pollExpired (now : UInt64) (queryOk : Bool) (markOk : String → Bool) (s : State) : State :=
  if ¬ queryOk then s
  else (s.store.getExpiredPending now).foldl (notifyExpired now markOk) s

/-! ## Steps -/

/-- What happens to the daemon: an invoice is recorded, the event loop takes an
event, or the expiry monitor polls; with the clock, and which store operations
succeed. -/
inductive Input where
  | insert (metadata : InvoiceMetadata) (ok : Bool)
  | event (event : MdkEvent) (now : UInt64) (lookupOk markOk : Bool)
  | poll (now : UInt64) (queryOk : Bool) (markOk : String → Bool)

def step (s : State) : Input → State
  | .insert metadata ok =>
    if ok then { s with store := (s.store.insert metadata).getD s.store } else s
  | .event event now lookupOk markOk => handleEvent now lookupOk markOk s event
  | .poll now queryOk markOk => pollExpired now queryOk markOk s

end Mdkd.Daemon
