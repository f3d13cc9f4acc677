import Mdkd.Framework.Json
import Mdkd.Impl.Daemon

/-!
# Webhook deliveries

`daemon::webhook::dispatcher`: each call of `spawn_webhook_delivery` starts a
task that runs `deliver`, a loop over `RETRY_DELAYS`. A task acts at two kinds
of moments: when it is scheduled at the head of its loop (`Task.wake`), and when
a request of its comes to an end (`Task.answer`). Clock readings are
nanoseconds. The JSON writer and HMAC-SHA256 are parameters.
-/

namespace Mdkd.Dispatcher

open Framework Daemon

/-- `RETRY_DELAYS`: 1 s, 5 s and 30 s. -/
def retryDelays : List Nat := [1 * 10 ^ 9, 5 * 10 ^ 9, 30 * 10 ^ 9]

/-- The `timeout` of a request: 10 s. -/
def requestTimeout : Nat := 10 * 10 ^ 9

/-- `serde_json::to_string`, HMAC-SHA256 of a key and a message, and the key. -/
structure Env where
  toString : Json → String
  hmacSha256 : List UInt8 → List UInt8 → Bytes32
  secret : List UInt8

end Mdkd.Dispatcher

namespace Mdkd.Daemon

open Framework

/-- `WebhookEvent::timestamp`. -/
def WebhookEvent.timestamp : WebhookEvent → UInt64
  | .paymentReceived _ _ _ timestamp => timestamp
  | .invoiceExpired _ _ timestamp => timestamp

def JsonValue.json : JsonValue → Json
  | .text s => .string s
  | .number n => .number (.ofNat n.toNat)
  | .null => .null

/-- The JSON object of an event. -/
def WebhookEvent.json (event : WebhookEvent) : Json :=
  .object (event.toJson.map fun field => (field.1, field.2.json))

end Mdkd.Daemon

namespace Mdkd.Dispatcher

open Framework Daemon

/-! ## Requests -/

/-- A request `deliver` makes, a `POST`. -/
structure Post where
  url : String
  headers : List (String × String)
  body : List UInt8
  deriving DecidableEq

/-- `compute_hmac`. -/
def computeHmac (env : Env) (body : List UInt8) : String := toHex (env.hmacSha256 env.secret body)

/-- `serde_json::to_vec` of an event. -/
def body (env : Env) (event : WebhookEvent) : List UInt8 := utf8 (env.toString event.json)

/-- The request of a delivery, which is the same at each attempt. -/
def post (env : Env) (delivery : Delivery) : Post :=
  let body := body env delivery.event
  { url := delivery.webhookUrl
    headers :=
      [("Content-Type", "application/json"), ("X-MDK-Signature", computeHmac env body),
        ("X-MDK-Timestamp", toString delivery.event.timestamp.toNat)]
    body }

/-- What a request comes to: a response with a status, or an error. -/
inductive Reply where
  | status (code : UInt16)
  | error
  deriving DecidableEq

/-- `StatusCode::is_success`. -/
def Reply.isSuccess : Reply → Bool
  | .status code => 200 ≤ code && code < 300
  | .error => false

/-! ## Tasks -/

/-- A request that has come to an end. -/
structure Attempt where
  post : Post
  sentAt : Nat
  answeredAt : Nat
  reply : Reply
  deriving DecidableEq

/-- Where `deliver` is: before the next of `delays`, once it has slept until
`wakeAt`; waiting for the reply to a request, with the delay that follows it; or
at one of its two ends. -/
inductive Phase where
  | sleeping (wakeAt : Nat) (delays : List Nat)
  | posting (post : Post) (sentAt delay : Nat) (delays : List Nat)
  | delivered
  | exhausted
  deriving DecidableEq

structure Task where
  delivery : Delivery
  spawnedAt : Nat
  attempts : List Attempt
  phase : Phase
  deriving DecidableEq

/-- `spawn_webhook_delivery`. -/
def Task.spawn (now : Nat) (delivery : Delivery) : Task :=
  ⟨delivery, now, [], .sleeping now retryDelays⟩

/-- The head of the loop: the next attempt, or `Err`. -/
def Task.wake (env : Env) (now : Nat) (t : Task) : Task :=
  match t.phase with
  | .sleeping wakeAt delays =>
    if now < wakeAt then t
    else
      match delays with
      | [] => { t with phase := .exhausted }
      | delay :: delays => { t with phase := .posting (post env t.delivery) now delay delays }
  | _ => t

/-- The end of a request. A reply after the timeout is not waited for. -/
def Task.answer (now : Nat) (reply : Reply) (t : Task) : Task :=
  match t.phase with
  | .posting post sentAt delay delays =>
    let reply := if sentAt + requestTimeout < now then .error else reply
    { t with
      attempts := t.attempts ++ [⟨post, sentAt, now, reply⟩]
      phase := if reply.isSuccess then .delivered else .sleeping (now + delay) delays }
  | _ => t

/-- The requests a task has made. -/
def Task.posts (t : Task) : List Post :=
  t.attempts.map (·.post) ++
    match t.phase with
    | .posting post _ _ _ => [post]
    | _ => []

end Mdkd.Dispatcher
