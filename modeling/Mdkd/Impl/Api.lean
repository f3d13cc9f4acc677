import Mdkd.Impl.Auth
import Mdkd.Impl.Balance
import Mdkd.Impl.Channels
import Mdkd.Impl.Daemon
import Mdkd.Impl.Decode
import Mdkd.Impl.Invoices
import Mdkd.Impl.Onchain
import Mdkd.Impl.Pay
import Mdkd.Impl.Payments

/-!
# The API server

`daemon::api::router` and the handlers behind it, beside the daemon's tasks on
the same store. Each request is a task of its own. Its handler runs up to its
operation on the store, of which it makes one at most, and then to its response;
when the client hangs up first, it is dropped after some of its calls. Tasks
interleave in between. The calls recorded are those into the node and to the
platform, each with the task that makes it.
-/

namespace Mdkd.Api

open Framework Auth Client Invoices Onchain Pay Payments Balance Channels Decode

/-! ## Requests and replies -/

/-- What the extractors of a handler make of a request. -/
inductive Args where
  | getInfo
  | getBalance
  | listChannels
  | listIncomingPayments (params : ListPaymentsRequest)
  | getIncomingPayment (paymentHash : String)
  | listOutgoingPayments (params : ListOutgoingPaymentsRequest)
  | getOutgoingPayment (paymentId : String)
  | decodeInvoice (invoice : String)
  | decodeOffer (offer : String)
  | createInvoice (req : CreateInvoiceRequest)
  | closeChannel (req : CloseChannelRequest)
  | sendToAddress (req : SendToAddressRequest)
  | payInvoice (req : PayInvoiceRequest)
  | pay (req : PayRequest)
  deriving DecidableEq

/-- The route of a handler. -/
def Args.route : Args → Route
  | .getInfo => .getInfo
  | .getBalance => .getBalance
  | .listChannels => .listChannels
  | .listIncomingPayments _ => .listIncomingPayments
  | .getIncomingPayment _ => .getIncomingPayment
  | .listOutgoingPayments _ => .listOutgoingPayments
  | .getOutgoingPayment _ => .getOutgoingPayment
  | .decodeInvoice _ => .decodeInvoice
  | .decodeOffer _ => .decodeOffer
  | .createInvoice _ => .createInvoice
  | .closeChannel _ => .closeChannel
  | .sendToAddress _ => .sendToAddress
  | .payInvoice _ => .payInvoice
  | .pay _ => .pay

/-- A request, matched to its route. `args` is what the extractors of the route
make of its path, query and body, or what they refuse it with. -/
structure HttpRequest where
  route : Route
  headers : HeaderMap
  args : Except Refusal Args
  matched : ∀ a, args = .ok a → a.route = route

/-- The request the middlewares see. -/
def HttpRequest.head (r : HttpRequest) : Request := ⟨r.route, r.headers, none⟩

inductive Reply where
  | info (r : GetInfoResponse)
  | balance (r : GetBalanceResponse)
  | channels (rs : List ChannelInfo)
  | incoming (r : IncomingPaymentResponse)
  | incomings (rs : List IncomingPaymentResponse)
  | outgoing (r : OutgoingPaymentResponse)
  | outgoings (rs : List OutgoingPaymentResponse)
  | invoice (r : DecodeInvoiceResponse)
  | offer (r : DecodeOfferResponse)
  | created (r : CreateInvoiceResponse)
  | closing
  | sent (txid : String)
  | paidInvoice (r : PayInvoiceResponse)
  | paid (r : PayResponse)
  | failed (e : AppError)
  deriving DecidableEq

/-- A call into the node or to the platform. -/
inductive NodeCall where
  | checkout (c : CheckoutCall)
  | close (c : ChannelClose)
  | onchain (s : OnchainSend)
  | send (s : LdkSend)
  deriving DecidableEq

/-! ## Handlers -/

/-- What the handlers read of their surroundings at some moment. -/
structure Env where
  invoice : InvoiceEnv
  onchain : OnchainEnv
  pay : PayEnv
  estimate : MaxSendable.EstimateEnv
  spendableOnchainBalanceSats : UInt64
  balanceChannels : List ChannelDetails
  estimateChannels : List ChannelDetails
  lspPubkey : PublicKey
  maxSendable : MaxSendable.MaxSendableConfig
  nodeId : String
  network : Network
  blockHeight : UInt32
  channels : List Channel
  closeChannel : ChannelClose → Except NodeError Unit
  parseInvoice : String → Except String ParsedInvoice
  parseOffer : String → Except String ParsedOffer
  node : PaymentStore
  now : UInt64
  queryError : Option String
  sendsOk : Bool

/-- What a handler has left to do: answer, or an operation on the store first. -/
inductive Pending where
  | reply (r : Reply)
  | record (req : CreateInvoiceRequest) (result : CheckoutResult)
  | recordSend (req : SendToAddressRequest) (txid : Bytes32)
  | listIncomingPayments (params : ListPaymentsRequest)
  | getIncomingPayment (paymentHash : String)
  | listOutgoingPayments (params : ListOutgoingPaymentsRequest)

/-- The reply of a handler that reads and writes no store. -/
def replied {α : Type} (f : α → Reply) (x : Except AppError α) : Act NodeCall AppError Pending :=
  .lift (x.map fun a => .reply (f a))

/-- A handler up to its operation on the store. -/
def start (env : Env) : Args → Act NodeCall AppError Pending
  | .getInfo =>
    replied .info (.ok (handleGetInfo env.nodeId env.network env.blockHeight env.channels))
  | .getBalance =>
    replied .balance (.ok (handleGetBalance env.estimate env.spendableOnchainBalanceSats
      env.balanceChannels env.estimateChannels env.lspPubkey env.maxSendable))
  | .listChannels => replied .channels (.ok (handleListChannels env.channels))
  | .listIncomingPayments params => .lift (.ok (.listIncomingPayments params))
  | .getIncomingPayment paymentHash => .lift (.ok (.getIncomingPayment paymentHash))
  | .listOutgoingPayments params => .lift (.ok (.listOutgoingPayments params))
  | .getOutgoingPayment paymentId =>
    replied .outgoing (handleGetOutgoingPayment env.node paymentId)
  | .decodeInvoice invoice => replied .invoice (handleDecodeInvoice env.parseInvoice invoice)
  | .decodeOffer offer => replied .offer (handleDecodeOffer env.parseOffer offer)
  | .createInvoice req => do
    let result ← (checkoutFor env.invoice req).mapCalls .checkout
    return .record req result
  | .closeChannel req => do
    let _ ← (handleCloseChannel env.channels env.closeChannel req).mapCalls .close
    return .reply .closing
  | .sendToAddress req => do
    let txid ← (Onchain.sendToAddress env.onchain req).mapCalls .onchain
    return .recordSend req txid
  | .payInvoice req => do
    let r ← (handlePayInvoice env.pay req).mapCalls .send
    return .reply (.paidInvoice r)
  | .pay req => do
    let r ← (handlePay env.pay req).mapCalls .send
    return .reply (.paid r)

/-- The reply a result comes to. -/
def Reply.of {α : Type} (f : α → Reply) : Except AppError α → Reply
  | .ok a => f a
  | .error e => .failed e

/-- A handler from its operation on the store to its reply. -/
def finish (env : Env) (store : InvoiceMetadataStore) : Pending → Reply × InvoiceMetadataStore
  | .reply r => (r, store)
  | .record req result =>
    let recorded := recordInvoice env.invoice req store result
    (.of .created recorded.1, recorded.2)
  | .recordSend req txid =>
    let txidStr := displayTxid txid
    (.sent txidStr,
      if env.onchain.insertOk then store.insertOutgoingSend (sendRecord env.onchain req txidStr)
      else store)
  | .listIncomingPayments params =>
    (.of .incomings (handleListIncomingPayments env.node store env.queryError env.now params), store)
  | .getIncomingPayment paymentHash =>
    (.of .incoming (handleGetIncomingPayment env.node store env.queryError env.now paymentHash),
      store)
  | .listOutgoingPayments params =>
    (.outgoings (handleListOutgoingPayments env.node store env.sendsOk env.now params), store)

/-! ## Tasks -/

/-- Where the task of a request is. -/
inductive Stage where
  | arrived
  | running (pending : Pending)
  | answered (response : Response Reply)
  | dropped

structure Task where
  request : HttpRequest
  stage : Stage

/-- The base64 engine and the passwords. -/
structure Config where
  base64 : Base64Engine
  httpAuth : HttpAuth

/-- The layers around the handlers: a handler that is reached gets its
arguments. -/
def layers (cfg : Config) (r : HttpRequest) : Response (Except Refusal Args) :=
  (router cfg.base64 cfg.httpAuth fun _ _ => r.args).serve r.head

namespace Task

/-- A task runs up to its operation on the store; with the calls it makes. -/
def run (cfg : Config) (env : Env) (t : Task) : Task × List NodeCall :=
  match t.stage with
  | .arrived =>
    match layers cfg t.request with
    | .refused r => ({ t with stage := .answered (.refused r) }, [])
    | .handled (.error r) => ({ t with stage := .answered (.refused r) }, [])
    | .handled (.ok args) =>
      let started := start env args
      match started.result with
      | .error e => ({ t with stage := .answered (.handled (.failed e)) }, started.calls)
      | .ok pending => ({ t with stage := .running pending }, started.calls)
  | _ => (t, [])

/-- A task is dropped after its first `k` calls. -/
def cut (cfg : Config) (env : Env) (k : Nat) (t : Task) : Task × List NodeCall :=
  match t.stage with
  | .arrived => ({ t with stage := .dropped }, (t.run cfg env).2.take k)
  | _ => (t, [])

/-- A task runs from its operation on the store to its response. -/
def finish (env : Env) (store : InvoiceMetadataStore) (t : Task) : Task × InvoiceMetadataStore :=
  match t.stage with
  | .running pending =>
    let finished := Api.finish env store pending
    ({ t with stage := .answered (.handled finished.1) }, finished.2)
  | _ => (t, store)

end Task

/-! ## Steps -/

structure State where
  daemon : Daemon.State
  calls : List (Nat × NodeCall)
  tasks : List Task

/-- A server that starts on a database. -/
def State.start (store : InvoiceMetadataStore) : State := ⟨⟨store, [], []⟩, [], []⟩

inductive Input where
  | request (r : HttpRequest)
  | run (task : Nat) (env : Env)
  | cut (task : Nat) (env : Env) (calls : Nat)
  | finish (task : Nat) (env : Env)
  | event (event : MdkEvent) (now : UInt64) (lookupOk markOk : Bool)
  | poll (now : UInt64) (queryOk : Bool) (markOk : String → Bool)

/-- The calls a step makes, with the task that makes them. -/
def State.makes (cfg : Config) (s : State) : Input → List (Nat × NodeCall)
  | .run n env => (s.tasks[n]?.elim [] fun t => (t.run cfg env).2).map (n, ·)
  | .cut n env k => (s.tasks[n]?.elim [] fun t => (t.cut cfg env k).2).map (n, ·)
  | _ => []

/-- The store after a step of the API. -/
def State.storeAfter (s : State) : Input → InvoiceMetadataStore
  | .finish n env => s.tasks[n]?.elim s.daemon.store fun t => (t.finish env s.daemon.store).2
  | _ => s.daemon.store

/-- The tasks after a step. -/
def State.tasksAfter (cfg : Config) (s : State) : Input → List Task
  | .request r => s.tasks ++ [⟨r, .arrived⟩]
  | .run n env => s.tasks.modify n fun t => (t.run cfg env).1
  | .cut n env k => s.tasks.modify n fun t => (t.cut cfg env k).1
  | .finish n env => s.tasks.modify n fun t => (t.finish env s.daemon.store).1
  | _ => s.tasks

def step (cfg : Config) (s : State) (i : Input) : State where
  daemon :=
    match i with
    | .event event now lookupOk markOk =>
      Daemon.handleEvent now lookupOk markOk s.daemon event
    | .poll now queryOk markOk => Daemon.pollExpired now queryOk markOk s.daemon
    | _ => { s.daemon with store := s.storeAfter i }
  calls := s.calls ++ s.makes cfg i
  tasks := s.tasksAfter cfg i

end Mdkd.Api
