import Mdkd.Framework.Act
import Mdkd.Framework.Text
import Mdkd.Impl.Types

/-!
# The client

`mdk::client`: creating a checkout, and turning the node's events into the
client's. The platform API, the node and `chrono` answer through
`CheckoutEnv`.
-/

namespace Mdkd.Client

open Framework

def defaultExpirySecs : UInt32 := 3600

def maxDescriptionLen : Nat := 128

/-! ## Ids and hashes as texts -/

/-- `PaymentHash`'s and `PaymentPreimage`'s `Display`. -/
def displayHash (h : Bytes32) : String := toHex h

/-- `Txid`'s `Display`, which shows the bytes in reverse. -/
def displayTxid (txid : Bytes32) : String := toHex txid.reverse

/-- `format_payment_id`. -/
def formatPaymentId : Option PaymentId → String
  | some pid => toHex pid.bytes
  | none => "unknown"

/-! ## Events of the node -/

structure PaymentEntry where
  paymentHash : String
  amountSats : UInt64
  sandbox : Bool
  deriving DecidableEq

structure PaymentReceivedRequest where
  payments : List PaymentEntry
  deriving DecidableEq

/-- What `notify_payment_received` posts; its answer is only logged. -/
def notifyPaymentReceived (paymentHash : String) (amountSats : UInt64) : PaymentReceivedRequest :=
  ⟨[⟨paymentHash, amountSats, false⟩]⟩

/-- `handle_ldk_event`: the requests posted to the platform, and the event
the client emits. -/
def handleLdkEvent : LdkEvent → List PaymentReceivedRequest × Option MdkEvent
  | .paymentReceived paymentHash amountMsat =>
    let amountSats := amountMsat / 1000
    ([notifyPaymentReceived paymentHash amountSats], some (.paymentReceived paymentHash amountSats))
  | .paymentSuccessful paymentId paymentHash feePaidMsat =>
    ([], some (.paymentSuccessful (formatPaymentId paymentId) (some paymentHash)
      (feePaidMsat.map (· / 1000))))
  | .paymentFailed paymentId _ reason =>
    ([], some (.paymentFailed (formatPaymentId paymentId) reason))
  | .channelPending channelId counterpartyNodeId =>
    ([], some (.channelPending channelId counterpartyNodeId))
  | .channelReady channelId counterpartyNodeId =>
    ([], some (.channelReady channelId (counterpartyNodeId.getD "")))
  | .paymentForwarded totalFeeEarnedMsat =>
    ([], some (.paymentForwarded (totalFeeEarnedMsat.map (· / 1000))))
  | .splicePending channelId newFundingTxid =>
    ([], some (.splicePending channelId newFundingTxid))
  | .spliceFailed channelId abandonedFundingTxid =>
    let reason := match abandonedFundingTxid with
      | some txid => "abandoned splice tx " ++ txid
      | none => "splice abandoned before tx broadcast"
    ([], some (.spliceFailed channelId reason))
  | .other => ([], none)

/-! ## Creating a checkout -/

inductive InvoiceDescription where
  | direct (text : String)
  | hash (bytes : Bytes32)
  deriving DecidableEq

structure Customer where
  name : Option String
  email : Option String
  externalId : Option String
  deriving DecidableEq

/-- `CreateCheckoutParams`. `metadata` is the text of a JSON value. -/
structure CreateCheckoutParams where
  amountSat : Option UInt64
  description : InvoiceDescription
  expirySeconds : Option UInt32
  product : Option String
  currency : Option String
  successUrl : Option String
  metadata : Option String
  customer : Option Customer
  deriving DecidableEq

structure CheckoutResult where
  checkoutId : String
  invoice : String
  paymentHash : String
  amountSat : Option UInt64
  expiresAt : Option UInt64
  deriving DecidableEq

structure CreateCheckoutRequest where
  nodeId : String
  amount : Option UInt64
  currency : Option String
  products : Option (List String)
  successUrl : Option String
  metadata : Option String
  customer : Option Customer
  deriving DecidableEq

/-- `Checkout`, the platform's answer. -/
structure Checkout where
  id : String
  status : String
  invoiceAmountSats : Option UInt64
  deriving DecidableEq

structure RegisterInvoiceRequest where
  nodeId : String
  scid : String
  checkoutId : String
  invoice : String
  paymentHash : String
  invoiceExpiresAt : String
  deriving DecidableEq

/-- `MdkApiError`. -/
inductive MdkApiError where
  | network (display : String)
  | api (code message : String) (status : UInt16)
  | deserialize (msg : String)
  deriving DecidableEq

/-- `From<MdkApiError> for MdkError`. -/
def ofApiError : MdkApiError → MdkError
  | .network display => .network display
  | .api code message status => .platform code message status
  | .deserialize msg => .network msg

/-- The calls `createCheckout` makes. -/
inductive CheckoutCall where
  | createCheckout (req : CreateCheckoutRequest)
  | receiveViaJitChannel (amountMsat : Option UInt64) (description : InvoiceDescription)
      (expirySecs : UInt32)
  | registerInvoice (req : RegisterInvoiceRequest)
  deriving DecidableEq

/-- The surroundings of `createCheckout`. `toRfc3339` is `chrono`'s text of a
Unix time, `none` out of its range. -/
structure CheckoutEnv where
  nodeId : String
  createCheckout : CreateCheckoutRequest → Except MdkApiError Checkout
  receiveViaJitChannel : Option UInt64 → InvoiceDescription → UInt32 →
    Except NodeError Bolt11Invoice
  registerInvoice : RegisterInvoiceRequest → Except MdkApiError Checkout
  toRfc3339 : Int64 → Option String

/-- `to_bolt11_description`. `Description::new` refuses nothing this short. -/
def toBolt11Description : InvoiceDescription → Except MdkError InvoiceDescription
  | .direct text =>
    if text.utf8ByteSize > maxDescriptionLen then
      .error (.invalidInput ("description too long (max " ++ toString maxDescriptionLen ++
        " characters)"))
    else .ok (.direct text)
  | .hash bytes => .ok (.hash bytes)

/-- `extract_scid`: the first hop of the route hints. -/
def extractScid (invoice : Bolt11Invoice) : String :=
  match invoice.scid with
  | some scid => toString scid.toNat
  | none => ""

/-- The request `create_checkout` posts to the platform. -/
def checkoutRequest (env : CheckoutEnv) (params : CreateCheckoutParams) :
    CreateCheckoutRequest where
  nodeId := env.nodeId
  amount := params.amountSat
  currency := params.currency.or (some "SAT")
  products := params.product.map ([·])
  successUrl := params.successUrl
  metadata := params.metadata
  customer := params.customer

/-- The amount of the invoice: the platform's, else the one asked for. -/
def invoiceAmountMsat (checkout : Checkout) (amountSat : Option UInt64) : Option UInt64 :=
  match checkout.invoiceAmountSats with
  | some sats => some (sats * 1000)
  | none => amountSat.map (· * 1000)

/-- `MdkClient::create_checkout`. -/
def createCheckout (env : CheckoutEnv) (params : CreateCheckoutParams) :
    Act CheckoutCall MdkError CheckoutResult := do
  let description ← .lift (toBolt11Description params.description)
  let expirySecs := params.expirySeconds.getD defaultExpirySecs
  let checkoutReq := checkoutRequest env params
  let checkout ← .call (.createCheckout checkoutReq)
    ((env.createCheckout checkoutReq).mapError ofApiError)
  let amountMsat := invoiceAmountMsat checkout params.amountSat
  let invoice ← .call (.receiveViaJitChannel amountMsat description expirySecs)
    ((env.receiveViaJitChannel amountMsat description expirySecs).mapError fun e =>
      .node ("failed to create JIT invoice: " ++ e.toText))
  let paymentHash := displayHash invoice.paymentHash
  let registerReq : RegisterInvoiceRequest :=
    { nodeId := env.nodeId
      scid := extractScid invoice
      checkoutId := checkout.id
      invoice := invoice.text
      paymentHash := paymentHash
      invoiceExpiresAt := (invoice.expiresAt.bind fun secs => env.toRfc3339 secs.toInt64).getD "" }
  let _ ← .call (.registerInvoice registerReq)
    ((env.registerInvoice registerReq).mapError ofApiError)
  return { checkoutId := checkout.id
           invoice := invoice.text
           paymentHash := paymentHash
           amountSat := invoice.amountMilliSatoshis.map (· / 1000)
           expiresAt := invoice.expiresAt }

end Mdkd.Client
