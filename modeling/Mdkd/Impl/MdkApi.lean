import Mdkd.Framework.Record
import Mdkd.Impl.Client

/-!
# The platform's API

`mdk::mdk_api`: the requests of the client, each in an oRPC envelope and posted
with the access token, and what becomes of the responses. `reqwest`, the JSON
writer and the JSON readers are parameters. A JSON text is read to its value;
what `serde` makes of the value is `Framework.Record`.
-/

namespace Mdkd.MdkApi

open Framework Client

structure HttpRequest where
  url : String
  headers : List (String × String)
  body : List UInt8
  deriving DecidableEq

/-- A response. Its body may be cut short, which is an error of the network. -/
structure HttpResponse where
  status : UInt16
  bytes : Except String (List UInt8)

/-- The client's configuration and surroundings. `toValue` is the JSON value of
the text it was written to; `fromSlice` and `fromSliceValue` read a JSON text as
the body of a type and as a `Value`, and the errors are those of the former. -/
structure Env where
  baseUrl : String
  accessToken : String
  send : HttpRequest → Except String HttpResponse
  toString : Json → String
  toValue : String → Json
  fromSlice : List UInt8 → Option Json
  fromSliceValue : List UInt8 → Option Json
  checkoutError : List UInt8 → String
  receivedError : List UInt8 → String
  fromUtf8Lossy : List UInt8 → String

/-! ## Requests -/

def customerJson (c : Customer) : Json :=
  .record
    [("name", c.name.map .string), ("email", c.email.map .string),
      ("externalId", c.externalId.map .string)]

def createCheckoutJson (env : Env) (req : CreateCheckoutRequest) : Json :=
  .record
    [("nodeId", some (.string req.nodeId)), ("amount", req.amount.map .ofUInt64),
      ("currency", req.currency.map .string),
      ("products", req.products.map fun ps => .array (ps.map .string)),
      ("successUrl", req.successUrl.map .string), ("metadata", req.metadata.map env.toValue),
      ("customer", req.customer.map customerJson)]

def registerInvoiceJson (req : RegisterInvoiceRequest) : Json :=
  .record
    [("nodeId", some (.string req.nodeId)), ("scid", some (.string req.scid)),
      ("checkoutId", some (.string req.checkoutId)), ("invoice", some (.string req.invoice)),
      ("paymentHash", some (.string req.paymentHash)),
      ("invoiceExpiresAt", some (.string req.invoiceExpiresAt))]

def paymentEntryJson (entry : PaymentEntry) : Json :=
  .record
    [("paymentHash", some (.string entry.paymentHash)),
      ("amountSats", some (.ofUInt64 entry.amountSats)), ("sandbox", some (.bool entry.sandbox))]

def paymentReceivedJson (req : PaymentReceivedRequest) : Json :=
  .record [("payments", some (.array (req.payments.map paymentEntryJson)))]

/-- An item of `meta`: a type marker and the field it is for. -/
abbrev Meta : Type := UInt8 × String

def metaJson (m : Meta) : Json := .array [.number (.ofNat m.1.toNat), .string m.2]

/-- `OrpcRequest`. -/
def orpcRequest (json : Json) (metas : List Meta) : Json :=
  .record
    [("json", some json), ("meta", if metas.isEmpty then none else some (.array (metas.map metaJson)))]

/-- The request `post` sends. -/
def request (env : Env) (path : String) (json : Json) (metas : List Meta) : HttpRequest where
  url := env.baseUrl ++ "/" ++ path
  headers := [("x-api-key", env.accessToken), ("Content-Type", "application/json")]
  body := utf8 (env.toString (orpcRequest json metas))

/-! ## Responses -/

/-- `PaymentReceivedResponse`. -/
structure PaymentReceivedResponse where
  ok : Bool
  deriving DecidableEq

/-- `OrpcResponse<T>`. -/
def orpcResponse {α : Type} (decode : Json → Option α) (v : Json) : Option α :=
  match v.fields ["json"] with
  | some [json] => required decode json
  | _ => none

def checkoutNames : List String := ["id", "status", "invoiceAmountSats", "invoiceScid"]

/-- `Checkout`. Its `invoice_scid` is read, and not used. -/
def decodeCheckout (v : Json) : Option Checkout :=
  match v.fields checkoutNames with
  | some [id, status, invoiceAmountSats, invoiceScid] => do
    let id ← required Json.asString id
    let status ← required Json.asString status
    let invoiceAmountSats ← optional Json.asUInt64 invoiceAmountSats
    let _ ← optional Json.asString invoiceScid
    return ⟨id, status, invoiceAmountSats⟩
  | _ => none

def decodeReceived (v : Json) : Option PaymentReceivedResponse :=
  match v.fields ["ok"] with
  | some [ok] => (required Json.asBool ok).map .mk
  | _ => none

/-- A text in an error, or what stands for it. -/
def textOr (default name : String) (err : Json) : String :=
  ((err.get name).bind Json.asString).getD default

/-- The error of a response that is not a success. -/
def apiError (env : Env) (status : UInt16) (bytes : List UInt8) : MdkApiError :=
  match env.fromSliceValue bytes with
  | some val =>
    let err := (val.get "json").getD val
    .api (textOr "UNKNOWN" "code" err) (textOr "unknown error" "message" err) status
  | none => .api "UNKNOWN" (env.fromUtf8Lossy bytes) status

/-- `StatusCode::is_success`. -/
def isSuccess (status : UInt16) : Bool := 200 ≤ status && status < 300

/-- `MdkApiClient::post`. -/
def post {α : Type} (env : Env) (decode : Json → Option α) (error : List UInt8 → String)
    (req : HttpRequest) : Except MdkApiError α := do
  let response ← (env.send req).mapError .network
  let bytes ← response.bytes.mapError .network
  if isSuccess response.status then
    match (env.fromSlice bytes).bind (orpcResponse decode) with
    | some json => .ok json
    | none =>
      .error (.deserialize (error bytes ++ " (body: " ++ env.fromUtf8Lossy bytes ++ ")"))
  else .error (apiError env response.status bytes)

def createCheckout (env : Env) (req : CreateCheckoutRequest) : Except MdkApiError Checkout :=
  post env decodeCheckout env.checkoutError
    (request env "checkout/create" (createCheckoutJson env req) [])

def registerInvoice (env : Env) (req : RegisterInvoiceRequest) : Except MdkApiError Checkout :=
  post env decodeCheckout env.checkoutError
    (request env "checkout/registerInvoice" (registerInvoiceJson req) [(1, "invoiceExpiresAt")])

def paymentReceived (env : Env) (req : PaymentReceivedRequest) :
    Except MdkApiError PaymentReceivedResponse :=
  post env decodeReceived env.receivedError
    (request env "checkout/paymentReceived" (paymentReceivedJson req) [])

/-- The surroundings of `create_checkout`, with this API for the platform. -/
def checkoutEnv (env : Env) (nodeId : String)
    (receiveViaJitChannel : Option UInt64 → InvoiceDescription → UInt32 →
      Except NodeError Bolt11Invoice)
    (toRfc3339 : Int64 → Option String) : CheckoutEnv where
  nodeId
  createCheckout := createCheckout env
  receiveViaJitChannel
  registerInvoice := registerInvoice env
  toRfc3339

end Mdkd.MdkApi
