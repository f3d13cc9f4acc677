import Mdkd.Framework.Form
import Mdkd.Framework.Record
import Mdkd.Impl.Api

/-!
# The API on the wire

What becomes of an HTTP request: the route it is matched to, and what the route's
extractor makes of its path, query or body (`Raw.request`); and the response that
a reply is sent as (`respond`). `lossy` is `String::from_utf8_lossy`. Of a
rejection by an extractor the model has the status; its text is left out.
-/

namespace Mdkd.Wire

open Framework Auth Client Invoices Onchain Pay Payments Balance Channels Decode

/-- The pairs of a form or a query, in order. -/
abbrev Pairs : Type := List (String × String)

/-! ## Requests -/

section
variable {α : Type}

/-- A field that may be missing. -/
def absentOr (read : String → Option α) : Option String → Option (Option α)
  | none => some none
  | some s => (read s).map some

/-- A field of a form, there once at most. -/
def readField (read : Option String → Option α) (name : String) (ps : Pairs) : Option α :=
  (field ps name).bind read

def parseBool (s : String) : Option Bool :=
  if s = "true" then some true else if s = "false" then some false else none

end

/-- `DecodeInvoiceRequest`. -/
def decodeInvoiceRequest (ps : Pairs) : Option String := readField (required some) "invoice" ps

/-- `DecodeOfferRequest`. -/
def decodeOfferRequest (ps : Pairs) : Option String := readField (required some) "offer" ps

def createInvoiceRequest (ps : Pairs) : Option CreateInvoiceRequest := do
  let amountSat ← readField (absentOr parseUInt64) "amountSat" ps
  let description ← readField some "description" ps
  let descriptionHash ← readField some "descriptionHash" ps
  let expirySeconds ← readField (absentOr parseUInt32) "expirySeconds" ps
  let externalId ← readField some "externalId" ps
  let webhookUrl ← readField some "webhookUrl" ps
  let product ← readField some "product" ps
  let currency ← readField some "currency" ps
  let successUrl ← readField some "successUrl" ps
  let metadata ← readField some "metadata" ps
  let customerName ← readField some "customerName" ps
  let customerEmail ← readField some "customerEmail" ps
  let customerExternalId ← readField some "customerExternalId" ps
  return ⟨amountSat, description, descriptionHash, expirySeconds, externalId, webhookUrl, product,
    currency, successUrl, metadata, customerName, customerEmail, customerExternalId⟩

def listPaymentsRequest (ps : Pairs) : Option ListPaymentsRequest := do
  let fromSecs ← readField (absentOr parseUInt64) "from" ps
  let toSecs ← readField (absentOr parseUInt64) "to" ps
  let limit ← readField (absentOr parseUInt64) "limit" ps
  let offset ← readField (absentOr parseUInt64) "offset" ps
  let all ← readField (absentOr parseBool) "all" ps
  let externalId ← readField some "externalId" ps
  return ⟨fromSecs, toSecs, limit, offset, all, externalId⟩

def listOutgoingPaymentsRequest (ps : Pairs) : Option ListOutgoingPaymentsRequest := do
  let fromSecs ← readField (absentOr parseUInt64) "from" ps
  let toSecs ← readField (absentOr parseUInt64) "to" ps
  let limit ← readField (absentOr parseUInt64) "limit" ps
  let offset ← readField (absentOr parseUInt64) "offset" ps
  let all ← readField (absentOr parseBool) "all" ps
  return ⟨fromSecs, toSecs, limit, offset, all⟩

def sendToAddressRequest (ps : Pairs) : Option SendToAddressRequest := do
  let address ← readField (required some) "address" ps
  let amountSat ← readField (required parseUInt64) "amountSat" ps
  let feerateSatByte ← readField (absentOr parseUInt64) "feerateSatByte" ps
  return ⟨address, amountSat, feerateSatByte⟩

def closeChannelRequest (ps : Pairs) : Option CloseChannelRequest := do
  let channelId ← readField (required some) "channelId" ps
  return ⟨channelId⟩

def payInvoiceRequest (ps : Pairs) : Option PayInvoiceRequest := do
  let invoice ← readField (required some) "invoice" ps
  let amountSat ← readField (absentOr parseUInt64) "amountSat" ps
  return ⟨invoice, amountSat⟩

def payRequest (ps : Pairs) : Option PayRequest := do
  let destination ← readField (required some) "destination" ps
  let amountSat ← readField (absentOr parseUInt64) "amountSat" ps
  let waitForPaymentSecs ← readField (absentOr parseUInt64) "waitForPaymentSecs" ps
  let payerNote ← readField some "payerNote" ps
  let quantity ← readField (absentOr parseUInt64) "quantity" ps
  return ⟨destination, amountSat, waitForPaymentSecs, payerNote, quantity⟩

inductive Method where
  | get
  | head
  | post
  | other
  deriving DecidableEq

/-- A request as it comes in: its path and query in bytes, the first value of its
`Content-Type`, and its body, or what it is refused with. -/
structure Raw where
  method : Method
  path : List UInt8
  query : List UInt8
  headers : HeaderMap
  contentType : Option (List UInt8)
  body : Except Refusal (List UInt8)

/-! ## Extractors -/

section
variable {α : Type} (lossy : List UInt8 → String)

/-- A rejection, whose text is left out. -/
def rejection (status : Nat) : Refusal := ⟨status, none, none⟩

def orReject (status : Nat) (o : Option α) : Except Refusal α :=
  match o with
  | some a => .ok a
  | none => .error (rejection status)

/-- `has_content_type`. -/
def hasContentType (r : Raw) : Bool :=
  ((r.contentType.bind toStr).bind (stripPrefix "application/x-www-form-urlencoded")).isSome

/-- `Form<T>` of a `POST`. -/
def form (read : Pairs → Option α) (r : Raw) : Except Refusal α :=
  if hasContentType r then do
    let bytes ← r.body
    orReject 422 (read (Form.read lossy bytes))
  else .error (rejection 415)

/-- `Query<T>`. -/
def query (read : Pairs → Option α) (r : Raw) : Except Refusal α :=
  orReject 400 (read (Form.read lossy r.query))

/-- `Path<String>`. -/
def pathParam (segment : List UInt8) : Except Refusal String :=
  orReject 400 (Form.pathText segment)

end

/-! ## Routes -/

/-- Where a route is: by `GET` or `POST`, its path, and whether another segment
comes after that, which is a parameter. -/
structure Endpoint where
  post : Bool
  segments : List String
  parameter : Bool

def endpoint : Route → Endpoint
  | .getInfo => ⟨false, ["getinfo"], false⟩
  | .getBalance => ⟨false, ["getbalance"], false⟩
  | .listChannels => ⟨false, ["listchannels"], false⟩
  | .listIncomingPayments => ⟨false, ["payments", "incoming"], false⟩
  | .getIncomingPayment => ⟨false, ["payments", "incoming"], true⟩
  | .listOutgoingPayments => ⟨false, ["payments", "outgoing"], false⟩
  | .getOutgoingPayment => ⟨false, ["payments", "outgoing"], true⟩
  | .decodeInvoice => ⟨true, ["decodeinvoice"], false⟩
  | .decodeOffer => ⟨true, ["decodeoffer"], false⟩
  | .createInvoice => ⟨true, ["createinvoice"], false⟩
  | .closeChannel => ⟨true, ["closechannel"], false⟩
  | .sendToAddress => ⟨true, ["sendtoaddress"], false⟩
  | .payInvoice => ⟨true, ["payinvoice"], false⟩
  | .pay => ⟨true, ["pay"], false⟩

def Endpoint.takes (e : Endpoint) : Method → Bool
  | .get | .head => !e.post
  | .post => e.post
  | .other => false

/-- The parameter in a path of the endpoint, which is empty where there is none. -/
def Endpoint.segment (e : Endpoint) (segments : List (List UInt8)) : Option (List UInt8) :=
  let fixed := [] :: e.segments.map utf8
  if segments.take fixed.length = fixed then
    match e.parameter, segments.drop fixed.length with
    | false, [] => some []
    | true, [s] => if s = [] then none else some s
    | _, _ => none
  else none

/-- The route of a path, with the parameter in it. -/
def matchRoute (method : Method) (segments : List (List UInt8)) : Option (Route × List UInt8) :=
  (readOnlyRoutes ++ fullRoutes).findSome? fun route =>
    if (endpoint route).takes method then ((endpoint route).segment segments).map (route, ·)
    else none

/-- What the extractor of a route makes of a request. -/
def extract (lossy : List UInt8 → String) (r : Raw) (segment : List UInt8) :
    Route → Except Refusal Api.Args
  | .getInfo => .ok .getInfo
  | .getBalance => .ok .getBalance
  | .listChannels => .ok .listChannels
  | .listIncomingPayments => (query lossy listPaymentsRequest r).map .listIncomingPayments
  | .getIncomingPayment => (pathParam segment).map .getIncomingPayment
  | .listOutgoingPayments => (query lossy listOutgoingPaymentsRequest r).map .listOutgoingPayments
  | .getOutgoingPayment => (pathParam segment).map .getOutgoingPayment
  | .decodeInvoice => (form lossy decodeInvoiceRequest r).map .decodeInvoice
  | .decodeOffer => (form lossy decodeOfferRequest r).map .decodeOffer
  | .createInvoice => (form lossy createInvoiceRequest r).map .createInvoice
  | .closeChannel => (form lossy closeChannelRequest r).map .closeChannel
  | .sendToAddress => (form lossy sendToAddressRequest r).map .sendToAddress
  | .payInvoice => (form lossy payInvoiceRequest r).map .payInvoice
  | .pay => (form lossy payRequest r).map .pay

theorem route_of_extract {lossy : List UInt8 → String} {r : Raw} {segment : List UInt8}
    {route : Route} : ∀ a, extract lossy r segment route = .ok a → a.route = route := by
  have hmap {α : Type} {x : Except Refusal α} {f : α → Api.Args} (hf : ∀ b, (f b).route = route) :
      ∀ a, x.map f = .ok a → a.route = route := by
    intro a ha
    cases x with
    | error e => cases ha
    | ok b => rw [← Except.ok.inj ha, hf]
  cases route with
  | getInfo | getBalance | listChannels =>
    intro a ha
    rw [← Except.ok.inj ha]
    rfl
  | _ => exact hmap fun _ => rfl

/-- The request of a task, if it comes to a route of the API. -/
def Raw.request (lossy : List UInt8 → String) (r : Raw) : Option Api.HttpRequest :=
  (matchRoute r.method (r.path.splitOn 47)).map fun p =>
    ⟨p.1, r.headers, extract lossy r p.2 p.1, route_of_extract⟩

/-! ## Responses -/

inductive Body where
  | json (v : Json)
  | text (s : String)
  | empty

section
variable {α : Type}

def natJson (n : Nat) : Json := .number (.ofNat n)

/-- An `Option` that is not skipped. -/
def orNull (f : α → Json) (o : Option α) : Json := (o.map f).getD .null

def arrayOf (f : α → Json) (as : List α) : Json := .array (as.map f)

end

def channelStateJson : ChannelState → Json
  | .online => .string "ONLINE"
  | .offline => .string "OFFLINE"
  | .opening => .string "OPENING"

def channelInfoJson (c : ChannelInfo) : Json :=
  .record
    [("state", some (channelStateJson c.state)), ("channelId", some (.string c.channelId)),
      ("balanceSat", some (.ofUInt64 c.balanceSat)),
      ("inboundLiquiditySat", some (.ofUInt64 c.inboundLiquiditySat)),
      ("capacitySat", some (.ofUInt64 c.capacitySat)),
      ("fundingTxId", some (orNull .string c.fundingTxId))]

def getInfoJson (r : GetInfoResponse) : Json :=
  .record
    [("nodeId", some (.string r.nodeId)), ("channels", some (arrayOf channelInfoJson r.channels)),
      ("chain", some (.string r.chain)), ("blockHeight", some (natJson r.blockHeight.toNat)),
      ("version", some (.string r.version))]

def getBalanceJson (r : GetBalanceResponse) : Json :=
  .record
    [("balanceSat", some (.ofUInt64 r.balanceSat)),
      ("onchainBalanceSat", some (.ofUInt64 r.onchainBalanceSat)),
      ("maxWithdrawableSat", some (orNull .ofUInt64 r.maxWithdrawableSat))]

def incomingPaymentJson (r : IncomingPaymentResponse) : Json :=
  .record
    [("paymentHash", some (.string r.paymentHash)), ("preimage", some (orNull .string r.preimage)),
      ("externalId", some (orNull .string r.externalId)),
      ("description", some (orNull .string r.description)),
      ("invoice", some (orNull .string r.invoice)), ("isPaid", some (.bool r.isPaid)),
      ("isExpired", some (.bool r.isExpired)),
      ("requestedSat", some (orNull .ofUInt64 r.requestedSat)),
      ("receivedSat", some (.ofUInt64 r.receivedSat)), ("fees", some (.ofUInt64 r.fees)),
      ("completedAt", some (orNull .ofUInt64 r.completedAt)),
      ("createdAt", some (.ofUInt64 r.createdAt)),
      ("expiresAt", some (orNull .ofUInt64 r.expiresAt))]

def outgoingPaymentJson (r : OutgoingPaymentResponse) : Json :=
  .record
    [("paymentId", some (.string r.paymentId)),
      ("paymentHash", some (orNull .string r.paymentHash)),
      ("preimage", some (orNull .string r.preimage)), ("txId", some (orNull .string r.txId)),
      ("isPaid", some (.bool r.isPaid)), ("sent", some (orNull .ofUInt64 r.sent)),
      ("fees", some (orNull .ofUInt64 r.fees)), ("invoice", some (orNull .string r.invoice)),
      ("completedAt", some (orNull .ofUInt64 r.completedAt)),
      ("createdAt", some (.ofUInt64 r.createdAt))]

def routingHintHopJson (hop : RoutingHintHop) : Json :=
  .record
    [("nodeId", some (.string hop.nodeId)), ("shortChannelId", some (.string hop.shortChannelId)),
      ("feeBaseMsat", some (natJson hop.feeBaseMsat.toNat)),
      ("feeProportionalMillionths", some (natJson hop.feeProportionalMillionths.toNat)),
      ("cltvExpiryDelta", some (natJson hop.cltvExpiryDelta.toNat))]

/-- `RoutingHint`. -/
def routingHintJson (hops : List RoutingHintHop) : Json :=
  .record [("hops", some (arrayOf routingHintHopJson hops))]

def decodeInvoiceJson (r : DecodeInvoiceResponse) : Json :=
  .record
    [("amount", some (orNull .ofUInt64 r.amount)),
      ("amountMsat", some (orNull .ofUInt64 r.amountMsat)),
      ("paymentHash", some (.string r.paymentHash)),
      ("paymentSecret", some (.string r.paymentSecret)),
      ("description", some (orNull .string r.description)),
      ("paymentMetadata", some (orNull .string r.paymentMetadata)),
      ("expirySeconds", some (.ofUInt64 r.expirySeconds)),
      ("createdAtSeconds", some (.ofUInt64 r.createdAtSeconds)),
      ("nodeId", some (.string r.nodeId)),
      ("routingHints", some (arrayOf routingHintJson r.routingHints)),
      ("features", some (arrayOf .string r.features))]

def decodeOfferJson (r : DecodeOfferResponse) : Json :=
  .record
    [("offerId", some (.string r.offerId)), ("amount", some (orNull .ofUInt64 r.amount)),
      ("amountMsat", some (orNull .ofUInt64 r.amountMsat)),
      ("description", some (orNull .string r.description)),
      ("issuer", some (orNull .string r.issuer)), ("nodeId", some (orNull .string r.nodeId)),
      ("features", some (arrayOf .string r.features))]

def payInvoiceJson (r : PayInvoiceResponse) : Json :=
  .record
    [("paymentId", some (.string r.paymentId)), ("paymentHash", some (.string r.paymentHash))]

def payStatusJson : PayStatus → Json
  | .succeeded => .string "SUCCEEDED"
  | .failed => .string "FAILED"
  | .pending => .string "PENDING"

def payJson (r : PayResponse) : Json :=
  .record
    [("paymentId", some (.string r.paymentId)), ("paymentHash", r.paymentHash.map .string),
      ("preimage", r.preimage.map .string), ("feeSat", r.feeSat.map .ofUInt64),
      ("status", some (payStatusJson r.status)), ("reason", r.reason.map .string)]

/-- The response of a reply. -/
def respond : Api.Reply → Nat × Body
  | .info r => (200, .json (getInfoJson r))
  | .balance r => (200, .json (getBalanceJson r))
  | .channels rs => (200, .json (arrayOf channelInfoJson rs))
  | .incoming r => (200, .json (incomingPaymentJson r))
  | .incomings rs => (200, .json (arrayOf incomingPaymentJson rs))
  | .outgoing r => (200, .json (outgoingPaymentJson r))
  | .outgoings rs => (200, .json (arrayOf outgoingPaymentJson rs))
  | .invoice r => (200, .json (decodeInvoiceJson r))
  | .offer r => (200, .json (decodeOfferJson r))
  | .created r => (200, .json r.json)
  | .closing => (200, .empty)
  | .sent txid => (200, .text txid)
  | .paidInvoice r => (200, .json (payInvoiceJson r))
  | .paid r => (200, .json (payJson r))
  | .failed e => (e.intoResponse.1, .json e.intoResponse.2)

end Mdkd.Wire
