import Mdkd.Framework.Num
import Mdkd.Impl.Client
import Mdkd.Impl.Store

/-!
# Payments

`daemon::api::invoices`: the handlers that answer what payments there are. They
read the node's payment store, the invoice store, and the clock; a query of
the invoice store that fails gives the text of its error.
-/

namespace Mdkd.Payments

open Framework Client

structure IncomingPaymentResponse where
  paymentHash : String
  preimage : Option String
  externalId : Option String
  description : Option String
  invoice : Option String
  isPaid : Bool
  isExpired : Bool
  requestedSat : Option UInt64
  receivedSat : UInt64
  fees : UInt64
  completedAt : Option UInt64
  createdAt : UInt64
  expiresAt : Option UInt64
  deriving DecidableEq

structure OutgoingPaymentResponse where
  paymentId : String
  paymentHash : Option String
  preimage : Option String
  txId : Option String
  isPaid : Bool
  sent : Option UInt64
  fees : Option UInt64
  invoice : Option String
  completedAt : Option UInt64
  createdAt : UInt64
  deriving DecidableEq

structure ListPaymentsRequest where
  fromSecs : Option UInt64
  toSecs : Option UInt64
  limit : Option UInt64
  offset : Option UInt64
  all : Option Bool
  externalId : Option String
  deriving DecidableEq

structure ListOutgoingPaymentsRequest where
  fromSecs : Option UInt64
  toSecs : Option UInt64
  limit : Option UInt64
  offset : Option UInt64
  all : Option Bool
  deriving DecidableEq

/-! ## Incoming payments -/

def extractPreimage : PaymentKind → Option String
  | .bolt11 _ preimage | .bolt11Jit _ preimage | .bolt12Offer _ preimage
  | .bolt12Refund _ preimage | .spontaneous _ preimage => preimage.map displayHash
  | .onchain _ => none

/-- `enrich_metadata`, at time `now`. -/
def enrichMetadata (now : UInt64) (metadata : InvoiceMetadata) (details : Option PaymentDetails) :
    IncomingPaymentResponse :=
  let isPaid := details.any fun d => d.status = .succeeded
  let preimage := details.bind fun d => extractPreimage d.kind
  let receivedSat := match details with
    | some d => if d.status = .succeeded then d.amountMsat.getD 0 / 1000 else 0
    | none => 0
  let completedAt := details.bind fun d =>
    if d.status = .succeeded then some d.latestUpdateTimestamp else none
  { paymentHash := metadata.paymentHash
    preimage := preimage
    externalId := metadata.externalId
    description := metadata.description
    invoice := metadata.invoice
    isPaid := isPaid
    isExpired := !isPaid && 0 < metadata.expiresAt && metadata.expiresAt ≤ now
    requestedSat := metadata.amountSat
    receivedSat := receivedSat
    fees := if isPaid then saturatingSub (metadata.amountSat.getD 0) receivedSat else 0
    completedAt := completedAt
    createdAt := metadata.createdAt
    expiresAt := if 0 < metadata.expiresAt then some metadata.expiresAt else none }

/-- `handle_get_incoming_payment`. -/
def handleGetIncomingPayment (node : PaymentStore) (store : InvoiceMetadataStore)
    (queryError : Option String) (now : UInt64) (paymentHash : String) :
    Except AppError IncomingPaymentResponse :=
  match queryError with
  | some e => .error (.internal ("Failed to query metadata: " ++ e))
  | none =>
    match store.getByPaymentHash paymentHash with
    | none => .error (.notFound ("Invoice " ++ paymentHash ++ " not found"))
    | some metadata =>
      match fromHex 32 paymentHash with
      | none => .error (.badRequest "Invalid payment hash hex")
      | some hashBytes => .ok (enrichMetadata now metadata (node.payment ⟨hashBytes⟩))

/-- The node's payments under the hashes of `rows`, by id. -/
def paymentMap (node : PaymentStore) (rows : List InvoiceMetadata) :
    AList fun _ : Bytes32 => PaymentDetails :=
  let wanted := rows.filterMap fun m => fromHex 32 m.paymentHash
  collect ((node.listPaymentsWithFilter fun p => p.id.bytes ∈ wanted).map fun p => (p.id.bytes, p))

/-- `handle_list_incoming_payments`. -/
def handleListIncomingPayments (node : PaymentStore) (store : InvoiceMetadataStore)
    (queryError : Option String) (now : UInt64) (params : ListPaymentsRequest) :
    Except AppError (List IncomingPaymentResponse) :=
  match queryError with
  | some e => .error (.internal ("Failed to list invoices: " ++ e))
  | none =>
    let rows := store.list (params.fromSecs.getD 0) (params.toSecs.getD now)
      (params.limit.getD 20) (params.offset.getD 0) (params.all.getD false) params.externalId
    let payments := paymentMap node rows
    .ok (rows.map fun m =>
      enrichMetadata now m ((fromHex 32 m.paymentHash).bind fun bytes => payments.lookup bytes))

/-! ## Outgoing payments -/

def paymentToOutgoing (p : PaymentDetails) : OutgoingPaymentResponse :=
  let (paymentHash, preimage, txId) := match p.kind with
    | .onchain txid => (none, none, some (displayTxid txid))
    | .bolt11 hash preimage | .bolt11Jit hash preimage =>
      (some (displayHash hash), preimage.map displayHash, none)
    | .spontaneous hash preimage => (some (displayHash hash), preimage.map displayHash, none)
    | .bolt12Offer hash preimage | .bolt12Refund hash preimage =>
      (hash.map displayHash, preimage.map displayHash, none)
  { paymentId := toHex p.id.bytes
    paymentHash := paymentHash
    preimage := preimage
    txId := txId
    isPaid := p.status = .succeeded
    sent := p.amountMsat.map (· / 1000)
    fees := p.feePaidMsat.map (· / 1000)
    invoice := none
    completedAt := if p.status ≠ .pending then some p.latestUpdateTimestamp else none
    createdAt := p.latestUpdateTimestamp }

/-- The entry for a send the node does not know. -/
def sendToOutgoing (send : OutgoingSendRecord) : OutgoingPaymentResponse where
  paymentId := send.txid
  paymentHash := none
  preimage := none
  txId := some send.txid
  isPaid := false
  sent := some send.amountSat
  fees := send.feeSat
  invoice := none
  completedAt := none
  createdAt := send.createdAt

/-- The node's outbound payments, and the stored sends with other txids. -/
def mergedOutgoing (node : PaymentStore) (localSends : List OutgoingSendRecord) :
    List OutgoingPaymentResponse :=
  let payments := (node.listPaymentsWithFilter fun p => p.direction = .outbound).map
    paymentToOutgoing
  let knownTxids := payments.filterMap (·.txId)
  payments ++ (localSends.filter fun send => send.txid ∉ knownTxids).map sendToOutgoing

/-- `handle_list_outgoing_payments`; `sendsOk` is whether the stored sends
could be read. -/
def handleListOutgoingPayments (node : PaymentStore) (store : InvoiceMetadataStore)
    (sendsOk : Bool) (now : UInt64) (params : ListOutgoingPaymentsRequest) :
    List OutgoingPaymentResponse :=
  let fromSecs := params.fromSecs.getD 0
  let toSecs := params.toSecs.getD now
  let limit := params.limit.getD 20
  let offset := params.offset.getD 0
  let all := params.all.getD false
  let payments := mergedOutgoing node (if sendsOk then store.listOutgoingSends else [])
  let inRange := payments.filter fun p => fromSecs ≤ p.createdAt ∧ p.createdAt ≤ toSecs
  let shown := if all then inRange else inRange.filter fun p => p.isPaid ∨ p.completedAt = none
  let sorted := shown.insertionSort fun a b => b.createdAt ≤ a.createdAt
  (sorted.drop offset.toNat).take limit.toNat

/-- `handle_get_outgoing_payment`. -/
def handleGetOutgoingPayment (node : PaymentStore) (paymentId : String) :
    Except AppError OutgoingPaymentResponse :=
  match fromHex 32 paymentId with
  | none => .error (.badRequest "Invalid payment id hex")
  | some idBytes =>
    match node.payment ⟨idBytes⟩ with
    | none => .error (.notFound ("Payment " ++ paymentId ++ " not found"))
    | some details =>
      if details.direction ≠ .outbound then
        .error (.notFound ("Payment " ++ paymentId ++ " not found"))
      else .ok (paymentToOutgoing details)

end Mdkd.Payments
