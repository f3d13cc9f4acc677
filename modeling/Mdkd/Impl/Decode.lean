import Mdkd.Impl.Client

/-!
# Decoding

`daemon::api::decode`: `POST /decodeinvoice` and `POST /decodeoffer` show what a
text reads as. The parsers, with the texts of their errors, are parameters; keys
are their texts.
-/

namespace Mdkd.Decode

open Framework Client

/-- A hop of a route hint, as the parser gives it. -/
structure RouteHintHop where
  srcNodeId : String
  shortChannelId : UInt64
  baseMsat : UInt32
  proportionalMillionths : UInt32
  cltvExpiryDelta : UInt16
  deriving DecidableEq

/-- A parsed invoice, with what only this handler reads. Its `timestamp` is
seconds from the Unix epoch, `none` before. -/
structure ParsedInvoice extends Bolt11Invoice where
  paymentSecret : Bytes32
  description : String
  expiryTime : UInt64
  timestamp : Option UInt64
  payeePubKey : String
  routeHints : List (List RouteHintHop)
  deriving DecidableEq

structure RoutingHintHop where
  nodeId : String
  shortChannelId : String
  feeBaseMsat : UInt32
  feeProportionalMillionths : UInt32
  cltvExpiryDelta : UInt16
  deriving DecidableEq

structure DecodeInvoiceResponse where
  amount : Option UInt64
  amountMsat : Option UInt64
  paymentHash : String
  paymentSecret : String
  description : Option String
  paymentMetadata : Option String
  expirySeconds : UInt64
  createdAtSeconds : UInt64
  nodeId : String
  routingHints : List (List RoutingHintHop)
  features : List String
  deriving DecidableEq

def routingHintHop (hop : RouteHintHop) : RoutingHintHop where
  nodeId := hop.srcNodeId
  shortChannelId := toString hop.shortChannelId.toNat
  feeBaseMsat := hop.baseMsat
  feeProportionalMillionths := hop.proportionalMillionths
  cltvExpiryDelta := hop.cltvExpiryDelta

/-- `handle_decode_invoice`. -/
def handleDecodeInvoice (parse : String → Except String ParsedInvoice) (invoice : String) :
    Except AppError DecodeInvoiceResponse := do
  let invoice ← (parse invoice).mapError fun e => .badRequest ("Invalid BOLT11 invoice: " ++ e)
  return { amount := invoice.amountMilliSatoshis.map (· / 1000)
           amountMsat := invoice.amountMilliSatoshis
           paymentHash := displayHash invoice.paymentHash
           paymentSecret := toHex invoice.paymentSecret
           description := some invoice.description
           paymentMetadata := none
           expirySeconds := invoice.expiryTime
           createdAtSeconds := invoice.timestamp.getD 0
           nodeId := invoice.payeePubKey
           routingHints := invoice.routeHints.map (·.map routingHintHop)
           features := [] }

/-- `Amount` of an offer. -/
inductive OfferAmount where
  | bitcoin (amountMsats : UInt64)
  | currency
  deriving DecidableEq

/-- A parsed offer. -/
structure ParsedOffer where
  id : Bytes32
  amount : Option OfferAmount
  description : Option String
  issuer : Option String
  issuerSigningPubkey : Option String
  deriving DecidableEq

structure DecodeOfferResponse where
  offerId : String
  amount : Option UInt64
  amountMsat : Option UInt64
  description : Option String
  issuer : Option String
  nodeId : Option String
  features : List String
  deriving DecidableEq

/-- `handle_decode_offer`. -/
def handleDecodeOffer (parse : String → Except String ParsedOffer) (offer : String) :
    Except AppError DecodeOfferResponse := do
  let offer ← (parse offer).mapError fun e => .badRequest ("Invalid BOLT12 offer: " ++ e)
  let amountMsat : Option UInt64 := match offer.amount with
    | some (.bitcoin amountMsats) => some amountMsats
    | _ => none
  return { offerId := toHex offer.id
           amount := amountMsat.map (· / 1000)
           amountMsat := amountMsat
           description := offer.description
           issuer := offer.issuer
           nodeId := offer.issuerSigningPubkey
           features := [] }

end Mdkd.Decode
