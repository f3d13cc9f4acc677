import Mdkd.Framework.Table

/-!
# What the daemon uses of ldk-node

The types of ldk-node (and of the crates it re-exports) with the fields this
repository reads, and the node's store of payments. The behaviour of the node
itself is not modelled: what it answers to a call is an input of the functions
that make the call.
-/

namespace Mdkd

open Framework

/-- 32 bytes: hashes, preimages, transaction and payment ids. -/
abbrev Bytes32 : Type := Vector UInt8 32

/-- A compressed secp256k1 public key. -/
structure PublicKey where
  serialized : Vector UInt8 33
  deriving DecidableEq

/-- `bitcoin::OutPoint`. -/
structure OutPoint where
  txid : Bytes32
  vout : UInt32
  deriving DecidableEq

/-- `UserChannelId(u128)`. -/
structure UserChannelId where
  val : BitVec 128
  deriving DecidableEq

/-- `PaymentId([u8; 32])`. -/
structure PaymentId where
  bytes : Bytes32
  deriving DecidableEq

/-- `NodeError`: the one variant the code distinguishes, and the others with
the text they display. -/
inductive NodeError where
  | insufficientFunds
  | other (display : String)
  deriving DecidableEq

/-- `NodeError`'s `Display`. -/
def NodeError.toText : NodeError → String
  | .insufficientFunds => "There are insufficient funds to complete the given operation."
  | .other display => display

/-- `ChannelDetails`. `channelId` is the text of the channel's id. -/
structure ChannelDetails where
  userChannelId : UserChannelId
  channelId : String
  counterpartyNodeId : PublicKey
  fundingTxo : Option OutPoint
  channelValueSats : UInt64
  outboundCapacityMsat : UInt64
  nextOutboundHtlcLimitMsat : UInt64
  isUsable : Bool
  deriving DecidableEq

/-! ## Payments -/

inductive PaymentDirection where
  | inbound
  | outbound
  deriving DecidableEq

inductive PaymentStatus where
  | pending
  | succeeded
  | failed
  deriving DecidableEq

/-- `PaymentKind`, with the txid, hash and preimage of each kind. -/
inductive PaymentKind where
  | onchain (txid : Bytes32)
  | bolt11 (hash : Bytes32) (preimage : Option Bytes32)
  | bolt11Jit (hash : Bytes32) (preimage : Option Bytes32)
  | bolt12Offer (hash : Option Bytes32) (preimage : Option Bytes32)
  | bolt12Refund (hash : Option Bytes32) (preimage : Option Bytes32)
  | spontaneous (hash : Bytes32) (preimage : Option Bytes32)
  deriving DecidableEq

structure PaymentDetails where
  id : PaymentId
  kind : PaymentKind
  amountMsat : Option UInt64
  feePaidMsat : Option UInt64
  direction : PaymentDirection
  status : PaymentStatus
  latestUpdateTimestamp : UInt64
  deriving DecidableEq

/-- The preimage a record holds, whatever its kind. -/
def PaymentKind.storedPreimage : PaymentKind → Option Bytes32
  | .onchain _ => none
  | .bolt11 _ p | .bolt11Jit _ p | .bolt12Offer _ p | .bolt12Refund _ p | .spontaneous _ p => p

/-- The node's payment store: its records have distinct ids. -/
abbrev PaymentStore : Type := Table PaymentDetails.id

/-- `Node::payment`. -/
def PaymentStore.payment (n : PaymentStore) (id : PaymentId) : Option PaymentDetails := n.find id

/-- `Node::list_payments_with_filter`. -/
def PaymentStore.listPaymentsWithFilter (n : PaymentStore) (f : PaymentDetails → Bool) :
    List PaymentDetails :=
  n.rows.filter f

/-! ## Invoices and events -/

/-- `Bolt11Invoice`: its wire text, and what the code reads of it. -/
structure Bolt11Invoice where
  text : String
  amountMilliSatoshis : Option UInt64
  paymentHash : Bytes32
  expiresAt : Option UInt64
  scid : Option UInt64
  deriving DecidableEq

/-- `ldk_node::Event`, with the fields the client reads; ids and hashes that
the client only displays are texts. -/
inductive LdkEvent where
  | paymentReceived (paymentHash : String) (amountMsat : UInt64)
  | paymentSuccessful (paymentId : Option PaymentId) (paymentHash : String)
      (feePaidMsat : Option UInt64)
  | paymentFailed (paymentId : Option PaymentId) (paymentHash : Option String)
      (reason : Option String)
  | channelPending (channelId counterpartyNodeId : String)
  | channelReady (channelId : String) (counterpartyNodeId : Option String)
  | paymentForwarded (totalFeeEarnedMsat : Option UInt64)
  | splicePending (channelId newFundingTxid : String)
  | spliceFailed (channelId : String) (abandonedFundingTxid : Option String)
  | other
  deriving DecidableEq

end Mdkd
