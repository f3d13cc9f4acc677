import Mdkd.Impl.Types

/-!
# The splice manager

`mdk::splice_manager`: one tick (`tick`) advances the map of splices the
manager tracks (`advanceInFlight`), decides what to do (`decide`) and does it
(`apply`, through `spliceIn` of the client). Everything a tick reads from its
surroundings is a `Tick`: the clock, the node's two channel listings, the
balance, and what the node answers to the two splice calls.

Clock readings (`Instant`) are nanoseconds from an arbitrary origin.
-/

namespace Mdkd.SpliceManager

open Framework

/-- `BDK_RESYNC_GRACE`: 60 s. -/
def bdkResyncGrace : Nat := 60 * 10 ^ 9

structure ChannelCandidate where
  userChannelId : UserChannelId
  channelId : String
  counterparty : PublicKey
  isUsable : Bool
  fundingTxo : Option OutPoint
  channelValueSats : UInt64
  deriving DecidableEq

/-- `From<&ChannelDetails> for ChannelCandidate`. -/
def ChannelCandidate.ofDetails (c : ChannelDetails) : ChannelCandidate where
  userChannelId := c.userChannelId
  channelId := c.channelId
  counterparty := c.counterpartyNodeId
  isUsable := c.isUsable
  fundingTxo := c.fundingTxo
  channelValueSats := c.channelValueSats

/-- A splice the manager initiated. -/
structure InFlight where
  initialFundingTxo : OutPoint
  promotedAt : Option Nat
  deriving DecidableEq

/-- `HashMap<u128, InFlight>`. -/
abbrev InFlightMap : Type := AList fun _ : UserChannelId => InFlight

inductive SkipReason where
  | noOnchainBalance
  | noUsableLspChannel (onchainBalanceSats : UInt64)
  | spliceAlreadyInFlight (onchainBalanceSats : UInt64)
  deriving DecidableEq

structure SpliceCandidate where
  userChannelId : UserChannelId
  channelId : String
  fundingTxo : OutPoint
  deriving DecidableEq

inductive SpliceDecision where
  | skip (reason : SkipReason)
  | splice (candidate : SpliceCandidate)
  deriving DecidableEq

/-! ## Advancing the map -/

/-- The first channel listed under a user channel id. -/
def findChannel (channels : List ChannelCandidate) (ucid : UserChannelId) :
    Option ChannelCandidate :=
  channels.find? fun c => c.userChannelId = ucid

/-- The closure `advance_in_flight` runs on each entry. -/
def advanceEntry (channels : List ChannelCandidate) (now : Nat) (ucid : UserChannelId)
    (inf : InFlight) : Option InFlight :=
  match findChannel channels ucid with
  | none => none
  | some channel =>
    -- The splice is still negotiating or confirming.
    if channel.fundingTxo = some inf.initialFundingTxo then some inf
    else
      match inf.promotedAt with
      | none => some { inf with promotedAt := some now }
      | some t => if now - t < bdkResyncGrace then some inf else none

def advanceInFlight (inFlight : InFlightMap) (channels : List ChannelCandidate) (now : Nat) :
    InFlightMap :=
  retain (advanceEntry channels now) inFlight

/-! ## Deciding -/

/-- The usable LSP channels that have a funding outpoint. -/
def eligible (channels : List ChannelCandidate) (lspPubkey : PublicKey) :
    List (ChannelCandidate × OutPoint) :=
  (channels.filter fun c => c.counterparty = lspPubkey ∧ c.isUsable).filterMap fun c =>
    c.fundingTxo.map fun txo => (c, txo)

/-- The eligible channel of largest value, the last of them on a tie. -/
def largest (channels : List ChannelCandidate) (lspPubkey : PublicKey) :
    Option (ChannelCandidate × OutPoint) :=
  maxByKey (fun p => p.1.channelValueSats.toNat) (eligible channels lspPubkey)

protected def decide (onchainBalanceSats : UInt64) (channels : List ChannelCandidate)
    (lspPubkey : PublicKey) (inFlight : List UserChannelId) : SpliceDecision :=
  if onchainBalanceSats = 0 then .skip .noOnchainBalance
  else
    match largest channels lspPubkey with
    | none => .skip (.noUsableLspChannel onchainBalanceSats)
    | some (channel, fundingTxo) =>
      if channel.userChannelId ∈ inFlight then .skip (.spliceAlreadyInFlight onchainBalanceSats)
      else .splice ⟨channel.userChannelId, channel.channelId, fundingTxo⟩

/-! ## Applying the decision -/

/-- What a tick reads of the clock and the node. `channels` is the snapshot
the tick takes, `channelsAtSplice` the second listing, inside
`MdkClient::splice_in`. -/
structure Tick where
  now : Nat
  spendableOnchainBalanceSats : UInt64
  channels : List ChannelDetails
  getMaxSpliceInAmount : UserChannelId → PublicKey → Except NodeError UInt64
  channelsAtSplice : List ChannelDetails
  nodeSpliceIn : UserChannelId → PublicKey → UInt64 → Except NodeError Unit

/-- `map_splice_error`. -/
def mapSpliceError : NodeError → MdkError
  | .insufficientFunds => .splice .insufficientFunds
  | .other _ => .splice .rejected

/-- `MdkClient::splice_in`. -/
def spliceIn (lspPubkey : PublicKey) (t : Tick) (userChannelId : UserChannelId)
    (amountSats : UInt64) : Except MdkError Unit :=
  if amountSats = 0 then .error (.invalidInput "splice amount must be greater than zero")
  else
    match t.channelsAtSplice.find? fun c => c.userChannelId = userChannelId with
    | none =>
      .error (.notFound ("channel with user_channel_id " ++ toString userChannelId.val.toNat))
    | some channel =>
      if ¬ channel.isUsable then .error (.splice .channelNotUsable)
      else
        match t.nodeSpliceIn userChannelId lspPubkey amountSats with
        | .ok () => .ok ()
        | .error e => .error (mapSpliceError e)

/-- `apply`: the channel a splice was initiated on with the outpoint recorded
for it, and the events emitted. -/
def apply (lspPubkey : PublicKey) (t : Tick) :
    SpliceDecision → Option (UserChannelId × OutPoint) × List MdkEvent
  | .skip _ => (none, [])
  | .splice c =>
    match t.getMaxSpliceInAmount c.userChannelId lspPubkey with
    | .error _ => (none, [])
    | .ok amountSats =>
      match spliceIn lspPubkey t c.userChannelId amountSats with
      | .ok () => (some (c.userChannelId, c.fundingTxo), [.spliceInitiated c.channelId])
      | .error (.splice .insufficientFunds) => (none, [])
      | .error e => (none, [.spliceFailed c.channelId e.toText])

/-! ## A tick -/

/-- The snapshot of a tick. -/
def Tick.candidates (t : Tick) : List ChannelCandidate := t.channels.map .ofDetails

/-- The decision of a tick, from the map already advanced. -/
def Tick.decision (lspPubkey : PublicKey) (t : Tick) (inFlight : InFlightMap) : SpliceDecision :=
  SpliceManager.decide t.spendableOnchainBalanceSats t.candidates lspPubkey inFlight.keys

/-- The splice a tick initiates, and the events it emits, from the map as the
tick finds it. -/
def Tick.outcome (lspPubkey : PublicKey) (t : Tick) (inFlight : InFlightMap) :
    Option (UserChannelId × OutPoint) × List MdkEvent :=
  apply lspPubkey t (t.decision lspPubkey (advanceInFlight inFlight t.candidates t.now))

/-- `tick`. -/
def tick (lspPubkey : PublicKey) (inFlight : InFlightMap) (t : Tick) : InFlightMap :=
  let advanced := advanceInFlight inFlight t.candidates t.now
  match (t.outcome lspPubkey inFlight).1 with
  | some (ucid, initialFundingTxo) => advanced.insert ucid ⟨initialFundingTxo, none⟩
  | none => advanced

end Mdkd.SpliceManager
