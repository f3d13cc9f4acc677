import Mdkd.Framework.Act
import Mdkd.Framework.Text
import Mdkd.Impl.Client

/-!
# Channels

`daemon::api::channels` and `daemon::api::info`: what the API shows of the
node's channels, and the closing of one. The calls recorded are the closes
handed to the node.
-/

namespace Mdkd.Channels

open Framework Client

/-- `bitcoin::Network`. -/
inductive Network where
  | bitcoin
  | testnet
  | testnet4
  | signet
  | regtest
  deriving DecidableEq

/-- `ChannelDetails`, with the fields only the API reads. Its id is displayed in
hexadecimal. -/
structure Channel extends ChannelDetails where
  id : Bytes32
  isChannelReady : Bool
  inboundCapacityMsat : UInt64
  channelId_eq : channelId = toHex id

inductive ChannelState where
  | online
  | offline
  | opening
  deriving DecidableEq

structure ChannelInfo where
  state : ChannelState
  channelId : String
  balanceSat : UInt64
  inboundLiquiditySat : UInt64
  capacitySat : UInt64
  fundingTxId : Option String
  deriving DecidableEq

/-- `From<&ChannelDetails> for ChannelInfo`. -/
def ChannelInfo.ofChannel (ch : Channel) : ChannelInfo where
  state :=
    match ch.isChannelReady, ch.isUsable with
    | true, true => .online
    | true, false => .offline
    | false, _ => .opening
  channelId := ch.channelId
  balanceSat := ch.outboundCapacityMsat / 1000
  inboundLiquiditySat := ch.inboundCapacityMsat / 1000
  capacitySat := ch.channelValueSats
  fundingTxId := ch.fundingTxo.map fun txo => displayTxid txo.txid

/-- `handle_list_channels`. -/
def handleListChannels (channels : List Channel) : List ChannelInfo := channels.map .ofChannel

structure GetInfoResponse where
  nodeId : String
  channels : List ChannelInfo
  chain : String
  blockHeight : UInt32
  version : String
  deriving DecidableEq

/-- `env!("CARGO_PKG_VERSION")`. -/
def version : String := "0.0.5"

def chainOf : Network → String
  | .bitcoin => "mainnet"
  | .testnet => "testnet3"
  | .signet => "signet"
  | .regtest => "regtest"
  | .testnet4 => "unknown"

/-- `handle_get_info`. -/
def handleGetInfo (nodeId : String) (network : Network) (blockHeight : UInt32)
    (channels : List Channel) : GetInfoResponse where
  nodeId
  channels := channels.map .ofChannel
  chain := chainOf network
  blockHeight
  version

structure CloseChannelRequest where
  channelId : String
  deriving DecidableEq

/-- A close handed to the node. -/
structure ChannelClose where
  userChannelId : UserChannelId
  counterpartyNodeId : PublicKey
  deriving DecidableEq

/-- `handle_close_channel`, on the channels the node lists. -/
def handleCloseChannel (channels : List Channel) (closeChannel : ChannelClose → Except NodeError Unit)
    (req : CloseChannelRequest) : Act ChannelClose AppError Unit := do
  let target ← .lift (match fromHex 32 req.channelId with
    | some bytes => .ok bytes
    | none => .error (.badRequest ("invalid channel_id hex: " ++ req.channelId)))
  let ch ← .lift (match channels.find? fun ch => ch.id = target with
    | some ch => .ok ch
    | none => .error (.notFound ("channel not found: " ++ req.channelId)))
  let close : ChannelClose := ⟨ch.userChannelId, ch.counterpartyNodeId⟩
  .call close ((closeChannel close).mapError fun e =>
    .internal ("close_channel failed: " ++ e.toText))

end Mdkd.Channels
