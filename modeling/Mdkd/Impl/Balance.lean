import Mdkd.Impl.MaxSendable

/-!
# Balances

`daemon::api::balance`, and the section of the configuration that tunes the
estimate it reports.
-/

namespace Mdkd.Balance

open Framework MaxSendable

/-- `MaxSendableSection`, as a configuration file writes it. -/
structure MaxSendableSection where
  feeBufferBps : Option UInt16
  feeBufferFloorSats : Option UInt64
  routeRetryFeeMultiplierBps : Option UInt16
  deriving DecidableEq

/-- The part of `load_config` about the section. -/
def loadMaxSendable (toml : Option MaxSendableSection) : MaxSendableConfig :=
  match toml with
  | some s =>
    let defaults := MaxSendableConfig.default
    { feeBufferBps := s.feeBufferBps.getD defaults.feeBufferBps
      feeBufferFloorSats := s.feeBufferFloorSats.getD defaults.feeBufferFloorSats
      routeRetryFeeMultiplierBps :=
        s.routeRetryFeeMultiplierBps.getD defaults.routeRetryFeeMultiplierBps }
  | none => .default

structure GetBalanceResponse where
  balanceSat : UInt64
  onchainBalanceSat : UInt64
  maxWithdrawableSat : Option UInt64
  deriving DecidableEq

/-- `handle_get_balance`. It lists the channels twice: `channels` for the
balance, `channels'` for the estimate. -/
def handleGetBalance (env : EstimateEnv) (spendableOnchainBalanceSats : UInt64)
    (channels channels' : List ChannelDetails) (lspPubkey : PublicKey) (cfg : MaxSendableConfig) :
    GetBalanceResponse where
  balanceSat := wrappingSum (channels.map fun ch => ch.outboundCapacityMsat / 1000)
  onchainBalanceSat := spendableOnchainBalanceSats
  maxWithdrawableSat :=
    match (maxSendable env none channels' lspPubkey cfg).result with
    | .ok e => some (e.amountMsat / 1000)
    | .error _ => none

end Mdkd.Balance
