import Mdkd.Framework.Act
import Mdkd.Framework.Num
import Mdkd.Impl.Instructions

/-!
# The largest amount that can be sent

`mdk::max_sendable`: the estimate of what can flow out over Lightning, from
the LSP channels and a destination. The calls recorded are the ones to the
resolver (through `set_amount`) and to the router; what they answer, and the
parse of an invoice, are fields of `EstimateEnv`. `computed_at`, which nothing
reads, is left out.
-/

namespace Mdkd.MaxSendable

open Framework

structure MaxSendableConfig where
  feeBufferBps : UInt16
  feeBufferFloorSats : UInt64
  routeRetryFeeMultiplierBps : UInt16
  deriving DecidableEq

/-- `Default for MaxSendableConfig`. -/
def MaxSendableConfig.default : MaxSendableConfig where
  feeBufferBps := 100
  feeBufferFloorSats := 10
  routeRetryFeeMultiplierBps := 11000

structure MaxSendableEstimate where
  amountMsat : UInt64
  feeBudgetMsat : UInt64
  balanceAtComputeMsat : UInt64
  deriving DecidableEq

inductive MaxSendableError where
  | noUsableChannel
  | fixedAmount (amountMsat : UInt64)
  | noLightningMethod
  | routingFailure (msg : String)
  | lnurlResolutionFailed (msg : String)
  | belowLnurlMin (minMsat balanceMsat : UInt64)
  deriving DecidableEq

structure ChannelSnapshot where
  counterparty : PublicKey
  isUsable : Bool
  nextOutboundHtlcLimitMsat : UInt64
  deriving DecidableEq

/-- `From<&ChannelDetails> for ChannelSnapshot`. -/
def ChannelSnapshot.ofDetails (c : ChannelDetails) : ChannelSnapshot where
  counterparty := c.counterpartyNodeId
  isUsable := c.isUsable
  nextOutboundHtlcLimitMsat := c.nextOutboundHtlcLimitMsat

/-! ## Routes -/

/-- `PaymentParameters`, as the invoice they are made from. -/
structure PaymentParameters where
  fromBolt11Invoice : Bolt11Invoice
  deriving DecidableEq

structure RouteParameters where
  paymentParams : PaymentParameters
  finalValueMsat : UInt64
  deriving DecidableEq

/-- A `Path`: the `fee_msat` of each hop, and whether a blinded tail follows. -/
structure Path where
  hops : List UInt64
  blindedTail : Bool
  deriving DecidableEq

/-- `Path::fee_msat`: the last hop carries the payment, unless a tail follows. -/
def Path.feeMsat (p : Path) : UInt64 :=
  if p.blindedTail then wrappingSum p.hops else wrappingSum p.hops.dropLast

structure Route where
  paths : List Path
  deriving DecidableEq

/-! ## Estimates -/

/-- What the estimator reads of its surroundings. -/
structure EstimateEnv where
  fromMilliSats : UInt64 → Option UInt64
  setAmount : ConfigurableAmount → UInt64 → Except String FixedAmount
  bolt11FromStr : String → Except String Bolt11Invoice
  findRoute : RouteParameters → Except String Route

/-- A call to the resolver or the router. -/
inductive EstimateCall where
  | setAmount (inst : ConfigurableAmount) (amount : UInt64)
  | findRoute (params : RouteParameters)
  deriving DecidableEq

def subtractFeeBuffer (balanceMsat : UInt64) (cfg : MaxSendableConfig) : MaxSendableEstimate :=
  let pctBuffer := mulDivTrunc balanceMsat cfg.feeBufferBps 10000
  let floorBuffer := saturatingMul cfg.feeBufferFloorSats 1000
  let bufferMsat := max pctBuffer floorBuffer
  { amountMsat := saturatingSub balanceMsat bufferMsat
    feeBudgetMsat := bufferMsat
    balanceAtComputeMsat := balanceMsat }

def estimateFromRoute (balanceMsat : UInt64) (route : Route) (cfg : MaxSendableConfig) :
    MaxSendableEstimate :=
  let totalFeesMsat := wrappingSum (route.paths.map Path.feeMsat)
  let feeBudgetMsat := mulDivTrunc totalFeesMsat cfg.routeRetryFeeMultiplierBps 10000
  { amountMsat := saturatingSub balanceMsat feeBudgetMsat
    feeBudgetMsat := feeBudgetMsat
    balanceAtComputeMsat := balanceMsat }

def sumOutboundBalance (channels : List ChannelSnapshot) (lspPubkey : PublicKey) :
    Except MaxSendableError UInt64 :=
  let usable := channels.filter fun c => c.counterparty = lspPubkey ∧ c.isUsable
  let sum := usable.foldl
    (fun acc c => some (saturatingAdd (acc.getD 0) c.nextOutboundHtlcLimitMsat)) none
  match sum with
  | some balanceMsat => .ok balanceMsat
  | none => .error .noUsableChannel

/-- `estimate_via_payment_params`. -/
def estimateViaPaymentParams (env : EstimateEnv) (balanceMsat : UInt64)
    (paymentParams : PaymentParameters) (cfg : MaxSendableConfig) :
    Act EstimateCall MaxSendableError MaxSendableEstimate := do
  let routeParams : RouteParameters := ⟨paymentParams, balanceMsat⟩
  let route ← .call (.findRoute routeParams)
    ((env.findRoute routeParams).mapError .routingFailure)
  return estimateFromRoute balanceMsat route cfg

/-! ## Strategies -/

inductive EstimationStrategy where
  | fromRoute (paymentParams : PaymentParameters)
  | buffer
  deriving DecidableEq

def bolt11ToStrategy (env : EstimateEnv) (bolt11Str : String) : EstimationStrategy :=
  match env.bolt11FromStr bolt11Str with
  | .ok ldkInv => .fromRoute ⟨ldkInv⟩
  | .error _ => .buffer

/-- `InstructionAmount::from_milli_sats`, as `resolve_lnurl_strategy` calls it. -/
def targetAmount (env : EstimateEnv) (targetMsat : UInt64) : Except MaxSendableError UInt64 :=
  match env.fromMilliSats targetMsat with
  | some amount => .ok amount
  | none => .error (.lnurlResolutionFailed
      ("target amount " ++ toString targetMsat.toNat ++ " msat exceeds Amount bounds"))

/-- The first BOLT11 invoice an endpoint answered with. -/
def resolvedBolt11 (fixed : FixedAmount) : Except MaxSendableError String :=
  match fixed.methods.findSome? PaymentMethod.bolt11? with
  | some bolt11 => .ok bolt11
  | none => .error (.lnurlResolutionFailed "LNURL resolution yielded no BOLT11 invoice")

/-- `resolve_lnurl_strategy`. -/
def resolveLnurlStrategy (env : EstimateEnv) (inst : ConfigurableAmount)
    (balanceMsat minValue maxValue : UInt64) :
    Act EstimateCall MaxSendableError EstimationStrategy :=
  if balanceMsat < minValue then .lift (.error (.belowLnurlMin minValue balanceMsat))
  else do
    let amount ← .lift (targetAmount env (min balanceMsat maxValue))
    let fixed ← .call (.setAmount inst amount)
      ((env.setAmount inst amount).mapError .lnurlResolutionFailed)
    let bolt11 ← .lift (resolvedBolt11 fixed)
    return bolt11ToStrategy env bolt11

/-- The loop of `pick_strategy` over the methods. -/
def pickStrategyLoop (env : EstimateEnv) (inst : ConfigurableAmount) (balanceMsat : UInt64) :
    List PossiblyResolvedPaymentMethod → Act EstimateCall MaxSendableError EstimationStrategy
  | [] => .lift (.error .noLightningMethod)
  | method :: methods =>
    match method with
    | .resolved (.lightningBolt11 inv) => .lift (.ok (bolt11ToStrategy env inv))
    | .resolved (.lightningBolt12 _) => .lift (.ok .buffer)
    | .lnurlPay minValue maxValue => resolveLnurlStrategy env inst balanceMsat minValue maxValue
    | .resolved (.onChain _) => pickStrategyLoop env inst balanceMsat methods

def pickStrategy (env : EstimateEnv) (inst : ConfigurableAmount) (balanceMsat : UInt64) :
    Act EstimateCall MaxSendableError EstimationStrategy :=
  pickStrategyLoop env inst balanceMsat inst.methods

/-- The estimate a strategy leads to. -/
def estimateBy (env : EstimateEnv) (balanceMsat : UInt64) (cfg : MaxSendableConfig) :
    EstimationStrategy → Act EstimateCall MaxSendableError MaxSendableEstimate
  | .buffer => .lift (.ok (subtractFeeBuffer balanceMsat cfg))
  | .fromRoute paymentParams => estimateViaPaymentParams env balanceMsat paymentParams cfg

/-- `compute_estimate`. -/
def computeEstimate (env : EstimateEnv) (dest : Option PaymentInstructions)
    (channels : List ChannelSnapshot) (lspPubkey : PublicKey) (cfg : MaxSendableConfig) :
    Act EstimateCall MaxSendableError MaxSendableEstimate := do
  let balanceMsat ← .lift (sumOutboundBalance channels lspPubkey)
  match dest with
  | none => return subtractFeeBuffer balanceMsat cfg
  | some (.fixedAmount fixed) => .lift (.error (.fixedAmount (fixed.lnPaymentAmount.getD 0)))
  | some (.configurableAmount inst) =>
    let strategy ← pickStrategy env inst balanceMsat
    estimateBy env balanceMsat cfg strategy

/-- `MdkClient::max_sendable`, with the channels the node lists. -/
def maxSendable (env : EstimateEnv) (dest : Option PaymentInstructions)
    (listChannels : List ChannelDetails) (lspPubkey : PublicKey) (cfg : MaxSendableConfig) :
    Act EstimateCall MaxSendableError MaxSendableEstimate :=
  computeEstimate env dest (listChannels.map .ofDetails) lspPubkey cfg

end Mdkd.MaxSendable
