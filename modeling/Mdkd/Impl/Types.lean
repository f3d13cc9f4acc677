import Mdkd.Framework.Record
import Mdkd.Impl.Ldk

/-!
# Errors and events

`mdk::error`, `mdk::types::MdkEvent` and the daemon's `AppError`, with the
texts of their `Display` and the conversions between them.
-/

namespace Mdkd

/-- `mdk::error::SpliceError`. -/
inductive SpliceError where
  | channelNotUsable
  | insufficientFunds
  | rejected
  deriving DecidableEq

def SpliceError.toText : SpliceError → String
  | .channelNotUsable => "channel not usable"
  | .insufficientFunds => "insufficient confirmed on-chain funds"
  | .rejected => "splice rejected by ldk-node"

/-- `mdk::error::MdkError`. -/
inductive MdkError where
  | invalidInput (msg : String)
  | node (msg : String)
  | platform (code message : String) (status : UInt16)
  | network (msg : String)
  | notFound (msg : String)
  | splice (e : SpliceError)
  deriving DecidableEq

def MdkError.toText : MdkError → String
  | .invalidInput msg => "invalid input: " ++ msg
  | .node msg => "node error: " ++ msg
  | .platform code message status =>
    "platform API error (" ++ toString status.toNat ++ "): [" ++ code ++ "] " ++ message
  | .network msg => "network error: " ++ msg
  | .notFound msg => "not found: " ++ msg
  | .splice e => "splice error: " ++ e.toText

/-- `daemon::api::error::AppError`. -/
inductive AppError where
  | badRequest (msg : String)
  | notFound (msg : String)
  | internal (msg : String)
  deriving DecidableEq

/-- `From<MdkError> for AppError`. -/
def AppError.ofMdkError : MdkError → AppError
  | .invalidInput msg => .badRequest msg
  | .notFound msg => .notFound msg
  | .node msg => .internal msg
  | .platform _ message _ => .internal message
  | .network msg => .internal msg
  | .splice e => .internal e.toText

/-- `IntoResponse for AppError`: a status, and a JSON body. -/
def AppError.intoResponse (e : AppError) : Nat × Framework.Json :=
  let (status, code, message) := match e with
    | .badRequest msg => (400, "bad_request", msg)
    | .notFound msg => (404, "not_found", msg)
    | .internal msg => (500, "internal_error", msg)
  (status, .record [("error", some (.string message)), ("code", some (.string code))])

/-- `mdk::types::MdkEvent`. -/
inductive MdkEvent where
  | paymentReceived (paymentHash : String) (amountSats : UInt64)
  | paymentSuccessful (paymentId : String) (paymentHash : Option String)
      (feePaidSats : Option UInt64)
  | paymentFailed (paymentId : String) (reason : Option String)
  | channelPending (channelId counterpartyNodeId : String)
  | channelReady (channelId counterpartyNodeId : String)
  | paymentForwarded (feeEarnedSats : Option UInt64)
  | spliceInitiated (channelId : String)
  | splicePending (channelId newFundingTxid : String)
  | spliceFailed (channelId reason : String)
  deriving DecidableEq

end Mdkd
