import Mathlib.Data.List.Infix
import Mdkd.Framework.Num
import Mdkd.Impl.Client
import Mdkd.Impl.Instructions

/-!
# Paying

`daemon::api::pay` and `daemon::api::pay_any`: `POST /payinvoice` for a BOLT11
invoice, and `POST /pay` for any destination. The calls recorded are the sends
handed to the node; every other answer the handlers read is a field of
`PayEnv`.
-/

namespace Mdkd.Pay

open Framework Client

/-- An `Offer`, as its text. -/
structure Offer where
  text : String
  deriving DecidableEq

/-- A send handed to the node. -/
inductive LdkSend where
  | bolt11Send (invoice : Bolt11Invoice)
  | bolt11SendUsingAmount (invoice : Bolt11Invoice) (amountMsat : UInt64)
  | bolt12SendUsingAmount (offer : Offer) (amountMsat : UInt64) (quantity : Option UInt64)
      (payerNote : Option String)
  deriving DecidableEq

/-- What `Receiver::recv` gives the wait loop. -/
inductive RecvOutcome where
  | ok (event : MdkEvent)
  | lagged (missed : UInt64)
  | closed
  deriving DecidableEq

/-- What the handlers read of their surroundings: `parse` and `setAmount` stand
for the instructions' library and the endpoints it asks, `fromMilliSats` is
`None` above its largest amount, `received` is what arrives before the timeout,
and `payment n` the node's record after the first `n` of them. -/
structure PayEnv where
  parse : String → Except ParseError PaymentInstructions
  fromMilliSats : UInt64 → Option UInt64
  setAmount : ConfigurableAmount → UInt64 → Except String FixedAmount
  bolt11FromStr : String → Except String Bolt11Invoice
  offerFromStr : String → Except String Offer
  send : LdkSend → Except NodeError PaymentId
  received : List RecvOutcome
  payment : Nat → PaymentId → Option PaymentDetails

/-- A send, whose failure is an internal error. -/
def sendOrFail (env : PayEnv) (s : LdkSend) : Act LdkSend AppError PaymentId :=
  .call s ((env.send s).mapError fun e => .internal ("pay failed: " ++ e.toText))

/-! ## `POST /payinvoice` -/

structure PayInvoiceRequest where
  invoice : String
  amountSat : Option UInt64
  deriving DecidableEq

structure PayInvoiceResponse where
  paymentId : String
  paymentHash : String
  deriving DecidableEq

/-- The send `handle_pay_invoice` chooses. -/
def chooseSend (env : PayEnv) (invoice : Bolt11Invoice) (amountSat : Option UInt64) :
    Act LdkSend AppError PaymentId :=
  match invoice.amountMilliSatoshis, amountSat with
  | some _, none => sendOrFail env (.bolt11Send invoice)
  | none, some amountSat => sendOrFail env (.bolt11SendUsingAmount invoice (amountSat * 1000))
  | some invoiceMsat, some amountSat =>
    if invoiceMsat ≠ amountSat * 1000 then
      .lift (.error (.badRequest ("amountSat (" ++ toString amountSat.toNat ++
        ") does not match invoice amount (" ++ toString (invoiceMsat / 1000).toNat ++ " sat)")))
    else sendOrFail env (.bolt11Send invoice)
  | none, none => .lift (.error (.badRequest "zero-amount invoice requires amountSat"))

/-- `handle_pay_invoice`. -/
def handlePayInvoice (env : PayEnv) (req : PayInvoiceRequest) :
    Act LdkSend AppError PayInvoiceResponse := do
  let invoice ← .lift ((env.bolt11FromStr (trim req.invoice)).mapError fun e =>
    .badRequest ("invalid bolt11 invoice: " ++ e))
  let paymentId ← chooseSend env invoice req.amountSat
  return { paymentId := toHex paymentId.bytes, paymentHash := displayHash invoice.paymentHash }

/-! ## `POST /pay` -/

structure PayRequest where
  destination : String
  amountSat : Option UInt64
  waitForPaymentSecs : Option UInt64
  payerNote : Option String
  quantity : Option UInt64
  deriving DecidableEq

inductive PayStatus where
  | succeeded
  | failed
  | pending
  deriving DecidableEq

structure PayResponse where
  paymentId : String
  paymentHash : Option String
  preimage : Option String
  feeSat : Option UInt64
  status : PayStatus
  reason : Option String
  deriving DecidableEq

inductive PaymentTarget where
  | bolt11 (invoice : Bolt11Invoice) (amountMsat : UInt64)
  | bolt12 (offer : Offer) (amountMsat : UInt64)
  deriving DecidableEq

def maxWaitSecs : UInt64 := 50

def defaultWaitSecs : UInt64 := 30

/-- `msg.contains(text)`. -/
def containsText (msg text : String) : Bool := decide (text.toList <:+: msg.toList)

def isTransportMsg (msg : String) : Bool :=
  containsText msg "Failed to fetch" || containsText msg "callback failed"

def mapParseError : ParseError → AppError
  | .hrnResolutionError msg =>
    if isTransportMsg msg then .internal ("destination resolver failed: " ++ msg)
    else .badRequest ("destination resolver returned invalid data: " ++ msg)
  | .other debug => .badRequest ("invalid destination: " ++ debug)

def mapSetAmountError (msg : String) : AppError :=
  if isTransportMsg msg then .internal ("destination resolver failed: " ++ msg)
  else if containsText msg "wrong amount" then .badRequest ("malicious LNURL: " ++ msg)
  else .badRequest ("destination resolver returned invalid data: " ++ msg)

/-- The checks `handle_pay` makes of a request: the seconds to wait, and the
amount in millisatoshis. -/
def checkRequest (req : PayRequest) : Except AppError (UInt64 × Option UInt64) :=
  if req.amountSat = some 0 then .error (.badRequest "amountSat must be greater than zero")
  else
    let waitSecs := req.waitForPaymentSecs.getD defaultWaitSecs
    if waitSecs > maxWaitSecs then
      .error (.badRequest ("waitForPaymentSecs must be <= " ++ toString maxWaitSecs.toNat))
    else
      match req.amountSat with
      | none => .ok (waitSecs, none)
      | some s =>
        match checkedMul s 1000 with
        | none => .error (.badRequest "amountSat overflow")
        | some amountMsat => .ok (waitSecs, some amountMsat)

/-- `pick_method`: the first BOLT11 method, else the first BOLT12. -/
def pickMethod (env : PayEnv) (methods : List PaymentMethod) (amountMsat : UInt64) :
    Except AppError PaymentTarget :=
  match methods.findSome? PaymentMethod.bolt11? with
  | some inv =>
    match env.bolt11FromStr inv with
    | .ok parsed => .ok (.bolt11 parsed amountMsat)
    | .error e => .error (.internal ("failed to re-parse resolved bolt11: " ++ e))
  | none =>
    match methods.findSome? PaymentMethod.bolt12? with
    | some offer =>
      match env.offerFromStr offer with
      | .ok parsed => .ok (.bolt12 parsed amountMsat)
      | .error e => .error (.internal ("failed to re-parse resolved bolt12: " ++ e))
    | none =>
      .error (.badRequest "no supported lightning payment method (need BOLT11 or BOLT12)")

/-- `resolve_fixed`. -/
def resolveFixed (env : PayEnv) (fixed : FixedAmount) (requestedMsat : Option UInt64) :
    Except AppError PaymentTarget :=
  match fixed.lnPaymentAmount with
  | none => .error (.badRequest "destination has no lightning amount")
  | some invoiceMsat =>
    match requestedMsat with
    | none => pickMethod env fixed.methods invoiceMsat
    | some requested =>
      if requested ≠ invoiceMsat then
        .error (.badRequest ("amountSat (" ++ toString (requested / 1000).toNat ++
          ") does not match invoice amount (" ++ toString (invoiceMsat / 1000).toNat ++ " sat)"))
      else pickMethod env fixed.methods invoiceMsat

/-- The check `resolve_configurable` makes of a resolved invoice. -/
def checkResolved (requestedMsat : UInt64) (target : PaymentTarget) :
    Except AppError PaymentTarget :=
  match target with
  | .bolt12 .. => .ok target
  | .bolt11 invoice _ =>
    match invoice.amountMilliSatoshis with
    | none => .ok target
    | some invMsat =>
      if invMsat ≠ requestedMsat then
        .error (.badRequest ("resolved invoice amount (" ++ toString invMsat.toNat ++
          "msat) does not match requested (" ++ toString requestedMsat.toNat ++ "msat)"))
      else .ok target

/-- `resolve_configurable`. -/
def resolveConfigurable (env : PayEnv) (configurable : ConfigurableAmount)
    (requestedMsat : UInt64) : Except AppError PaymentTarget :=
  match env.fromMilliSats requestedMsat with
  | none => .error (.badRequest "amountSat exceeds maximum")
  | some amount =>
    match env.setAmount configurable amount with
    | .error e => .error (mapSetAmountError e)
    | .ok fixed => (pickMethod env fixed.methods requestedMsat).bind (checkResolved requestedMsat)

/-- The target of a request: its destination parsed and resolved. -/
def resolveTarget (env : PayEnv) (req : PayRequest) (amountMsat : Option UInt64) :
    Except AppError PaymentTarget :=
  match env.parse (trim req.destination) with
  | .error e => .error (mapParseError e)
  | .ok (.fixedAmount fixed) => resolveFixed env fixed amountMsat
  | .ok (.configurableAmount configurable) =>
    match amountMsat with
    | none =>
      .error (.badRequest "amountSat is required for variable-amount destinations")
    | some requestedMsat => resolveConfigurable env configurable requestedMsat

/-- The fields only a BOLT12 target takes. -/
def checkTarget (req : PayRequest) (target : PaymentTarget) : Except AppError Unit :=
  match target with
  | .bolt12 .. => .ok ()
  | .bolt11 .. =>
    if req.payerNote.isSome then
      .error (.badRequest "payerNote is only supported on BOLT12 destinations")
    else if req.quantity.isSome then
      .error (.badRequest "quantity is only supported on BOLT12 destinations")
    else .ok ()

def dispatch (env : PayEnv) (target : PaymentTarget) (req : PayRequest) :
    Act LdkSend AppError PaymentId :=
  match target with
  | .bolt11 invoice amountMsat =>
    match invoice.amountMilliSatoshis with
    | some _ => sendOrFail env (.bolt11Send invoice)
    | none => sendOrFail env (.bolt11SendUsingAmount invoice amountMsat)
  | .bolt12 offer amountMsat =>
    sendOrFail env (.bolt12SendUsingAmount offer amountMsat req.quantity req.payerNote)

/-- The wait loop: how many outcomes it reads before an event of the payment,
the end of the channel, or the timeout, which is the end of the list. -/
def awaitSettled (paymentIdHex : String) : List RecvOutcome → Nat
  | [] => 0
  | o :: os =>
    match o with
    | .ok (.paymentSuccessful paymentId _ _) | .ok (.paymentFailed paymentId _) =>
      if paymentId = paymentIdHex then 1 else 1 + awaitSettled paymentIdHex os
    | .ok _ | .lagged _ => 1 + awaitSettled paymentIdHex os
    | .closed => 1

def mapStatus : PaymentStatus → PayStatus
  | .succeeded => .succeeded
  | .failed => .failed
  | .pending => .pending

def extractHash : PaymentKind → Option String
  | .bolt11 hash _ | .bolt11Jit hash _ => some (displayHash hash)
  | .spontaneous hash _ => some (displayHash hash)
  | .bolt12Offer hash _ | .bolt12Refund hash _ => hash.map displayHash
  | .onchain _ => none

def extractPreimage : PaymentKind → Option String
  | .bolt11 _ preimage | .bolt11Jit _ preimage | .bolt12Offer _ preimage
  | .bolt12Refund _ preimage | .spontaneous _ preimage => preimage.map displayHash
  | .onchain _ => none

def buildResponse (paymentId : PaymentId) (details : Option PaymentDetails)
    (target : PaymentTarget) (fallbackStatus : PayStatus) : PayResponse :=
  let targetHash := match target with
    | .bolt11 invoice _ => some (displayHash invoice.paymentHash)
    | .bolt12 .. => none
  match details with
  | some d =>
    let status := mapStatus d.status
    { paymentId := toHex paymentId.bytes
      paymentHash := targetHash.or (extractHash d.kind)
      preimage := extractPreimage d.kind
      feeSat := d.feePaidMsat.map (· / 1000)
      status := status
      reason := if status = .failed then some "payment failed" else none }
  | none =>
    { paymentId := toHex paymentId.bytes
      paymentHash := targetHash
      preimage := none
      feeSat := none
      status := fallbackStatus
      reason := none }

/-- `handle_pay` once the request is checked: with the seconds to wait and the
amount in millisatoshis. -/
def payChecked (env : PayEnv) (req : PayRequest) (waitSecs : UInt64)
    (amountMsat : Option UInt64) : Act LdkSend AppError PayResponse := do
  let target ← .lift (resolveTarget env req amountMsat)
  let _ ← .lift (checkTarget req target)
  let paymentId ← dispatch env target req
  if waitSecs = 0 then
    return buildResponse paymentId (env.payment 0 paymentId) target .pending
  else
    let read := awaitSettled (toHex paymentId.bytes) env.received
    let details := env.payment read paymentId
    let fallback := match details with
      | some d => mapStatus d.status
      | none => .pending
    return buildResponse paymentId details target fallback

/-- `handle_pay`. -/
def handlePay (env : PayEnv) (req : PayRequest) : Act LdkSend AppError PayResponse := do
  let checked ← .lift (checkRequest req)
  payChecked env req checked.1 checked.2

end Mdkd.Pay
