import Mdkd.Impl.Payments

/-!
# Sending on-chain

`daemon::api::onchain::handle_send_to_address`: `POST /sendtoaddress` has the
node send to an address, and stores the send so that the listing has it before
the node's wallet does. The calls recorded are the sends handed to the node.
-/

namespace Mdkd.Onchain

open Framework Client

/-- `bitcoin::Address`, as the script it stands for. -/
structure Address where
  scriptPubkey : List UInt8
  deriving DecidableEq

/-- `bitcoin::FeeRate`. -/
structure FeeRate where
  satPerKwu : UInt64
  deriving DecidableEq

structure SendToAddressRequest where
  address : String
  amountSat : UInt64
  feerateSatByte : Option UInt64
  deriving DecidableEq

/-- A send handed to the node's on-chain wallet. -/
structure OnchainSend where
  address : Address
  amountSats : UInt64
  feeRate : Option FeeRate
  deriving DecidableEq

/-- What the handler reads of its surroundings: the parser of addresses with
the text of its errors, `FeeRate::from_sat_per_vb`, the txid the wallet answers
a send with, the clock, and whether the `INSERT` of the send ran. -/
structure OnchainEnv where
  parseAddress : String → Except String Address
  fromSatPerVb : UInt64 → Option FeeRate
  sendToAddress : OnchainSend → Except NodeError Bytes32
  now : UInt64
  insertOk : Bool

def feeRateOf (env : OnchainEnv) (req : SendToAddressRequest) :
    Except AppError (Option FeeRate) :=
  match req.feerateSatByte with
  | none => .ok none
  | some satPerVb =>
    match env.fromSatPerVb satPerVb with
    | some feeRate => .ok (some feeRate)
    | none => .error (.badRequest ("invalid feerateSatByte: " ++ toString satPerVb.toNat ++
        " (overflow)"))

/-- `handle_send_to_address` up to the answer of the wallet. -/
def sendToAddress (env : OnchainEnv) (req : SendToAddressRequest) :
    Act OnchainSend AppError Bytes32 := do
  let address ← .lift ((env.parseAddress req.address).mapError fun e =>
    .badRequest ("invalid bitcoin address: " ++ e))
  let feeRate ← .lift (feeRateOf env req)
  let send : OnchainSend := ⟨address, req.amountSat, feeRate⟩
  .call send ((env.sendToAddress send).mapError fun e =>
    .internal ("send_to_address failed: " ++ e.toText))

/-- The record of a send. -/
def sendRecord (env : OnchainEnv) (req : SendToAddressRequest) (txid : String) :
    OutgoingSendRecord where
  txid := txid
  address := req.address
  amountSat := req.amountSat
  feeSat := none
  createdAt := env.now

/-- `handle_send_to_address`: the answer with the calls made, and the store. -/
def handleSendToAddress (env : OnchainEnv) (store : InvoiceMetadataStore)
    (req : SendToAddressRequest) : Act OnchainSend AppError String × InvoiceMetadataStore :=
  let sent := sendToAddress env req
  match sent.result with
  | .error e => (⟨.error e, sent.calls⟩, store)
  | .ok txid =>
    let txidStr := displayTxid txid
    -- a send that cannot be stored is only logged
    let store' := if env.insertOk then store.insertOutgoingSend (sendRecord env req txidStr)
      else store
    (⟨.ok txidStr, sent.calls⟩, store')

end Mdkd.Onchain
