import Mdkd.Impl.Client
import Mdkd.Impl.Store

/-!
# Creating an invoice

`daemon::api::invoices::handle_create_invoice`: `POST /createinvoice` checks the
request, has the client create a checkout, and stores the invoice. The calls
recorded are the client's; the invoice store is read and written directly.
-/

namespace Mdkd.Invoices

open Framework Client

/-- `MAX_DESCRIPTION_LEN` of the handler. -/
def maxDescriptionLen : Nat := 128

structure CreateInvoiceRequest where
  amountSat : Option UInt64
  description : Option String
  descriptionHash : Option String
  expirySeconds : Option UInt32
  externalId : Option String
  webhookUrl : Option String
  product : Option String
  currency : Option String
  successUrl : Option String
  metadata : Option String
  customerName : Option String
  customerEmail : Option String
  customerExternalId : Option String
  deriving DecidableEq

structure CreateInvoiceResponse where
  amountSat : Option UInt64
  paymentHash : String
  serialized : String
  checkoutId : String
  deriving DecidableEq

/-- What the handler reads of its surroundings: the client's, the JSON of a
text (or the error of reading it), the text of the error for a malformed hash,
the clock, and the error of an `INSERT` that did not run. -/
structure InvoiceEnv where
  checkout : CheckoutEnv
  parseJson : String → Except String String
  hexError : String → String
  now : UInt64
  insertError : Option String

def parseDescription (env : InvoiceEnv) (req : CreateInvoiceRequest) :
    Except AppError InvoiceDescription :=
  match req.description, req.descriptionHash with
  | some desc, none =>
    if desc.utf8ByteSize > maxDescriptionLen then
      .error (.badRequest ("description too long (max " ++ toString maxDescriptionLen ++
        " characters)"))
    else .ok (.direct desc)
  | none, some hashHex =>
    match fromHex 32 hashHex with
    | some bytes => .ok (.hash bytes)
    | none => .error (.badRequest ("Invalid descriptionHash: " ++ env.hexError hashHex))
  | _, _ => .error (.badRequest "Must provide either description or descriptionHash")

/-- The metadata of a request, as JSON. -/
def parseMetadata (env : InvoiceEnv) (req : CreateInvoiceRequest) :
    Except AppError (Option String) :=
  match req.metadata with
  | none => .ok none
  | some s =>
    match env.parseJson s with
    | .ok json => .ok (some json)
    | .error e => .error (.badRequest ("Invalid metadata JSON: " ++ e))

/-- The customer of a request, if it names any of its fields. -/
def customerOf (req : CreateInvoiceRequest) : Option Customer :=
  if req.customerName.isSome || req.customerEmail.isSome || req.customerExternalId.isSome then
    some ⟨req.customerName, req.customerEmail, req.customerExternalId⟩
  else none

/-- The parameters of the checkout, from a request that passes its checks. -/
def checkoutParams (env : InvoiceEnv) (req : CreateInvoiceRequest) :
    Except AppError CreateCheckoutParams := do
  let description ← parseDescription env req
  let metadataJson ← parseMetadata env req
  return { amountSat := req.amountSat
           description := description
           expirySeconds := req.expirySeconds
           product := req.product
           currency := req.currency
           successUrl := req.successUrl
           metadata := metadataJson
           customer := customerOf req }

/-- `handle_create_invoice` up to the checkout. -/
def checkoutFor (env : InvoiceEnv) (req : CreateInvoiceRequest) :
    Act CheckoutCall AppError CheckoutResult := do
  let params ← .lift (checkoutParams env req)
  (createCheckout env.checkout params).mapError .ofMdkError

/-- The record of the invoice. -/
def invoiceMetadata (env : InvoiceEnv) (req : CreateInvoiceRequest) (result : CheckoutResult) :
    InvoiceMetadata where
  paymentHash := result.paymentHash
  externalId := req.externalId
  webhookUrl := req.webhookUrl
  checkoutId := result.checkoutId
  description := req.description
  invoice := some result.invoice
  amountSat := result.amountSat
  createdAt := env.now
  expiresAt := result.expiresAt.getD 0

/-- `handle_create_invoice` after the checkout, which is registered with the
platform by then: the record is stored, and the request answered. -/
def recordInvoice (env : InvoiceEnv) (req : CreateInvoiceRequest) (store : InvoiceMetadataStore)
    (result : CheckoutResult) : Except AppError CreateInvoiceResponse × InvoiceMetadataStore :=
  let failed (e : String) : AppError :=
    .internal ("Failed to store invoice metadata: Failed to insert invoice metadata: " ++ e)
  match env.insertError with
  | some e => (.error (failed e), store)
  | none =>
    match store.insert (invoiceMetadata env req result) with
    | none =>
      (.error (failed "UNIQUE constraint failed: mdk_invoice_metadata.payment_hash"), store)
    | some store' =>
      (.ok { amountSat := result.amountSat
             paymentHash := result.paymentHash
             serialized := result.invoice
             checkoutId := result.checkoutId }, store')

/-- `handle_create_invoice`: the answer with the calls made, and the store. -/
def handleCreateInvoice (env : InvoiceEnv) (store : InvoiceMetadataStore)
    (req : CreateInvoiceRequest) :
    Act CheckoutCall AppError CreateInvoiceResponse × InvoiceMetadataStore :=
  let checkout := checkoutFor env req
  match checkout.result with
  | .error e => (⟨.error e, checkout.calls⟩, store)
  | .ok result =>
    let (answer, store') := recordInvoice env req store result
    (⟨answer, checkout.calls⟩, store')

/-- The JSON of an answer. An absent amount is `null`. -/
def CreateInvoiceResponse.json (r : CreateInvoiceResponse) : Json :=
  .record
    [("amountSat", some ((r.amountSat.map .ofUInt64).getD .null)),
      ("paymentHash", some (.string r.paymentHash)), ("serialized", some (.string r.serialized)),
      ("checkoutId", some (.string r.checkoutId))]

/-- The response to `POST /createinvoice`. -/
def respond : Except AppError CreateInvoiceResponse → Nat × Json
  | .ok r => (200, r.json)
  | .error e => e.intoResponse

end Mdkd.Invoices
