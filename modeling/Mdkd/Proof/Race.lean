import Mdkd.Proof.Events
import Mdkd.Impl.Invoices
import Mdkd.Proof.Checkout

/-!
# Recording an invoice beside its payment

An invoice can be paid once the client has registered it, and its row is
inserted after that (`Checkout.handleCreateInvoice_of_ok`); the event loop may
take its payment first. The two orders are `received_recorded` and
`recorded_received`: with the row there the payment marks it and is announced,
without the row it is dropped. They never end the same (`never_commute`).
-/

namespace Mdkd.Proof.Race

open Framework Client Daemon Invoices

variable (env : InvoiceEnv) (req : CreateInvoiceRequest) (result : CheckoutResult) (now sats : UInt64)

/-- The remaining steps of `handle_create_invoice`, on the daemon's store. -/
def recorded (s : State) : State := { s with store := (recordInvoice env req s.store result).2 }

/-- The payment of the invoice, with every store operation succeeding. -/
def received (s : State) : State :=
  handleEvent now true true s (.paymentReceived result.paymentHash sats)

/-- The paid flag of a payment hash. -/
def paidFlag (h : String) (s : State) : Option Int64 := (s.store.invoices.find h).map (·.paid)

/-- The two orders end with the invoice paid, and the same notifications. -/
structure Commute (s : State) : Prop where
  paid_received : paidFlag result.paymentHash (received result now sats (recorded env req result s)) =
    some 1
  paid_recorded : paidFlag result.paymentHash (recorded env req result (received result now sats s)) =
    some 1
  spawned : (received result now sats (recorded env req result s)).spawned =
    (recorded env req result (received result now sats s)).spawned
  messages : (received result now sats (recorded env req result s)).messages =
    (recorded env req result (received result now sats s)).messages

/-- What the daemon announces of the payment. -/
def announcement : WebhookEvent :=
  .paymentReceived result.paymentHash (sats * 1000) req.externalId now

/-- A new invoice gets the row of its record. -/
theorem find_recorded {s : State} (hok : env.insertError = none)
    (hnew : s.store.getByPaymentHash result.paymentHash = none) :
    (recorded env req result s).store.invoices.find result.paymentHash =
      some (InvoiceMetadataStore.rowOf (invoiceMetadata env req result)) := by
  have hfind : s.store.invoices.find result.paymentHash = none := by
    rwa [InvoiceMetadataStore.getByPaymentHash, Option.map_eq_none_iff] at hnew
  unfold recorded recordInvoice InvoiceMetadataStore.insert
  rw [hok]
  cases hi : s.store.invoices.insert
      (InvoiceMetadataStore.rowOf (invoiceMetadata env req result)) with
  | none => exact absurd hfind (Table.insert_eq_none.1 hi)
  | some invoices =>
    show invoices.find result.paymentHash = _
    rw [Table.find_insert hi]
    exact if_pos rfl

/-- The payment of a recorded invoice marks it and is announced. -/
theorem received_recorded {s : State} (hok : env.insertError = none)
    (hnew : s.store.getByPaymentHash result.paymentHash = none) :
    paidFlag result.paymentHash (received result now sats (recorded env req result s)) = some 1 ∧
      (received result now sats (recorded env req result s)).messages =
        s.messages ++ [announcement req result now sats] ∧
      (received result now sats (recorded env req result s)).spawned =
        s.spawned ++ (req.webhookUrl.map (⟨·, announcement req result now sats⟩)).toList := by
  have hfind := find_recorded env req result hok hnew
  have hget : (recorded env req result s).store.getByPaymentHash result.paymentHash =
      some (.ofRow (InvoiceMetadataStore.rowOf (invoiceMetadata env req result))) := by
    rw [InvoiceMetadataStore.getByPaymentHash, hfind, Option.map_some]
  rw [received, Events.handleEvent_of_stored hget]
  refine ⟨?_, rfl, rfl⟩
  show (((recorded env req result s).store.markPaid result.paymentHash).invoices.find _).map _ = _
  rw [Store.find_markPaid, if_pos rfl, hfind]
  rfl

/-- The payment of an invoice without a row is dropped. -/
theorem received_of_new {s : State} (hnew : s.store.getByPaymentHash result.paymentHash = none) :
    received result now sats s = s :=
  Events.handleEvent_of_new hnew now sats true

/-- The row recorded after its payment stays unpaid, and nothing is announced. -/
theorem recorded_received {s : State} (hok : env.insertError = none)
    (hnew : s.store.getByPaymentHash result.paymentHash = none) :
    paidFlag result.paymentHash (recorded env req result (received result now sats s)) = some 0 ∧
      (recorded env req result (received result now sats s)).messages = s.messages ∧
      (recorded env req result (received result now sats s)).spawned = s.spawned := by
  rw [received_of_new result now sats hnew, paidFlag, find_recorded env req result hok hnew]
  exact ⟨rfl, rfl, rfl⟩

/-- Recording a new invoice and receiving its payment never commute. -/
theorem never_commute (s : State) (hok : env.insertError = none)
    (hnew : s.store.getByPaymentHash result.paymentHash = none) :
    ¬ Commute env req result now sats s := by
  intro h
  have hp := h.paid_recorded
  rw [(recorded_received env req result now sats hok hnew).1] at hp
  exact absurd hp (by decide)

/-- Surroundings of a handler whose `INSERT` runs. -/
def sampleInvoiceEnv : InvoiceEnv where
  checkout :=
    { nodeId := "node"
      createCheckout := fun _ => .error (.network "offline")
      receiveViaJitChannel := fun _ _ _ => .error (.other "offline")
      registerInvoice := fun _ => .error (.network "offline")
      toRfc3339 := fun _ => none }
  parseJson := .ok
  hexError _ := "odd length"
  now := 1700000000
  insertError := none

def sampleRequest : CreateInvoiceRequest where
  amountSat := some 1000
  description := some "coffee"
  descriptionHash := none
  expirySeconds := none
  externalId := some "order-1"
  webhookUrl := some "https://shop.example/hook"
  product := none
  currency := none
  successUrl := none
  metadata := none
  customerName := none
  customerEmail := none
  customerExternalId := none

/-- The checkout of an invoice with the payment hash `h`. -/
def sampleResult (h : String) : CheckoutResult :=
  ⟨"chk_1", "lntbs10u1", h, some 1000, some 1700003600⟩

/-- A store that knows another invoice. -/
theorem never_commute_sample :
    ¬ Commute sampleInvoiceEnv sampleRequest (sampleResult "bb") 1700000001 1000
      (recorded sampleInvoiceEnv sampleRequest (sampleResult "aa") .init) :=
  never_commute _ _ _ _ _ _ rfl (by decide)

/-- Paid before its row is inserted, the first invoice of an empty store stays
unpaid; paid after, it does not. -/
theorem early_payment_lost :
    paidFlag "aa" (recorded sampleInvoiceEnv sampleRequest (sampleResult "aa")
        (received (sampleResult "aa") 1700000001 1000 .init)) = some 0 ∧
      ¬ Commute sampleInvoiceEnv sampleRequest (sampleResult "aa") 1700000001 1000 .init := by
  have hp : paidFlag "aa" (recorded sampleInvoiceEnv sampleRequest (sampleResult "aa")
      (received (sampleResult "aa") 1700000001 1000 .init)) = some 0 := by decide
  refine ⟨hp, fun h => ?_⟩
  exact absurd (hp.symm.trans h.paid_recorded) (by decide)

end Mdkd.Proof.Race
