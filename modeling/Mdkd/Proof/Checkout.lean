import Mdkd.Impl.Invoices
import Mdkd.Proof.Store

/-!
# Creating an invoice, all or nothing

`POST /createinvoice` checks the request, has the platform create a checkout,
the node an invoice and the platform register it, and stores its row.
`CheckoutOutcome` lists the ways the checkout ends, one for each step that can
fail, with the calls made by then, and `Outcome` those of the request, with the
store it leaves; `handleCreateInvoice_outcome` is the case analysis, once, and
`all_or_nothing` what follows from it.
-/

namespace Mdkd.Proof.Checkout

open Framework Client Invoices

variable (env : InvoiceEnv) (req : CreateInvoiceRequest) (store : InvoiceMetadataStore)

/-! ## The request -/

/-- A description of at most 128 bytes or the hash of one, and metadata, if
any, in JSON. -/
def Valid : Prop :=
  ((∃ text, req.description = some text ∧ req.descriptionHash = none ∧
      text.utf8ByteSize ≤ 128) ∨
    ∃ hashHex bytes, req.description = none ∧ req.descriptionHash = some hashHex ∧
      fromHex 32 hashHex = some bytes) ∧
  ∀ text, req.metadata = some text → ∃ json, env.parseJson text = .ok json

theorem parseDescription_isOk :
    (∃ description, parseDescription env req = .ok description) ↔
      (∃ text, req.description = some text ∧ req.descriptionHash = none ∧
          text.utf8ByteSize ≤ 128) ∨
        ∃ hashHex bytes, req.description = none ∧ req.descriptionHash = some hashHex ∧
          fromHex 32 hashHex = some bytes := by
  unfold parseDescription
  cases hd : req.description with
  | none =>
    cases hh : req.descriptionHash with
    | none => simp
    | some hashHex => cases hb : fromHex 32 hashHex <;> simp [hb]
  | some text =>
    cases hh : req.descriptionHash with
    | some hashHex => simp
    | none =>
      by_cases hl : text.utf8ByteSize > Invoices.maxDescriptionLen
      · have hgt : 128 < text.utf8ByteSize := hl
        simp [hl, hgt]
      · have hle : text.utf8ByteSize ≤ 128 := Nat.le_of_not_lt hl
        simp [hl, hle]

theorem parseMetadata_isOk :
    (∃ metadata, parseMetadata env req = .ok metadata) ↔
      ∀ text, req.metadata = some text → ∃ json, env.parseJson text = .ok json := by
  unfold parseMetadata
  cases req.metadata with
  | none => simp
  | some text => cases hj : env.parseJson text <;> simp [hj]

/-- The parameters of a checkout, from the parts that are checked. -/
theorem checkoutParams_eq_ok {params : CreateCheckoutParams} :
    checkoutParams env req = .ok params ↔
      ∃ description metadata, parseDescription env req = .ok description ∧
        parseMetadata env req = .ok metadata ∧
        params = ⟨req.amountSat, description, req.expirySeconds, req.product, req.currency,
          req.successUrl, metadata, customerOf req⟩ := by
  unfold checkoutParams
  cases parseDescription env req with
  | error e => simp [bind, Except.bind]
  | ok description =>
    cases parseMetadata env req with
    | error e => simp [bind, Except.bind]
    | ok metadata => simp [bind, Except.bind, pure, Except.pure, eq_comm]

/-- They are made exactly from a valid request. -/
theorem checkoutParams_isOk :
    (∃ params, checkoutParams env req = .ok params) ↔ Valid env req := by
  rw [Valid, ← parseDescription_isOk, ← parseMetadata_isOk]
  constructor
  · rintro ⟨params, h⟩
    obtain ⟨description, metadata, hd, hm, -⟩ := (checkoutParams_eq_ok env req).1 h
    exact ⟨⟨description, hd⟩, ⟨metadata, hm⟩⟩
  · rintro ⟨⟨description, hd⟩, metadata, hm⟩
    exact ⟨_, (checkoutParams_eq_ok env req).2 ⟨description, metadata, hd, hm, rfl⟩⟩

/-- A description the handler accepts passes the client's check. -/
theorem toBolt11Description_of_params {params : CreateCheckoutParams}
    (h : checkoutParams env req = .ok params) :
    toBolt11Description params.description = .ok params.description := by
  obtain ⟨description, metadata, hd, -, rfl⟩ := (checkoutParams_eq_ok env req).1 h
  show toBolt11Description description = .ok description
  unfold parseDescription at hd
  split at hd
  · split at hd
    · cases hd
    · rename_i hle
      obtain rfl := Except.ok.inj hd
      exact if_neg hle
  · split at hd
    · obtain rfl := Except.ok.inj hd
      rfl
    · cases hd
  · cases hd

/-! ## The steps -/

/-- The platform's answer to the request for a checkout. -/
def create (params : CreateCheckoutParams) : Except MdkApiError Checkout :=
  env.checkout.createCheckout (checkoutRequest env.checkout params)

/-- What the node is asked for an invoice. -/
def invoiceRequest (params : CreateCheckoutParams) (checkout : Checkout) : CheckoutCall :=
  .receiveViaJitChannel (invoiceAmountMsat checkout params.amountSat) params.description
    (params.expirySeconds.getD defaultExpirySecs)

/-- The node's answer. -/
def receive (params : CreateCheckoutParams) (checkout : Checkout) :
    Except NodeError Bolt11Invoice :=
  env.checkout.receiveViaJitChannel (invoiceAmountMsat checkout params.amountSat)
    params.description (params.expirySeconds.getD defaultExpirySecs)

/-- What the platform is asked to register. -/
def registerRequest (checkout : Checkout) (invoice : Bolt11Invoice) : RegisterInvoiceRequest where
  nodeId := env.checkout.nodeId
  scid := extractScid invoice
  checkoutId := checkout.id
  invoice := invoice.text
  paymentHash := displayHash invoice.paymentHash
  invoiceExpiresAt :=
    (invoice.expiresAt.bind fun secs => env.checkout.toRfc3339 secs.toInt64).getD ""

/-- The platform's answer. -/
def register (checkout : Checkout) (invoice : Bolt11Invoice) : Except MdkApiError Checkout :=
  env.checkout.registerInvoice (registerRequest env checkout invoice)

/-- What the checkout comes to. -/
def resultOf (checkout : Checkout) (invoice : Bolt11Invoice) : CheckoutResult where
  checkoutId := checkout.id
  invoice := invoice.text
  paymentHash := displayHash invoice.paymentHash
  amountSat := invoice.amountMilliSatoshis.map (· / 1000)
  expiresAt := invoice.expiresAt

/-- What a request that was served answers. -/
def answerOf (result : CheckoutResult) : CreateInvoiceResponse where
  amountSat := result.amountSat
  paymentHash := result.paymentHash
  serialized := result.invoice
  checkoutId := result.checkoutId

/-- Validation and the three calls of the checkout succeed, in order: each
call is made of the answers before it. -/
structure Registered (params : CreateCheckoutParams) (checkout : Checkout)
    (invoice : Bolt11Invoice) : Prop where
  accepted : checkoutParams env req = .ok params
  created : create env params = .ok checkout
  received : receive env params checkout = .ok invoice
  registered : ∃ c, register env checkout invoice = .ok c

/-- The calls of such a checkout. -/
def checkoutCalls (params : CreateCheckoutParams) (checkout : Checkout)
    (invoice : Bolt11Invoice) : List CheckoutCall :=
  [.createCheckout (checkoutRequest env.checkout params), invoiceRequest params checkout,
    .registerInvoice (registerRequest env checkout invoice)]

/-- How a checkout ends: its result and the calls made by then, for each step
that can fail and for none. -/
inductive CheckoutOutcome : Except AppError CheckoutResult → List CheckoutCall → Prop where
  | refused {e : AppError} : checkoutParams env req = .error e → CheckoutOutcome (.error e) []
  | notCreated {params : CreateCheckoutParams} {e : MdkApiError} :
      checkoutParams env req = .ok params → create env params = .error e →
      CheckoutOutcome (.error (.ofMdkError (ofApiError e)))
        [.createCheckout (checkoutRequest env.checkout params)]
  | notReceived {params : CreateCheckoutParams} {checkout : Checkout} {e : NodeError} :
      checkoutParams env req = .ok params → create env params = .ok checkout →
      receive env params checkout = .error e →
      CheckoutOutcome
        (.error (.ofMdkError (.node ("failed to create JIT invoice: " ++ e.toText))))
        [.createCheckout (checkoutRequest env.checkout params), invoiceRequest params checkout]
  | notRegistered {params : CreateCheckoutParams} {checkout : Checkout}
      {invoice : Bolt11Invoice} {e : MdkApiError} :
      checkoutParams env req = .ok params → create env params = .ok checkout →
      receive env params checkout = .ok invoice → register env checkout invoice = .error e →
      CheckoutOutcome (.error (.ofMdkError (ofApiError e)))
        (checkoutCalls env params checkout invoice)
  | registered {params : CreateCheckoutParams} {checkout : Checkout} {invoice : Bolt11Invoice} :
      Registered env req params checkout invoice →
      CheckoutOutcome (.ok (resultOf checkout invoice)) (checkoutCalls env params checkout invoice)

/-- How the checkout of a request ends. -/
theorem checkoutFor_outcome : (checkoutFor env req).Holds (CheckoutOutcome env req) := by
  unfold checkoutFor
  refine Act.holds_lift.2 ⟨fun e => .refused, fun params hp => ?_⟩
  rw [Act.holds_mapError]
  unfold createCheckout
  rw [toBolt11Description_of_params env req hp]
  refine Act.holds_lift.2 ⟨nofun, fun description hd => ?_⟩
  obtain rfl := Except.ok.inj hd
  -- the platform creates the checkout
  refine Act.holds_call.2 ⟨fun e he => ?_, fun checkout hc => ?_⟩
  · obtain ⟨e', he', rfl⟩ := mapError_eq_error.1 he
    exact .notCreated hp he'
  rw [mapError_eq_ok] at hc
  -- the node makes the invoice
  refine Act.holds_call.2 ⟨fun e he => ?_, fun invoice hi => ?_⟩
  · obtain ⟨e', he', rfl⟩ := mapError_eq_error.1 he
    exact .notReceived hp hc he'
  rw [mapError_eq_ok] at hi
  -- the platform registers it
  refine Act.holds_call.2 ⟨fun e he => ?_, fun c hr => ?_⟩
  · obtain ⟨e', he', rfl⟩ := mapError_eq_error.1 he
    exact .notRegistered hp hc hi he'
  rw [mapError_eq_ok] at hr
  exact .registered ⟨hp, hc, hi, c, hr⟩

/-! ## The record -/

/-- The record is stored: the `INSERT` runs, and its payment hash is new. -/
def Stores (invoice : Bolt11Invoice) : Prop :=
  env.insertError = none ∧ store.getByPaymentHash (displayHash invoice.paymentHash) = none

/-- The row of a new payment hash is stored. -/
theorem insert_eq_some (metadata : InvoiceMetadata)
    (h : store.getByPaymentHash metadata.paymentHash = none) :
    ∃ store', store.insert metadata = some store' ∧
      store'.invoices.rows = store.invoices.rows ++ [InvoiceMetadataStore.rowOf metadata] ∧
      store'.sends = store.sends := by
  rw [InvoiceMetadataStore.getByPaymentHash, Option.map_eq_none_iff] at h
  unfold InvoiceMetadataStore.insert
  cases hi : store.invoices.insert (InvoiceMetadataStore.rowOf metadata) with
  | none => exact absurd h (Table.insert_eq_none.1 hi)
  | some invoices => exact ⟨_, rfl, Table.rows_insert hi, rfl⟩

theorem insert_eq_none (metadata : InvoiceMetadata)
    (h : store.getByPaymentHash metadata.paymentHash ≠ none) : store.insert metadata = none := by
  rw [InvoiceMetadataStore.getByPaymentHash, Ne, Option.map_eq_none_iff] at h
  unfold InvoiceMetadataStore.insert
  rw [Table.insert_eq_none.2 h]
  rfl

/-- The record of a checkout is stored and answered for, or neither. -/
theorem recordInvoice_cases (checkout : Checkout) (invoice : Bolt11Invoice) :
    (Stores env store invoice ∧ ∃ store',
      recordInvoice env req store (resultOf checkout invoice) =
        (.ok (answerOf (resultOf checkout invoice)), store') ∧
      store.insert (invoiceMetadata env req (resultOf checkout invoice)) = some store') ∨
    (¬ Stores env store invoice ∧ ∃ e,
      recordInvoice env req store (resultOf checkout invoice) = (.error e, store)) := by
  unfold recordInvoice Stores
  cases env.insertError with
  | some e => exact .inr ⟨fun h => Option.some_ne_none e h.1, _, rfl⟩
  | none =>
    by_cases hnew : store.getByPaymentHash (displayHash invoice.paymentHash) = none
    · obtain ⟨store', hs, -, -⟩ := insert_eq_some store
        (invoiceMetadata env req (resultOf checkout invoice)) hnew
      refine .inl ⟨⟨rfl, hnew⟩, store', ?_, hs⟩
      rw [hs]
      rfl
    · have hs := insert_eq_none store
        (invoiceMetadata env req (resultOf checkout invoice)) hnew
      refine .inr ⟨fun h => hnew h.2, ?_⟩
      rw [hs]
      exact ⟨_, rfl⟩

/-- How a request ends: the answer, the calls made by then and the store left. -/
inductive Outcome :
    Except AppError CreateInvoiceResponse → List CheckoutCall → InvoiceMetadataStore → Prop where
  | failed {e : AppError} {calls : List CheckoutCall} :
      CheckoutOutcome env req (.error e) calls → Outcome (.error e) calls store
  | notStored {params : CreateCheckoutParams} {checkout : Checkout} {invoice : Bolt11Invoice}
      {e : AppError} :
      Registered env req params checkout invoice → ¬ Stores env store invoice →
      Outcome (.error e) (checkoutCalls env params checkout invoice) store
  | stored {params : CreateCheckoutParams} {checkout : Checkout} {invoice : Bolt11Invoice}
      {store' : InvoiceMetadataStore} :
      Registered env req params checkout invoice → Stores env store invoice →
      store.insert (invoiceMetadata env req (resultOf checkout invoice)) = some store' →
      Outcome (.ok (answerOf (resultOf checkout invoice)))
        (checkoutCalls env params checkout invoice) store'

/-- A request whose checkout has failed changes nothing. -/
theorem handleCreateInvoice_of_error {e : AppError} (h : (checkoutFor env req).result = .error e) :
    handleCreateInvoice env store req = (⟨.error e, (checkoutFor env req).calls⟩, store) := by
  simp only [handleCreateInvoice, h]

/-- A request whose checkout is registered goes on to its record. -/
theorem handleCreateInvoice_of_ok {result : CheckoutResult}
    (h : (checkoutFor env req).result = .ok result) :
    handleCreateInvoice env store req =
      (⟨(recordInvoice env req store result).1, (checkoutFor env req).calls⟩,
        (recordInvoice env req store result).2) := by
  simp only [handleCreateInvoice, h]

/-- How a request ends. -/
theorem handleCreateInvoice_outcome :
    Outcome env req store (handleCreateInvoice env store req).1.result
      (handleCreateInvoice env store req).1.calls (handleCreateInvoice env store req).2 := by
  have hcheckout : CheckoutOutcome env req (checkoutFor env req).result
      (checkoutFor env req).calls := checkoutFor_outcome env req
  cases hresult : (checkoutFor env req).result with
  | error e =>
    rw [hresult] at hcheckout
    rw [handleCreateInvoice_of_error env req store hresult]
    exact .failed hcheckout
  | ok result =>
    rw [hresult] at hcheckout
    rw [handleCreateInvoice_of_ok env req store hresult]
    generalize (checkoutFor env req).calls = calls at hcheckout
    cases hcheckout with
    | registered h =>
      rename_i params checkout invoice
      rcases recordInvoice_cases env req store checkout invoice with
        ⟨hs, store', hr, hi⟩ | ⟨hs, e, hr⟩
      · rw [hr]
        exact .stored h hs hi
      · rw [hr]
        exact .notStored h hs

/-! ## All or nothing -/

variable {env req}

/-- The parts of a checkout are determined. -/
theorem Registered.unique {params params' : CreateCheckoutParams} {checkout checkout' : Checkout}
    {invoice invoice' : Bolt11Invoice} (h : Registered env req params checkout invoice)
    (h' : Registered env req params' checkout' invoice') : invoice = invoice' := by
  obtain rfl := Except.ok.inj (h.accepted.symm.trans h'.accepted)
  obtain rfl := Except.ok.inj (h.created.symm.trans h'.created)
  exact Except.ok.inj (h.received.symm.trans h'.received)

/-- A checkout that has failed is not registered. -/
theorem CheckoutOutcome.not_registered {e : AppError} {calls : List CheckoutCall}
    (h : CheckoutOutcome env req (.error e) calls) {params : CreateCheckoutParams}
    {checkout : Checkout} {invoice : Bolt11Invoice} :
    ¬ Registered env req params checkout invoice := by
  intro hr
  cases h with
  | refused hp => cases hp.symm.trans hr.accepted
  | notCreated hp hc =>
    obtain rfl := Except.ok.inj (hp.symm.trans hr.accepted)
    cases hc.symm.trans hr.created
  | notReceived hp hc hi =>
    obtain rfl := Except.ok.inj (hp.symm.trans hr.accepted)
    obtain rfl := Except.ok.inj (hc.symm.trans hr.created)
    cases hi.symm.trans hr.received
  | notRegistered hp hc hi hg =>
    obtain rfl := Except.ok.inj (hp.symm.trans hr.accepted)
    obtain rfl := Except.ok.inj (hc.symm.trans hr.created)
    obtain rfl := Except.ok.inj (hi.symm.trans hr.received)
    obtain ⟨c, hok⟩ := hr.registered
    cases hg.symm.trans hok

/-- Without a valid request, no call is made. -/
theorem CheckoutOutcome.of_not_valid {result : Except AppError CheckoutResult}
    {calls : List CheckoutCall} (h : CheckoutOutcome env req result calls)
    (hv : ¬ Valid env req) : calls = [] := by
  have hparams : ∀ params, checkoutParams env req ≠ .ok params := fun params hp =>
    hv ((checkoutParams_isOk env req).1 ⟨params, hp⟩)
  cases h with
  | refused => rfl
  | notCreated hp => exact absurd hp (hparams _)
  | notReceived hp => exact absurd hp (hparams _)
  | notRegistered hp => exact absurd hp (hparams _)
  | registered h => exact absurd h.accepted (hparams _)

variable {answer : Except AppError CreateInvoiceResponse} {calls : List CheckoutCall}
  {store store' : InvoiceMetadataStore}

/-- A request is served exactly when every step succeeds. -/
theorem Outcome.isOk_iff (h : Outcome env req store answer calls store') :
    (∃ a, answer = .ok a) ↔ ∃ params checkout invoice,
      Registered env req params checkout invoice ∧ Stores env store invoice := by
  cases h with
  | failed hc =>
    refine iff_of_false nofun ?_
    rintro ⟨params, checkout, invoice, hr, -⟩
    exact hc.not_registered hr
  | notStored hr hs =>
    refine iff_of_false nofun ?_
    rintro ⟨params, checkout, invoice, hr', hs'⟩
    rw [← hr.unique hr'] at hs'
    exact hs hs'
  | stored hr hs _ => exact iff_of_true ⟨_, rfl⟩ ⟨_, _, _, hr, hs⟩

/-- A request that fails leaves the store as it was. -/
theorem Outcome.store_of_error (h : Outcome env req store answer calls store') {e : AppError}
    (he : answer = .error e) : store' = store := by
  cases h with
  | stored => cases he
  | _ => rfl

/-- The row of a response: under its payment hash, with its invoice, checkout
and amount, and what the request says of it. -/
structure Carries (req : CreateInvoiceRequest) (a : CreateInvoiceResponse) (row : MetadataRow) :
    Prop where
  paymentHash : row.paymentHash = a.paymentHash
  invoice : (InvoiceMetadata.ofRow row).invoice = some a.serialized
  checkoutId : (InvoiceMetadata.ofRow row).checkoutId = a.checkoutId
  amountSat : (InvoiceMetadata.ofRow row).amountSat = a.amountSat
  externalId : (InvoiceMetadata.ofRow row).externalId = req.externalId
  webhookUrl : (InvoiceMetadata.ofRow row).webhookUrl = req.webhookUrl
  description : (InvoiceMetadata.ofRow row).description = req.description

/-- One row is added, and nothing else changed. -/
def Added (req : CreateInvoiceRequest) (a : CreateInvoiceResponse)
    (store store' : InvoiceMetadataStore) : Prop :=
  ∃ row, Carries req a row ∧ store'.invoices.rows = store.invoices.rows ++ [row] ∧
    store'.sends = store.sends

/-- A request that is served adds its row. -/
theorem Outcome.added_of_ok (h : Outcome env req store answer calls store')
    {a : CreateInvoiceResponse} (ha : answer = .ok a) : Added req a store store' := by
  cases h with
  | @stored params checkout invoice store' hr hs hi =>
    obtain rfl := Except.ok.inj ha
    obtain ⟨store'', hi', hrows, hsends⟩ := insert_eq_some store
      (invoiceMetadata env req (resultOf checkout invoice)) hs.2
    obtain rfl := Option.some.inj (hi.symm.trans hi')
    have hrow := Store.ofRow_rowOf (invoiceMetadata env req (resultOf checkout invoice))
    refine ⟨_, ⟨rfl, ?_, ?_, ?_, ?_, ?_, ?_⟩, hrows, hsends⟩ <;> rw [hrow] <;> rfl
  | _ => cases ha

/-- A request that is not valid is refused before any call. -/
theorem Outcome.of_not_valid (h : Outcome env req store answer calls store')
    (hv : ¬ Valid env req) : (∃ e, answer = .error e) ∧ calls = [] := by
  cases h with
  | failed hc => exact ⟨⟨_, rfl⟩, hc.of_not_valid hv⟩
  | notStored hr =>
    exact absurd ((checkoutParams_isOk env req).1 ⟨_, hr.accepted⟩) hv
  | stored hr =>
    exact absurd ((checkoutParams_isOk env req).1 ⟨_, hr.accepted⟩) hv

/-- A request that makes the answer and the calls given, and leaves `store'`:

* its steps are taken in order, each after the one before it succeeded;
* it is served exactly when validation, the three calls and the insert succeed;
* served, it has added its row, and refused, changed nothing;
* one that is not valid makes no call. -/
structure AllOrNothing (env : InvoiceEnv) (req : CreateInvoiceRequest)
    (store : InvoiceMetadataStore) (answer : Except AppError CreateInvoiceResponse)
    (calls : List CheckoutCall) (store' : InvoiceMetadataStore) : Prop where
  steps : Outcome env req store answer calls store'
  valid_iff : (∃ params, checkoutParams env req = .ok params) ↔ Valid env req
  ok_iff : (∃ a, answer = .ok a) ↔ ∃ params checkout invoice,
    Registered env req params checkout invoice ∧ Stores env store invoice
  added : ∀ a, answer = .ok a → Added req a store store'
  unchanged : ∀ e, answer = .error e → store' = store
  refused : ¬ Valid env req → (∃ e, answer = .error e) ∧ calls = []

/-- Creating an invoice is all or nothing. -/
theorem all_or_nothing (env : InvoiceEnv) (store : InvoiceMetadataStore)
    (req : CreateInvoiceRequest) :
    AllOrNothing env req store (handleCreateInvoice env store req).1.result
      (handleCreateInvoice env store req).1.calls (handleCreateInvoice env store req).2 := by
  have h := handleCreateInvoice_outcome env req store
  exact
    { steps := h
      valid_iff := checkoutParams_isOk env req
      ok_iff := h.isOk_iff
      added := fun _ => h.added_of_ok
      unchanged := fun _ => h.store_of_error
      refused := h.of_not_valid }

end Mdkd.Proof.Checkout
