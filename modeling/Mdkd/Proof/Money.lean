import Mdkd.Proof.Events
import Mdkd.Proof.Pay

/-!
# Satoshis and millisatoshis

The places that turn satoshis into millisatoshis: `handle_pay_invoice` and
`create_checkout` with a bare product, `handle_pay` with a checked one, and the
webhook with a bare product of a quotient. `conversions` says when each is
exact; the first two are not for an amount above 18 446 744 073 709 551 sat
whose product comes out as what the invoice asks for, or is used as it is.
-/

namespace Mdkd.Proof.Money

open Framework Client Mdkd.Pay Mdkd.Proof.Pay

/-- The product the code computes. -/
theorem toNat_mul_1000 (a : UInt64) : (a * 1000).toNat = 1000 * a.toNat % 2 ^ 64 := by
  rw [mul_wraps, Nat.mul_comm]
  rfl

/-! ## `POST /payinvoice` -/

/-- A payment handed to the node is of the amount asked for. -/
def InvoicePaymentExact (env : PayEnv) (req : PayInvoiceRequest) : Prop :=
  ∀ s ∈ (handlePayInvoice env req).calls, ∀ a, req.amountSat = some a →
    (effectiveMsat s).map UInt64.toNat = some (1000 * a.toNat)

/-- The amount asked for fits 64 bits in millisatoshis, or the invoice has
another amount than the wrapped one. -/
def InvoicePaymentFits (env : PayEnv) (req : PayInvoiceRequest) : Prop :=
  ∀ invoice a, env.bolt11FromStr (trim req.invoice) = .ok invoice → req.amountSat = some a →
    1000 * a.toNat < 2 ^ 64 ∨
      ∃ v, invoice.amountMilliSatoshis = some v ∧ v.toNat ≠ 1000 * a.toNat % 2 ^ 64

theorem calls_sendOrFail (env : PayEnv) (s : LdkSend) : (sendOrFail env s).calls = [s] := rfl

/-- The calls of `handle_pay_invoice` are those of the send it chooses. -/
theorem calls_handlePayInvoice {env : PayEnv} {req : PayInvoiceRequest} {invoice : Bolt11Invoice}
    (hi : env.bolt11FromStr (trim req.invoice) = .ok invoice) :
    (handlePayInvoice env req).calls = (chooseSend env invoice req.amountSat).calls := by
  have h : (handlePayInvoice env req).Holds fun _ cs =>
      cs = (chooseSend env invoice req.amountSat).calls := by
    refine Act.holds_lift.2 ⟨fun _ h => ?_, fun _ h => ?_⟩ <;> rw [hi] at h <;> cases h
    exact Act.holds_bind.2 ⟨fun _ _ => rfl, fun _ _ => Act.holds_pure.2 (List.append_nil _)⟩
  exact h

/-- A send `handle_pay_invoice` makes is of the invoice it parsed. -/
theorem mem_calls_handlePayInvoice {env : PayEnv} {req : PayInvoiceRequest} {s : LdkSend} :
    s ∈ (handlePayInvoice env req).calls ↔ ∃ invoice,
      env.bolt11FromStr (trim req.invoice) = .ok invoice ∧
        s ∈ (chooseSend env invoice req.amountSat).calls := by
  cases hi : env.bolt11FromStr (trim req.invoice) with
  | error e =>
    have h : (handlePayInvoice env req).calls = [] := by
      rw [handlePayInvoice, hi]
      rfl
    simp [h]
  | ok invoice =>
    rw [calls_handlePayInvoice hi]
    simp

/-- What a chosen send pays, when an amount is given: the wrapped product. -/
theorem mem_calls_chooseSend {env : PayEnv} {invoice : Bolt11Invoice} {a : UInt64} {s : LdkSend} :
    s ∈ (chooseSend env invoice (some a)).calls ↔
      (invoice.amountMilliSatoshis = none ∧ s = .bolt11SendUsingAmount invoice (a * 1000)) ∨
        invoice.amountMilliSatoshis = some (a * 1000) ∧ s = .bolt11Send invoice := by
  unfold chooseSend
  cases hi : invoice.amountMilliSatoshis with
  | none => simp [calls_sendOrFail]
  | some v =>
    by_cases hv : v = a * 1000
    · simp [hv, calls_sendOrFail]
    · simp [hv, Act.lift]

/-- `POST /payinvoice` pays what was asked for exactly when the amount fits. -/
theorem invoicePayment_iff (env : PayEnv) (req : PayInvoiceRequest) :
    InvoicePaymentExact env req ↔ InvoicePaymentFits env req := by
  refine ⟨fun h invoice a hi ha => ?_, fun h s hs a ha => ?_⟩
  · have exact_of : ∀ s, s ∈ (chooseSend env invoice (some a)).calls →
        (effectiveMsat s).map UInt64.toNat = some (1000 * a.toNat) := fun s hs =>
      h s (mem_calls_handlePayInvoice.2 ⟨invoice, hi, by rw [ha]; exact hs⟩) a ha
    have hlt := Nat.mod_lt (1000 * a.toNat) (show 0 < 2 ^ 64 by decide)
    cases hv : invoice.amountMilliSatoshis with
    | none =>
      have := exact_of _ (mem_calls_chooseSend.2 (.inl ⟨hv, rfl⟩))
      simp only [effectiveMsat, Option.map_some, Option.some.injEq, toNat_mul_1000] at this
      left; omega
    | some v =>
      by_cases hw : v.toNat = 1000 * a.toNat % 2 ^ 64
      · have e : v = a * 1000 := UInt64.toNat_inj.1 (hw.trans (toNat_mul_1000 a).symm)
        have := exact_of _ (mem_calls_chooseSend.2 (.inr ⟨by rw [hv, e], rfl⟩))
        simp only [effectiveMsat, hv, Option.map_some, Option.some.injEq] at this
        left; omega
      · exact .inr ⟨v, rfl, hw⟩
  · obtain ⟨invoice, hi, hc⟩ := mem_calls_handlePayInvoice.1 hs
    rw [ha] at hc
    rcases mem_calls_chooseSend.1 hc with ⟨hv, rfl⟩ | ⟨hv, rfl⟩
    · have hfit : 1000 * a.toNat < 2 ^ 64 := by
        refine (h invoice a hi ha).resolve_right fun hne => ?_
        obtain ⟨v, hv', -⟩ := hne
        rw [hv] at hv'
        cases hv'
      rw [effectiveMsat, Option.map_some, toNat_mul_1000, Nat.mod_eq_of_lt hfit]
    · have hfit : 1000 * a.toNat < 2 ^ 64 := by
        refine (h invoice a hi ha).resolve_right fun h' => ?_
        obtain ⟨v, hv', hne⟩ := h'
        rw [hv] at hv'
        obtain rfl := Option.some.inj hv'
        exact hne (toNat_mul_1000 a)
      rw [effectiveMsat, hv, Option.map_some, toNat_mul_1000, Nat.mod_eq_of_lt hfit]

/-! ## Creating a checkout -/

/-- The amount of the checkout in satoshis. -/
def checkoutSats (checkout : Checkout) (params : CreateCheckoutParams) : Option UInt64 :=
  checkout.invoiceAmountSats.or params.amountSat

theorem invoiceAmountMsat_eq (checkout : Checkout) (params : CreateCheckoutParams) :
    invoiceAmountMsat checkout params.amountSat =
      (checkoutSats checkout params).map (· * 1000) := by
  unfold invoiceAmountMsat checkoutSats
  cases checkout.invoiceAmountSats <;> rfl

/-- An invoice created is for the amount of the checkout the platform made. -/
def CheckoutExact (env : CheckoutEnv) (params : CreateCheckoutParams) : Prop :=
  ∀ req checkout amountMsat description expirySecs invoice,
    .createCheckout req ∈ (createCheckout env params).calls →
    env.createCheckout req = .ok checkout →
    .receiveViaJitChannel amountMsat description expirySecs ∈ (createCheckout env params).calls →
    env.receiveViaJitChannel amountMsat description expirySecs = .ok invoice →
    amountMsat.map UInt64.toNat = (checkoutSats checkout params).map fun s => 1000 * s.toNat

/-- The amount of the checkout fits 64 bits in millisatoshis, unless the
description is refused or the node refuses the wrapped amount. -/
def CheckoutFits (env : CheckoutEnv) (params : CreateCheckoutParams) : Prop :=
  ∀ description checkout s invoice, toBolt11Description params.description = .ok description →
    env.createCheckout (checkoutRequest env params) = .ok checkout →
    checkoutSats checkout params = some s →
    env.receiveViaJitChannel (some (s * 1000)) description
      (params.expirySeconds.getD defaultExpirySecs) = .ok invoice →
    1000 * s.toNat < 2 ^ 64

/-- The calls before the registration: one checkout, and one invoice for the
amount of the platform's answer. -/
theorem mem_calls_createCheckout (env : CheckoutEnv) (params : CreateCheckoutParams) :
    (∀ req, .createCheckout req ∈ (createCheckout env params).calls ↔
      req = checkoutRequest env params ∧ ∃ d, toBolt11Description params.description = .ok d) ∧
    ∀ m d e, .receiveViaJitChannel m d e ∈ (createCheckout env params).calls ↔
      toBolt11Description params.description = .ok d ∧
        e = params.expirySeconds.getD defaultExpirySecs ∧
        ∃ checkout, env.createCheckout (checkoutRequest env params) = .ok checkout ∧
          m = invoiceAmountMsat checkout params.amountSat := by
  have h : (createCheckout env params).Holds fun _ cs =>
      (∀ req, .createCheckout req ∈ cs ↔
        req = checkoutRequest env params ∧ ∃ d, toBolt11Description params.description = .ok d) ∧
      ∀ m d e, .receiveViaJitChannel m d e ∈ cs ↔
        toBolt11Description params.description = .ok d ∧
          e = params.expirySeconds.getD defaultExpirySecs ∧
          ∃ checkout, env.createCheckout (checkoutRequest env params) = .ok checkout ∧
            m = invoiceAmountMsat checkout params.amountSat := by
    cases hd : toBolt11Description params.description with
    | error e =>
      refine Act.holds_lift.2 ⟨fun _ _ => by simp, fun _ h => ?_⟩
      rw [hd] at h; cases h
    | ok d =>
      refine Act.holds_lift.2 ⟨fun _ h => ?_, fun _ h => ?_⟩ <;> rw [hd] at h <;> cases h
      cases hc : env.createCheckout (checkoutRequest env params) with
      | error e =>
        refine Act.holds_call.2 ⟨fun _ _ => by simp, fun _ h => ?_⟩
        rw [hc] at h; cases h
      | ok checkout =>
        refine Act.holds_call.2 ⟨fun _ h => ?_, fun _ h => ?_⟩ <;> rw [hc] at h <;> cases h
        refine Act.holds_call.2 ⟨fun _ _ => ?_, fun invoice _ => ?_⟩
        · simp [and_assoc, and_comm, eq_comm]
        · refine Act.holds_call.2 ⟨fun _ _ => ?_, fun _ _ => Act.holds_pure.2 ?_⟩
          · simp [and_assoc, and_comm, eq_comm]
          · simp [and_assoc, and_comm, eq_comm]
  exact h

/-- An invoice created is for the checkout's amount exactly when that fits. -/
theorem checkout_iff (env : CheckoutEnv) (params : CreateCheckoutParams) :
    CheckoutExact env params ↔ CheckoutFits env params := by
  obtain ⟨hcreate, hreceive⟩ := mem_calls_createCheckout env params
  refine ⟨fun h d checkout s invoice hd hc hs hi => ?_,
    fun h req checkout m d e invoice h₁ hc h₂ hi => ?_⟩
  · have hm : invoiceAmountMsat checkout params.amountSat = some (s * 1000) := by
      rw [invoiceAmountMsat_eq, hs, Option.map_some]
    have := h _ checkout _ d _ invoice ((hcreate _).2 ⟨rfl, d, hd⟩) hc
      ((hreceive _ _ _).2 ⟨hd, rfl, checkout, hc, hm.symm⟩) hi
    simp only [hs, Option.map_some, Option.some.injEq, toNat_mul_1000] at this
    have hlt := Nat.mod_lt (1000 * s.toNat) (show 0 < 2 ^ 64 by decide)
    omega
  · obtain ⟨rfl, -⟩ := (hcreate req).1 h₁
    obtain ⟨hd, rfl, checkout', hc', rfl⟩ := (hreceive m d e).1 h₂
    rw [hc] at hc'
    obtain rfl := Except.ok.inj hc'
    rw [invoiceAmountMsat_eq] at hi ⊢
    cases hs : checkoutSats checkout params with
    | none => rfl
    | some s =>
      rw [hs, Option.map_some] at hi
      have hfit := h d checkout s invoice hd hc hs hi
      rw [Option.map_some, Option.map_some, Option.map_some, toNat_mul_1000, Nat.mod_eq_of_lt hfit]

/-! ## `POST /pay` and the webhook -/

/-- `POST /pay` refuses a request as a bad one, or goes on with exactly the
amount asked for. -/
theorem pay_exact (env : PayEnv) {req : PayRequest} {a : UInt64} (ha : req.amountSat = some a) :
    (∃ msg, (handlePay env req).result = .error (.badRequest msg)) ∨
      ∃ w m, m.toNat = 1000 * a.toNat ∧ handlePay env req = payChecked env req w (some m) := by
  cases hc : checkRequest req with
  | error e =>
    obtain ⟨msg, rfl⟩ := checkRequest_error hc
    exact .inl ⟨msg, by rw [handlePay_of_unchecked hc]; rfl⟩
  | ok c =>
    obtain ⟨w, m⟩ := c
    have hm := (checkRequest_ok hc).2.2
    rw [ha] at hm
    obtain ⟨p, rfl, hp⟩ := Option.map_eq_some_iff.1 hm
    refine .inr ⟨w, p, hp, ?_⟩
    unfold handlePay
    rw [hc]
    rfl

/-- The notifications a call of `handle_event` sends. -/
def announced (now : UInt64) (lookupOk markOk : Bool) (s : Daemon.State) (ev : MdkEvent) :
    List Daemon.WebhookEvent :=
  let s' := Daemon.handleEvent now lookupOk markOk s ev
  s'.messages.drop s.messages.length ++ (s'.spawned.drop s.spawned.length).map (·.event)

/-- What `handle_event` announces of a payment is the product for it. -/
theorem mem_announced {now : UInt64} {lookupOk markOk : Bool} {s : Daemon.State}
    {ev : MdkEvent} {hash : String} {m : UInt64} {ext : Option String} {ts : UInt64}
    (h : .paymentReceived hash m ext ts ∈ announced now lookupOk markOk s ev) :
    ∃ sats, ev = .paymentReceived hash sats ∧ m = sats * 1000 := by
  simp only [announced] at h
  rcases Events.handleEvent_cases now lookupOk markOk s ev with
    hs | ⟨hash', sats, metadata, rfl, -, hs⟩
  · rw [hs, List.drop_length, List.drop_length] at h
    cases h
  rw [hs] at h
  have he : .paymentReceived hash m ext ts = Events.announcement now hash' sats metadata := by
    rcases List.mem_append.1 h with h | h
    · rw [Events.announce, List.drop_left] at h
      exact List.mem_singleton.1 h
    · obtain ⟨d, hd, hev⟩ := List.mem_map.1 h
      exact hev.symm.trans (Events.eq_announcement_of_mem hd)
  obtain ⟨rfl, rfl, -, -⟩ := Daemon.WebhookEvent.paymentReceived.inj he
  exact ⟨sats, rfl, rfl⟩

/-- The amount announced for an event the client made from one of the node's
is exact. -/
theorem webhook_exact {ldk : LdkEvent} {ev : MdkEvent} (he : (handleLdkEvent ldk).2 = some ev)
    {now : UInt64} {lookupOk markOk : Bool} {s : Daemon.State} {hash : String} {m : UInt64}
    {ext : Option String} {ts : UInt64}
    (h : .paymentReceived hash m ext ts ∈ announced now lookupOk markOk s ev) :
    ∃ sats, ev = .paymentReceived hash sats ∧ m.toNat = 1000 * sats.toNat := by
  obtain ⟨sats, rfl, rfl⟩ := mem_announced h
  refine ⟨sats, rfl, ?_⟩
  -- The satoshis are a quotient by 1000, so the product fits again.
  have hq : 1000 * sats.toNat < 2 ^ 64 := by
    cases ldk with
    | paymentReceived paymentHash amountMsat =>
      simp only [handleLdkEvent, Option.some.injEq, MdkEvent.paymentReceived.injEq] at he
      rw [← he.2, UInt64.toNat_div]
      have := amountMsat.toNat_lt
      have h1000 : (1000 : UInt64).toNat = 1000 := rfl
      rw [h1000]
      omega
    | _ => simp [handleLdkEvent] at he
  rw [toNat_mul_1000, Nat.mod_eq_of_lt hq]

/-- The conversions of an amount:

* `POST /payinvoice` is exact if and only if the amount asked for fits 64 bits
  in millisatoshis, or the invoice has another amount than the wrapped one;
* so is `create_checkout`, if and only if the checkout's amount fits, or the
  description or the wrapped amount is refused;
* `POST /pay` is exact or answers that the request is a bad one;
* the webhook is exact on every event the client makes. -/
theorem conversions (env : PayEnv) (invoiceReq : PayInvoiceRequest) (payReq : PayRequest)
    (checkoutEnv : CheckoutEnv) (params : CreateCheckoutParams) (ldk : LdkEvent)
    (s : Daemon.State) :
    (InvoicePaymentExact env invoiceReq ↔ InvoicePaymentFits env invoiceReq) ∧
    (CheckoutExact checkoutEnv params ↔ CheckoutFits checkoutEnv params) ∧
    (∀ a, payReq.amountSat = some a →
      (∃ msg, (handlePay env payReq).result = .error (.badRequest msg)) ∨
        ∃ w m, m.toNat = 1000 * a.toNat ∧ handlePay env payReq = payChecked env payReq w (some m)) ∧
    (∀ ev, (handleLdkEvent ldk).2 = some ev → ∀ now lookupOk markOk hash m ext ts,
      .paymentReceived hash m ext ts ∈ announced now lookupOk markOk s ev →
      ∃ sats, ev = .paymentReceived hash sats ∧ m.toNat = 1000 * sats.toNat) :=
  ⟨invoicePayment_iff env invoiceReq, checkout_iff checkoutEnv params,
    fun _ ha => pay_exact env ha, fun _ he _ _ _ _ _ _ _ h => webhook_exact he h⟩

/-- A zero-amount invoice paid with 18 446 744 073 709 552 sat is sent with
384 msat, and a checkout of as much becomes an invoice for 384 msat. -/
theorem wrapped_amounts :
    let invoice := { sampleInvoice with amountMilliSatoshis := none }
    let env := { sampleEnv with bolt11FromStr := fun _ => .ok invoice }
    let checkoutEnv : CheckoutEnv :=
      { nodeId := "node"
        createCheckout := fun _ => .ok ⟨"chk_1", "CONFIRMED", none⟩
        receiveViaJitChannel := fun m _ _ => .ok { sampleInvoice with amountMilliSatoshis := m }
        registerInvoice := fun _ => .ok ⟨"chk_1", "PENDING_PAYMENT", none⟩
        toRfc3339 := fun _ => none }
    let params : CreateCheckoutParams :=
      ⟨some 18446744073709552, .direct "coffee", none, none, none, none, none, none⟩
    ¬ InvoicePaymentExact env ⟨"", some 18446744073709552⟩ ∧
      ¬ CheckoutExact checkoutEnv params := by
  intro invoice env checkoutEnv params
  refine ⟨fun h => ?_, fun h => ?_⟩
  · rcases (invoicePayment_iff env _).1 h invoice 18446744073709552 rfl rfl with hlt | ⟨v, hv, -⟩
    · exact absurd hlt (by decide)
    · cases hv
  · have := (checkout_iff checkoutEnv params).1 h (.direct "coffee") ⟨"chk_1", "CONFIRMED", none⟩
      18446744073709552 _ (by decide) rfl rfl rfl
    exact absurd this (by decide)

end Mdkd.Proof.Money
