import Mdkd.Proof.Money

/-!
# The two ways to pay an invoice

`POST /payinvoice` and `POST /pay` both pay a BOLT11 invoice, each with checks
of its own. `calls_payInvoice` and `calls_pay` are what each sends for an
invoice that `Recognised` says both can read; `agree_iff` compares them. They
part where only `POST /pay` looks: at an amount of zero, at one that does not
fit 64 bits in millisatoshis or is beyond what an `Amount` holds, and at the
seconds to wait.
-/

namespace Mdkd.Proof.Pay

open Framework Mdkd.Pay Mdkd.Proof.Money

/-- The first BOLT11 method is the invoice. -/
def KeepsInvoice (env : PayEnv) (methods : List PaymentMethod) (invoice : Bolt11Invoice) : Prop :=
  ∃ text, methods.findSome? PaymentMethod.bolt11? = some text ∧
    env.bolt11FromStr text = .ok invoice

/-- The text is an invoice, valid and unexpired, as the instructions' library
reads it: one with an amount as fixed, one without as variable, to which any
amount can be set. -/
structure Recognised (env : PayEnv) (text : String) (invoice : Bolt11Invoice) : Prop where
  fromStr : env.bolt11FromStr (trim text) = .ok invoice
  fixed : ∀ v, invoice.amountMilliSatoshis = some v → ∃ fixed,
    env.parse (trim text) = .ok (.fixedAmount fixed) ∧ fixed.lnPaymentAmount = some v ∧
      KeepsInvoice env fixed.methods invoice
  configurable : invoice.amountMilliSatoshis = none → ∃ c,
    env.parse (trim text) = .ok (.configurableAmount c) ∧
      ∀ r amount, env.fromMilliSats r = some amount → ∃ fixed,
        env.setAmount c amount = .ok fixed ∧ KeepsInvoice env fixed.methods invoice

/-! ## What each sends -/

/-- What `POST /payinvoice` sends for an invoice and an amount. -/
def invoiceSend (invoice : Bolt11Invoice) (amountSat : Option UInt64) : Option LdkSend :=
  match invoice.amountMilliSatoshis, amountSat with
  | some _, none => some (.bolt11Send invoice)
  | none, some s => some (.bolt11SendUsingAmount invoice (s * 1000))
  | some v, some s => if v = s * 1000 then some (.bolt11Send invoice) else none
  | none, none => none

theorem chooseSend_of_none {env : PayEnv} {invoice : Bolt11Invoice} {a : Option UInt64}
    (h : invoiceSend invoice a = none) : ∃ e, chooseSend env invoice a = .lift (.error e) := by
  unfold invoiceSend at h
  unfold chooseSend
  cases hv : invoice.amountMilliSatoshis with
  | none =>
    cases a with
    | none => exact ⟨_, rfl⟩
    | some s => simp only [hv, reduceCtorEq] at h
  | some v =>
    cases a with
    | none => simp only [hv, reduceCtorEq] at h
    | some s =>
      have hs : v ≠ s * 1000 := by
        intro e
        simp only [hv, e, ↓reduceIte, reduceCtorEq] at h
      simp only [hs, ne_eq, not_false_eq_true, ↓reduceIte]
      exact ⟨_, rfl⟩

theorem chooseSend_of_some {env : PayEnv} {invoice : Bolt11Invoice} {a : Option UInt64}
    {s : LdkSend} (h : invoiceSend invoice a = some s) :
    chooseSend env invoice a = sendOrFail env s := by
  unfold invoiceSend at h
  unfold chooseSend
  cases hv : invoice.amountMilliSatoshis with
  | none =>
    cases a with
    | none => simp only [hv, reduceCtorEq] at h
    | some x =>
      simp only [hv] at h
      rw [← Option.some.inj h]
  | some v =>
    cases a with
    | none =>
      simp only [hv] at h
      rw [← Option.some.inj h]
    | some x =>
      simp only [hv] at h
      split at h
      · rename_i hx
        simp only [hx, ne_eq, not_true_eq_false, ↓reduceIte]
        rw [← Option.some.inj h]
      · cases h

/-- A handler refuses a request: it fails before any send. -/
def Refuses {α : Type} (x : Act LdkSend AppError α) : Prop := ∃ e, x = .lift (.error e)

theorem Refuses.calls {α : Type} {x : Act LdkSend AppError α} (h : Refuses x) : x.calls = [] := by
  obtain ⟨e, rfl⟩ := h
  rfl

section
variable {env : PayEnv} {text : String} {invoice : Bolt11Invoice}

theorem payInvoice_refuses (h : Recognised env text invoice) {a : Option UInt64}
    (hs : invoiceSend invoice a = none) : Refuses (handlePayInvoice env ⟨text, a⟩) := by
  obtain ⟨e, he⟩ := @chooseSend_of_none env invoice a hs
  refine ⟨e, ?_⟩
  rw [handlePayInvoice, h.fromStr]
  show (chooseSend env invoice a >>= _) = _
  rw [he]
  rfl

theorem calls_payInvoice (h : Recognised env text invoice) {a : Option UInt64} {s : LdkSend}
    (hs : invoiceSend invoice a = some s) : (handlePayInvoice env ⟨text, a⟩).calls = [s] := by
  have hi : env.bolt11FromStr (trim (PayInvoiceRequest.mk text a).invoice) = .ok invoice :=
    h.fromStr
  rw [calls_handlePayInvoice hi, chooseSend_of_some hs, calls_sendOrFail]

/-- The request to pay the invoice at `text` through `POST /pay`. -/
abbrev payRequest (text : String) (amountSat wait : Option UInt64) : PayRequest :=
  ⟨text, amountSat, wait, none, none⟩

/-- The seconds to wait are few enough. -/
def WaitOk (wait : Option UInt64) : Prop := wait.getD defaultWaitSecs ≤ maxWaitSecs

/-- The amount is nonzero and fits 64 bits in millisatoshis. -/
def AmountOk (amountSat : UInt64) : Prop := amountSat ≠ 0 ∧ 1000 * amountSat.toNat < 2 ^ 64

/-- The checks of `POST /pay` are these, and the amount it goes on with is exact. -/
theorem checkRequest_iff {req : PayRequest} {m : Option UInt64} :
    (∃ w, checkRequest req = .ok (w, m)) ↔
      WaitOk req.waitForPaymentSecs ∧ (∀ s, req.amountSat = some s → AmountOk s) ∧
        m = req.amountSat.map (· * 1000) := by
  constructor
  · rintro ⟨w, hc⟩
    obtain ⟨h0, hw, hm⟩ := checkRequest_ok hc
    refine ⟨UInt64.not_lt.1 hw, ?_⟩
    cases ha : req.amountSat with
    | none =>
      rw [ha] at hm
      exact ⟨nofun, Option.map_eq_none_iff.1 hm⟩
    | some s =>
      rw [ha] at hm
      obtain ⟨p, rfl, hp⟩ := Option.map_eq_some_iff.1 hm
      have hp' : p.toNat = 1000 * s.toNat := hp
      have hlt : 1000 * s.toNat < 2 ^ 64 := by rw [← hp']; exact p.toNat_lt
      refine ⟨fun s' hs' => ?_, ?_⟩
      · obtain rfl := Option.some.inj hs'
        exact ⟨fun e => h0 (ha.trans (congrArg some e)), hlt⟩
      · rw [Option.map_some, Option.some.injEq, ← UInt64.toNat_inj, toNat_mul_1000, hp',
          Nat.mod_eq_of_lt hlt]
  · rintro ⟨hw, ha, rfl⟩
    refine ⟨_, checkRequest_of (fun h => (ha 0 h).1 rfl) (UInt64.not_lt.2 hw) ?_⟩
    cases hs : req.amountSat with
    | none => rfl
    | some s =>
      rw [Option.map_some, Option.map_some, toNat_mul_1000, Nat.mod_eq_of_lt (ha s hs).2,
        Option.map_some]

theorem pickMethod_of_keeps {ms : List PaymentMethod} (h : KeepsInvoice env ms invoice)
    (a : UInt64) :
    pickMethod env ms a = .ok (.bolt11 invoice a) := by
  obtain ⟨text, ht, hi⟩ := h
  simp only [pickMethod, ht, hi]

/-- An invoice with an amount resolves to it, unless another amount is asked for. -/
theorem resolveTarget_fixed (h : Recognised env text invoice) {v : UInt64} (hv : invoice.amountMilliSatoshis = some v)
    (a wait m : Option UInt64) :
    ((∀ r, m = some r → r = v) →
      resolveTarget env (payRequest text a wait) m = .ok (.bolt11 invoice v)) ∧
    ∀ r, m = some r → r ≠ v → ∃ e, resolveTarget env (payRequest text a wait) m = .error e := by
  obtain ⟨fixed, hp, hl, hk⟩ := h.fixed v hv
  simp only [resolveTarget, hp]
  refine ⟨fun hm => ?_, fun r hm hr => ?_⟩
  · have hpick := pickMethod_of_keeps hk v
    cases m with
    | none => simp only [resolveFixed, hl, hpick]
    | some r =>
      obtain rfl := hm r rfl
      simp only [resolveFixed, hl, ne_eq, not_true_eq_false, ↓reduceIte, hpick]
  · obtain ⟨msg, he⟩ := @resolveFixed_refused env fixed m (.inr ⟨v, r, hl, hm, hr⟩)
    exact ⟨_, he⟩

/-- One without resolves to it for an amount the library can hold. -/
theorem resolveTarget_configurable (h : Recognised env text invoice) (hv : invoice.amountMilliSatoshis = none)
    (a wait m : Option UInt64) :
    (∀ r, m = some r → env.fromMilliSats r ≠ none →
      resolveTarget env (payRequest text a wait) m = .ok (.bolt11 invoice r)) ∧
    ((∀ r, m = some r → env.fromMilliSats r = none) →
      ∃ e, resolveTarget env (payRequest text a wait) m = .error e) := by
  obtain ⟨c, hp, hset⟩ := h.configurable hv
  simp only [resolveTarget, hp]
  refine ⟨fun r hm hr => ?_, fun hm => ?_⟩
  · obtain ⟨amount, ha⟩ := Option.ne_none_iff_exists'.1 hr
    obtain ⟨fixed, hf, hk⟩ := hset r amount ha
    simp only [hm, resolveConfigurable, ha, hf, pickMethod_of_keeps hk]
    show checkResolved r (.bolt11 invoice r) = _
    simp only [checkResolved, hv]
  · cases m with
    | none => exact ⟨_, rfl⟩
    | some r =>
      simp only [resolveConfigurable, hm r rfl]
      exact ⟨_, rfl⟩

/-- `POST /pay` refuses what does not pass its checks, and what does not resolve. -/
theorem pay_refuses {a wait : Option UInt64}
    (h : WaitOk wait → (∀ s, a = some s → AmountOk s) →
      ∃ e, resolveTarget env (payRequest text a wait) (a.map (· * 1000)) = .error e) :
    Refuses (handlePay env (payRequest text a wait)) := by
  cases hc : checkRequest (payRequest text a wait) with
  | error e => exact ⟨e, handlePay_of_unchecked hc⟩
  | ok c =>
    obtain ⟨hw, ha, hm⟩ := checkRequest_iff.1 ⟨c.1, hc⟩
    obtain ⟨e, he⟩ := h hw ha
    exact ⟨e, handlePay_of_unresolved hc (hm ▸ he)⟩

/-- What `POST /pay` sends for an invoice it has resolved. -/
theorem calls_pay {a wait : Option UInt64} {r : UInt64} (hw : WaitOk wait)
    (ha : ∀ s, a = some s → AmountOk s)
    (ht : resolveTarget env (payRequest text a wait) (a.map (· * 1000)) =
      .ok (.bolt11 invoice r)) :
    (handlePay env (payRequest text a wait)).calls =
      [if invoice.amountMilliSatoshis.isSome then .bolt11Send invoice
        else .bolt11SendUsingAmount invoice r] := by
  obtain ⟨w, hc⟩ := (@checkRequest_iff (payRequest text a wait) _).2 ⟨hw, ha, rfl⟩
  rw [calls_handlePay hc ht rfl, dispatch]
  cases invoice.amountMilliSatoshis <;> rfl

/-! ## Agreement -/

/-- The invoice a send pays. -/
def paidInvoice : LdkSend → Option Bolt11Invoice
  | .bolt11Send invoice | .bolt11SendUsingAmount invoice _ => some invoice
  | .bolt12SendUsingAmount .. => none

/-- Both ways refuse, or both hand the node one send, of the invoice and for the
same amount. -/
def Agree (env : PayEnv) (text : String) (invoice : Bolt11Invoice) (a wait : Option UInt64) :
    Prop :=
  Refuses (handlePayInvoice env ⟨text, a⟩) ∧ Refuses (handlePay env (payRequest text a wait)) ∨
    ∃ s s', (handlePayInvoice env ⟨text, a⟩).calls = [s] ∧
      (handlePay env (payRequest text a wait)).calls = [s'] ∧
      paidInvoice s = some invoice ∧ paidInvoice s' = some invoice ∧
      effectiveMsat s = effectiveMsat s'

/-- The invoice and the amount leave nothing only `POST /pay` refuses. -/
def AgreeWhen (env : PayEnv) (invoice : Bolt11Invoice) (a wait : Option UInt64) : Prop :=
  match invoice.amountMilliSatoshis, a with
  | none, none => True
  | some _, none => WaitOk wait
  | some v, some s => v.toNat = 1000 * s.toNat % 2 ^ 64 → WaitOk wait ∧ AmountOk s
  | none, some s => WaitOk wait ∧ AmountOk s ∧ env.fromMilliSats (s * 1000) ≠ none

/-- Where `POST /payinvoice` sends, the two agree when `POST /pay` makes the same send. -/
theorem agree_iff_of_sent {a wait : Option UInt64} {s : LdkSend} {C : Prop}
    (hs : (handlePayInvoice env ⟨text, a⟩).calls = [s]) (hi : paidInvoice s = some invoice)
    (hyes : C → (handlePay env (payRequest text a wait)).calls = [s])
    (hno : ¬ C → Refuses (handlePay env (payRequest text a wait))) :
    Agree env text invoice a wait ↔ C := by
  constructor
  · rintro (⟨hr, -⟩ | ⟨t, t', -, ht', -⟩)
    · rw [hr.calls] at hs
      cases hs
    · by_contra hc
      rw [(hno hc).calls] at ht'
      cases ht'
  · intro hc
    exact .inr ⟨s, s, hs, hyes hc, hi, hi, rfl⟩

end

/-- The two ways to pay a valid invoice agree exactly when what
`POST /payinvoice` would send is for an amount that is nonzero, fits 64 bits in
millisatoshis and, if the invoice leaves it open, an `Amount` can hold, and the
seconds to wait are few enough. -/
theorem agree_iff (env : PayEnv) (text : String) (invoice : Bolt11Invoice) (a wait : Option UInt64)
    (h : Recognised env text invoice) :
    Agree env text invoice a wait ↔ AgreeWhen env invoice a wait := by
  cases hv : invoice.amountMilliSatoshis with
  | none =>
    have hres := resolveTarget_configurable h hv a wait (a.map (· * 1000))
    cases a with
    | none =>
      have hs : invoiceSend invoice none = none := by simp only [invoiceSend, hv]
      simp only [AgreeWhen, hv, iff_true]
      exact .inl ⟨payInvoice_refuses h hs, pay_refuses fun _ _ => hres.2 fun r hr => by cases hr⟩
    | some s =>
      have hs : invoiceSend invoice (some s) = some (.bolt11SendUsingAmount invoice (s * 1000)) := by
        simp only [invoiceSend, hv]
      simp only [AgreeWhen, hv]
      refine agree_iff_of_sent (calls_payInvoice h hs) rfl ?_ fun hno => pay_refuses fun hw ha => ?_
      · rintro ⟨hw, ha, hm⟩
        have ht := hres.1 (s * 1000) rfl hm
        rw [calls_pay hw (fun s' hs' => Option.some.inj hs' ▸ ha) ht, hv]
        rfl
      · refine hres.2 fun r hr => ?_
        obtain rfl := Option.some.inj hr
        by_contra hm
        exact hno ⟨hw, ha s rfl, hm⟩
  | some v =>
    have hres := resolveTarget_fixed h hv a wait (a.map (· * 1000))
    cases a with
    | none =>
      have hs : invoiceSend invoice none = some (.bolt11Send invoice) := by
        simp only [invoiceSend, hv]
      simp only [AgreeWhen, hv]
      refine agree_iff_of_sent (calls_payInvoice h hs) rfl (fun hw => ?_) fun hno =>
        pay_refuses fun hw _ => absurd hw hno
      rw [calls_pay hw (fun s hs => by cases hs) (hres.1 fun r hr => by cases hr), hv]
      rfl
    | some s =>
      have hwrap : v = s * 1000 ↔ v.toNat = 1000 * s.toNat % 2 ^ 64 := by
        rw [← toNat_mul_1000, UInt64.toNat_inj]
      simp only [AgreeWhen, hv, ← hwrap]
      by_cases hvs : v = s * 1000
      · have hs : invoiceSend invoice (some s) = some (.bolt11Send invoice) := by
          simp only [invoiceSend, hv, hvs, ↓reduceIte]
        simp only [hvs, true_imp_iff]
        refine agree_iff_of_sent (calls_payInvoice h hs) rfl ?_ fun hno =>
          pay_refuses fun hw ha => absurd ⟨hw, ha s rfl⟩ hno
        rintro ⟨hw, ha⟩
        have ht := hres.1 fun r hr => (Option.some.inj hr).symm.trans hvs.symm
        rw [calls_pay hw (fun s' hs' => Option.some.inj hs' ▸ ha) ht, hv]
        rfl
      · have hs : invoiceSend invoice (some s) = none := by
          simp only [invoiceSend, hv, hvs, ↓reduceIte]
        simp only [hvs, false_imp_iff, iff_true]
        exact .inl ⟨payInvoice_refuses h hs,
          pay_refuses fun _ _ => hres.2 (s * 1000) rfl fun e => hvs e.symm⟩

/-- Surroundings that know one invoice, of a fixed amount. -/
def invoiceEnv : PayEnv :=
  { sampleEnv with
    parse := fun _ => .ok (.fixedAmount ⟨some 250000000, [.lightningBolt11 sampleText]⟩)
    bolt11FromStr := fun _ => .ok sampleInvoice }

theorem recognised_invoiceEnv : Recognised invoiceEnv sampleText sampleInvoice where
  fromStr := rfl
  fixed v hv := by
    obtain rfl := Option.some.inj hv
    exact ⟨_, rfl, rfl, sampleText, rfl, rfl⟩
  configurable hv := by cases hv

/-- Both ways pay an invoice for 250 000 sat without being told its amount. -/
theorem agree_sample : Agree invoiceEnv sampleText sampleInvoice none none :=
  (agree_iff invoiceEnv sampleText sampleInvoice none none recognised_invoiceEnv).2
    (show defaultWaitSecs ≤ maxWaitSecs by decide)

/-- Asked to pay 2 305 843 009 213 943 952 sat for an invoice of 250 000 sat,
`POST /payinvoice` pays the invoice and `POST /pay` refuses. -/
theorem two_ways_disagree :
    Recognised invoiceEnv sampleText sampleInvoice ∧
      ¬ Agree invoiceEnv sampleText sampleInvoice (some 2305843009213943952) none := by
  have hs : invoiceSend sampleInvoice (some 2305843009213943952) =
      some (.bolt11Send sampleInvoice) := by
    have hv : (250000000 : UInt64) = 2305843009213943952 * 1000 := by decide
    simp only [invoiceSend, sampleInvoice, ← hv, ↓reduceIte]
  have hbig : ¬ AmountOk 2305843009213943952 := fun h => absurd h.2 (by decide)
  have hrefuses : Refuses
      (handlePay invoiceEnv (payRequest sampleText (some 2305843009213943952) none)) :=
    pay_refuses fun _ ha => absurd (ha _ rfl) hbig
  have hiff := agree_iff_of_sent (calls_payInvoice recognised_invoiceEnv hs) rfl False.elim
    fun _ => hrefuses
  exact ⟨recognised_invoiceEnv, hiff.1⟩

end Mdkd.Proof.Pay
