import Mdkd.Impl.Pay

/-!
# What `POST /pay` sends

An amount goes through the checks of the request, one of two resolutions, the
pick of a method and the dispatch. `resolveTarget_ok` follows it to the target,
`dispatch_eq` to the send, and `handlePay_authorised` is the whole way: at most
one send, of the amount asked for, and none before a refusal.
-/

namespace Mdkd.Proof.Pay

open Framework Mdkd.Pay

/-- The amount a send pays: the invoice's own, or the argument. -/
def effectiveMsat : LdkSend → Option UInt64
  | .bolt11Send invoice => invoice.amountMilliSatoshis
  | .bolt11SendUsingAmount _ amountMsat => some amountMsat
  | .bolt12SendUsingAmount _ amountMsat _ _ => some amountMsat

/-- The amount dispatching a target pays. -/
def targetMsat : PaymentTarget → UInt64
  | .bolt11 invoice amountMsat => invoice.amountMilliSatoshis.getD amountMsat
  | .bolt12 _ amountMsat => amountMsat

/-- In what `parse` resolves to a fixed amount, every BOLT11 invoice is for
the Lightning amount. -/
def FixedMethodsAgree (env : PayEnv) : Prop :=
  ∀ dest fixed, env.parse dest = .ok (.fixedAmount fixed) →
    ∀ text ∈ fixed.methods.filterMap PaymentMethod.bolt11?, ∀ invoice,
      env.bolt11FromStr text = .ok invoice → invoice.amountMilliSatoshis = fixed.lnPaymentAmount

/-! ## Checks and resolution -/

/-- A request that passes its checks: the amount is exact. -/
theorem checkRequest_ok {req : PayRequest} {w : UInt64} {m : Option UInt64}
    (h : checkRequest req = .ok (w, m)) :
    req.amountSat ≠ some 0 ∧ ¬ req.waitForPaymentSecs.getD defaultWaitSecs > maxWaitSecs ∧
      m.map UInt64.toNat = req.amountSat.map fun s => 1000 * s.toNat := by
  unfold checkRequest at h
  split at h
  · cases h
  rename_i h0
  simp only at h
  split at h
  · cases h
  rename_i hw
  refine ⟨h0, hw, ?_⟩
  cases ha : req.amountSat with
  | none => simp only [ha] at h; cases h; rfl
  | some s =>
    simp only [ha] at h
    cases hm : checkedMul s 1000 with
    | none => simp only [hm] at h; cases h
    | some p =>
      simp only [hm] at h
      cases h
      have hp : p.toNat = s.toNat * 1000 := checkedMul_eq_some.1 hm
      simp only [Option.map_some, Option.some.injEq]
      omega

/-- A request with an amount to pay, and not too long to wait, passes its checks. -/
theorem checkRequest_of {req : PayRequest} {m : Option UInt64} (h0 : req.amountSat ≠ some 0)
    (hw : ¬ req.waitForPaymentSecs.getD defaultWaitSecs > maxWaitSecs)
    (hm : m.map UInt64.toNat = req.amountSat.map fun s => 1000 * s.toNat) :
    checkRequest req = .ok (req.waitForPaymentSecs.getD defaultWaitSecs, m) := by
  unfold checkRequest
  simp only [h0, hw, ↓reduceIte]
  cases ha : req.amountSat with
  | none =>
    rw [ha, Option.map_none, Option.map_eq_none_iff] at hm
    rw [hm]
  | some s =>
    rw [ha] at hm
    obtain ⟨p, rfl, hp⟩ := Option.map_eq_some_iff.1 hm
    have hc : checkedMul s 1000 = some p :=
      checkedMul_eq_some.2 (hp.trans (Nat.mul_comm _ _))
    simp only [hc]

/-- A request that fails its checks is a bad one. -/
theorem checkRequest_error {req : PayRequest} {e : AppError} (h : checkRequest req = .error e) :
    ∃ msg, e = .badRequest msg := by
  unfold checkRequest at h
  split at h
  · cases h; exact ⟨_, rfl⟩
  simp only at h
  split at h
  · cases h; exact ⟨_, rfl⟩
  cases ha : req.amountSat with
  | none => simp only [ha] at h; cases h
  | some s =>
    simp only [ha] at h
    cases hm : checkedMul s 1000 with
    | none => simp only [hm] at h; cases h; exact ⟨_, rfl⟩
    | some p => simp only [hm] at h; cases h

theorem mem_of_findSome? {α β : Type} {f : α → Option β} {xs : List α} {b : β}
    (h : xs.findSome? f = some b) : b ∈ xs.filterMap f := by
  obtain ⟨a, ha, hb⟩ := List.exists_of_findSome?_eq_some h
  exact List.mem_filterMap.2 ⟨a, ha, hb⟩

/-- The target picked carries the amount given, and an invoice of the methods. -/
theorem pickMethod_ok {env : PayEnv} {ms : List PaymentMethod} {a : UInt64} {t : PaymentTarget}
    (h : pickMethod env ms a = .ok t) :
    (∃ text ∈ ms.filterMap PaymentMethod.bolt11?, ∃ invoice,
        env.bolt11FromStr text = .ok invoice ∧ t = .bolt11 invoice a) ∨
      ∃ offer, t = .bolt12 offer a := by
  unfold pickMethod at h
  cases h11 : ms.findSome? PaymentMethod.bolt11? with
  | some text =>
    simp only [h11] at h
    cases hp : env.bolt11FromStr text with
    | error e => simp only [hp] at h; cases h
    | ok invoice =>
      simp only [hp] at h
      cases h
      exact .inl ⟨text, mem_of_findSome? h11, invoice, hp, rfl⟩
  | none =>
    simp only [h11] at h
    cases h12 : ms.findSome? PaymentMethod.bolt12? with
    | none => simp only [h12] at h; cases h
    | some text =>
      simp only [h12] at h
      cases hp : env.offerFromStr text with
      | error e => simp only [hp] at h; cases h
      | ok offer =>
        simp only [hp] at h
        cases h
        exact .inr ⟨offer, rfl⟩

/-- A fixed destination's target is for its Lightning amount, which is the one
asked for if one was. -/
theorem resolveFixed_ok {env : PayEnv} {fixed : FixedAmount} {m : Option UInt64}
    {t : PaymentTarget} (h : resolveFixed env fixed m = .ok t) :
    ∃ v, fixed.lnPaymentAmount = some v ∧ (∀ r, m = some r → r = v) ∧
      pickMethod env fixed.methods v = .ok t := by
  unfold resolveFixed at h
  cases hv : fixed.lnPaymentAmount with
  | none => simp only [hv] at h; cases h
  | some v =>
    simp only [hv] at h
    refine ⟨v, rfl, ?_⟩
    cases m with
    | none => exact ⟨nofun, h⟩
    | some r =>
      simp only at h
      split at h
      · cases h
      · rename_i hr
        refine ⟨fun r' hr' => ?_, h⟩
        cases hr'
        exact not_ne_iff.1 hr

/-- What passes the check of a resolved invoice is for the amount asked for. -/
theorem checkResolved_bolt11 {r : UInt64} {invoice : Bolt11Invoice} {t : PaymentTarget}
    (h : checkResolved r (.bolt11 invoice r) = .ok t) : targetMsat t = r := by
  unfold checkResolved at h
  cases hi : invoice.amountMilliSatoshis with
  | none =>
    simp only [hi] at h
    obtain rfl := Except.ok.inj h
    simp only [targetMsat, hi, Option.getD_none]
  | some v =>
    simp only [hi] at h
    split at h
    · cases h
    · rename_i hv
      obtain rfl := Except.ok.inj h
      simp only [targetMsat, hi, Option.getD_some]
      exact not_ne_iff.1 hv

/-- A variable destination's target is for the amount asked for, whatever the
endpoint answered. -/
theorem resolveConfigurable_ok {env : PayEnv} {c : ConfigurableAmount} {r : UInt64}
    {t : PaymentTarget} (h : resolveConfigurable env c r = .ok t) : targetMsat t = r := by
  unfold resolveConfigurable at h
  cases ha : env.fromMilliSats r with
  | none => simp only [ha] at h; cases h
  | some amount =>
    simp only [ha] at h
    cases hs : env.setAmount c amount with
    | error e => simp only [hs] at h; cases h
    | ok fixed =>
      simp only [hs] at h
      cases hp : pickMethod env fixed.methods r with
      | error e => rw [hp] at h; cases h
      | ok t' =>
        rw [hp] at h
        replace h : checkResolved r t' = .ok t := h
        rcases pickMethod_ok hp with ⟨_, -, invoice, -, rfl⟩ | ⟨offer, rfl⟩
        · exact checkResolved_bolt11 h
        · obtain rfl := Except.ok.inj h
          rfl

/-- The target of a request is for the amount asked for; if none was, for the
Lightning amount of a fixed destination. -/
theorem resolveTarget_ok {env : PayEnv} (hf : FixedMethodsAgree env) {req : PayRequest}
    {m : Option UInt64} {t : PaymentTarget} (h : resolveTarget env req m = .ok t) :
    (∀ r, m = some r → targetMsat t = r) ∧
      (m = none → ∃ fixed, env.parse (trim req.destination) = .ok (.fixedAmount fixed) ∧
        fixed.lnPaymentAmount = some (targetMsat t)) := by
  unfold resolveTarget at h
  cases hp : env.parse (trim req.destination) with
  | error e => simp only [hp] at h; cases h
  | ok instructions =>
    cases instructions with
    | configurableAmount c =>
      simp only [hp] at h
      cases m with
      | none => simp only at h; cases h
      | some r =>
        simp only at h
        refine ⟨fun r' hr' => ?_, nofun⟩
        cases hr'
        exact resolveConfigurable_ok h
    | fixedAmount fixed =>
      simp only [hp] at h
      obtain ⟨v, hv, hr, hpick⟩ := resolveFixed_ok h
      have ht : targetMsat t = v := by
        rcases pickMethod_ok hpick with ⟨text, ht, invoice, hi, rfl⟩ | ⟨offer, rfl⟩
        · have := hf _ fixed hp text ht invoice hi
          simp only [targetMsat, this, hv, Option.getD_some]
        · rfl
      exact ⟨fun r hm => ht.trans (hr r hm).symm, fun _ => ⟨fixed, rfl, ht ▸ hv⟩⟩

/-- A destination that is an invoice with an amount resolves to it. -/
theorem resolveTarget_invoice {env : PayEnv} {req : PayRequest} {v : UInt64} {text : String}
    {invoice : Bolt11Invoice}
    (hp : env.parse (trim req.destination) =
      .ok (.fixedAmount ⟨some v, [.lightningBolt11 text]⟩))
    (hi : env.bolt11FromStr text = .ok invoice) :
    resolveTarget env req (some v) = .ok (.bolt11 invoice v) := by
  simp only [resolveTarget, hp, resolveFixed, pickMethod, List.findSome?, PaymentMethod.bolt11?,
    hi, ne_eq, not_true_eq_false, ↓reduceIte]

/-! ## Dispatch -/

/-- Dispatching makes one send, of the target's amount. -/
theorem dispatch_eq (env : PayEnv) (t : PaymentTarget) (req : PayRequest) :
    ∃ s, dispatch env t req = sendOrFail env s ∧ effectiveMsat s = some (targetMsat t) := by
  cases t with
  | bolt11 invoice a =>
    cases hi : invoice.amountMilliSatoshis with
    | none =>
      refine ⟨.bolt11SendUsingAmount invoice a, ?_, ?_⟩
      · simp only [dispatch, hi]
      · simp only [effectiveMsat, targetMsat, hi, Option.getD_none]
    | some v =>
      refine ⟨.bolt11Send invoice, ?_, ?_⟩
      · simp only [dispatch, hi]
      · simp only [effectiveMsat, targetMsat, hi, Option.getD_some]
  | bolt12 offer a => exact ⟨_, rfl, rfl⟩

/-- The response names the payment it is built for. -/
theorem paymentId_buildResponse (id : PaymentId) (d : Option PaymentDetails) (t : PaymentTarget)
    (s : PayStatus) : (buildResponse id d t s).paymentId = toHex id.bytes := by
  cases d <;> rfl

/-- The send is of the target the request resolves to, with the amount asked
for in millisatoshis. -/
def OfTarget (env : PayEnv) (req : PayRequest) (s : LdkSend) : Prop :=
  ∃ m t, m.map UInt64.toNat = (req.amountSat.map fun a => 1000 * a.toNat) ∧
    resolveTarget env req m = .ok t ∧ effectiveMsat s = some (targetMsat t)

/-- How a payment ends: refused or failed before any send, or after the one
send of its target. -/
inductive Outcome (env : PayEnv) (req : PayRequest) :
    Except AppError PayResponse → List LdkSend → Prop where
  | unsent (e : AppError) : Outcome env req (.error e) []
  | failed {s : LdkSend} {e : NodeError} (hs : OfTarget env req s) (he : env.send s = .error e) :
      Outcome env req (.error (.internal ("pay failed: " ++ e.toText))) [s]
  | sent {s : LdkSend} {id : PaymentId} {r : PayResponse} (hs : OfTarget env req s)
      (ha : env.send s = .ok id) (hr : r.paymentId = toHex id.bytes) : Outcome env req (.ok r) [s]

theorem payChecked_holds {env : PayEnv} {req : PayRequest} (w : UInt64) {m : Option UInt64}
    (hm : m.map UInt64.toNat = req.amountSat.map fun a => 1000 * a.toNat) :
    (payChecked env req w m).Holds (Outcome env req) := by
  refine Act.holds_lift.2 ⟨fun e _ => .unsent e, fun t ht => ?_⟩
  refine Act.holds_lift.2 ⟨fun e _ => .unsent e, fun _ _ => ?_⟩
  obtain ⟨s, hd, he⟩ := dispatch_eq env t req
  have hs : OfTarget env req s := ⟨m, t, hm, ht, he⟩
  rw [hd, sendOrFail]
  cases hx : env.send s with
  | error e =>
    refine Act.holds_call.2 ⟨fun e' h => ?_, fun _ h => ?_⟩
    · cases h; exact .failed hs hx
    · cases h
  | ok id =>
    refine Act.holds_call.2 ⟨fun _ h => ?_, fun id' h => ?_⟩
    · cases h
    · cases h
      split
      · exact .sent hs hx (paymentId_buildResponse ..)
      · exact .sent hs hx (paymentId_buildResponse ..)

/-- `handle_pay` ends in one of these ways. -/
theorem handlePay_holds (env : PayEnv) (req : PayRequest) :
    (handlePay env req).Holds (Outcome env req) := by
  refine Act.holds_lift.2 ⟨fun e _ => .unsent e, fun c hc => ?_⟩
  exact payChecked_holds c.1 (checkRequest_ok hc).2.2

/-! ## Refusals -/

/-- The methods hold no invoice and no offer. -/
def NoLightning (methods : List PaymentMethod) : Prop :=
  methods.findSome? PaymentMethod.bolt11? = none ∧ methods.findSome? PaymentMethod.bolt12? = none

/-- The requests `POST /pay` refuses by itself. -/
inductive Refused (env : PayEnv) (req : PayRequest) : Prop where
  | zero (h : req.amountSat = some 0)
  | overflow {s : UInt64} (h : req.amountSat = some s) (hs : 2 ^ 64 ≤ 1000 * s.toNat)
  | wait (h : req.waitForPaymentSecs.getD defaultWaitSecs > maxWaitSecs)
  | missingAmount {c : ConfigurableAmount}
      (hp : env.parse (trim req.destination) = .ok (.configurableAmount c))
      (h : req.amountSat = none)
  | mismatch {fixed : FixedAmount} {v s : UInt64}
      (hp : env.parse (trim req.destination) = .ok (.fixedAmount fixed))
      (hv : fixed.lnPaymentAmount = some v) (h : req.amountSat = some s)
      (hs : v.toNat ≠ 1000 * s.toNat)
  | bolt12Only {w : UInt64} {m : Option UInt64} {invoice : Bolt11Invoice} {a : UInt64}
      (hc : checkRequest req = .ok (w, m)) (ht : resolveTarget env req m = .ok (.bolt11 invoice a))
      (h : req.payerNote.isSome ∨ req.quantity.isSome)
  | noMethod {fixed : FixedAmount}
      (hp : env.parse (trim req.destination) = .ok (.fixedAmount fixed))
      (h : NoLightning fixed.methods)
  | noMethodSet {c : ConfigurableAmount} {w m a : UInt64} {fixed : FixedAmount}
      (hp : env.parse (trim req.destination) = .ok (.configurableAmount c))
      (hc : checkRequest req = .ok (w, some m)) (ha : env.fromMilliSats m = some a)
      (hs : env.setAmount c a = .ok fixed) (h : NoLightning fixed.methods)

theorem handlePay_of_unchecked {env : PayEnv} {req : PayRequest} {e : AppError}
    (h : checkRequest req = .error e) : handlePay env req = .lift (.error e) := by
  unfold handlePay
  rw [h]
  rfl

theorem handlePay_of_unresolved {env : PayEnv} {req : PayRequest} {w : UInt64}
    {m : Option UInt64} {e : AppError} (hc : checkRequest req = .ok (w, m))
    (h : resolveTarget env req m = .error e) : handlePay env req = .lift (.error e) := by
  unfold handlePay
  rw [hc]
  show payChecked env req w m = _
  unfold payChecked
  rw [h]
  rfl

theorem handlePay_of_unfit {env : PayEnv} {req : PayRequest} {w : UInt64} {m : Option UInt64}
    {t : PaymentTarget} {e : AppError} (hc : checkRequest req = .ok (w, m))
    (ht : resolveTarget env req m = .ok t) (h : checkTarget req t = .error e) :
    handlePay env req = .lift (.error e) := by
  unfold handlePay
  rw [hc]
  show payChecked env req w m = _
  unfold payChecked
  rw [ht]
  show (Act.lift (checkTarget req t) >>= _) = _
  rw [h]
  rfl

/-- A request that is checked and resolved is dispatched, and answered from
the node's record. -/
theorem handlePay_of_fit {env : PayEnv} {req : PayRequest} {w : UInt64} {m : Option UInt64}
    {t : PaymentTarget} (hc : checkRequest req = .ok (w, m)) (ht : resolveTarget env req m = .ok t)
    (hk : checkTarget req t = .ok ()) :
    ∃ fallback : PaymentId → PayStatus,
      handlePay env req = dispatch env t req >>= fun id =>
        let n := if w = 0 then 0 else awaitSettled (toHex id.bytes) env.received
        return buildResponse id (env.payment n id) t (fallback id) := by
  refine ⟨fun id => if w = 0 then .pending else
    (env.payment (awaitSettled (toHex id.bytes) env.received) id).elim .pending
      fun d => mapStatus d.status, ?_⟩
  unfold handlePay
  rw [hc]
  show payChecked env req w m = _
  unfold payChecked
  rw [ht]
  show (Act.lift (checkTarget req t) >>= _) = _
  rw [hk]
  show (dispatch env t req >>= _) = _
  congr 1
  funext id
  by_cases hw : w = 0
  · simp only [hw, ↓reduceIte]
  · simp only [hw, ↓reduceIte]
    cases env.payment (awaitSettled (toHex id.bytes) env.received) id <;> rfl

/-- A request that is checked and resolved makes the calls of its dispatch. -/
theorem calls_handlePay {env : PayEnv} {req : PayRequest} {w : UInt64} {m : Option UInt64}
    {t : PaymentTarget} (hc : checkRequest req = .ok (w, m)) (ht : resolveTarget env req m = .ok t)
    (hk : checkTarget req t = .ok ()) : (handlePay env req).calls = (dispatch env t req).calls := by
  obtain ⟨fallback, h⟩ := handlePay_of_fit hc ht hk
  have hq : (handlePay env req).Holds fun _ cs => cs = (dispatch env t req).calls := by
    rw [h]
    exact Act.holds_bind.2 ⟨fun _ _ => rfl, fun _ _ => List.append_nil _⟩
  exact hq

theorem pickMethod_of_noLightning {env : PayEnv} {methods : List PaymentMethod} {a : UInt64}
    (h : NoLightning methods) :
    pickMethod env methods a = .error
      (.badRequest "no supported lightning payment method (need BOLT11 or BOLT12)") := by
  simp only [pickMethod, h.1, h.2]

/-- A fixed destination of another amount, or without a Lightning method, is
refused. -/
theorem resolveFixed_refused {env : PayEnv} {fixed : FixedAmount} {m : Option UInt64}
    (h : NoLightning fixed.methods ∨ ∃ v p, fixed.lnPaymentAmount = some v ∧ m = some p ∧ p ≠ v) :
    ∃ msg, resolveFixed env fixed m = .error (.badRequest msg) := by
  unfold resolveFixed
  cases hv : fixed.lnPaymentAmount with
  | none => exact ⟨_, rfl⟩
  | some v =>
    cases m with
    | none =>
      rcases h with h | ⟨_, _, _, hm, _⟩
      · exact ⟨_, pickMethod_of_noLightning h⟩
      · exact absurd hm.symm (Option.some_ne_none _)
    | some p =>
      by_cases hp : p = v
      · rcases h with h | ⟨v', p', hv', hp', hne⟩
        · exact ⟨_, (if_neg (not_not.2 hp)).trans (pickMethod_of_noLightning h)⟩
        · rw [hv] at hv'
          obtain rfl := Option.some.inj hv'
          obtain rfl := Option.some.inj hp'
          exact absurd hp hne
      · exact ⟨_, if_pos hp⟩

/-- A BOLT11 target refuses the fields only BOLT12 takes. -/
theorem checkTarget_refused {req : PayRequest} {invoice : Bolt11Invoice} {a : UInt64}
    (h : req.payerNote.isSome ∨ req.quantity.isSome) :
    ∃ msg, checkTarget req (.bolt11 invoice a) = .error (.badRequest msg) := by
  unfold checkTarget
  by_cases hn : req.payerNote.isSome
  · exact ⟨_, if_pos hn⟩
  · exact ⟨_, (if_neg hn).trans (if_pos (h.resolve_left hn))⟩

/-- A request that passes its checks and is refused fails to resolve. -/
theorem resolveTarget_of_refused {env : PayEnv} {req : PayRequest} {w : UInt64}
    {m : Option UInt64} (hc : checkRequest req = .ok (w, m)) (h : Refused env req) :
    (∃ msg, resolveTarget env req m = .error (.badRequest msg)) ∨
      ∃ t msg, resolveTarget env req m = .ok t ∧ checkTarget req t = .error (.badRequest msg) := by
  obtain ⟨h0, hw, hm⟩ := checkRequest_ok hc
  cases h with
  | zero h => exact absurd h h0
  | wait h => exact absurd h hw
  | @overflow s h hs =>
    rw [h] at hm
    obtain ⟨p, -, hp⟩ := Option.map_eq_some_iff.1 hm
    have hlt : p.toNat < 2 ^ 64 := p.toNat_lt
    have hps : p.toNat = 1000 * s.toNat := hp
    omega
  | missingAmount hp h =>
    rw [h, Option.map_none, Option.map_eq_none_iff] at hm
    left
    simp only [resolveTarget, hp, hm]
    exact ⟨_, rfl⟩
  | @mismatch fixed v s hp hv h hs =>
    rw [h] at hm
    obtain ⟨p, rfl, hpn⟩ := Option.map_eq_some_iff.1 hm
    left
    simp only [resolveTarget, hp]
    exact resolveFixed_refused (.inr ⟨v, p, hv, rfl, fun e => hs (e ▸ hpn)⟩)
  | @bolt12Only w' m' invoice a hc' ht h =>
    rw [hc'] at hc
    obtain ⟨-, rfl⟩ := Prod.mk.inj (Except.ok.inj hc)
    obtain ⟨msg, he⟩ := checkTarget_refused h
    exact .inr ⟨_, msg, ht, he⟩
  | @noMethod fixed hp h =>
    left
    simp only [resolveTarget, hp]
    exact resolveFixed_refused (.inl h)
  | noMethodSet hp hc' ha hs h =>
    rw [hc'] at hc
    obtain ⟨-, rfl⟩ := Prod.mk.inj (Except.ok.inj hc)
    left
    simp only [resolveTarget, hp, resolveConfigurable, ha, hs, pickMethod_of_noLightning h]
    exact ⟨_, rfl⟩

/-- A refused request is a bad one, and nothing is sent. -/
theorem handlePay_of_refused {env : PayEnv} {req : PayRequest} (h : Refused env req) :
    ∃ msg, handlePay env req = .lift (.error (.badRequest msg)) := by
  cases hc : checkRequest req with
  | error e =>
    obtain ⟨msg, rfl⟩ := checkRequest_error hc
    exact ⟨msg, handlePay_of_unchecked hc⟩
  | ok c =>
    rcases resolveTarget_of_refused (w := c.1) (m := c.2) hc h with ⟨msg, hr⟩ | ⟨t, msg, ht, he⟩
    · exact ⟨msg, handlePay_of_unresolved (w := c.1) hc hr⟩
    · exact ⟨msg, handlePay_of_unfit (w := c.1) hc ht he⟩

/-! ## Authorised sends -/

/-- The send pays exactly the amount asked for; if none was, exactly the fixed
Lightning amount of the destination. -/
def Authorised (env : PayEnv) (req : PayRequest) (s : LdkSend) : Prop :=
  (∀ a, req.amountSat = some a → (effectiveMsat s).map UInt64.toNat = some (1000 * a.toNat)) ∧
    (req.amountSat = none → ∃ fixed v, env.parse (trim req.destination) = .ok (.fixedAmount fixed) ∧
      fixed.lnPaymentAmount = some v ∧ effectiveMsat s = some v)

theorem OfTarget.authorised {env : PayEnv} (hf : FixedMethodsAgree env) {req : PayRequest}
    {s : LdkSend} (h : OfTarget env req s) : Authorised env req s := by
  obtain ⟨m, t, hm, ht, he⟩ := h
  obtain ⟨hsome, hnone⟩ := resolveTarget_ok hf ht
  refine ⟨fun a ha => ?_, fun ha => ?_⟩
  · rw [ha] at hm
    obtain ⟨r, hr, hn⟩ := Option.map_eq_some_iff.1 hm
    rw [he, hsome r hr, Option.map_some, hn]
  · rw [ha, Option.map_none, Option.map_eq_none_iff] at hm
    obtain ⟨fixed, hp, hv⟩ := hnone hm
    exact ⟨fixed, targetMsat t, hp, hv, he⟩

/-- `POST /pay`, whatever the resolver and the endpoints answer:

* it makes at most one send, and that is authorised;
* a bad request has sent nothing, and a refused one is a bad request;
* once the node has accepted the send, the answer is `Ok` with its payment id. -/
theorem handlePay_authorised (env : PayEnv) (req : PayRequest) (hf : FixedMethodsAgree env) :
    (handlePay env req).calls.length ≤ 1 ∧
      (∀ s ∈ (handlePay env req).calls, Authorised env req s) ∧
      (∀ msg, (handlePay env req).result = .error (.badRequest msg) →
        (handlePay env req).calls = []) ∧
      (Refused env req → ∃ msg, (handlePay env req).result = .error (.badRequest msg)) ∧
      ∀ s ∈ (handlePay env req).calls, ∀ id, env.send s = .ok id →
        ∃ r, (handlePay env req).result = .ok r ∧ r.paymentId = toHex id.bytes := by
  have h : Outcome env req (handlePay env req).result (handlePay env req).calls :=
    handlePay_holds env req
  have hrefused : Refused env req →
      ∃ msg, (handlePay env req).result = .error (.badRequest msg) := fun hr => by
    obtain ⟨msg, e⟩ := handlePay_of_refused hr
    exact ⟨msg, by rw [e]; rfl⟩
  revert h hrefused
  generalize (handlePay env req).result = result
  generalize (handlePay env req).calls = calls
  intro h hrefused
  refine ⟨?_, ?_, ?_, hrefused, ?_⟩
  · cases h <;> simp
  · cases h with
    | unsent e => nofun
    | failed hs he => exact fun s' hs' => List.mem_singleton.1 hs' ▸ hs.authorised hf
    | sent hs ha hr => exact fun s' hs' => List.mem_singleton.1 hs' ▸ hs.authorised hf
  · cases h with
    | unsent e => exact fun _ _ => rfl
    | failed hs he => exact fun _ e => by cases e
    | sent hs ha hr => exact fun _ e => by cases e
  · cases h with
    | unsent e => nofun
    | failed hs he =>
      intro s' hs' id hi
      rw [List.mem_singleton.1 hs', he] at hi
      cases hi
    | sent hs ha hr =>
      intro s' hs' id hi
      rw [List.mem_singleton.1 hs', ha] at hi
      cases hi
      exact ⟨_, rfl, hr⟩

/-- A signet invoice for 250 000 sat. -/
def sampleText : String :=
  "lntbs2500u1p5uxyg8dq5xysxxatsyp3k7enxv4jspp5g9l74xh9ts8va3qxp2ceudn0tze5vzh32p973s4kjjs9" ++
    "rn0fpn4qsp5d5x4gvmp7kf3upvt53rsvqz3c4rk8qjvy5w82237lsh463zaavwq9qyysgqcqzpvxqrrssrzjq07e" ++
    "5dm4wm0efnr7gkz8r3pugqrrqe2ss00w380kd34d8rgm0t8l6tg4wvqq2wcqqgqqqqqqqqqqqqqqfql6cwtcuver" ++
    "326t0zm77hugnskzn06hza4rrfej5dl7pg3jzuvs4j453vrwzx38n2ylmpyrxkc9ssw55r2008fd87y38jr6h4ak" ++
    "pkzccpydcc37"

def sampleInvoice : Bolt11Invoice where
  text := sampleText
  amountMilliSatoshis := some 250000000
  paymentHash := #v[0x41, 0x7f, 0xea, 0x9a, 0xe5, 0x5c, 0x0e, 0xce, 0xc4, 0x06, 0x0a, 0xb1, 0x9e,
    0x36, 0x6f, 0x58, 0xb3, 0x46, 0x0a, 0xf1, 0x50, 0x4b, 0xe8, 0xc2, 0xb6, 0x94, 0xa0, 0x51, 0xcd,
    0xe9, 0x0c, 0xea]
  expiresAt := some 1774395159
  scid := some 3248629150142627842

/-- Surroundings in which that invoice has not expired, that know no other
destination, and whose node accepts any send. -/
def sampleEnv : PayEnv where
  parse dest :=
    if dest = trim sampleText then
      .ok (.fixedAmount ⟨some 250000000, [.lightningBolt11 sampleText]⟩)
    else .error (.other "UnknownPaymentInstructions")
  fromMilliSats := some
  setAmount _ _ := .error "callback failed"
  bolt11FromStr s := if s = sampleText then .ok sampleInvoice else .error "Bech32 error"
  offerFromStr _ := .error "Bech32Decode"
  send _ := .ok ⟨sampleInvoice.paymentHash⟩
  received := []
  payment _ _ := none

theorem sampleEnv_agrees : FixedMethodsAgree sampleEnv := by
  intro dest fixed hp text _ invoice hi
  simp only [sampleEnv] at hp hi
  split at hp
  · split at hi
    · cases hp; cases hi; rfl
    · cases hi
  · cases hp

/-- A payment of that invoice, with its amount given. -/
theorem handlePay_authorised_invoice :
    let req : PayRequest := ⟨sampleText, some 250000, some 0, none, none⟩
    (handlePay sampleEnv req).calls = [.bolt11Send sampleInvoice] ∧
      ∀ s ∈ (handlePay sampleEnv req).calls, Authorised sampleEnv req s := by
  intro req
  refine ⟨?_, (handlePay_authorised sampleEnv req sampleEnv_agrees).2.1⟩
  have hc : checkRequest req = .ok (0, some 250000000) := by decide
  have hp : sampleEnv.parse (trim req.destination) =
      .ok (.fixedAmount ⟨some 250000000, [.lightningBolt11 sampleText]⟩) := by
    simp only [req, sampleEnv, ↓reduceIte]
  have hi : sampleEnv.bolt11FromStr sampleText = .ok sampleInvoice := by
    simp only [sampleEnv, ↓reduceIte]
  rw [calls_handlePay hc (resolveTarget_invoice hp hi) rfl]
  rfl

end Mdkd.Proof.Pay
