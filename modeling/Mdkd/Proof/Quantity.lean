import Mdkd.Proof.TwoWays

/-!
# Paying for several items of an offer

The instructions' library reports an offer's amount for one item as the amount
of the payment, and `POST /pay` hands the node that amount beside the quantity
(`calls_offer`), whatever the quantity: `payable_iff`.
-/

namespace Mdkd.Proof.Pay

open Framework Mdkd.Pay

/-- The destination is the offer, at `itemMsat` for each item: the instructions
have a fixed amount, of one item, and no invoice beside the offer. -/
def FixedOffer (env : PayEnv) (destination : String) (offer : Offer) (itemMsat : UInt64) : Prop :=
  ∃ fixed text, env.parse (trim destination) = .ok (.fixedAmount fixed) ∧
    fixed.lnPaymentAmount = some itemMsat ∧
    fixed.methods.findSome? PaymentMethod.bolt11? = none ∧
    fixed.methods.findSome? PaymentMethod.bolt12? = some text ∧
    env.offerFromStr text = .ok offer

/-- The request passes the checks of `POST /pay`: the seconds to wait are few
enough, and an amount, if given, is that of one item. -/
def Accepted (req : PayRequest) (itemMsat : UInt64) : Prop :=
  WaitOk req.waitForPaymentSecs ∧
    ∀ s, req.amountSat = some s → s ≠ 0 ∧ 1000 * s.toNat = itemMsat.toNat

/-- Every amount handed to the node for the quantity is enough for as many items. -/
def Payable (env : PayEnv) (req : PayRequest) (itemMsat quantity : UInt64) : Prop :=
  ∀ offer amountMsat q payerNote,
    .bolt12SendUsingAmount offer amountMsat q payerNote ∈ (handlePay env req).calls →
      q = some quantity ∧ quantity.toNat * itemMsat.toNat ≤ amountMsat.toNat

variable {env : PayEnv} {req : PayRequest} {offer : Offer} {itemMsat : UInt64}

/-- The offer is resolved at the amount of one item, or not at all. -/
theorem resolveTarget_offer (h : FixedOffer env req.destination offer itemMsat)
    (m : Option UInt64) :
    ((∀ r, m = some r → r = itemMsat) →
        resolveTarget env req m = .ok (.bolt12 offer itemMsat)) ∧
      ∀ r, m = some r → r ≠ itemMsat → ∃ e, resolveTarget env req m = .error e := by
  obtain ⟨fixed, text, hp, hv, h11, h12, ho⟩ := h
  have hpick : pickMethod env fixed.methods itemMsat = .ok (.bolt12 offer itemMsat) := by
    simp only [pickMethod, h11, h12, ho]
  constructor
  · intro hm
    cases m with
    | none => simp only [resolveTarget, hp, resolveFixed, hv, hpick]
    | some r =>
      have hr : r = itemMsat := hm r rfl
      simp only [resolveTarget, hp, resolveFixed, hv, hr, ne_eq, not_true_eq_false, ↓reduceIte,
        hpick]
  · rintro r rfl hr
    rw [resolveTarget, hp]
    show ∃ e, resolveFixed env fixed (some r) = .error e
    rw [resolveFixed, hv]
    exact ⟨_, if_pos hr⟩

/-- An accepted request is one send, at the amount of one item. -/
theorem calls_offer (h : FixedOffer env req.destination offer itemMsat)
    (ha : Accepted req itemMsat) :
    (handlePay env req).calls =
      [.bolt12SendUsingAmount offer itemMsat req.quantity req.payerNote] := by
  have hamount : ∀ s, req.amountSat = some s → AmountOk s := fun s hs => by
    refine ⟨(ha.2 s hs).1, ?_⟩
    rw [(ha.2 s hs).2]
    exact itemMsat.toNat_lt
  obtain ⟨w, hc⟩ := checkRequest_iff.2 ⟨ha.1, hamount, rfl⟩
  have ht := (resolveTarget_offer h (req.amountSat.map (· * 1000))).1 fun r hr => by
    obtain ⟨s, hs, rfl⟩ := Option.map_eq_some_iff.1 hr
    rw [← UInt64.toNat_inj, Money.toNat_mul_1000, (ha.2 s hs).2]
    exact Nat.mod_eq_of_lt itemMsat.toNat_lt
  rw [calls_handlePay hc ht rfl]
  rfl

/-- Any other request is refused. -/
theorem refuses_offer (h : FixedOffer env req.destination offer itemMsat)
    (ha : ¬ Accepted req itemMsat) : Refuses (handlePay env req) := by
  cases hc : checkRequest req with
  | error e => exact ⟨e, handlePay_of_unchecked hc⟩
  | ok c =>
    obtain ⟨w, m⟩ := c
    obtain ⟨hw, hamount, hm⟩ := checkRequest_iff.1 ⟨w, hc⟩
    -- The amount is the only check left to fail.
    obtain ⟨s, hs, hne⟩ : ∃ s, req.amountSat = some s ∧ 1000 * s.toNat ≠ itemMsat.toNat := by
      by_contra hall
      refine ha ⟨hw, fun s hs => ⟨(hamount s hs).1, ?_⟩⟩
      by_contra hne
      exact hall ⟨s, hs, hne⟩
    rw [hs, Option.map_some] at hm
    obtain ⟨e, he⟩ := (resolveTarget_offer h m).2 _ hm fun heq => hne (by
      rw [← heq, Money.toNat_mul_1000, Nat.mod_eq_of_lt (hamount s hs).2])
    exact ⟨e, handlePay_of_unresolved hc he⟩

/-- Where an offer has an amount for each item, the amount handed to the node
for a quantity is enough exactly when the request is refused, the quantity is
one, or an item costs nothing. -/
theorem payable_iff (env : PayEnv) (req : PayRequest) (offer : Offer) (itemMsat quantity : UInt64)
    (h : FixedOffer env req.destination offer itemMsat) (hq : req.quantity = some quantity)
    (hpos : 1 ≤ quantity) :
    Payable env req itemMsat quantity ↔
      (Accepted req itemMsat → quantity = 1 ∨ itemMsat = 0) := by
  have hpos' := UInt64.le_iff_toNat_le.1 hpos
  have h1 : (1 : UInt64).toNat = 1 := rfl
  by_cases ha : Accepted req itemMsat
  · have hcalls := calls_offer h ha
    have hone : Payable env req itemMsat quantity ↔
        quantity.toNat * itemMsat.toNat ≤ itemMsat.toNat := by
      constructor
      · intro hp
        exact (hp offer itemMsat req.quantity req.payerNote (by rw [hcalls]; simp)).2
      · intro hle offer' amountMsat q payerNote hmem
        rw [hcalls] at hmem
        obtain ⟨-, rfl, rfl, -⟩ := LdkSend.bolt12SendUsingAmount.inj (List.mem_singleton.1 hmem)
        exact ⟨hq, hle⟩
    rw [hone, ← UInt64.toNat_inj, ← UInt64.toNat_inj, h1, UInt64.toNat_zero]
    constructor
    · intro hle _
      by_contra hne
      have htwo : 2 * itemMsat.toNat ≤ quantity.toNat * itemMsat.toNat :=
        Nat.mul_le_mul_right _ (by omega)
      omega
    · intro hor
      rcases hor ha with hone | hzero
      · rw [hone, Nat.one_mul]
      · rw [hzero, Nat.mul_zero]
  · have hnone : Payable env req itemMsat quantity := fun _ _ _ _ hmem => by
      rw [(refuses_offer h ha).calls] at hmem
      exact absurd hmem List.not_mem_nil
    exact ⟨fun _ hacc => absurd hacc ha, fun _ => hnone⟩

/-- Surroundings that know one offer, of 1 sat an item. -/
def offerEnv : PayEnv :=
  { sampleEnv with
    parse := fun _ => .ok (.fixedAmount ⟨some 1000, [.lightningBolt12 "lno1example"]⟩)
    offerFromStr := fun text => .ok ⟨text⟩ }

theorem fixedOffer_offerEnv (destination : String) :
    FixedOffer offerEnv destination ⟨"lno1example"⟩ 1000 :=
  ⟨_, _, rfl, rfl, rfl, rfl, rfl⟩

/-- One item is paid. -/
theorem payable_one_item :
    Payable offerEnv ⟨"lno1example", none, none, none, some 1⟩ 1000 1 :=
  (payable_iff _ _ _ 1000 1 (fixedOffer_offerEnv _) rfl (by decide)).2 fun _ => .inl rfl

/-- For three items the node is handed the amount of one. -/
theorem three_items_underpaid :
    let req : PayRequest := ⟨"lno1example", none, none, none, some 3⟩
    (handlePay offerEnv req).calls =
        [.bolt12SendUsingAmount ⟨"lno1example"⟩ 1000 (some 3) none] ∧
      ¬ Payable offerEnv req 1000 3 := by
  intro req
  have ha : Accepted req 1000 := ⟨show defaultWaitSecs ≤ maxWaitSecs by decide, nofun⟩
  have hcalls := calls_offer (fixedOffer_offerEnv req.destination) ha
  refine ⟨hcalls, fun hp => ?_⟩
  have hle := (hp _ _ _ _ (by rw [hcalls]; exact List.mem_singleton_self _)).2
  exact absurd hle (by decide)

end Mdkd.Proof.Pay
