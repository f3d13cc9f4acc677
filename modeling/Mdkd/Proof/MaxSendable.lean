import Mdkd.Impl.MaxSendable
import Mdkd.Proof.Pay

/-!
# The estimate for an LNURL endpoint

An estimate is the balance less a reserve: the route's fees scaled by the
multiplier, or the buffer. `limitSum`, `routeReserve` and `bufferReserve` are
these as naturals. An endpoint is asked for an invoice within its bounds, but
the estimate is of the whole balance: `lnurl_within_bounds_iff` says when it is
an amount the endpoint accepts.
-/

namespace Mdkd.Proof.MaxSendable

open Framework Mdkd.MaxSendable

/-! ## Balance and reserves -/

/-- The channels an estimate counts. -/
def usableWith (lspPubkey : PublicKey) (channels : List ChannelSnapshot) : List ChannelSnapshot :=
  channels.filter fun c => c.counterparty = lspPubkey ∧ c.isUsable

/-- Their limits, added up without bound. -/
def limitSum (channels : List ChannelSnapshot) : Nat :=
  (channels.map fun c => c.nextOutboundHtlcLimitMsat.toNat).sum

/-- A sum that saturates is the sum of the naturals, cut off. -/
theorem foldl_saturatingAdd (channels : List ChannelSnapshot) (a : UInt64) :
    ∃ b : UInt64, channels.foldl
        (fun acc c => some (saturatingAdd (acc.getD 0) c.nextOutboundHtlcLimitMsat)) (some a) =
          some b ∧
      b.toNat = min (a.toNat + limitSum channels) (2 ^ 64 - 1) := by
  induction channels generalizing a with
  | nil =>
    have := a.toNat_lt
    refine ⟨a, rfl, ?_⟩
    show a.toNat = min (a.toNat + 0) (2 ^ 64 - 1)
    omega
  | cons c cs ih =>
    obtain ⟨b, hb, hn⟩ := ih (saturatingAdd a c.nextOutboundHtlcLimitMsat)
    refine ⟨b, hb, ?_⟩
    have hc : limitSum (c :: cs) = c.nextOutboundHtlcLimitMsat.toNat + limitSum cs := rfl
    rw [hn, toNat_saturatingAdd, hc]
    omega

theorem sumOutboundBalance_def (channels : List ChannelSnapshot) (lspPubkey : PublicKey) :
    sumOutboundBalance channels lspPubkey =
      match (usableWith lspPubkey channels).foldl
        (fun acc c => some (saturatingAdd (acc.getD 0) c.nextOutboundHtlcLimitMsat)) none with
      | some balanceMsat => .ok balanceMsat
      | none => .error .noUsableChannel := rfl

/-- The balance is the sum of the limits, cut off; without a channel there is
none. -/
theorem sumOutboundBalance_eq_ok {channels : List ChannelSnapshot} {lspPubkey : PublicKey}
    {b : UInt64} :
    sumOutboundBalance channels lspPubkey = .ok b ↔
      usableWith lspPubkey channels ≠ [] ∧
        b.toNat = min (limitSum (usableWith lspPubkey channels)) (2 ^ 64 - 1) := by
  rw [sumOutboundBalance_def]
  cases hu : usableWith lspPubkey channels with
  | nil => simp
  | cons c cs =>
    obtain ⟨b', hb, hn⟩ := foldl_saturatingAdd cs (saturatingAdd 0 c.nextOutboundHtlcLimitMsat)
    have hc : limitSum (c :: cs) = c.nextOutboundHtlcLimitMsat.toNat + limitSum cs := rfl
    rw [toNat_saturatingAdd, UInt64.toNat_zero] at hn
    rw [List.foldl_cons, Option.getD_none, hb]
    simp only [Except.ok.injEq, ne_eq, reduceCtorEq, not_false_eq_true, true_and]
    rw [← UInt64.toNat_inj, hn, hc]
    omega

/-- There is no other way to fail. -/
theorem sumOutboundBalance_eq_error {channels : List ChannelSnapshot} {lspPubkey : PublicKey}
    {e : MaxSendableError} :
    sumOutboundBalance channels lspPubkey = .error e ↔
      usableWith lspPubkey channels = [] ∧ e = .noUsableChannel := by
  rw [sumOutboundBalance_def]
  cases usableWith lspPubkey channels with
  | nil => simp [eq_comm]
  | cons c cs =>
    obtain ⟨b, hb, -⟩ := foldl_saturatingAdd cs (saturatingAdd 0 c.nextOutboundHtlcLimitMsat)
    rw [List.foldl_cons, Option.getD_none, hb]
    simp

/-- A channel with the LSP that can be used. -/
def Usable (lspPubkey : PublicKey) (c : ChannelSnapshot) : Prop :=
  c.counterparty = lspPubkey ∧ c.isUsable = true

theorem usableWith_ne_nil {lspPubkey : PublicKey} {channels : List ChannelSnapshot} :
    usableWith lspPubkey channels ≠ [] ↔ ∃ c ∈ channels, Usable lspPubkey c := by
  simp only [usableWith, ne_eq, List.filter_eq_nil_iff, decide_eq_true_eq, not_forall, not_not,
    exists_prop, Usable]

theorem sumOutboundBalance_isOk {channels : List ChannelSnapshot} {lspPubkey : PublicKey} :
    (∃ b, sumOutboundBalance channels lspPubkey = .ok b) ↔
      ∃ c ∈ channels, Usable lspPubkey c := by
  rw [← usableWith_ne_nil]
  constructor
  · rintro ⟨b, hb⟩
    exact (sumOutboundBalance_eq_ok.1 hb).1
  · intro hne
    cases hs : sumOutboundBalance channels lspPubkey with
    | error e => exact absurd (sumOutboundBalance_eq_error.1 hs).1 hne
    | ok b => exact ⟨b, rfl⟩

/-- What the buffer holds back of a balance. -/
def bufferReserve (cfg : MaxSendableConfig) (balance : Nat) : Nat :=
  max (balance * cfg.feeBufferBps.toNat / 10000 % 2 ^ 64)
    (min (cfg.feeBufferFloorSats.toNat * 1000) (2 ^ 64 - 1))

/-- What a route holds back. -/
def routeReserve (cfg : MaxSendableConfig) (route : Route) : Nat :=
  (route.paths.map fun p => p.feeMsat.toNat).sum % 2 ^ 64 *
    cfg.routeRetryFeeMultiplierBps.toNat / 10000 % 2 ^ 64

theorem subtractFeeBuffer_amount (b : UInt64) (cfg : MaxSendableConfig) :
    (subtractFeeBuffer b cfg).amountMsat.toNat = b.toNat - bufferReserve cfg b.toNat := by
  have h1000 : (1000 : UInt64).toNat = 1000 := rfl
  show (saturatingSub b (max _ _)).toNat = _
  rw [toNat_saturatingSub, toNat_max, toNat_mulDivTrunc, toNat_saturatingMul, h1000]
  rfl

example : (subtractFeeBuffer 100000000 .default).amountMsat = 99000000 := by decide

theorem estimateFromRoute_amount (b : UInt64) (route : Route) (cfg : MaxSendableConfig) :
    (estimateFromRoute b route cfg).amountMsat.toNat = b.toNat - routeReserve cfg route := by
  show (saturatingSub b (mulDivTrunc _ _ _)).toNat = _
  rw [toNat_saturatingSub, toNat_mulDivTrunc, toNat_wrappingSum, List.map_map]
  rfl

example : (estimateFromRoute 10000000
    ⟨[⟨[1000, 500000], false⟩, ⟨[2000, 500000], false⟩]⟩ .default).amountMsat = 9996700 := by
  decide

/-! ## Dispatch -/

/-- The methods that price a destination: all but the on-chain ones. -/
def isLightning : PossiblyResolvedPaymentMethod → Bool
  | .resolved (.onChain _) => false
  | _ => true

/-- The strategy the method that prices a destination leads to. -/
def strategyFor (env : EstimateEnv) (inst : ConfigurableAmount) (b : UInt64) :
    PossiblyResolvedPaymentMethod → Act EstimateCall MaxSendableError EstimationStrategy
  | .resolved (.lightningBolt11 text) => .lift (.ok (bolt11ToStrategy env text))
  | .resolved _ => .lift (.ok .buffer)
  | .lnurlPay minValue maxValue => resolveLnurlStrategy env inst b minValue maxValue

/-- A destination is priced by its first Lightning method. -/
theorem pickStrategy_eq (env : EstimateEnv) (inst : ConfigurableAmount) (b : UInt64) :
    pickStrategy env inst b =
      (inst.methods.find? isLightning).elim (.lift (.error .noLightningMethod))
        (strategyFor env inst b) := by
  rw [pickStrategy]
  induction inst.methods with
  | nil => rfl
  | cons m ms ih =>
    rw [List.find?_cons]
    cases m with
    | lnurlPay minValue maxValue => rfl
    | resolved method =>
      cases method with
      | onChain address => exact ih
      | lightningBolt11 invoice => rfl
      | lightningBolt12 offer => rfl

/-- Asked for the balance within its bounds, the endpoint gave this invoice. -/
def Fetched (env : EstimateEnv) (inst : ConfigurableAmount) (b minValue maxValue : UInt64)
    (text : String) : Prop :=
  minValue ≤ b ∧ ∃ amount fixed, env.fromMilliSats (min b maxValue) = some amount ∧
    env.setAmount inst amount = .ok fixed ∧
    fixed.methods.findSome? PaymentMethod.bolt11? = some text

theorem targetAmount_eq_ok {env : EstimateEnv} {t amount : UInt64} :
    targetAmount env t = .ok amount ↔ env.fromMilliSats t = some amount := by
  unfold targetAmount
  cases env.fromMilliSats t <;> simp

theorem resolvedBolt11_eq_ok {fixed : FixedAmount} {text : String} :
    resolvedBolt11 fixed = .ok text ↔
      fixed.methods.findSome? PaymentMethod.bolt11? = some text := by
  unfold resolvedBolt11
  cases fixed.methods.findSome? PaymentMethod.bolt11? <;> simp

theorem resolveLnurlStrategy_eq_ok {env : EstimateEnv} {inst : ConfigurableAmount}
    {b minValue maxValue : UInt64} {s : EstimationStrategy} :
    (resolveLnurlStrategy env inst b minValue maxValue).result = .ok s ↔
      ∃ text, Fetched env inst b minValue maxValue text ∧ s = bolt11ToStrategy env text := by
  unfold resolveLnurlStrategy Fetched
  by_cases hmin : b < minValue
  · have hle : ¬ minValue ≤ b := UInt64.not_le.2 hmin
    simp [hmin, hle]
  · have hle : minValue ≤ b := UInt64.not_lt.1 hmin
    rw [if_neg hmin]
    simp only [Act.result_bind_eq_ok, Act.result_lift, Act.result_call, Act.result_pure,
      targetAmount_eq_ok, mapError_eq_ok, resolvedBolt11_eq_ok]
    refine ⟨?_, ?_⟩
    · rintro ⟨amount, ha, fixed, hf, text, ht, hs⟩
      exact ⟨text, ⟨hle, amount, fixed, ha, hf, ht⟩, (Except.ok.inj hs).symm⟩
    · rintro ⟨text, ⟨-, amount, fixed, ha, hf, ht⟩, rfl⟩
      exact ⟨amount, ha, fixed, hf, text, ht, rfl⟩

/-- What is held back for an endpoint: the reserve of the route to its
invoice, or of the buffer where that does not parse again. -/
inductive HeldBack (env : EstimateEnv) (cfg : MaxSendableConfig) (inst : ConfigurableAmount)
    (b minValue maxValue : UInt64) : Nat → Prop where
  | route {text : String} {invoice : Bolt11Invoice} {route : Route}
      (hf : Fetched env inst b minValue maxValue text) (hp : env.bolt11FromStr text = .ok invoice)
      (hr : env.findRoute ⟨⟨invoice⟩, b⟩ = .ok route) :
      HeldBack env cfg inst b minValue maxValue (routeReserve cfg route)
  | buffer {text e : String} (hf : Fetched env inst b minValue maxValue text)
      (hp : env.bolt11FromStr text = .error e) :
      HeldBack env cfg inst b minValue maxValue (bufferReserve cfg b.toNat)

/-- The estimates by an invoice's text. -/
theorem estimateBy_eq_ok {env : EstimateEnv} {b : UInt64} {cfg : MaxSendableConfig}
    {text : String} {est : MaxSendableEstimate} :
    (estimateBy env b cfg (bolt11ToStrategy env text)).result = .ok est ↔
      (∃ invoice route, env.bolt11FromStr text = .ok invoice ∧
        env.findRoute ⟨⟨invoice⟩, b⟩ = .ok route ∧ est = estimateFromRoute b route cfg) ∨
      ∃ e, env.bolt11FromStr text = .error e ∧ est = subtractFeeBuffer b cfg := by
  unfold bolt11ToStrategy
  cases hp : env.bolt11FromStr text with
  | error e => simp [estimateBy, eq_comm]
  | ok invoice =>
    simp only [estimateBy, estimateViaPaymentParams, Act.result_bind_eq_ok, Act.result_call,
      Act.result_pure, mapError_eq_ok, Except.ok.injEq, reduceCtorEq, false_and, exists_false,
      or_false, exists_and_left, exists_eq_left']
    exact exists_congr fun route => and_congr_right fun _ => eq_comm

/-- Without a destination, the estimate is the balance less the buffer. -/
theorem computeEstimate_none_eq_ok {env : EstimateEnv} {channels : List ChannelSnapshot}
    {lspPubkey : PublicKey} {cfg : MaxSendableConfig} {est : MaxSendableEstimate} :
    (computeEstimate env none channels lspPubkey cfg).result = .ok est ↔
      ∃ b, sumOutboundBalance channels lspPubkey = .ok b ∧ est = subtractFeeBuffer b cfg := by
  unfold computeEstimate
  simp only [Act.result_bind_eq_ok, Act.result_lift, Act.result_pure, Except.ok.injEq]
  exact exists_congr fun b => and_congr_right fun _ => eq_comm

/-- A variable destination is estimated by the strategy picked for it. -/
theorem computeEstimate_configurable_eq_ok {env : EstimateEnv} {inst : ConfigurableAmount}
    {channels : List ChannelSnapshot} {lspPubkey : PublicKey} {cfg : MaxSendableConfig}
    {est : MaxSendableEstimate} :
    (computeEstimate env (some (.configurableAmount inst)) channels lspPubkey cfg).result =
        .ok est ↔
      ∃ b s, sumOutboundBalance channels lspPubkey = .ok b ∧
        (pickStrategy env inst b).result = .ok s ∧ (estimateBy env b cfg s).result = .ok est := by
  unfold computeEstimate
  simp only [Act.result_bind_eq_ok, Act.result_lift, exists_and_left]

/-- The estimates for an LNURL endpoint are the balance less what is held back. -/
theorem computeEstimate_lnurl {env : EstimateEnv} {inst : ConfigurableAmount}
    {minValue maxValue : UInt64}
    (hfirst : inst.methods.find? isLightning = some (.lnurlPay minValue maxValue))
    {channels : List ChannelSnapshot} {lspPubkey : PublicKey} {cfg : MaxSendableConfig} {n : Nat} :
    (∃ est, (computeEstimate env (some (.configurableAmount inst)) channels lspPubkey cfg).result =
        .ok est ∧ est.amountMsat.toNat = n) ↔
      ∃ b r, sumOutboundBalance channels lspPubkey = .ok b ∧
        HeldBack env cfg inst b minValue maxValue r ∧ n = b.toNat - r := by
  have hpick : ∀ b s, (pickStrategy env inst b).result = .ok s ↔
      ∃ text, Fetched env inst b minValue maxValue text ∧ s = bolt11ToStrategy env text := by
    intro b s
    rw [pickStrategy_eq, hfirst]
    exact resolveLnurlStrategy_eq_ok
  refine ⟨?_, ?_⟩
  · rintro ⟨est, h, rfl⟩
    obtain ⟨b, s, hb, hs, he⟩ := computeEstimate_configurable_eq_ok.1 h
    obtain ⟨text, hf, rfl⟩ := (hpick b s).1 hs
    rcases estimateBy_eq_ok.1 he with ⟨invoice, route, hp, hr, rfl⟩ | ⟨e, hp, rfl⟩
    · exact ⟨b, _, hb, .route hf hp hr, estimateFromRoute_amount b route cfg⟩
    · exact ⟨b, _, hb, .buffer hf hp, subtractFeeBuffer_amount b cfg⟩
  · rintro ⟨b, r, hb, hr, rfl⟩
    cases hr with
    | @route text invoice route hf hp hr =>
      have he : (estimateBy env b cfg (bolt11ToStrategy env text)).result =
          .ok (estimateFromRoute b route cfg) :=
        estimateBy_eq_ok.2 (.inl ⟨invoice, route, hp, hr, rfl⟩)
      exact ⟨_, computeEstimate_configurable_eq_ok.2 ⟨b, _, hb, (hpick b _).2 ⟨text, hf, rfl⟩, he⟩,
        estimateFromRoute_amount b route cfg⟩
    | @buffer text e hf hp =>
      have he : (estimateBy env b cfg (bolt11ToStrategy env text)).result =
          .ok (subtractFeeBuffer b cfg) := estimateBy_eq_ok.2 (.inr ⟨e, hp, rfl⟩)
      exact ⟨_, computeEstimate_configurable_eq_ok.2 ⟨b, _, hb, (hpick b _).2 ⟨text, hf, rfl⟩, he⟩,
        subtractFeeBuffer_amount b cfg⟩

/-- The estimate for the endpoint is none, zero, or within its bounds. -/
def WithinBounds (env : EstimateEnv) (inst : ConfigurableAmount) (minValue maxValue : UInt64)
    (channels : List ChannelSnapshot) (lspPubkey : PublicKey) (cfg : MaxSendableConfig) : Prop :=
  ∀ est, (computeEstimate env (some (.configurableAmount inst)) channels lspPubkey cfg).result =
    .ok est → 0 < est.amountMsat → minValue ≤ est.amountMsat ∧ est.amountMsat ≤ maxValue

/-- An estimate within the bounds leaves nothing, or an acceptable amount. -/
theorem WithinBounds.accepted {env : EstimateEnv} {inst : ConfigurableAmount}
    {minValue maxValue : UInt64} {channels : List ChannelSnapshot} {lspPubkey : PublicKey}
    {cfg : MaxSendableConfig}
    (h : WithinBounds env inst minValue maxValue channels lspPubkey cfg)
    (hfirst : inst.methods.find? isLightning = some (.lnurlPay minValue maxValue))
    {b : UInt64} {r : Nat} (hb : sumOutboundBalance channels lspPubkey = .ok b)
    (hr : HeldBack env cfg inst b minValue maxValue r) :
    b.toNat ≤ r ∨ minValue.toNat + r ≤ b.toNat ∧ b.toNat ≤ maxValue.toNat + r := by
  obtain ⟨est, he, hn⟩ := (computeEstimate_lnurl hfirst).2 ⟨b, r, hb, hr, rfl⟩
  by_cases hlt : b.toNat ≤ r
  · exact .inl hlt
  · have hpos : 0 < est.amountMsat :=
      UInt64.lt_iff_toNat_lt.2 (by rw [hn, UInt64.toNat_zero]; omega)
    obtain ⟨hmin, hmax⟩ := h est he hpos
    have hmin' := UInt64.le_iff_toNat_le.1 hmin
    have hmax' := UInt64.le_iff_toNat_le.1 hmax
    rw [hn] at hmin' hmax'
    omega

/-- An estimate for an LNURL endpoint is an amount the endpoint accepts exactly
when what is held back takes the whole balance, or leaves of it at least the
least and at most the largest amount the endpoint accepts. -/
theorem lnurl_within_bounds_iff (env : EstimateEnv) (inst : ConfigurableAmount)
    (minValue maxValue : UInt64) (channels : List ChannelSnapshot) (lspPubkey : PublicKey)
    (cfg : MaxSendableConfig)
    (hfirst : inst.methods.find? isLightning = some (.lnurlPay minValue maxValue)) :
    WithinBounds env inst minValue maxValue channels lspPubkey cfg ↔
      ∀ b r, sumOutboundBalance channels lspPubkey = .ok b →
        HeldBack env cfg inst b minValue maxValue r →
        b.toNat ≤ r ∨ minValue.toNat + r ≤ b.toNat ∧ b.toNat ≤ maxValue.toNat + r := by
  refine ⟨fun h b r hb hr => h.accepted hfirst hb hr, fun h est he hpos => ?_⟩
  obtain ⟨b, r, hb, hr, hn⟩ := (computeEstimate_lnurl hfirst).1 ⟨est, he, rfl⟩
  have hpos' := UInt64.lt_iff_toNat_lt.1 hpos
  rw [hn, UInt64.toNat_zero] at hpos'
  rw [UInt64.le_iff_toNat_le, UInt64.le_iff_toNat_le, hn]
  have := h b r hb hr
  omega

/-- An endpoint that answers a request for 250 000 sat with an invoice for
them, and a router that knows one path, of 1 sat. -/
def sampleEstimateEnv : EstimateEnv where
  fromMilliSats m := if m ≤ 2100000000000000000 then some m else none
  setAmount _ amount :=
    if amount = 250000000 then .ok ⟨some 250000000, [.lightningBolt11 Pay.sampleText]⟩
    else .error "callback failed"
  bolt11FromStr s := if s = Pay.sampleText then .ok Pay.sampleInvoice else .error "Bech32 error"
  findRoute params := .ok ⟨[⟨[1000, params.finalValueMsat], false⟩]⟩

def sampleLsp : PublicKey := ⟨.replicate 33 0x02⟩

theorem fetched_sample {inst : ConfigurableAmount} {b minValue maxValue : UInt64}
    (hmin : minValue ≤ b) (hmax : min b maxValue = 250000000) :
    Fetched sampleEstimateEnv inst b minValue maxValue Pay.sampleText := by
  refine ⟨hmin, 250000000, ⟨some 250000000, [.lightningBolt11 Pay.sampleText]⟩, ?_, ?_, ?_⟩
  · rw [hmax]
    decide
  · simp only [sampleEstimateEnv, ↓reduceIte]
  · simp only [List.findSome?, PaymentMethod.bolt11?]

/-- The route to it holds back 1.1 sat. -/
theorem routeReserve_sample (b : UInt64) :
    routeReserve .default ⟨[⟨[1000, b], false⟩]⟩ = 1100 := by
  show (wrappingSum [1000]).toNat % 2 ^ 64 * 11000 / 10000 % 2 ^ 64 = 1100
  decide

/-- With 250 000 sat, and an endpoint that takes from 1 to 250 000 sat, the
estimate is an amount it takes. -/
theorem lnurl_within_bounds_sample :
    WithinBounds sampleEstimateEnv ⟨[.lnurlPay 1000 250000000]⟩ 1000 250000000
      [⟨sampleLsp, true, 250000000⟩] sampleLsp .default := by
  refine (lnurl_within_bounds_iff _ _ _ _ _ _ _ rfl).2 fun b r hb hr => ?_
  have hsum : sumOutboundBalance [⟨sampleLsp, true, 250000000⟩] sampleLsp = .ok 250000000 := by
    decide
  obtain rfl := Except.ok.inj (hsum.symm.trans hb)
  right
  cases hr with
  | route hf hp hr =>
    obtain rfl := Except.ok.inj hr
    show _ + routeReserve .default ⟨[⟨[1000, 250000000], false⟩]⟩ ≤ _ ∧
      _ ≤ _ + routeReserve .default ⟨[⟨[1000, 250000000], false⟩]⟩
    rw [routeReserve_sample]
    decide
  | buffer hf hp => decide

/-- With 500 000 sat, the estimate is more than an endpoint that takes up to
250 000 sat accepts; with 250 000 sat, less than one that takes no other
amount does. -/
theorem estimate_outside_bounds :
    ¬ WithinBounds sampleEstimateEnv ⟨[.lnurlPay 1000 250000000]⟩ 1000 250000000
        [⟨sampleLsp, true, 500000000⟩] sampleLsp .default ∧
      ¬ WithinBounds sampleEstimateEnv ⟨[.lnurlPay 250000000 250000000]⟩ 250000000 250000000
        [⟨sampleLsp, true, 250000000⟩] sampleLsp .default := by
  have hp : sampleEstimateEnv.bolt11FromStr Pay.sampleText = .ok Pay.sampleInvoice := by
    simp only [sampleEstimateEnv, ↓reduceIte]
  refine ⟨fun h => ?_, fun h => ?_⟩
  · have hb : sumOutboundBalance [⟨sampleLsp, true, 500000000⟩] sampleLsp = .ok 500000000 := by
      decide
    have := h.accepted rfl hb (.route (fetched_sample (by decide) (by decide)) hp rfl)
    rw [routeReserve_sample] at this
    exact absurd this (by decide)
  · have hb : sumOutboundBalance [⟨sampleLsp, true, 250000000⟩] sampleLsp = .ok 250000000 := by
      decide
    have := h.accepted rfl hb (.route (fetched_sample (by decide) (by decide)) hp rfl)
    rw [routeReserve_sample] at this
    exact absurd this (by decide)

end Mdkd.Proof.MaxSendable
