import Mathlib.Algebra.BigOperators.Group.List.Lemmas
import Mdkd.Impl.Balance
import Mdkd.Proof.Probe

/-!
# What an estimate holds back

The estimate without a destination takes the buffer off the balance. Up to the
supply of bitcoin nothing in it is cut off, so it is `feeBudget`, a function of
the sum of the limits alone (`BufferExact`): the order of the channels and the
other channels do not matter, and it grows with the limits
(`amount_mono`) and shrinks with the settings (`amount_anti`).

The estimate from a route takes the route's fees off, scaled by the multiplier
of the configuration: `leaves_room_iff` says when what is left can still be
sent along that route.
-/

namespace Mdkd.Proof.MaxSendable

open Framework Mdkd.MaxSendable Mdkd.Balance

/-! ## The buffer -/

/-- All bitcoin there will be, in millisatoshis. -/
def supplyMsat : Nat := 2100000000000000000

/-- The fee budget of a balance: a share of it or the floor, whichever is more. -/
def feeBudget (cfg : MaxSendableConfig) (balance : Nat) : Nat :=
  max (balance * cfg.feeBufferBps.toNat / 10000)
    (min (1000 * cfg.feeBufferFloorSats.toNat) (2 ^ 64 - 1))

/-- Up to the supply, the cast back to 64 bits loses nothing. -/
theorem bufferReserve_eq {cfg : MaxSendableConfig} {balance : Nat} (h : balance ≤ supplyMsat) :
    bufferReserve cfg balance = feeBudget cfg balance := by
  have hbps : cfg.feeBufferBps.toNat ≤ 65535 := by
    have := cfg.feeBufferBps.toNat_lt
    omega
  have hmul : balance * cfg.feeBufferBps.toNat ≤ supplyMsat * 65535 := Nat.mul_le_mul h hbps
  have hsupply : supplyMsat * 65535 / 10000 < 2 ^ 64 := by decide
  have hlt : balance * cfg.feeBufferBps.toNat / 10000 < 2 ^ 64 :=
    lt_of_le_of_lt (Nat.div_le_div_right hmul) hsupply
  rw [bufferReserve, Nat.mod_eq_of_lt hlt, Nat.mul_comm cfg.feeBufferFloorSats.toNat]
  rfl

theorem subtractFeeBuffer_budget (b : UInt64) (cfg : MaxSendableConfig) :
    (subtractFeeBuffer b cfg).feeBudgetMsat.toNat = bufferReserve cfg b.toNat := by
  have h1000 : (1000 : UInt64).toNat = 1000 := rfl
  show (max _ _ : UInt64).toNat = _
  rw [toNat_max, toNat_mulDivTrunc, toNat_saturatingMul, h1000]
  rfl

/-- The estimate without a destination. -/
def bufferEstimate (env : EstimateEnv) (lspPubkey : PublicKey) (channels : List ChannelSnapshot)
    (cfg : MaxSendableConfig) : Except MaxSendableError MaxSendableEstimate :=
  (computeEstimate env none channels lspPubkey cfg).result

/-- Without a usable channel there is no estimate; with one, the estimate is
the sum of the limits less the fee budget. -/
structure BufferExact (env : EstimateEnv) (lspPubkey : PublicKey)
    (channels : List ChannelSnapshot) (cfg : MaxSendableConfig) : Prop where
  refused : (∃ e, bufferEstimate env lspPubkey channels cfg = .error e) ↔
    ¬ ∃ c ∈ channels, Usable lspPubkey c
  balance : ∀ est, bufferEstimate env lspPubkey channels cfg = .ok est →
    est.balanceAtComputeMsat.toNat = limitSum (usableWith lspPubkey channels)
  budget : ∀ est, bufferEstimate env lspPubkey channels cfg = .ok est →
    est.feeBudgetMsat.toNat = feeBudget cfg (limitSum (usableWith lspPubkey channels))
  amount : ∀ est, bufferEstimate env lspPubkey channels cfg = .ok est →
    est.amountMsat.toNat = limitSum (usableWith lspPubkey channels) -
      min (limitSum (usableWith lspPubkey channels))
        (feeBudget cfg (limitSum (usableWith lspPubkey channels)))

theorem bufferEstimate_eq_ok {env : EstimateEnv} {lspPubkey : PublicKey}
    {channels : List ChannelSnapshot} {cfg : MaxSendableConfig} {est : MaxSendableEstimate} :
    bufferEstimate env lspPubkey channels cfg = .ok est ↔
      ∃ b, sumOutboundBalance channels lspPubkey = .ok b ∧ est = subtractFeeBuffer b cfg :=
  computeEstimate_none_eq_ok

theorem bufferEstimate_isOk {env : EstimateEnv} {lspPubkey : PublicKey}
    {channels : List ChannelSnapshot} {cfg : MaxSendableConfig} :
    (∃ est, bufferEstimate env lspPubkey channels cfg = .ok est) ↔
      ∃ c ∈ channels, Usable lspPubkey c := by
  rw [← sumOutboundBalance_isOk]
  constructor
  · rintro ⟨est, h⟩
    obtain ⟨b, hb, -⟩ := bufferEstimate_eq_ok.1 h
    exact ⟨b, hb⟩
  · rintro ⟨b, hb⟩
    exact ⟨_, bufferEstimate_eq_ok.2 ⟨b, hb, rfl⟩⟩

/-- Up to the supply, the sum does not saturate. -/
theorem balance_of_supply {lspPubkey : PublicKey} {channels : List ChannelSnapshot} {b : UInt64}
    (hsum : limitSum (usableWith lspPubkey channels) ≤ supplyMsat)
    (hb : sumOutboundBalance channels lspPubkey = .ok b) :
    b.toNat = limitSum (usableWith lspPubkey channels) := by
  have hlt : supplyMsat < 2 ^ 64 := by decide
  rw [(sumOutboundBalance_eq_ok.1 hb).2]
  omega

theorem bufferExact (env : EstimateEnv) {lspPubkey : PublicKey} {channels : List ChannelSnapshot}
    (hsum : limitSum (usableWith lspPubkey channels) ≤ supplyMsat) (cfg : MaxSendableConfig) :
    BufferExact env lspPubkey channels cfg where
  refused := by
    rw [← @bufferEstimate_isOk env _ _ cfg]
    cases bufferEstimate env lspPubkey channels cfg <;> simp
  balance est h := by
    obtain ⟨b, hb, rfl⟩ := bufferEstimate_eq_ok.1 h
    exact balance_of_supply hsum hb
  budget est h := by
    obtain ⟨b, hb, rfl⟩ := bufferEstimate_eq_ok.1 h
    rw [subtractFeeBuffer_budget, balance_of_supply hsum hb, bufferReserve_eq hsum]
  amount est h := by
    obtain ⟨b, hb, rfl⟩ := bufferEstimate_eq_ok.1 h
    rw [subtractFeeBuffer_amount, balance_of_supply hsum hb, bufferReserve_eq hsum]
    omega

/-! ## What the buffer depends on -/

theorem limitSum_append (cs ds : List ChannelSnapshot) :
    limitSum (cs ++ ds) = limitSum cs + limitSum ds := by
  rw [limitSum, List.map_append, List.sum_append]
  rfl

theorem limitSum_cons (c : ChannelSnapshot) (cs : List ChannelSnapshot) :
    limitSum (c :: cs) = c.nextOutboundHtlcLimitMsat.toNat + limitSum cs := rfl

theorem usableWith_append (lspPubkey : PublicKey) (cs ds : List ChannelSnapshot) :
    usableWith lspPubkey (cs ++ ds) = usableWith lspPubkey cs ++ usableWith lspPubkey ds := by
  rw [usableWith, List.filter_append]
  rfl

theorem usableWith_cons {lspPubkey : PublicKey} {c : ChannelSnapshot} (hc : Usable lspPubkey c)
    (cs : List ChannelSnapshot) :
    usableWith lspPubkey (c :: cs) = c :: usableWith lspPubkey cs :=
  List.filter_cons_of_pos (decide_eq_true hc)

/-- The sum is that of the usable channels, in any order. -/
theorem sumOutboundBalance_congr {lspPubkey : PublicKey} {channels channels' : List ChannelSnapshot}
    (h : (usableWith lspPubkey channels).Perm (usableWith lspPubkey channels')) :
    sumOutboundBalance channels lspPubkey = sumOutboundBalance channels' lspPubkey := by
  have hsum : limitSum (usableWith lspPubkey channels) =
      limitSum (usableWith lspPubkey channels') := (h.map _).sum_eq
  cases hs : sumOutboundBalance channels lspPubkey with
  | error e =>
    obtain ⟨hnil, he⟩ := sumOutboundBalance_eq_error.1 hs
    rw [hnil] at h
    exact (sumOutboundBalance_eq_error.2 ⟨List.nil_perm.1 h, he⟩).symm
  | ok b =>
    obtain ⟨hne, hb⟩ := sumOutboundBalance_eq_ok.1 hs
    have hne' : usableWith lspPubkey channels' ≠ [] := fun hnil => hne (by
      rw [hnil] at h
      exact List.perm_nil.1 h)
    rw [hsum] at hb
    exact (sumOutboundBalance_eq_ok.2 ⟨hne', hb⟩).symm

theorem bufferEstimate_congr (env : EstimateEnv) {lspPubkey : PublicKey}
    {channels channels' : List ChannelSnapshot}
    (h : (usableWith lspPubkey channels).Perm (usableWith lspPubkey channels'))
    (cfg : MaxSendableConfig) :
    bufferEstimate env lspPubkey channels cfg = bufferEstimate env lspPubkey channels' cfg := by
  rw [bufferEstimate, bufferEstimate, computeEstimate, computeEstimate, sumOutboundBalance_congr h]

/-- A usable channel was added, or the limit of one grew. -/
inductive Grown (lspPubkey : PublicKey) : List ChannelSnapshot → List ChannelSnapshot → Prop where
  | added (pre post : List ChannelSnapshot) (c : ChannelSnapshot) (hc : Usable lspPubkey c) :
      Grown lspPubkey (pre ++ post) (pre ++ c :: post)
  | raised (pre post : List ChannelSnapshot) (c : ChannelSnapshot) (hc : Usable lspPubkey c)
      (limit : UInt64) (hle : c.nextOutboundHtlcLimitMsat ≤ limit) :
      Grown lspPubkey (pre ++ c :: post)
        (pre ++ { c with nextOutboundHtlcLimitMsat := limit } :: post)

variable {lspPubkey : PublicKey} {channels channels' : List ChannelSnapshot}

theorem Grown.limitSum_le (h : Grown lspPubkey channels channels') :
    limitSum (usableWith lspPubkey channels) ≤ limitSum (usableWith lspPubkey channels') := by
  cases h with
  | added pre post c hc =>
    rw [usableWith_append, usableWith_append, usableWith_cons hc, limitSum_append,
      limitSum_append, limitSum_cons]
    omega
  | raised pre post c hc limit hle =>
    have hle' := UInt64.le_iff_toNat_le.1 hle
    have hc' : Usable lspPubkey { c with nextOutboundHtlcLimitMsat := limit } := hc
    rw [usableWith_append, usableWith_append, usableWith_cons hc, usableWith_cons hc',
      limitSum_append, limitSum_append, limitSum_cons, limitSum_cons]
    show _ ≤ _ + (limit.toNat + _)
    omega

/-- There is a usable channel afterwards. -/
theorem Grown.exists_usable (h : Grown lspPubkey channels channels') :
    ∃ c ∈ channels', Usable lspPubkey c := by
  cases h with
  | added pre post c hc =>
    exact ⟨c, List.mem_append_right _ List.mem_cons_self, hc⟩
  | raised pre post c hc limit hle =>
    exact ⟨_, List.mem_append_right _ List.mem_cons_self, hc⟩

/-- With more to send, the estimate is no less. -/
theorem amount_mono (env : EstimateEnv) (h : Grown lspPubkey channels channels')
    (hsum : limitSum (usableWith lspPubkey channels') ≤ supplyMsat) {cfg : MaxSendableConfig}
    {est : MaxSendableEstimate} (he : bufferEstimate env lspPubkey channels cfg = .ok est) :
    ∃ est', bufferEstimate env lspPubkey channels' cfg = .ok est' ∧
      est.amountMsat ≤ est'.amountMsat := by
  have hle := h.limitSum_le
  obtain ⟨est', he'⟩ := (@bufferEstimate_isOk env _ _ cfg).2 h.exists_usable
  refine ⟨est', he', ?_⟩
  have hn := (bufferExact env (le_trans hle hsum) cfg).amount est he
  have hn' := (bufferExact env hsum cfg).amount est' he'
  have hmono := sub_max_mono hle cfg.feeBufferBps.toNat
    (min (1000 * cfg.feeBufferFloorSats.toNat) (2 ^ 64 - 1)) (by decide : 0 < 10000)
  rw [UInt64.le_iff_toNat_le, hn, hn']
  rw [feeBudget, feeBudget]
  omega

/-- A larger buffer is a larger budget. -/
theorem feeBudget_mono {cfg cfg' : MaxSendableConfig} (hbps : cfg.feeBufferBps ≤ cfg'.feeBufferBps)
    (hfloor : cfg.feeBufferFloorSats ≤ cfg'.feeBufferFloorSats) (balance : Nat) :
    feeBudget cfg balance ≤ feeBudget cfg' balance := by
  have hb := UInt16.le_iff_toNat_le.1 hbps
  have hf := UInt64.le_iff_toNat_le.1 hfloor
  have hshare : balance * cfg.feeBufferBps.toNat / 10000 ≤
      balance * cfg'.feeBufferBps.toNat / 10000 :=
    Nat.div_le_div_right (Nat.mul_le_mul_left _ hb)
  rw [feeBudget, feeBudget]
  omega

/-- With a larger buffer, the estimate is no more. -/
theorem amount_anti (env : EstimateEnv)
    (hsum : limitSum (usableWith lspPubkey channels) ≤ supplyMsat) {cfg cfg' : MaxSendableConfig}
    (hbps : cfg.feeBufferBps ≤ cfg'.feeBufferBps)
    (hfloor : cfg.feeBufferFloorSats ≤ cfg'.feeBufferFloorSats) {est : MaxSendableEstimate}
    (he : bufferEstimate env lspPubkey channels cfg = .ok est) :
    ∃ est', bufferEstimate env lspPubkey channels cfg' = .ok est' ∧
      est'.amountMsat ≤ est.amountMsat := by
  obtain ⟨est', he'⟩ := (@bufferEstimate_isOk env _ _ cfg').2
    (bufferEstimate_isOk.1 ⟨est, he⟩)
  refine ⟨est', he', ?_⟩
  have hn := (bufferExact env hsum cfg).amount est he
  have hn' := (bufferExact env hsum cfg').amount est' he'
  have hmono := feeBudget_mono hbps hfloor (limitSum (usableWith lspPubkey channels))
  rw [UInt64.le_iff_toNat_le, hn, hn']
  omega

/-- The estimate without a destination, where the usable channels with the LSP
hold no more than the supply: it is exact, the same for every order of the
channels and for any other channels beside the usable ones, no less when one of
these is added or grows, and no more when the buffer grows. -/
theorem buffer_estimate_exact (env : EstimateEnv) (lspPubkey : PublicKey)
    (channels : List ChannelSnapshot) (cfg : MaxSendableConfig)
    (hsum : limitSum (usableWith lspPubkey channels) ≤ supplyMsat) :
    BufferExact env lspPubkey channels cfg ∧
      (∀ channels', channels.Perm channels' →
        bufferEstimate env lspPubkey channels' cfg = bufferEstimate env lspPubkey channels cfg) ∧
      (∀ channels', usableWith lspPubkey channels' = usableWith lspPubkey channels →
        bufferEstimate env lspPubkey channels' cfg = bufferEstimate env lspPubkey channels cfg) ∧
      (∀ channels', Grown lspPubkey channels' channels →
        ∀ est', bufferEstimate env lspPubkey channels' cfg = .ok est' →
          ∃ est, bufferEstimate env lspPubkey channels cfg = .ok est ∧
            est'.amountMsat ≤ est.amountMsat) ∧
      ∀ cfg', cfg.feeBufferBps ≤ cfg'.feeBufferBps →
        cfg.feeBufferFloorSats ≤ cfg'.feeBufferFloorSats →
        ∀ est, bufferEstimate env lspPubkey channels cfg = .ok est →
          ∃ est', bufferEstimate env lspPubkey channels cfg' = .ok est' ∧
            est'.amountMsat ≤ est.amountMsat := by
  refine ⟨bufferExact env hsum cfg, fun channels' hp => ?_, fun channels' hu => ?_,
    fun channels' hg est' he' => amount_mono env hg hsum he',
    fun cfg' hbps hfloor est he => amount_anti env hsum hbps hfloor he⟩
  · exact bufferEstimate_congr env (hp.symm.filter _) cfg
  · exact bufferEstimate_congr env (by rw [hu]) cfg

/-- Two channels of 60 000 and 40 000 sat, and one with another peer. -/
theorem buffer_estimate_exact_sample :
    BufferExact sampleEstimateEnv sampleLsp
      [⟨sampleLsp, true, 60000000⟩, ⟨⟨.replicate 33 0x03⟩, true, 5000000⟩,
        ⟨sampleLsp, true, 40000000⟩] .default :=
  (buffer_estimate_exact sampleEstimateEnv sampleLsp _ .default (by decide)).1

/-! ## Room for the route -/

theorem estimateFromRoute_budget (b : UInt64) (route : Route) (cfg : MaxSendableConfig) :
    (estimateFromRoute b route cfg).feeBudgetMsat.toNat = routeReserve cfg route := by
  show (mulDivTrunc _ _ _).toNat = _
  rw [toNat_mulDivTrunc, toNat_wrappingSum, List.map_map]
  rfl

/-- Where something is left to send, it is the balance less the fee budget, and
the fees of the route it was priced on fit beside it. -/
def LeavesRoom (est : MaxSendableEstimate) (route : Route) : Prop :=
  0 < est.amountMsat →
    est.amountMsat.toNat + routeFees route ≤ est.balanceAtComputeMsat.toNat ∧
      est.amountMsat.toNat = est.balanceAtComputeMsat.toNat - est.feeBudgetMsat.toNat

theorem routeReserve_eq {route : Route} (hfit : routeFees route < 2 ^ 64)
    (cfg : MaxSendableConfig) :
    routeReserve cfg route =
      routeFees route * cfg.routeRetryFeeMultiplierBps.toNat / 10000 % 2 ^ 64 := by
  show routeFees route % 2 ^ 64 * _ / 10000 % 2 ^ 64 = _
  rw [Nat.mod_eq_of_lt hfit]

/-- There is room for the route exactly when its fees are within the budget. -/
theorem leavesRoom_iff_le (b : UInt64) (route : Route) (cfg : MaxSendableConfig) :
    LeavesRoom (estimateFromRoute b route cfg) route ↔
      b.toNat ≤ routeReserve cfg route ∨ routeFees route ≤ routeReserve cfg route := by
  have hamount := estimateFromRoute_amount b route cfg
  have hbudget := estimateFromRoute_budget b route cfg
  have hbalance : (estimateFromRoute b route cfg).balanceAtComputeMsat = b := rfl
  rw [LeavesRoom, UInt64.lt_iff_toNat_lt, UInt64.toNat_zero, hamount, hbudget, hbalance]
  omega

/-- The route is free, nothing of the balance is left, or the multiplier is at
least one and the scaled fees, cut to 64 bits, are no less than the fees: they
are where nothing is cut off. -/
def Covered (balance fees multiplier : Nat) : Prop :=
  fees = 0 ∨ balance ≤ fees * multiplier / 10000 % 2 ^ 64 ∨
    10000 ≤ multiplier ∧
      (fees * multiplier / 10000 < 2 ^ 64 ∨ fees ≤ fees * multiplier / 10000 % 2 ^ 64)

/-- The estimate from a route leaves room for it exactly when the multiplier of
the configuration covers its fees. -/
theorem leaves_room_iff (b : UInt64) (route : Route) (toml : Option MaxSendableSection)
    (hfit : routeFees route < 2 ^ 64) :
    LeavesRoom (estimateFromRoute b route (loadMaxSendable toml)) route ↔
      Covered b.toNat (routeFees route)
        (loadMaxSendable toml).routeRetryFeeMultiplierBps.toNat := by
  rw [leavesRoom_iff_le, routeReserve_eq hfit, Covered]
  generalize (loadMaxSendable toml).routeRetryFeeMultiplierBps.toNat = multiplier
  have hshare : routeFees route ≤ routeFees route * multiplier / 10000 ↔
      routeFees route = 0 ∨ 10000 ≤ multiplier := le_mulDiv_iff (by decide)
  generalize routeFees route * multiplier / 10000 = scaled at *
  have hcut : scaled % 2 ^ 64 ≤ scaled := Nat.mod_le _ _
  have hkept : scaled < 2 ^ 64 → scaled % 2 ^ 64 = scaled := Nat.mod_eq_of_lt
  omega

/-- A path that costs 3 sat. -/
def sampleRoute : Route := ⟨[⟨[1000, 2000, 9000000], false⟩]⟩

/-- At 1.1x, 3.3 sat are held back for it. -/
theorem leaves_room_sample :
    LeavesRoom (estimateFromRoute 10000000 sampleRoute (loadMaxSendable none)) sampleRoute :=
  (leaves_room_iff 10000000 sampleRoute none (by decide)).2
    (.inr (.inr ⟨by decide, .inl (by decide)⟩))

/-- At 0.5x, which a configuration can ask for, only 1.5 sat are. -/
theorem half_budget_leaves_no_room :
    ¬ LeavesRoom (estimateFromRoute 10000000 sampleRoute
      (loadMaxSendable (some ⟨none, none, some 5000⟩))) sampleRoute := by
  rw [leavesRoom_iff_le]
  decide

end Mdkd.Proof.MaxSendable
