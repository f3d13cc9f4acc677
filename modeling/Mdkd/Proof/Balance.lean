import Mathlib.Algebra.Order.BigOperators.Group.List
import Mathlib.Algebra.Order.Group.Nat
import Mdkd.Impl.Balance
import Mdkd.Proof.MaxSendable

/-!
# The two figures of `GET /getbalance`

The balance adds up whole satoshis over all channels; the estimate adds up
millisatoshis over the usable channels with the LSP, takes the buffer off and
then rounds. `coherent_iff` says when the two agree: a positive balance comes
with an estimate, and no estimate exceeds the balance.
-/

namespace Mdkd.Proof.Balance

open Framework Mdkd.Balance Mdkd.MaxSendable Proof.MaxSendable

/-- The channels the estimate counts. -/
def usableLsp (lspPubkey : PublicKey) (channels : List ChannelDetails) : List ChannelDetails :=
  channels.filter fun c => c.counterpartyNodeId = lspPubkey ∧ c.isUsable

/-- The capacities of channels in whole satoshis, added up without bound. -/
def wholeSats (channels : List ChannelDetails) : Nat :=
  (channels.map fun c => c.outboundCapacityMsat.toNat / 1000).sum

/-- The limits of channels, added up and cut off. -/
def limits (channels : List ChannelDetails) : Nat :=
  min (channels.map fun c => c.nextOutboundHtlcLimitMsat.toNat).sum (2 ^ 64 - 1)

/-- A positive balance comes with an estimate, and no estimate exceeds the
balance. -/
structure Coherent (r : GetBalanceResponse) : Prop where
  shown : 0 < r.balanceSat → r.maxWithdrawableSat.isSome
  le : ∀ m, r.maxWithdrawableSat = some m → m ≤ r.balanceSat

theorem limits_lt (channels : List ChannelDetails) : limits channels < 2 ^ 64 := by
  rw [limits]
  omega

theorem usableWith_ofDetails (lspPubkey : PublicKey) (channels : List ChannelDetails) :
    usableWith lspPubkey (channels.map .ofDetails) =
      (usableLsp lspPubkey channels).map .ofDetails := by
  rw [usableWith, List.filter_map]
  rfl

theorem limitSum_ofDetails (channels : List ChannelDetails) :
    min (limitSum (channels.map .ofDetails)) (2 ^ 64 - 1) = limits channels := by
  rw [limitSum, List.map_map]
  rfl

/-- The balance is the sum of whole satoshis, modulo `2⁶⁴`. -/
theorem balanceSat_handleGetBalance (env : EstimateEnv) (onchain : UInt64)
    (channels channels' : List ChannelDetails) (lspPubkey : PublicKey) (cfg : MaxSendableConfig) :
    (handleGetBalance env onchain channels channels' lspPubkey cfg).balanceSat.toNat =
      wholeSats channels % 2 ^ 64 := by
  have h1000 : (1000 : UInt64).toNat = 1000 := rfl
  show (wrappingSum _).toNat = _
  rw [toNat_wrappingSum, List.map_map, wholeSats]
  simp only [Function.comp_def, UInt64.toNat_div, h1000]

/-- The estimate is there when a channel is usable, and it is the limits less
the buffer, in whole satoshis. -/
theorem maxWithdrawableSat_eq_some {env : EstimateEnv} {onchain : UInt64}
    {channels channels' : List ChannelDetails} {lspPubkey : PublicKey} {cfg : MaxSendableConfig}
    {m : UInt64} :
    (handleGetBalance env onchain channels channels' lspPubkey cfg).maxWithdrawableSat = some m ↔
      usableLsp lspPubkey channels' ≠ [] ∧
        m.toNat = (limits (usableLsp lspPubkey channels') -
          bufferReserve cfg (limits (usableLsp lspPubkey channels'))) / 1000 := by
  have h1000 : (1000 : UInt64).toNat = 1000 := rfl
  have hmatch : (handleGetBalance env onchain channels channels' lspPubkey cfg).maxWithdrawableSat =
      some m ↔ ∃ est, (maxSendable env none channels' lspPubkey cfg).result = .ok est ∧
        m = est.amountMsat / 1000 := by
    unfold handleGetBalance
    dsimp only
    cases (maxSendable env none channels' lspPubkey cfg).result <;> simp [eq_comm]
  rw [hmatch]
  simp only [maxSendable, computeEstimate_none_eq_ok, sumOutboundBalance_eq_ok,
    usableWith_ofDetails, limitSum_ofDetails, ne_eq, List.map_eq_nil_iff]
  constructor
  · intro h
    obtain ⟨est, ⟨b, ⟨hne, hb⟩, rfl⟩, rfl⟩ := h
    refine ⟨hne, ?_⟩
    rw [UInt64.toNat_div, subtractFeeBuffer_amount, hb, h1000]
  · intro h
    obtain ⟨hne, hm⟩ := h
    have hb : (UInt64.ofNat (limits (usableLsp lspPubkey channels'))).toNat =
        limits (usableLsp lspPubkey channels') :=
      UInt64.toNat_ofNat_of_lt' (limits_lt _)
    refine ⟨_, ⟨_, ⟨hne, hb⟩, rfl⟩, UInt64.toNat_inj.1 ?_⟩
    rw [UInt64.toNat_div, subtractFeeBuffer_amount, hb, h1000, hm]

theorem maxWithdrawableSat_isSome (env : EstimateEnv) (onchain : UInt64)
    (channels channels' : List ChannelDetails) (lspPubkey : PublicKey) (cfg : MaxSendableConfig) :
    (handleGetBalance env onchain channels channels' lspPubkey cfg).maxWithdrawableSat.isSome ↔
      usableLsp lspPubkey channels' ≠ [] := by
  rw [Option.isSome_iff_exists]
  simp only [maxWithdrawableSat_eq_some]
  refine ⟨fun ⟨_, hne, _⟩ => hne, fun hne => ⟨.ofNat _, hne, UInt64.toNat_ofNat_of_lt' ?_⟩⟩
  have := limits_lt (usableLsp lspPubkey channels')
  show _ < 2 ^ 64
  omega

/-- The two figures are coherent exactly when, without a usable channel with
the LSP, no whole satoshi is counted, and with one, their limits exceed the
buffer and the whole satoshis by less than one satoshi. -/
theorem coherent_iff (env : EstimateEnv) (onchain : UInt64) (channels : List ChannelDetails)
    (lspPubkey : PublicKey) (cfg : MaxSendableConfig) :
    Coherent (handleGetBalance env onchain channels channels lspPubkey cfg) ↔
      (usableLsp lspPubkey channels = [] → wholeSats channels % 2 ^ 64 = 0) ∧
      (usableLsp lspPubkey channels ≠ [] →
        limits (usableLsp lspPubkey channels) <
          bufferReserve cfg (limits (usableLsp lspPubkey channels)) +
            1000 * (wholeSats channels % 2 ^ 64 + 1)) := by
  have hbal := balanceSat_handleGetBalance env onchain channels channels lspPubkey cfg
  refine ⟨fun h => ⟨fun he => ?_, fun hne => ?_⟩, fun h => ⟨fun hpos => ?_, fun m hm => ?_⟩⟩
  · by_contra hpos
    have hshown : 0 < (handleGetBalance env onchain channels channels lspPubkey cfg).balanceSat :=
      UInt64.lt_iff_toNat_lt.2 (by rw [hbal, UInt64.toNat_zero]; omega)
    exact (maxWithdrawableSat_isSome ..).1 (h.shown hshown) he
  · obtain ⟨m, hm⟩ := Option.isSome_iff_exists.1
      ((maxWithdrawableSat_isSome env onchain channels channels lspPubkey cfg).2 hne)
    have hle := UInt64.le_iff_toNat_le.1 (h.le m hm)
    rw [(maxWithdrawableSat_eq_some.1 hm).2, hbal] at hle
    omega
  · refine (maxWithdrawableSat_isSome ..).2 fun he => ?_
    have hpos' := UInt64.lt_iff_toNat_lt.1 hpos
    rw [hbal, UInt64.toNat_zero] at hpos'
    have := h.1 he
    omega
  · obtain ⟨hne, hn⟩ := maxWithdrawableSat_eq_some.1 hm
    have := h.2 hne
    rw [UInt64.le_iff_toNat_le, hn, hbal]
    omega

/-- Two channels with the LSP, of 1.999 sat each. -/
def smallChannels : List ChannelDetails :=
  [1, 2].map fun n =>
    { userChannelId := ⟨n⟩
      channelId := "channel"
      counterpartyNodeId := sampleLsp
      fundingTxo := none
      channelValueSats := 10000
      outboundCapacityMsat := 1999
      nextOutboundHtlcLimitMsat := 1999
      isUsable := true }

/-- A channel of 100 000 sat with the LSP, in the middle of a splice. -/
def splicingChannel : ChannelDetails where
  userChannelId := ⟨1⟩
  channelId := "channel"
  counterpartyNodeId := sampleLsp
  fundingTxo := none
  channelValueSats := 150000
  outboundCapacityMsat := 100000000
  nextOutboundHtlcLimitMsat := 100000000
  isUsable := false

/-- While its one channel is not usable, the balance is 100 000 sat without an
estimate; of the two small ones it is 2 sat, and without a buffer the estimate
is 3 sat. -/
theorem incoherent_balances :
    ¬ Coherent (handleGetBalance sampleEstimateEnv 0 [splicingChannel] [splicingChannel] sampleLsp
        (loadMaxSendable none)) ∧
      ¬ Coherent (handleGetBalance sampleEstimateEnv 0 smallChannels smallChannels sampleLsp
        (loadMaxSendable (some ⟨some 0, some 0, none⟩))) := by
  refine ⟨fun h => ?_, fun h => ?_⟩
  · have hnone : (handleGetBalance sampleEstimateEnv 0 [splicingChannel] [splicingChannel]
        sampleLsp (loadMaxSendable none)).maxWithdrawableSat = none := by decide
    have hshown := h.shown (by decide)
    rw [hnone] at hshown
    exact absurd hshown (by decide)
  · have hthree : (handleGetBalance sampleEstimateEnv 0 smallChannels smallChannels sampleLsp
        (loadMaxSendable (some ⟨some 0, some 0, none⟩))).maxWithdrawableSat = some 3 := by decide
    exact absurd (h.le 3 hthree) (by decide)

/-- Where no limit exceeds the capacity, the estimate does not exceed the
balance if the buffer holds back a satoshi for each channel after the first. -/
theorem maxWithdrawableSat_le_balanceSat {env : EstimateEnv} {onchain : UInt64}
    {channels : List ChannelDetails} {lspPubkey : PublicKey} {cfg : MaxSendableConfig}
    (hcap : ∀ c ∈ channels, c.nextOutboundHtlcLimitMsat ≤ c.outboundCapacityMsat)
    (hfit : wholeSats channels < 2 ^ 64)
    (hfew : 1000 * (usableLsp lspPubkey channels).length ≤
      bufferReserve cfg (limits (usableLsp lspPubkey channels)) + 1000) {m : UInt64}
    (hm : (handleGetBalance env onchain channels channels lspPubkey cfg).maxWithdrawableSat =
      some m) :
    m ≤ (handleGetBalance env onchain channels channels lspPubkey cfg).balanceSat := by
  have hsub : (usableLsp lspPubkey channels).Sublist channels := List.filter_sublist
  have hwhole : wholeSats (usableLsp lspPubkey channels) ≤ wholeSats channels :=
    (hsub.map _).sum_le_sum fun _ _ => Nat.zero_le _
  have hlimits : ((usableLsp lspPubkey channels).map (·.nextOutboundHtlcLimitMsat.toNat)).sum ≤
      ((usableLsp lspPubkey channels).map (·.outboundCapacityMsat.toNat)).sum :=
    List.sum_le_sum fun c hc => UInt64.le_iff_toNat_le.1 (hcap c (hsub.subset hc))
  have hfloors := sum_le_floors ((usableLsp lspPubkey channels).map (·.outboundCapacityMsat.toNat))
    (by decide : 0 < 1000)
  rw [List.map_map, List.length_map] at hfloors
  have hle : limits (usableLsp lspPubkey channels) ≤
      1000 * wholeSats channels + 999 * (usableLsp lspPubkey channels).length := by
    calc limits (usableLsp lspPubkey channels)
        ≤ ((usableLsp lspPubkey channels).map (·.nextOutboundHtlcLimitMsat.toNat)).sum :=
          Nat.min_le_left _ _
      _ ≤ ((usableLsp lspPubkey channels).map (·.outboundCapacityMsat.toNat)).sum := hlimits
      _ ≤ 1000 * wholeSats (usableLsp lspPubkey channels) +
            999 * (usableLsp lspPubkey channels).length := hfloors
      _ ≤ 1000 * wholeSats channels + 999 * (usableLsp lspPubkey channels).length := by omega
  obtain ⟨hne, hn⟩ := maxWithdrawableSat_eq_some.1 hm
  rw [UInt64.le_iff_toNat_le, hn, balanceSat_handleGetBalance, Nat.mod_eq_of_lt hfit]
  omega

end Mdkd.Proof.Balance
