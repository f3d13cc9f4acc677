import Mathlib.Order.Monotone.Defs
import Mdkd.Proof.MaxSendable

/-!
# The probe behind a route estimate

The estimate for a BOLT11 destination asks the router once, for the whole
balance. `RoutesWithin` is a router whose first hops hold no more than a
capacity: it knows a route for a value exactly when the value fits in there
together with its fees. At the full balance nothing is left for the fees, so
`estimate_found_iff`: the probe succeeds exactly when that route is free.
-/

namespace Mdkd.Proof.MaxSendable

open Framework Mdkd.MaxSendable

/-- The estimate for an invoice without an amount is the one from the route the
router knows for the balance. -/
theorem computeEstimate_bolt11 {env : EstimateEnv} {inst : ConfigurableAmount} {text : String}
    {invoice : Bolt11Invoice} {channels : List ChannelSnapshot} {lspPubkey : PublicKey} {b : UInt64}
    (hfirst : inst.methods.find? isLightning = some (.resolved (.lightningBolt11 text)))
    (hparse : env.bolt11FromStr text = .ok invoice)
    (hsum : sumOutboundBalance channels lspPubkey = .ok b) (cfg : MaxSendableConfig) :
    (computeEstimate env (some (.configurableAmount inst)) channels lspPubkey cfg).result =
      ((env.findRoute ⟨⟨invoice⟩, b⟩).mapError .routingFailure).map
        fun route => estimateFromRoute b route cfg := by
  have hpick : (pickStrategy env inst b).result = .ok (.fromRoute ⟨invoice⟩) := by
    rw [pickStrategy_eq, hfirst, Option.elim_some, strategyFor, Act.result_lift, bolt11ToStrategy,
      hparse]
  rw [computeEstimate, Act.result_bind_of_ok hsum, Act.result_bind_of_ok hpick, estimateBy,
    estimateViaPaymentParams]
  cases hr : env.findRoute ⟨⟨invoice⟩, b⟩ with
  | error e => rfl
  | ok route => rfl

/-- The fees of a route, added up without bound. -/
def routeFees (route : Route) : Nat := (route.paths.map fun p => p.feeMsat.toNat).sum

theorem routeReserve_le (cfg : MaxSendableConfig) (route : Route) :
    routeReserve cfg route ≤ routeFees route * cfg.routeRetryFeeMultiplierBps.toNat / 10000 :=
  le_trans (Nat.mod_le _ _) (Nat.div_le_div_right (Nat.mul_le_mul_right _ (Nat.mod_le _ _)))

/-- The router knows a route to the payee of an invoice for every value that
fits with its fees in `capacity`, at these fees, and no other. Larger values
are not cheaper. -/
structure RoutesWithin (env : EstimateEnv) (invoice : Bolt11Invoice) (fee : Nat → Nat)
    (capacity : Nat) : Prop where
  mono : Monotone fee
  route : ∀ v : UInt64, v.toNat + fee v.toNat ≤ capacity →
    ∃ r, env.findRoute ⟨⟨invoice⟩, v⟩ = .ok r ∧ routeFees r = fee v.toNat
  noRoute : ∀ v : UInt64, capacity < v.toNat + fee v.toNat →
    ∃ e, env.findRoute ⟨⟨invoice⟩, v⟩ = .error e

/-- Some amount is routable, with room for the fee budget the configuration asks for. -/
def Sendable (cfg : MaxSendableConfig) (fee : Nat → Nat) (capacity : Nat) : Prop :=
  ∃ v, 0 < v ∧ v + fee v ≤ capacity ∧
    v + fee v * cfg.routeRetryFeeMultiplierBps.toNat / 10000 ≤ capacity

/-- Where some amount can be sent, the estimator finds one exactly when the
route for the whole balance costs nothing. -/
theorem estimate_found_iff (env : EstimateEnv) (inst : ConfigurableAmount) (text : String)
    (invoice : Bolt11Invoice) (fee : Nat → Nat) (b : UInt64) (channels : List ChannelSnapshot)
    (lspPubkey : PublicKey) (cfg : MaxSendableConfig)
    (hfirst : inst.methods.find? isLightning = some (.resolved (.lightningBolt11 text)))
    (hparse : env.bolt11FromStr text = .ok invoice)
    (hsum : sumOutboundBalance channels lspPubkey = .ok b)
    (hrouter : RoutesWithin env invoice fee b.toNat) (hsend : Sendable cfg fee b.toNat) :
    (∃ est, (computeEstimate env (some (.configurableAmount inst)) channels lspPubkey cfg).result =
        .ok est ∧ 0 < est.amountMsat) ↔ fee b.toNat = 0 := by
  rw [computeEstimate_bolt11 hfirst hparse hsum]
  constructor
  · rintro ⟨est, he, -⟩
    by_contra hne
    obtain ⟨e, hn⟩ := hrouter.noRoute b (by omega)
    rw [hn] at he
    cases he
  · intro hfree
    obtain ⟨v, hpos, hv, -⟩ := hsend
    obtain ⟨route, hr, hf⟩ := hrouter.route b (by omega)
    refine ⟨estimateFromRoute b route cfg, by rw [hr]; rfl, ?_⟩
    have hle := routeReserve_le cfg route
    rw [hf, hfree, Nat.zero_mul, Nat.zero_div] at hle
    rw [UInt64.lt_iff_toNat_lt, estimateFromRoute_amount, UInt64.toNat_zero]
    omega

/-- A router that knows one path, at a flat fee, through a channel that holds
`capacity`. -/
def flatFeeEnv (fee capacity : UInt64) : EstimateEnv :=
  { sampleEstimateEnv with
    findRoute := fun params =>
      if params.finalValueMsat.toNat + fee.toNat ≤ capacity.toNat then
        .ok ⟨[⟨[fee, params.finalValueMsat], false⟩]⟩
      else .error "Failed to find a path to the given destination" }

theorem routesWithin_flatFeeEnv (fee capacity : UInt64) (invoice : Bolt11Invoice) :
    RoutesWithin (flatFeeEnv fee capacity) invoice (fun _ => fee.toNat) capacity.toNat where
  mono := monotone_const
  route v hv := by
    refine ⟨_, if_pos hv, ?_⟩
    show (wrappingSum [fee]).toNat + 0 = fee.toNat
    rw [toNat_wrappingSum]
    have := fee.toNat_lt
    show (fee.toNat + 0) % 2 ^ 64 + 0 = fee.toNat
    omega
  noRoute v hv := ⟨_, if_neg (Nat.not_le.2 hv)⟩

/-- The estimate over a free path is the balance. -/
theorem estimate_found_sample :
    ∃ est, (computeEstimate (flatFeeEnv 0 100000000)
        (some (.configurableAmount ⟨[.resolved (.lightningBolt11 Pay.sampleText)]⟩))
        [⟨sampleLsp, true, 100000000⟩] sampleLsp .default).result = .ok est ∧
      0 < est.amountMsat :=
  (estimate_found_iff _ _ Pay.sampleText Pay.sampleInvoice (fun _ => 0) 100000000 _ _ _ rfl
    (by simp only [flatFeeEnv, sampleEstimateEnv, ↓reduceIte]) (by decide)
    (routesWithin_flatFeeEnv 0 100000000 _) ⟨100000000, by decide, by decide, by decide⟩).2 rfl

/-- With a fee of 1 sat and a balance of 100 000 sat, 99 990 sat can be sent
and the estimator finds nothing. -/
theorem estimate_not_found :
    RoutesWithin (flatFeeEnv 1000 100000000) Pay.sampleInvoice (fun _ => 1000) 100000000 ∧
      Sendable .default (fun _ => 1000) 100000000 ∧
      (computeEstimate (flatFeeEnv 1000 100000000)
          (some (.configurableAmount ⟨[.resolved (.lightningBolt11 Pay.sampleText)]⟩))
          [⟨sampleLsp, true, 100000000⟩] sampleLsp .default).result =
        .error (.routingFailure "Failed to find a path to the given destination") := by
  refine ⟨routesWithin_flatFeeEnv 1000 100000000 _, ⟨99990000, by decide, by decide, by decide⟩, ?_⟩
  have hp : (flatFeeEnv 1000 100000000).bolt11FromStr Pay.sampleText = .ok Pay.sampleInvoice := by
    simp only [flatFeeEnv, sampleEstimateEnv, ↓reduceIte]
  have hsum : sumOutboundBalance [⟨sampleLsp, true, 100000000⟩] sampleLsp = .ok 100000000 := by
    decide
  have hn : ¬ (100000000 : UInt64).toNat + (1000 : UInt64).toNat ≤
      (100000000 : UInt64).toNat := by decide
  have hr : (flatFeeEnv 1000 100000000).findRoute ⟨⟨Pay.sampleInvoice⟩, 100000000⟩ =
      .error "Failed to find a path to the given destination" := by
    simp only [flatFeeEnv, hn, ↓reduceIte]
  rw [computeEstimate_bolt11 rfl hp hsum, hr]
  rfl

end Mdkd.Proof.MaxSendable
