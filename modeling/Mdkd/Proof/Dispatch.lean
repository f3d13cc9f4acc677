import Mathlib.Logic.Relation
import Mdkd.Proof.Probe

/-!
# What decides an estimate

An estimate for a configurable destination is decided by its first Lightning
method, `firstLightning`. It asks the resolver at most once, before the router,
and the router at most once (`calls_computeEstimate`). `first_method_decides`
puts this together with what the result does not depend on; `classified_iff`
says when the errors tell a destination without a Lightning method from one
with a fixed amount.
-/

namespace Mdkd.Proof.MaxSendable

open Framework Mdkd.MaxSendable

/-- The method that prices a destination. -/
def firstLightning (inst : ConfigurableAmount) : Option PossiblyResolvedPaymentMethod :=
  inst.methods.find? isLightning

/-! ## Calls -/

/-- No call, or one to the resolver: for an LNURL endpoint that takes the
balance, and for as much of it as the endpoint takes. -/
def AsksResolver (env : EstimateEnv) (inst : ConfigurableAmount) (b : UInt64)
    (calls : List EstimateCall) : Prop :=
  calls = [] ∨ ∃ minValue maxValue amount,
    firstLightning inst = some (.lnurlPay minValue maxValue) ∧ minValue ≤ b ∧
      env.fromMilliSats (min b maxValue) = some amount ∧ calls = [.setAmount inst amount]

/-- An invoice that prices the destination: its own, or the one its endpoint
answered with. -/
def Invoiced (env : EstimateEnv) (inst : ConfigurableAmount) (b : UInt64)
    (invoice : Bolt11Invoice) : Prop :=
  ∃ text, env.bolt11FromStr text = .ok invoice ∧
    (firstLightning inst = some (.resolved (.lightningBolt11 text)) ∨
      ∃ minValue maxValue, firstLightning inst = some (.lnurlPay minValue maxValue) ∧
        Fetched env inst b minValue maxValue text)

/-- No call, or one to the router: for the balance, to the payee of such an
invoice. -/
def AsksRouter (env : EstimateEnv) (inst : ConfigurableAmount) (b : UInt64)
    (calls : List EstimateCall) : Prop :=
  calls = [] ∨ ∃ invoice, Invoiced env inst b invoice ∧ calls = [.findRoute ⟨⟨invoice⟩, b⟩]

variable {env : EstimateEnv} {inst : ConfigurableAmount} {b : UInt64}

theorem pickStrategy_first (env : EstimateEnv) (inst : ConfigurableAmount) (b : UInt64) :
    pickStrategy env inst b =
      (firstLightning inst).elim (.lift (.error .noLightningMethod)) (strategyFor env inst b) :=
  pickStrategy_eq env inst b

theorem calls_resolveLnurlStrategy {minValue maxValue : UInt64} :
    (resolveLnurlStrategy env inst b minValue maxValue).Holds fun _ calls =>
      calls = [] ∨ ∃ amount, minValue ≤ b ∧ env.fromMilliSats (min b maxValue) = some amount ∧
        calls = [.setAmount inst amount] := by
  unfold resolveLnurlStrategy
  by_cases hmin : b < minValue
  · rw [if_pos hmin]
    exact .inl rfl
  · have hle : minValue ≤ b := UInt64.not_lt.1 hmin
    rw [if_neg hmin]
    refine Act.holds_lift.2 ⟨fun e _ => .inl rfl, fun amount ha => ?_⟩
    have hamount := targetAmount_eq_ok.1 ha
    -- The call is made by now; what follows makes none.
    refine Act.holds_call.2 ⟨fun e _ => .inr ⟨amount, hle, hamount, rfl⟩, fun fixed _ => ?_⟩
    refine Act.holds_lift.2 ⟨fun e _ => .inr ⟨amount, hle, hamount, rfl⟩, fun text _ => ?_⟩
    exact Act.holds_pure.2 (.inr ⟨amount, hle, hamount, rfl⟩)

theorem calls_pickStrategy : AsksResolver env inst b (pickStrategy env inst b).calls := by
  rw [pickStrategy_first]
  cases hf : firstLightning inst with
  | none => exact .inl rfl
  | some m =>
    rw [Option.elim_some]
    cases m with
    | resolved method => cases method <;> exact .inl rfl
    | lnurlPay minValue maxValue =>
      rcases @calls_resolveLnurlStrategy env inst b minValue maxValue with h | h
      · exact .inl h
      · obtain ⟨amount, hle, ha, h⟩ := h
        exact .inr ⟨minValue, maxValue, amount, hf, hle, ha, h⟩

theorem bolt11ToStrategy_eq_fromRoute {text : String} {params : PaymentParameters} :
    bolt11ToStrategy env text = .fromRoute params ↔
      env.bolt11FromStr text = .ok params.fromBolt11Invoice := by
  unfold bolt11ToStrategy
  obtain ⟨invoice⟩ := params
  cases env.bolt11FromStr text <;> simp

/-- A route is asked for to the payee of an invoice that prices the destination. -/
theorem invoiced_of_pickStrategy {params : PaymentParameters}
    (h : (pickStrategy env inst b).result = .ok (.fromRoute params)) :
    Invoiced env inst b params.fromBolt11Invoice := by
  rw [pickStrategy_first] at h
  cases hf : firstLightning inst with
  | none =>
    rw [hf] at h
    cases h
  | some m =>
    rw [hf, Option.elim_some] at h
    cases m with
    | resolved method =>
      cases method with
      | lightningBolt11 text =>
        have hs := bolt11ToStrategy_eq_fromRoute.1 (Except.ok.inj h)
        exact ⟨text, hs, .inl hf⟩
      | lightningBolt12 offer => cases Except.ok.inj h
      | onChain address => cases Except.ok.inj h
    | lnurlPay minValue maxValue =>
      obtain ⟨text, hfetched, hs⟩ := resolveLnurlStrategy_eq_ok.1 h
      exact ⟨text, bolt11ToStrategy_eq_fromRoute.1 hs.symm, .inr ⟨minValue, maxValue, hf, hfetched⟩⟩

theorem calls_estimateBy (cfg : MaxSendableConfig) (s : EstimationStrategy) :
    (estimateBy env b cfg s).calls = [] ∨
      ∃ params, s = .fromRoute params ∧
        (estimateBy env b cfg s).calls = [.findRoute ⟨params, b⟩] := by
  cases s with
  | buffer => exact .inl rfl
  | fromRoute params =>
    have h : (estimateBy env b cfg (.fromRoute params)).Holds fun _ calls =>
        calls = [.findRoute ⟨params, b⟩] :=
      Act.holds_call.2 ⟨fun e _ => rfl, fun route _ => Act.holds_pure.2 rfl⟩
    exact .inr ⟨params, rfl, h⟩

/-- The calls an estimate makes, in order. -/
theorem calls_computeEstimate {channels : List ChannelSnapshot} {lspPubkey : PublicKey}
    (hb : sumOutboundBalance channels lspPubkey = .ok b) (cfg : MaxSendableConfig) :
    (computeEstimate env (some (.configurableAmount inst)) channels lspPubkey cfg).Holds
      fun _ calls => ∃ resolver router, calls = resolver ++ router ∧
        AsksResolver env inst b resolver ∧ AsksRouter env inst b router := by
  unfold computeEstimate
  refine Act.holds_lift.2 ⟨fun e he => ?_, fun b' hb' => ?_⟩
  · exact absurd (hb.symm.trans he) nofun
  obtain rfl := Except.ok.inj (hb.symm.trans hb')
  refine Act.holds_bind.2 ⟨fun e _ => ?_, fun s hs => ?_⟩
  · exact ⟨_, [], (List.append_nil _).symm, calls_pickStrategy, .inl rfl⟩
  · refine ⟨_, (estimateBy env b cfg s).calls, rfl, calls_pickStrategy, ?_⟩
    rcases @calls_estimateBy env b cfg s with h | ⟨params, rfl, h⟩
    · exact .inl h
    · exact .inr ⟨_, invoiced_of_pickStrategy hs, h⟩

/-- Without a usable channel nothing is asked, whatever the destination. -/
theorem computeEstimate_of_unusable (env : EstimateEnv) {channels : List ChannelSnapshot}
    {lspPubkey : PublicKey} (hu : usableWith lspPubkey channels = [])
    (dest : Option PaymentInstructions) (cfg : MaxSendableConfig) :
    computeEstimate env dest channels lspPubkey cfg = ⟨.error .noUsableChannel, []⟩ := by
  have hs := sumOutboundBalance_eq_error.2 ⟨hu, rfl⟩
  rw [computeEstimate, hs]
  rfl

/-! ## Methods that do not matter -/

/-- An on-chain method was inserted, or the methods after a Lightning one were
changed. -/
inductive Revised : List PossiblyResolvedPaymentMethod → List PossiblyResolvedPaymentMethod →
    Prop where
  | inserted (pre post : List PossiblyResolvedPaymentMethod) (address : String) :
      Revised (pre ++ post) (pre ++ .resolved (.onChain address) :: post)
  | changed (pre post post' : List PossiblyResolvedPaymentMethod)
      (m : PossiblyResolvedPaymentMethod) (hm : isLightning m = true) :
      Revised (pre ++ m :: post) (pre ++ m :: post')

theorem Revised.find_eq {ms ms' : List PossiblyResolvedPaymentMethod} (h : Revised ms ms') :
    ms.find? isLightning = ms'.find? isLightning := by
  cases h with
  | inserted pre post address =>
    rw [List.find?_append, List.find?_append, List.find?_cons]
    rfl
  | changed pre post post' m hm =>
    rw [List.find?_append, List.find?_append, List.find?_cons, List.find?_cons, hm]

/-- However often the methods are revised, the first Lightning one stays. -/
theorem find_eq_of_eqvGen {ms ms' : List PossiblyResolvedPaymentMethod}
    (h : Relation.EqvGen Revised ms ms') : ms.find? isLightning = ms'.find? isLightning := by
  induction h with
  | rel _ _ h => exact h.find_eq
  | refl _ => rfl
  | symm _ _ _ ih => exact ih.symm
  | trans _ _ _ _ _ ih₁ ih₂ => exact ih₁.trans ih₂

/-- Endpoints that give the same answers lead to the same strategy. -/
theorem result_resolveLnurlStrategy_congr {inst' : ConfigurableAmount}
    (hset : ∀ amount, env.setAmount inst' amount = env.setAmount inst amount)
    (minValue maxValue : UInt64) :
    (resolveLnurlStrategy env inst' b minValue maxValue).result =
      (resolveLnurlStrategy env inst b minValue maxValue).result := by
  unfold resolveLnurlStrategy
  by_cases hmin : b < minValue
  · rw [if_pos hmin, if_pos hmin]
  · rw [if_neg hmin, if_neg hmin]
    simp only [Act.result_bind, Act.result_lift, Act.result_call, hset]

/-- Destinations with the same first Lightning method are estimated the same,
as far as an endpoint gives the same answers for both. -/
theorem result_computeEstimate_congr {inst' : ConfigurableAmount}
    (hfirst : firstLightning inst = firstLightning inst')
    (hset : ∀ minValue maxValue, firstLightning inst = some (.lnurlPay minValue maxValue) →
      ∀ amount, env.setAmount inst' amount = env.setAmount inst amount)
    (channels : List ChannelSnapshot) (lspPubkey : PublicKey) (cfg : MaxSendableConfig) :
    (computeEstimate env (some (.configurableAmount inst')) channels lspPubkey cfg).result =
      (computeEstimate env (some (.configurableAmount inst)) channels lspPubkey cfg).result := by
  have hpick : ∀ b, (pickStrategy env inst' b).result = (pickStrategy env inst b).result := by
    intro b
    rw [pickStrategy_first, pickStrategy_first, ← hfirst]
    cases hf : firstLightning inst with
    | none => rfl
    | some m =>
      cases m with
      | resolved method => cases method <;> rfl
      | lnurlPay minValue maxValue =>
        exact result_resolveLnurlStrategy_congr (hset _ _ hf) minValue maxValue
  unfold computeEstimate
  simp only [Act.result_bind, Act.result_lift, hpick]

/-! ## The first method decides -/

def isSetAmount : EstimateCall → Bool
  | .setAmount .. => true
  | .findRoute _ => false

def isFindRoute : EstimateCall → Bool
  | .setAmount .. => false
  | .findRoute _ => true

/-- The estimate for a configurable destination: revising its methods does not
change it, and of the resolver and the router each is asked at most once, and
only where the first Lightning method calls for it. Without a usable channel
there is no estimate for any destination, and neither is asked. -/
structure FirstDecides (env : EstimateEnv) (inst : ConfigurableAmount)
    (channels : List ChannelSnapshot) (lspPubkey : PublicKey) (cfg : MaxSendableConfig) : Prop where
  stable : ∀ inst' : ConfigurableAmount, Relation.EqvGen Revised inst.methods inst'.methods →
    (∀ minValue maxValue, firstLightning inst = some (.lnurlPay minValue maxValue) →
      ∀ amount, env.setAmount inst' amount = env.setAmount inst amount) →
    (computeEstimate env (some (.configurableAmount inst')) channels lspPubkey cfg).result =
      (computeEstimate env (some (.configurableAmount inst)) channels lspPubkey cfg).result
  resolver : ∀ inst' amount, .setAmount inst' amount ∈
      (computeEstimate env (some (.configurableAmount inst)) channels lspPubkey cfg).calls →
    inst' = inst ∧ ∃ b minValue maxValue, sumOutboundBalance channels lspPubkey = .ok b ∧
      firstLightning inst = some (.lnurlPay minValue maxValue) ∧ minValue ≤ b ∧
        amount = min b maxValue
  resolverOnce :
    (computeEstimate env (some (.configurableAmount inst)) channels lspPubkey cfg).calls.countP
      isSetAmount ≤ 1
  router : ∀ params, .findRoute params ∈
      (computeEstimate env (some (.configurableAmount inst)) channels lspPubkey cfg).calls →
    ∃ b, sumOutboundBalance channels lspPubkey = .ok b ∧ params.finalValueMsat = b ∧
      Invoiced env inst b params.paymentParams.fromBolt11Invoice
  routerOnce :
    (computeEstimate env (some (.configurableAmount inst)) channels lspPubkey cfg).calls.countP
      isFindRoute ≤ 1
  unusable : usableWith lspPubkey channels = [] →
    ∀ dest, computeEstimate env dest channels lspPubkey cfg = ⟨.error .noUsableChannel, []⟩

theorem AsksResolver.countP {calls : List EstimateCall} (h : AsksResolver env inst b calls) :
    calls.countP isSetAmount ≤ 1 ∧ calls.countP isFindRoute = 0 := by
  obtain rfl | ⟨_, _, amount, -, -, -, rfl⟩ := h
  · exact ⟨Nat.zero_le 1, rfl⟩
  · exact ⟨Nat.le_refl 1, rfl⟩

theorem AsksRouter.countP {calls : List EstimateCall} (h : AsksRouter env inst b calls) :
    calls.countP isSetAmount = 0 ∧ calls.countP isFindRoute ≤ 1 := by
  obtain rfl | ⟨invoice, -, rfl⟩ := h
  · exact ⟨rfl, Nat.zero_le 1⟩
  · exact ⟨rfl, Nat.le_refl 1⟩

theorem AsksResolver.of_mem {calls : List EstimateCall} (h : AsksResolver env inst b calls)
    {c : EstimateCall} (hc : c ∈ calls) :
    ∃ minValue maxValue amount, firstLightning inst = some (.lnurlPay minValue maxValue) ∧
      minValue ≤ b ∧ env.fromMilliSats (min b maxValue) = some amount ∧
        c = .setAmount inst amount := by
  obtain rfl | ⟨minValue, maxValue, amount, hf, hle, ha, rfl⟩ := h
  · exact absurd hc List.not_mem_nil
  · exact ⟨minValue, maxValue, amount, hf, hle, ha, List.mem_singleton.1 hc⟩

theorem AsksRouter.of_mem {calls : List EstimateCall} (h : AsksRouter env inst b calls)
    {c : EstimateCall} (hc : c ∈ calls) :
    ∃ invoice, Invoiced env inst b invoice ∧ c = .findRoute ⟨⟨invoice⟩, b⟩ := by
  obtain rfl | ⟨invoice, hi, rfl⟩ := h
  · exact absurd hc List.not_mem_nil
  · exact ⟨invoice, hi, List.mem_singleton.1 hc⟩

/-- An estimate for a configurable destination is decided by its first
Lightning method. An amount is taken to keep its millisatoshis. -/
theorem first_method_decides (env : EstimateEnv) (inst : ConfigurableAmount)
    (channels : List ChannelSnapshot) (lspPubkey : PublicKey) (cfg : MaxSendableConfig)
    (hmsat : ∀ msat amount, env.fromMilliSats msat = some amount → amount = msat) :
    FirstDecides env inst channels lspPubkey cfg := by
  have hstable := fun (inst' : ConfigurableAmount)
      (h : Relation.EqvGen Revised inst.methods inst'.methods) =>
    @result_computeEstimate_congr env inst inst' (find_eq_of_eqvGen h)
  cases hb : sumOutboundBalance channels lspPubkey with
  | error e =>
    have hnil := (sumOutboundBalance_eq_error.1 hb).1
    have hnone := computeEstimate_of_unusable env hnil
    exact
      { stable := fun inst' h hset => hstable inst' h hset channels lspPubkey cfg
        resolver := fun inst' amount h => by
          rw [hnone] at h
          cases h
        resolverOnce := by
          rw [hnone]
          exact Nat.zero_le 1
        router := fun params h => by
          rw [hnone] at h
          cases h
        routerOnce := by
          rw [hnone]
          exact Nat.zero_le 1
        unusable := fun _ dest => hnone dest cfg }
  | ok b =>
    obtain ⟨resolver, router, hcalls, hresolver, hrouter⟩ :=
      @calls_computeEstimate env inst b channels lspPubkey hb cfg
    refine
      { stable := fun inst' h hset => hstable inst' h hset channels lspPubkey cfg
        resolver := fun inst' amount h => ?_
        resolverOnce := ?_
        router := fun params h => ?_
        routerOnce := ?_
        unusable := fun hnil => absurd hnil (sumOutboundBalance_eq_ok.1 hb).1 }
    · rw [hcalls, List.mem_append] at h
      rcases h with h | h
      · obtain ⟨minValue, maxValue, amount', hf, hle, ha, hc⟩ := hresolver.of_mem h
        obtain ⟨rfl, rfl⟩ := EstimateCall.setAmount.inj hc
        exact ⟨rfl, b, minValue, maxValue, hb, hf, hle, hmsat _ _ ha⟩
      · obtain ⟨invoice, -, hc⟩ := hrouter.of_mem h
        exact absurd hc nofun
    · rw [hcalls, List.countP_append, hrouter.countP.1]
      exact hresolver.countP.1
    · rw [hcalls, List.mem_append] at h
      rcases h with h | h
      · obtain ⟨minValue, maxValue, amount, -, -, -, hc⟩ := hresolver.of_mem h
        exact absurd hc nofun
      · obtain ⟨invoice, hi, hc⟩ := hrouter.of_mem h
        obtain rfl := EstimateCall.findRoute.inj hc
        exact ⟨b, hb, rfl, hi⟩
    · rw [hcalls, List.countP_append, hresolver.countP.2, Nat.zero_add]
      exact hrouter.countP.2

/-- An LNURL endpoint, tried after an on-chain method. -/
theorem first_method_decides_sample :
    FirstDecides sampleEstimateEnv
      ⟨[.resolved (.onChain "bc1qexample"), .lnurlPay 1000 250000000]⟩
      [⟨sampleLsp, true, 500000000⟩] sampleLsp .default :=
  first_method_decides _ _ _ _ _ fun msat amount h => by
    have hif : (if msat ≤ 2100000000000000000 then some msat else none) = some amount := h
    split at hif
    · exact (Option.some.inj hif).symm
    · cases hif

/-! ## Destinations without a Lightning method -/

/-- Some method of the destination is a Lightning one. -/
def HasLightning : PaymentInstructions → Prop
  | .fixedAmount fixed => ∃ m ∈ fixed.methods, isLightning (.resolved m) = true
  | .configurableAmount inst => ∃ m ∈ inst.methods, isLightning m = true

/-- The errors that tell what kind of destination it is. -/
def isKind : MaxSendableError → Bool
  | .noLightningMethod | .fixedAmount _ => true
  | _ => false

/-- The estimate says that there is no Lightning method exactly where there is
none, and that the amount is fixed only where there is one. -/
structure Classified (env : EstimateEnv) (dest : PaymentInstructions)
    (channels : List ChannelSnapshot) (lspPubkey : PublicKey) (cfg : MaxSendableConfig) : Prop where
  noMethod : (computeEstimate env (some dest) channels lspPubkey cfg).result =
    .error .noLightningMethod ↔ ¬ HasLightning dest
  fixed : ∀ amountMsat, (computeEstimate env (some dest) channels lspPubkey cfg).result =
    .error (.fixedAmount amountMsat) → HasLightning dest

theorem not_isKind_mapError {α : Type} {f : String → MaxSendableError}
    (hf : ∀ msg, isKind (f msg) = false) {r : Except String α} {e : MaxSendableError}
    (h : r.mapError f = .error e) : isKind e = false := by
  cases r with
  | error msg =>
    rw [← Except.error.inj h]
    exact hf msg
  | ok a => cases h

theorem not_isKind_targetAmount {msat : UInt64} {e : MaxSendableError}
    (h : targetAmount env msat = .error e) : isKind e = false := by
  unfold targetAmount at h
  split at h
  · cases h
  · rw [← Except.error.inj h]
    rfl

theorem not_isKind_resolvedBolt11 {fixed : FixedAmount} {e : MaxSendableError}
    (h : resolvedBolt11 fixed = .error e) : isKind e = false := by
  unfold resolvedBolt11 at h
  split at h
  · cases h
  · rw [← Except.error.inj h]
    rfl

/-- Once there is a Lightning method, every error is about that method. -/
theorem not_isKind_strategyFor (m : PossiblyResolvedPaymentMethod) :
    (strategyFor env inst b m).Holds fun r _ => ∀ e, r = .error e → isKind e = false := by
  cases m with
  | resolved method => cases method <;> exact fun e h => absurd h nofun
  | lnurlPay minValue maxValue =>
    show (resolveLnurlStrategy env inst b minValue maxValue).Holds _
    unfold resolveLnurlStrategy
    by_cases hmin : b < minValue
    · rw [if_pos hmin]
      exact fun e h => (Except.error.inj h) ▸ rfl
    · rw [if_neg hmin]
      refine Act.holds_lift.2 ⟨fun e he e' h => ?_, fun amount _ => ?_⟩
      · exact Except.error.inj h ▸ not_isKind_targetAmount he
      refine Act.holds_call.2 ⟨fun e he e' h => ?_, fun fixed _ => ?_⟩
      · exact Except.error.inj h ▸ not_isKind_mapError (fun _ => rfl) he
      refine Act.holds_lift.2 ⟨fun e he e' h => ?_, fun text _ => ?_⟩
      · exact Except.error.inj h ▸ not_isKind_resolvedBolt11 he
      exact Act.holds_pure.2 fun e h => absurd h nofun

theorem not_isKind_estimateBy (cfg : MaxSendableConfig) (s : EstimationStrategy) :
    (estimateBy env b cfg s).Holds fun r _ => ∀ e, r = .error e → isKind e = false := by
  cases s with
  | buffer => exact fun e h => absurd h nofun
  | fromRoute params =>
    refine Act.holds_call.2 ⟨fun e he e' h => ?_, fun route _ => ?_⟩
    · exact Except.error.inj h ▸ not_isKind_mapError (fun _ => rfl) he
    · exact Act.holds_pure.2 fun e h => absurd h nofun

theorem hasLightning_configurable :
    HasLightning (.configurableAmount inst) ↔ firstLightning inst ≠ none := by
  rw [firstLightning, ne_eq, List.find?_eq_none]
  simp only [HasLightning, Bool.not_eq_true, not_forall, Bool.not_eq_false, exists_prop]

variable {channels : List ChannelSnapshot} {lspPubkey : PublicKey}

/-- With a usable channel, a configurable destination is refused for want of a
Lightning method, -/
theorem computeEstimate_of_none (hb : sumOutboundBalance channels lspPubkey = .ok b)
    (hf : firstLightning inst = none) (cfg : MaxSendableConfig) :
    (computeEstimate env (some (.configurableAmount inst)) channels lspPubkey cfg).result =
      .error .noLightningMethod := by
  rw [computeEstimate, Act.result_bind_of_ok hb]
  show (pickStrategy env inst b >>= estimateBy env b cfg).result = _
  rw [pickStrategy_first, hf]
  rfl

/-- or as its first Lightning method has it. -/
theorem computeEstimate_of_some (hb : sumOutboundBalance channels lspPubkey = .ok b)
    (hf : firstLightning inst ≠ none) {cfg : MaxSendableConfig} {e : MaxSendableError}
    (h : (computeEstimate env (some (.configurableAmount inst)) channels lspPubkey cfg).result =
      .error e) : isKind e = false := by
  rw [computeEstimate, Act.result_bind_of_ok hb] at h
  revert h
  show (pickStrategy env inst b >>= estimateBy env b cfg).result = .error e → _
  obtain ⟨m, hm⟩ := Option.ne_none_iff_exists'.1 hf
  rw [pickStrategy_first, hm, Option.elim_some]
  have hall : (strategyFor env inst b m >>= estimateBy env b cfg).Holds fun r _ =>
      ∀ e, r = .error e → isKind e = false :=
    Act.holds_bind.2 ⟨fun e he e' h => Except.error.inj h ▸ not_isKind_strategyFor m e he,
      fun s _ => not_isKind_estimateBy cfg s⟩
  exact hall e

/-- With a usable channel, the errors classify a destination rightly exactly
when it is configurable, or has a fixed amount and a Lightning method: a fixed
amount is reported without a look at the methods. -/
theorem classified_iff (env : EstimateEnv) (dest : PaymentInstructions)
    (channels : List ChannelSnapshot) (lspPubkey : PublicKey) (cfg : MaxSendableConfig)
    (hu : ∃ c ∈ channels, Usable lspPubkey c) :
    Classified env dest channels lspPubkey cfg ↔
      ∀ fixed, dest = .fixedAmount fixed →
        ∃ m ∈ fixed.methods, isLightning (.resolved m) = true := by
  obtain ⟨b, hb⟩ := sumOutboundBalance_isOk.2 hu
  cases dest with
  | fixedAmount fixed =>
    have hr : (computeEstimate env (some (.fixedAmount fixed)) channels lspPubkey cfg).result =
        .error (.fixedAmount (fixed.lnPaymentAmount.getD 0)) := by
      rw [computeEstimate, Act.result_bind_of_ok hb]
      rfl
    constructor
    · intro h fixed' hf
      obtain rfl := PaymentInstructions.fixedAmount.inj hf
      exact h.fixed _ hr
    · intro h
      have hl : HasLightning (.fixedAmount fixed) := h fixed rfl
      refine ⟨?_, fun _ _ => hl⟩
      rw [hr]
      exact ⟨fun he => absurd (Except.error.inj he) (by simp), fun hn => absurd hl hn⟩
  | configurableAmount inst =>
    refine ⟨fun _ fixed hf => absurd hf (by simp), fun _ => ?_⟩
    by_cases hf : firstLightning inst = none
    · have hr := @computeEstimate_of_none env inst b channels lspPubkey hb hf cfg
      have hl : ¬ HasLightning (.configurableAmount inst) := by
        rw [hasLightning_configurable, not_not]
        exact hf
      refine ⟨⟨fun _ => hl, fun _ => hr⟩, fun amountMsat he => ?_⟩
      exact absurd (Except.error.inj (hr.symm.trans he)) (by simp)
    · have hl := hasLightning_configurable.2 hf
      refine ⟨⟨fun he => ?_, fun hn => absurd hl hn⟩, fun amountMsat _ => hl⟩
      exact absurd (computeEstimate_of_some hb hf he) (by decide)

/-- A configurable destination that offers an on-chain and a Lightning method. -/
theorem classified_sample :
    Classified sampleEstimateEnv (.configurableAmount
        ⟨[.resolved (.onChain "bc1qexample"), .resolved (.lightningBolt12 "lno1example")]⟩)
      [⟨sampleLsp, true, 500000000⟩] sampleLsp .default :=
  (classified_iff _ _ _ _ _ ⟨_, List.mem_singleton_self _, rfl, rfl⟩).2 nofun

/-- An on-chain URI that names an amount. -/
def onChainOnly : PaymentInstructions := .fixedAmount ⟨none, [.onChain "bc1qexample"]⟩

/-- It is refused for a fixed amount, of zero. -/
theorem on_chain_only_misclassified :
    (computeEstimate sampleEstimateEnv (some onChainOnly) [⟨sampleLsp, true, 500000000⟩] sampleLsp
        .default).result = .error (.fixedAmount 0) ∧
      ¬ Classified sampleEstimateEnv onChainOnly [⟨sampleLsp, true, 500000000⟩] sampleLsp
        .default := by
  have hr : (computeEstimate sampleEstimateEnv (some onChainOnly) [⟨sampleLsp, true, 500000000⟩]
      sampleLsp .default).result = .error (.fixedAmount 0) := rfl
  refine ⟨hr, fun h => ?_⟩
  obtain ⟨m, hm, hl⟩ := h.fixed 0 hr
  rw [List.mem_singleton.1 hm] at hl
  cases hl

end Mdkd.Proof.MaxSendable
