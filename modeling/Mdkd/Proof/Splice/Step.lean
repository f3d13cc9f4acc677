import Mdkd.Framework.Grace
import Mdkd.Framework.Trace
import Mdkd.Impl.SpliceManager

/-!
# One tick of the splice manager

What each function of a tick can do, for the proofs about runs of ticks:

* `advanceEntry_eq_observe`: advancing an entry is one observation of it in
  the sense of `Framework.observe`;
* `lookup_advanceInFlight`, `keys_advanceInFlight`: advancing changes or drops
  entries, and adds none;
* `largest_spec`: the channel `decide` looks at;
* `outcome_eq_some`: when a tick initiates a splice, on which channel, and
  with which outpoint recorded;
* `tick_of_none`, `tick_of_some`, `lookup_tick`: the map after a tick.
-/

namespace Mdkd.Proof.Splice

open Framework SpliceManager

/-! ## Advancing -/

/-- The snapshot does not list the channel. -/
def Gone (ucid : UserChannelId) (t : Tick) : Prop := findChannel t.candidates ucid = none

/-- The snapshot lists the channel with a funding outpoint other than `f`. -/
def Flipped (ucid : UserChannelId) (f : OutPoint) (t : Tick) : Prop :=
  ∃ c, findChannel t.candidates ucid = some c ∧ c.fundingTxo ≠ some f

instance (ucid : UserChannelId) : DecidablePred (Gone ucid) :=
  fun t => inferInstanceAs (Decidable (findChannel t.candidates ucid = none))

instance (ucid : UserChannelId) (f : OutPoint) : DecidablePred (Flipped ucid f) := fun t =>
  decidable_of_iff ((findChannel t.candidates ucid).any fun c => c.fundingTxo ≠ some f) (by
    cases h : findChannel t.candidates ucid <;> simp [Flipped, h])

/-- Advancing an entry is one observation of its channel; the outpoint it
recorded stays. -/
theorem advanceEntry_eq_observe (u : UserChannelId) (f : OutPoint) (p : Option Nat) (t : Tick) :
    advanceEntry t.candidates t.now u ⟨f, p⟩ =
      (observe (Gone u) (Flipped u f) Tick.now bdkResyncGrace p t).map (⟨f, ·⟩) := by
  unfold advanceEntry observe
  cases h : findChannel t.candidates u with
  | none => simp [Gone, h]
  | some c =>
    have hg : ¬ Gone u t := by simp [Gone, h]
    have hf : Flipped u f t ↔ c.fundingTxo ≠ some f := by simp [Flipped, h]
    by_cases e : c.fundingTxo = some f
    · simp [hg, hf, e]
    · cases p with
      | none => simp [hg, hf, e]
      | some p => by_cases hp : t.now - p < bdkResyncGrace <;> simp [hg, hf, e, hp]

/-- The map a tick works on, once advanced. -/
abbrev advanced (m : InFlightMap) (t : Tick) : InFlightMap :=
  advanceInFlight m t.candidates t.now

@[simp] theorem lookup_advanceInFlight (m : InFlightMap) (cs : List ChannelCandidate) (now : Nat)
    (u : UserChannelId) :
    (advanceInFlight m cs now).lookup u = (m.lookup u).bind (advanceEntry cs now u) :=
  lookup_retain _ m u

theorem keys_advanceInFlight (m : InFlightMap) (cs : List ChannelCandidate) (now : Nat) :
    (advanceInFlight m cs now).keys.Sublist m.keys := keys_retain _ m

/-! ## Deciding -/

/-- The node takes a splice on the channel: it names a nonzero amount, lists
the channel as usable when asked again, and accepts. -/
def Accepts (lsp : PublicKey) (t : Tick) (u : UserChannelId) : Prop :=
  ∃ amountSats c, t.getMaxSpliceInAmount u lsp = .ok amountSats ∧ amountSats ≠ 0 ∧
    (t.channelsAtSplice.find? fun c => c.userChannelId = u) = some c ∧ c.isUsable = true ∧
    t.nodeSpliceIn u lsp amountSats = .ok ()

theorem spliceIn_eq_ok {lsp : PublicKey} {t : Tick} {u : UserChannelId} {a : UInt64} :
    spliceIn lsp t u a = .ok () ↔
      a ≠ 0 ∧ ∃ c, (t.channelsAtSplice.find? fun c => c.userChannelId = u) = some c ∧
        c.isUsable = true ∧ t.nodeSpliceIn u lsp a = .ok () := by
  unfold spliceIn
  by_cases ha : a = 0
  · simp [ha]
  simp only [ha, ↓reduceIte, ne_eq, not_false_eq_true, true_and]
  cases hc : t.channelsAtSplice.find? fun c => c.userChannelId = u with
  | none => simp
  | some c =>
    by_cases hu : c.isUsable = true
    · cases hn : t.nodeSpliceIn u lsp a <;> simp [hu]
    · simp [hu]

/-- What `apply` initiates: the candidate, if the node takes it. -/
theorem apply_eq_some {lsp : PublicKey} {t : Tick} {d : SpliceDecision} {u : UserChannelId}
    {f : OutPoint} :
    (apply lsp t d).1 = some (u, f) ↔
      ∃ id, d = .splice ⟨u, id, f⟩ ∧ Accepts lsp t u := by
  cases d with
  | skip r => simp [apply]
  | splice c =>
    obtain ⟨v, id, g⟩ := c
    simp only [apply, SpliceDecision.splice.injEq, SpliceCandidate.mk.injEq]
    cases hm : t.getMaxSpliceInAmount v lsp with
    | error e =>
      refine ⟨nofun, ?_⟩
      rintro ⟨_, ⟨rfl, -, -⟩, a, -, ha, -⟩
      rw [hm] at ha; cases ha
    | ok a =>
      have key : (apply lsp t (.splice ⟨v, id, g⟩)).1 = some (u, f) ↔
          spliceIn lsp t v a = .ok () ∧ v = u ∧ g = f := by
        simp only [apply, hm]
        split <;> simp_all
      simp only [apply, hm] at key
      rw [key, spliceIn_eq_ok]
      refine ⟨?_, ?_⟩
      · rintro ⟨⟨h0, c, hc, hu, hn⟩, rfl, rfl⟩
        exact ⟨id, ⟨rfl, rfl, rfl⟩, a, c, hm, h0, hc, hu, hn⟩
      · rintro ⟨_, ⟨rfl, -, rfl⟩, a', c, ha', h0, hc, hu, hn⟩
        rw [hm] at ha'; cases ha'
        exact ⟨⟨h0, c, hc, hu, hn⟩, rfl, rfl⟩

/-- When a tick initiates a splice on `u`, recording `f`: there is a balance,
`u` is the largest eligible channel of the snapshot, `f` its outpoint there,
`u` is not tracked once the map is advanced, and the node takes the splice. -/
theorem outcome_eq_some {lsp : PublicKey} {t : Tick} {m : InFlightMap} {u : UserChannelId}
    {f : OutPoint} :
    (t.outcome lsp m).1 = some (u, f) ↔
      t.spendableOnchainBalanceSats ≠ 0 ∧
      (∃ c, largest t.candidates lsp = some (c, f) ∧ c.userChannelId = u) ∧
      u ∉ (advanced m t).keys ∧ Accepts lsp t u := by
  rw [Tick.outcome, apply_eq_some, Tick.decision, SpliceManager.decide]
  by_cases hb : t.spendableOnchainBalanceSats = 0
  · simp [hb]
  simp only [hb, ↓reduceIte, ne_eq, not_false_eq_true, true_and]
  cases hl : largest t.candidates lsp with
  | none => simp
  | some p =>
    obtain ⟨c, g⟩ := p
    by_cases hk : c.userChannelId ∈ (advanced m t).keys
    · simp only [hk, ↓reduceIte, reduceCtorEq, false_and, exists_false, Option.some.injEq,
        Prod.mk.injEq, false_iff]
      rintro ⟨⟨_, ⟨rfl, rfl⟩, rfl⟩, hn, -⟩
      exact hn hk
    · simp only [hk, ↓reduceIte, SpliceDecision.splice.injEq, SpliceCandidate.mk.injEq,
        Option.some.injEq, Prod.mk.injEq]
      constructor
      · rintro ⟨_, ⟨rfl, -, rfl⟩, ha⟩
        exact ⟨⟨c, ⟨rfl, rfl⟩, rfl⟩, hk, ha⟩
      · rintro ⟨⟨_, ⟨rfl, rfl⟩, rfl⟩, -, ha⟩
        exact ⟨_, ⟨rfl, rfl, rfl⟩, ha⟩

/-! ## The map after a tick -/

/-- The map after a run of ticks. -/
abbrev mapAfter (lsp : PublicKey) (ts : List Tick) : InFlightMap := run (tick lsp) ∅ ts

theorem mapAfter_snoc (lsp : PublicKey) (ts : List Tick) (t : Tick) :
    mapAfter lsp (ts ++ [t]) = tick lsp (mapAfter lsp ts) t := run_snoc ts t

theorem tick_of_none {lsp : PublicKey} {t : Tick} {m : InFlightMap}
    (h : (t.outcome lsp m).1 = none) : tick lsp m t = advanced m t := by
  simp only [tick, h]

theorem tick_of_some {lsp : PublicKey} {t : Tick} {m : InFlightMap} {u : UserChannelId}
    {f : OutPoint} (h : (t.outcome lsp m).1 = some (u, f)) :
    tick lsp m t = (advanced m t).insert u ⟨f, none⟩ := by
  simp only [tick, h]

/-- A tick that initiates a splice does not track the channel beforehand. -/
theorem lookup_advanced_of_outcome {lsp : PublicKey} {t : Tick} {m : InFlightMap}
    {u : UserChannelId} {f : OutPoint} (h : (t.outcome lsp m).1 = some (u, f)) :
    (advanced m t).lookup u = none :=
  lookup_eq_none_iff.2 (outcome_eq_some.1 h).2.2.1

/-- The entry of a channel after a tick: the one the tick inserted, or the
one it advanced. -/
theorem lookup_tick {lsp : PublicKey} {t : Tick} {m : InFlightMap} {u : UserChannelId}
    {e : InFlight} :
    (tick lsp m t).lookup u = some e ↔
      (∃ f, (t.outcome lsp m).1 = some (u, f) ∧ e = ⟨f, none⟩) ∨
        (advanced m t).lookup u = some e := by
  cases h : (t.outcome lsp m).1 with
  | none => rw [tick_of_none h]; simp
  | some vf =>
    obtain ⟨v, g⟩ := vf
    rw [tick_of_some h]
    by_cases hv : u = v
    · subst hv
      rw [AList.lookup_insert, lookup_advanced_of_outcome h]
      simp [eq_comm]
    · have hne : ∀ f, (v, g) ≠ (u, f) := fun f e => hv (Prod.mk.inj e).1.symm
      rw [AList.lookup_insert_ne hv]
      simp [hne]

/-- A tick that initiates no splice on the channel only advances its entry. -/
theorem lookup_tick_of_ne {lsp : PublicKey} {t : Tick} {m : InFlightMap} {u : UserChannelId}
    (h : ∀ f, (t.outcome lsp m).1 ≠ some (u, f)) :
    (tick lsp m t).lookup u = (m.lookup u).bind (advanceEntry t.candidates t.now u) := by
  rw [← lookup_advanceInFlight]
  refine Option.ext fun e => ?_
  rw [lookup_tick]
  exact ⟨fun h' => h'.resolve_left fun ⟨f, hf, _⟩ => h f hf, .inr⟩

/-! ## Sample ticks -/

/-- A channel with the LSP `lsp`, numbered `n`. -/
def lspChannel (lsp : PublicKey) (n : Nat) (valueSats : UInt64) : ChannelDetails where
  userChannelId := ⟨n⟩
  channelId := ""
  counterpartyNodeId := lsp
  fundingTxo := some ⟨Vector.replicate 32 (UInt8.ofNat n), 0⟩
  channelValueSats := valueSats
  outboundCapacityMsat := 0
  nextOutboundHtlcLimitMsat := 0
  isUsable := true

/-- A tick at time `now` that lists `channels`, with 50 000 sat in the wallet
and a node that takes any splice. -/
def willingTick (now : Nat) (channels : List ChannelDetails) : Tick where
  now := now
  spendableOnchainBalanceSats := 50000
  channels := channels
  getMaxSpliceInAmount _ _ := .ok 49000
  channelsAtSplice := channels
  nodeSpliceIn _ _ _ := .ok ()

end Mdkd.Proof.Splice
