import Mdkd.Proof.Splice.Step

/-!
# Splices funded by one wallet balance

The balance a splice is decided on is that of the whole wallet, and it may
still count outputs an earlier splice has spent; the map that guards against
this is looked up by channel. `stale_iff` says when the guard is enough over a
run of ticks: whenever a splice is still tracked, the channel the next tick
would splice is one of the tracked ones.
-/

namespace Mdkd.Proof.Splice

open Framework SpliceManager

/-- A splice on `u` is still tracked at the snapshot of `t`: the channel is
open, and the splice is not promoted, or was less than a grace period ago. -/
def StillTracked (m : InFlightMap) (t : Tick) (u : UserChannelId) : Prop :=
  ∃ e c, m.lookup u = some e ∧ findChannel t.candidates u = some c ∧
    (c.fundingTxo = some e.initialFundingTxo ∨
      ∀ p, e.promotedAt = some p → t.now - p < bdkResyncGrace)

/-- No splice succeeds while one on another channel is still tracked. -/
def OneAtATime (lsp : PublicKey) (ts : List Tick) : Prop :=
  ∀ p ∈ trace (tick lsp) ∅ ts, ∀ u f, (p.2.outcome lsp p.1).1 = some (u, f) →
    ∀ v, v ≠ u → ¬ StillTracked p.1 p.2 v

/-- After every tick the map has at most one entry. -/
def AtMostOne (lsp : PublicKey) (ts : List Tick) : Prop :=
  ∀ p ∈ trace (tick lsp) ∅ ts, (tick lsp p.1 p.2).keys.length ≤ 1

/-- If a splice is still tracked, there is a balance, and the node would take
a splice on the largest usable LSP channel, then that channel is tracked. -/
def Guarded (lsp : PublicKey) (m : InFlightMap) (t : Tick) : Prop :=
  ∀ v c f, StillTracked m t v → t.spendableOnchainBalanceSats ≠ 0 →
    largest t.candidates lsp = some (c, f) → Accepts lsp t c.userChannelId →
    StillTracked m t c.userChannelId

/-- What is left of the map once advanced are the splices still tracked. -/
theorem mem_keys_advanced {m : InFlightMap} {t : Tick} {u : UserChannelId} :
    u ∈ (advanced m t).keys ↔ StillTracked m t u := by
  rw [← not_iff_not, ← lookup_eq_none_iff, lookup_advanceInFlight, StillTracked]
  cases hm : m.lookup u with
  | none => simp
  | some e =>
    rw [Option.bind_some, advanceEntry]
    cases hc : findChannel t.candidates u with
    | none => simp
    | some c =>
      by_cases hf : c.fundingTxo = some e.initialFundingTxo
      · simp [hf]
      cases hp : e.promotedAt with
      | none => simp [hf, hp]
      | some p => by_cases hg : t.now - p < bdkResyncGrace <;> simp [hf, hp, hg]

/-- One tick: no success beside a tracked splice, exactly when it is guarded. -/
theorem alone_iff {lsp : PublicKey} {m : InFlightMap} {t : Tick} :
    (∀ u f, (t.outcome lsp m).1 = some (u, f) → ∀ v, v ≠ u → ¬ StillTracked m t v) ↔
      Guarded lsp m t := by
  refine ⟨fun h v c f hv hb hl ha => ?_, fun h u f ho v _ hv => ?_⟩
  · by_contra hc
    have ho : (t.outcome lsp m).1 = some (c.userChannelId, f) :=
      outcome_eq_some.2 ⟨hb, ⟨c, hl, rfl⟩, fun hk => hc (mem_keys_advanced.1 hk), ha⟩
    exact h _ f ho v (fun e => hc (e ▸ hv)) hv
  · obtain ⟨hb, ⟨c, hl, rfl⟩, hk, ha⟩ := outcome_eq_some.1 ho
    exact hk (mem_keys_advanced.2 (h v c f hv hb hl ha))

/-- One tick: the map keeps at most one entry exactly when it is guarded. -/
theorem length_le_iff {lsp : PublicKey} {m : InFlightMap} {t : Tick} (hm : m.keys.length ≤ 1) :
    (tick lsp m t).keys.length ≤ 1 ↔ Guarded lsp m t := by
  have ha : (advanced m t).keys.length ≤ 1 :=
    le_trans (keys_advanceInFlight m t.candidates t.now).length_le hm
  rw [← alone_iff]
  cases ho : (t.outcome lsp m).1 with
  | none => rw [tick_of_none ho]; simp [ha]
  | some uf =>
    obtain ⟨u, f⟩ := uf
    have hu : u ∉ (advanced m t).keys := (outcome_eq_some.1 ho).2.2.1
    have hlen : (tick lsp m t).keys.length ≤ 1 ↔ (advanced m t).keys = [] := by
      rw [tick_of_some ho, length_keys_insert _ hu, ← List.length_eq_zero_iff]
      omega
    rw [hlen, List.eq_nil_iff_forall_not_mem]
    refine ⟨fun h v g _ w _ hw => h w (mem_keys_advanced.2 hw), fun h v hv => ?_⟩
    exact h u f rfl v (fun e => hu (e ▸ hv)) (mem_keys_advanced.1 hv)

/-- Over a run: no splice succeeds beside a tracked one exactly when every
tick is guarded, and so for the map having at most one entry. -/
theorem stale_iff (lsp : PublicKey) (ts : List Tick) :
    (OneAtATime lsp ts ↔ ∀ p ∈ trace (tick lsp) ∅ ts, Guarded lsp p.1 p.2) ∧
      (AtMostOne lsp ts ↔ ∀ p ∈ trace (tick lsp) ∅ ts, Guarded lsp p.1 p.2) := by
  refine ⟨forall₂_congr fun p _ => alone_iff, ?_⟩
  have h0 : (∅ : InFlightMap).keys.length ≤ 1 := by decide
  exact forall_post_iff (P := fun m : InFlightMap => m.keys.length ≤ 1) h0
    (fun _ _ => length_le_iff) ts

/-- A splice goes out on a channel of 100 000 sat; 30 s later a channel of
200 000 sat is listed beside it. The second tick splices the new channel while
the first splice is still tracked, and leaves two entries. -/
theorem second_splice_while_tracked :
    let lsp : PublicKey := ⟨Vector.replicate 33 2⟩
    let a := lspChannel lsp 1 100000
    let b := lspChannel lsp 2 200000
    let ts := [willingTick 0 [a], willingTick (30 * 10 ^ 9) [a, b]]
    ¬ OneAtATime lsp ts ∧ ¬ AtMostOne lsp ts := by
  intro lsp a b ts
  have hp := @mem_trace _ _ (tick lsp) ∅ ts 1 (by decide)
  refine ⟨fun h => ?_, fun h => ?_⟩
  · refine h _ hp ⟨2⟩ ⟨Vector.replicate 32 2, 0⟩ (by decide) ⟨1⟩ (by decide) ?_
    exact mem_keys_advanced.1 (by decide)
  · exact absurd (h _ hp) (by decide)

end Mdkd.Proof.Splice
