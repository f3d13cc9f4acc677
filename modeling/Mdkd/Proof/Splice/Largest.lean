import Mdkd.Proof.Splice.Step

/-!
# The channel a tick splices into

`decide` looks at the largest LSP channel among those that are *usable* and
tests only that one against the splices in flight. A channel that is
mid-splice may be tracked and not usable; it is then no candidate, and a
smaller channel can take its place. `concentrated_iff` says exactly when that
does not happen: `LargestUsable` is the channel `decide` looks at, in terms of
the channel list alone (`largest_eq_some`).
-/

namespace Mdkd.Proof.Splice

open Framework SpliceManager

/-! ## What `decide` looks at -/

/-- An LSP channel funds can be spliced into. -/
def Usable (lsp : PublicKey) (c : ChannelCandidate) : Prop :=
  c.counterparty = lsp ∧ c.isUsable = true ∧ c.fundingTxo ≠ none

/-- An LSP channel whose splice is in flight and that is not usable meanwhile. -/
def MidSplice (lsp : PublicKey) (inFlight : List UserChannelId) (c : ChannelCandidate) : Prop :=
  c.counterparty = lsp ∧ c.isUsable = false ∧ c.fundingTxo ≠ none ∧ c.userChannelId ∈ inFlight

/-- The largest usable LSP channel of a list, the last of them on a tie. -/
def LargestUsable (lsp : PublicKey) (channels : List ChannelCandidate) (c : ChannelCandidate) :
    Prop :=
  ∃ pre post, channels = pre ++ c :: post ∧ Usable lsp c ∧
    (∀ d ∈ pre, Usable lsp d → d.channelValueSats ≤ c.channelValueSats) ∧
    ∀ d ∈ post, Usable lsp d → d.channelValueSats < c.channelValueSats

/-- A channel with its outpoint, if `decide` considers it. -/
def asEligible (lsp : PublicKey) (c : ChannelCandidate) : Option (ChannelCandidate × OutPoint) :=
  if c.counterparty = lsp ∧ c.isUsable then c.fundingTxo.map fun txo => (c, txo) else none

theorem eligible_eq (cs : List ChannelCandidate) (lsp : PublicKey) :
    eligible cs lsp = cs.filterMap (asEligible lsp) := by
  simp only [eligible, List.filterMap_filter, decide_eq_true_eq]
  rfl

theorem asEligible_eq_some {lsp : PublicKey} {d c : ChannelCandidate} {f : OutPoint} :
    asEligible lsp d = some (c, f) ↔ d = c ∧ Usable lsp c ∧ c.fundingTxo = some f := by
  unfold asEligible Usable
  constructor
  · intro h
    split at h
    · rename_i hu
      obtain ⟨g, hg, he⟩ := Option.map_eq_some_iff.1 h
      obtain ⟨rfl, rfl⟩ := Prod.mk.inj he
      exact ⟨rfl, ⟨hu.1, hu.2, by simp [hg]⟩, hg⟩
    · cases h
  · rintro ⟨rfl, ⟨hl, hu, -⟩, hf⟩
    rw [if_pos ⟨hl, hu⟩, hf, Option.map_some]

/-- A bound on the values of what a list has to offer is one on the values of
its usable channels. -/
theorem forall_asEligible (lsp : PublicKey) (P : UInt64 → Prop) (cs : List ChannelCandidate) :
    (∀ p ∈ cs.filterMap (asEligible lsp), P p.1.channelValueSats) ↔
      ∀ d ∈ cs, Usable lsp d → P d.channelValueSats := by
  constructor
  · intro h d hd hu
    obtain ⟨f, hf⟩ := Option.ne_none_iff_exists'.1 hu.2.2
    exact h (d, f) (List.mem_filterMap.2 ⟨d, hd, asEligible_eq_some.2 ⟨rfl, hu, hf⟩⟩)
  · rintro h ⟨d, f⟩ hp
    obtain ⟨d', hd, he⟩ := List.mem_filterMap.1 hp
    obtain ⟨rfl, hu, -⟩ := asEligible_eq_some.1 he
    exact h _ hd hu

/-- The channel `decide` looks at is the largest usable one. -/
theorem largest_eq_some {cs : List ChannelCandidate} {lsp : PublicKey} {c : ChannelCandidate}
    {f : OutPoint} :
    largest cs lsp = some (c, f) ↔ LargestUsable lsp cs c ∧ c.fundingTxo = some f := by
  have hle := forall_asEligible lsp fun v => v.toNat ≤ c.channelValueSats.toNat
  have hlt := forall_asEligible lsp fun v => v.toNat < c.channelValueSats.toNat
  simp only [largest, eligible_eq, maxByKey_eq_some, LargestUsable, UInt64.le_iff_toNat_le,
    UInt64.lt_iff_toNat_lt]
  constructor
  · rintro ⟨pre, post, he, hpre, hpost⟩
    obtain ⟨pre', post', rfl, rfl, hp⟩ := List.filterMap_eq_append_iff.1 he
    obtain ⟨skip, d, rest, rfl, hskip, hd, rfl⟩ := List.filterMap_eq_cons_iff.1 hp
    obtain ⟨rfl, hu, hf⟩ := asEligible_eq_some.1 hd
    refine ⟨⟨pre' ++ skip, rest, by simp, hu, ?_, (hlt _).1 hpost⟩, hf⟩
    intro e he' hue
    rcases List.mem_append.1 he' with h | h
    · exact (hle _).1 hpre e h hue
    · obtain ⟨g, hg⟩ := Option.ne_none_iff_exists'.1 hue.2.2
      have hn := hskip e h
      rw [asEligible_eq_some.2 ⟨rfl, hue, hg⟩] at hn
      cases hn
  · rintro ⟨⟨pre, post, rfl, hu, hpre, hpost⟩, hf⟩
    refine ⟨_, _, ?_, (hle _).2 hpre, (hlt _).2 hpost⟩
    rw [List.filterMap_append, List.filterMap_cons_some (asEligible_eq_some.2 ⟨rfl, hu, hf⟩)]

/-- When `decide` splices: there is a balance, and the largest usable channel
is not in flight. -/
theorem decide_eq_splice {b : UInt64} {cs : List ChannelCandidate} {lsp : PublicKey}
    {fl : List UserChannelId} {s : SpliceCandidate} :
    SpliceManager.decide b cs lsp fl = .splice s ↔
      b ≠ 0 ∧ ∃ c f, LargestUsable lsp cs c ∧ c.fundingTxo = some f ∧ c.userChannelId ∉ fl ∧
        s = ⟨c.userChannelId, c.channelId, f⟩ := by
  unfold SpliceManager.decide
  by_cases hb : b = 0
  · simp [hb]
  simp only [hb, ↓reduceIte, ne_eq, not_false_eq_true, true_and]
  cases hl : largest cs lsp with
  | none =>
    simp only [reduceCtorEq, false_iff]
    rintro ⟨c, f, hc, hf, -⟩
    rw [largest_eq_some.2 ⟨hc, hf⟩] at hl
    cases hl
  | some p =>
    obtain ⟨c, f⟩ := p
    obtain ⟨hc, hf⟩ := largest_eq_some.1 hl
    by_cases hk : c.userChannelId ∈ fl
    · simp only [hk, ↓reduceIte, reduceCtorEq, false_iff]
      rintro ⟨d, g, hd, hg, hn, -⟩
      rw [largest_eq_some.2 ⟨hd, hg⟩] at hl
      obtain ⟨rfl, -⟩ := Prod.mk.inj (Option.some.inj hl)
      exact hn hk
    · simp only [hk, ↓reduceIte, SpliceDecision.splice.injEq]
      constructor
      · intro h
        exact ⟨c, f, hc, hf, hk, h.symm⟩
      · rintro ⟨d, g, hd, hg, -, rfl⟩
        rw [largest_eq_some.2 ⟨hd, hg⟩] at hl
        obtain ⟨rfl, rfl⟩ := Prod.mk.inj (Option.some.inj hl)
        rfl

/-! ## Concentrating liquidity -/

/-- Where `decide` splices, it is into a usable LSP channel that is not in
flight, and no LSP channel that is usable or in flight is larger. -/
def Concentrated (b : UInt64) (channels : List ChannelCandidate) (lsp : PublicKey)
    (inFlight : List UserChannelId) : Prop :=
  ∀ s, SpliceManager.decide b channels lsp inFlight = .splice s →
    ∃ c ∈ channels, Usable lsp c ∧ c.userChannelId ∉ inFlight ∧
      (∃ f, c.fundingTxo = some f ∧ s = ⟨c.userChannelId, c.channelId, f⟩) ∧
      ∀ d ∈ channels, d.counterparty = lsp → d.fundingTxo ≠ none →
        d.isUsable = true ∨ d.userChannelId ∈ inFlight →
        d.channelValueSats ≤ c.channelValueSats

theorem LargestUsable.mem {lsp : PublicKey} {cs : List ChannelCandidate} {c : ChannelCandidate}
    (h : LargestUsable lsp cs c) : c ∈ cs := by
  obtain ⟨pre, post, rfl, -⟩ := h
  simp

theorem LargestUsable.usable {lsp : PublicKey} {cs : List ChannelCandidate}
    {c : ChannelCandidate} (h : LargestUsable lsp cs c) : Usable lsp c := by
  obtain ⟨pre, post, -, hu, -⟩ := h
  exact hu

theorem LargestUsable.le {lsp : PublicKey} {cs : List ChannelCandidate} {c d : ChannelCandidate}
    (h : LargestUsable lsp cs c) (hd : d ∈ cs) (hu : Usable lsp d) :
    d.channelValueSats ≤ c.channelValueSats := by
  obtain ⟨pre, post, rfl, -, hpre, hpost⟩ := h
  rcases List.mem_append.1 hd with hd | hd
  · exact hpre d hd hu
  · rcases List.mem_cons.1 hd with rfl | hd
    · exact UInt64.le_refl _
    · exact UInt64.le_of_lt (hpost d hd hu)

theorem LargestUsable.unique {lsp : PublicKey} {cs : List ChannelCandidate}
    {c d : ChannelCandidate} (hc : LargestUsable lsp cs c) (hd : LargestUsable lsp cs d) :
    c = d := by
  obtain ⟨f, hf⟩ := Option.ne_none_iff_exists'.1 hc.usable.2.2
  obtain ⟨g, hg⟩ := Option.ne_none_iff_exists'.1 hd.usable.2.2
  have h := largest_eq_some.2 ⟨hc, hf⟩
  rw [largest_eq_some.2 ⟨hd, hg⟩] at h
  exact (Prod.mk.inj (Option.some.inj h)).1.symm

/-- Liquidity is concentrated exactly when, wherever there is a balance and the
largest usable channel is not in flight, no unusable channel in flight is
larger than it. -/
theorem concentrated_iff (b : UInt64) (cs : List ChannelCandidate) (lsp : PublicKey)
    (fl : List UserChannelId) :
    Concentrated b cs lsp fl ↔
      (b ≠ 0 → ∀ c, LargestUsable lsp cs c → c.userChannelId ∉ fl →
        ∀ d ∈ cs, MidSplice lsp fl d → d.channelValueSats ≤ c.channelValueSats) := by
  constructor
  · intro h hb c hc hn d hd hm
    obtain ⟨f, hf⟩ := Option.ne_none_iff_exists'.1 hc.usable.2.2
    have hs := decide_eq_splice.2 ⟨hb, c, f, hc, hf, hn, rfl⟩
    obtain ⟨c', hc', hu', -, -, hle⟩ := h _ hs
    have hd' := hle d hd hm.1 hm.2.2.1 (.inr hm.2.2.2)
    exact UInt64.le_trans hd' (hc.le hc' hu')
  · intro h s hs
    obtain ⟨hb, c, f, hc, hf, hn, rfl⟩ := decide_eq_splice.1 hs
    refine ⟨c, hc.mem, hc.usable, hn, ⟨f, hf, rfl⟩, fun d hd hl ht hor => ?_⟩
    by_cases hu : d.isUsable = true
    · exact hc.le hd ⟨hl, hu, ht⟩
    · exact h hb c hc hn d hd ⟨hl, by simpa using hu, ht, hor.resolve_left hu⟩

/-- A channel of 500 000 sat is mid-splice, and so not usable; the tick does not
wait for it and splices into one of 200 000 sat. -/
theorem smaller_channel_spliced :
    let lsp : PublicKey := ⟨Vector.replicate 33 2⟩
    let large : ChannelCandidate := .ofDetails { lspChannel lsp 1 500000 with isUsable := false }
    let small : ChannelCandidate := .ofDetails (lspChannel lsp 2 200000)
    ¬ Concentrated 50000 [large, small] lsp [⟨1⟩] := by
  intro lsp large small h
  have hs : SpliceManager.decide 50000 [large, small] lsp [⟨1⟩] =
      .splice ⟨⟨2⟩, "", ⟨Vector.replicate 32 2, 0⟩⟩ := by decide
  obtain ⟨c, hc, hu, hn, -, hle⟩ := h _ hs
  have hl := hle large (by simp) rfl (by decide) (.inr (by decide))
  obtain rfl | rfl : c = large ∨ c = small := by simpa using hc
  · exact hn (by decide)
  · exact absurd hl (by decide)

end Mdkd.Proof.Splice
