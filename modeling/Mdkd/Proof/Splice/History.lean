import Mdkd.Proof.Splice.Step

/-!
# What the map of splices remembers

A run is a list of ticks from the empty map. `history` says what the map
holds after it: an entry stands for the last splice initiated on its channel,
is kept for as long as `Framework.Held` says, and carries the clock of the
first snapshot that showed another outpoint.
-/

namespace Mdkd.Proof.Splice

open Framework SpliceManager

theorem bdkResyncGrace_pos : 0 < bdkResyncGrace := by decide

/-- Advancing an entry at `t`, for an entry kept so far. -/
theorem advanceEntry_of_held {u : UserChannelId} {f : OutPoint} {later : List Tick}
    (h : Held (Gone u) (Flipped u f) Tick.now bdkResyncGrace later) {t : Tick} {g : OutPoint}
    {p : Option Nat} :
    advanceEntry t.candidates t.now u ⟨f, stampOf (Flipped u f) Tick.now later⟩ = some ⟨g, p⟩ ↔
      g = f ∧ Held (Gone u) (Flipped u f) Tick.now bdkResyncGrace (later ++ [t]) ∧
        p = stampOf (Flipped u f) Tick.now (later ++ [t]) := by
  rw [advanceEntry_eq_observe, ← observe_stampOf bdkResyncGrace_pos h, Option.map_eq_some_iff]
  constructor
  · rintro ⟨q, hq, e⟩
    obtain ⟨rfl, rfl⟩ := InFlight.mk.inj e
    exact ⟨rfl, hq⟩
  · rintro ⟨rfl, hq⟩
    exact ⟨p, hq, rfl⟩

/-- A splice of the run leaves its entry for as long as it is held. -/
theorem lookup_of_held {lsp : PublicKey} {pre later : List Tick} {t : Tick} {u : UserChannelId}
    {f : OutPoint} (hs : (t.outcome lsp (mapAfter lsp pre)).1 = some (u, f))
    (hh : Held (Gone u) (Flipped u f) Tick.now bdkResyncGrace later) :
    (mapAfter lsp (pre ++ t :: later)).lookup u =
      some ⟨f, stampOf (Flipped u f) Tick.now later⟩ := by
  induction later using List.reverseRecOn with
  | nil => rw [mapAfter_snoc]; exact lookup_tick.2 (.inl ⟨f, hs, rfl⟩)
  | append_singleton later t' ih =>
    rw [← List.cons_append, ← List.append_assoc, mapAfter_snoc]
    refine lookup_tick.2 (.inr ?_)
    rw [lookup_advanceInFlight, ih hh.of_snoc, Option.bind_some]
    exact (advanceEntry_of_held hh.of_snoc).2 ⟨rfl, hh, rfl⟩

end Mdkd.Proof.Splice
