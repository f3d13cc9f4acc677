import Mdkd.Impl.Client
import Mdkd.Proof.Splice.History

/-!
# Splices the node reports as failed

The manager's ticks run beside the node, which ends each splice it accepted by
promoting it, when the channel's funding outpoint changes, or by reporting
`Event::SpliceFailed`, when it does not. The report reaches the client's event
loop and not the map. `failed_iff` says when a tick leaves no entry of a failed
splice behind; `never_released` that an entry stays for as long as its channel
is listed with the outpoint recorded for it.
-/

namespace Mdkd.Proof.Splice

open Framework SpliceManager

/-! ## The node beside the manager -/

/-- How far a splice the node accepted has come. -/
inductive SpliceState where
  | pending
  | promoted
  | failed
  deriving DecidableEq

/-- The manager's map, the node's channels, the last splice the node accepted
on each, and the events the client has emitted. -/
structure World where
  inFlight : InFlightMap
  channels : List ChannelDetails
  splices : AList fun _ : UserChannelId => SpliceState
  emitted : List MdkEvent

/-- A tick of the manager, or a step of the node: a pending splice is promoted
to a new outpoint, or fails; or the channels change otherwise. -/
inductive Input where
  | tick (t : Tick)
  | promote (ucid : UserChannelId) (txo : OutPoint)
  | fail (ucid : UserChannelId) (abandonedFundingTxid : Option String)
  | update (channels : List ChannelDetails)

/-- Channels that stay listed keep the funding outpoint they have. -/
def KeepsFunding (cs ds : List ChannelDetails) : Prop :=
  ∀ c ∈ cs, ∀ d ∈ ds, d.userChannelId = c.userChannelId →
    c.fundingTxo = none ∨ d.fundingTxo = c.fundingTxo

instance (cs ds : List ChannelDetails) : Decidable (KeepsFunding cs ds) :=
  inferInstanceAs (Decidable (∀ c ∈ cs, ∀ d ∈ ds, d.userChannelId = c.userChannelId →
    c.fundingTxo = none ∨ d.fundingTxo = c.fundingTxo))

/-- A tick reads the node's channels. -/
def World.seenBy (w : World) (t : Tick) : Tick := { t with channels := w.channels }

/-- A tick, and the splice the node accepted in it. -/
def World.afterTick (lsp : PublicKey) (w : World) (t : Tick) : World :=
  let outcome := (w.seenBy t).outcome lsp w.inFlight
  { w with
    inFlight := tick lsp w.inFlight (w.seenBy t)
    splices :=
      match outcome.1 with
      | some (ucid, _) => w.splices.insert ucid .pending
      | none => w.splices
    emitted := w.emitted ++ outcome.2 }

def step (lsp : PublicKey) (w : World) : Input → World
  | .tick t => w.afterTick lsp t
  | .promote ucid txo =>
    if w.splices.lookup ucid = some .pending then
      { w with
        channels := w.channels.map fun c =>
          if c.userChannelId = ucid then { c with fundingTxo := some txo } else c
        splices := w.splices.insert ucid .promoted }
    else w
  | .fail ucid abandonedFundingTxid =>
    match w.splices.lookup ucid, w.channels.find? fun c => c.userChannelId = ucid with
    | some .pending, some c =>
      { w with
        splices := w.splices.insert ucid .failed
        emitted := w.emitted ++
          (Client.handleLdkEvent (.spliceFailed c.channelId abandonedFundingTxid)).2.toList }
    | _, _ => w
  | .update channels => if KeepsFunding w.channels channels then { w with channels } else w

/-- A node with `channels`, and a manager that has not ticked. -/
def World.init (channels : List ChannelDetails) : World := ⟨∅, channels, ∅, []⟩

/-! ## Entries of failed splices -/

/-- No entry that is not promoted is of a splice that has failed. -/
def NoFailedEntry (w : World) : Prop :=
  ∀ u e, w.inFlight.lookup u = some e → e.promotedAt = none → w.splices.lookup u ≠ some .failed

/-- The same after every tick of a run. -/
def FailedReleased (lsp : PublicKey) (w : World) (is : List Input) : Prop :=
  ∀ p ∈ trace (step lsp) w is, ∀ t, p.2 = .tick t → NoFailedEntry (step lsp p.1 p.2)

/-- No channel of a failed splice that is not promoted is listed with the
outpoint recorded for the splice. -/
def FailedMoved (w : World) : Prop :=
  ∀ u e c, w.inFlight.lookup u = some e → e.promotedAt = none →
    w.splices.lookup u = some .failed →
    findChannel (w.channels.map .ofDetails) u = some c → c.fundingTxo ≠ some e.initialFundingTxo

/-- Advancing leaves an entry without a stamp only where it had none and its
channel is listed with the outpoint recorded. -/
theorem advanceEntry_unpromoted {cs : List ChannelCandidate} {now : Nat} {u : UserChannelId}
    {e e' : InFlight} :
    advanceEntry cs now u e = some e' ∧ e'.promotedAt = none ↔
      e' = e ∧ e.promotedAt = none ∧
        ∃ c, findChannel cs u = some c ∧ c.fundingTxo = some e.initialFundingTxo := by
  unfold advanceEntry
  cases hc : findChannel cs u with
  | none => simp
  | some c =>
    by_cases hf : c.fundingTxo = some e.initialFundingTxo
    · simp only [hf, ↓reduceIte, Option.some.injEq, exists_eq_left', and_true]
      refine ⟨?_, ?_⟩
      · rintro ⟨rfl, hp⟩; exact ⟨rfl, hp⟩
      · rintro ⟨rfl, hp⟩; exact ⟨rfl, hp⟩
    · cases hp : e.promotedAt with
      | none =>
        simp only [hf, ↓reduceIte, Option.some.injEq, exists_eq_left', and_false, iff_false]
        rintro ⟨rfl, h⟩
        cases h
      | some p =>
        simp only [hf, ↓reduceIte, Option.some.injEq, exists_eq_left', and_false, iff_false]
        rintro ⟨h, hn⟩
        split at h
        · cases h; rw [hp] at hn; cases hn
        · cases h

/-- The splices after a tick: the one on `u` is new, or the tick initiated none there. -/
theorem lookup_splices_afterTick (lsp : PublicKey) (w : World) (t : Tick) (u : UserChannelId) :
    (∃ f, ((w.seenBy t).outcome lsp w.inFlight).1 = some (u, f)) ∧
        (w.afterTick lsp t).splices.lookup u = some .pending ∨
      (∀ f, ((w.seenBy t).outcome lsp w.inFlight).1 ≠ some (u, f)) ∧
        (w.afterTick lsp t).splices.lookup u = w.splices.lookup u := by
  unfold World.afterTick
  cases ho : ((w.seenBy t).outcome lsp w.inFlight).1 with
  | none => exact .inr ⟨nofun, by simp [ho]⟩
  | some vf =>
    obtain ⟨v, f⟩ := vf
    by_cases hv : u = v
    · subst hv
      exact .inl ⟨⟨f, rfl⟩, by simp [ho]⟩
    · refine .inr ⟨fun g e => hv (Prod.mk.inj (Option.some.inj e)).1.symm, ?_⟩
      simp only [ho]
      exact AList.lookup_insert_ne hv

/-- One tick leaves no entry of a failed splice exactly when none of their
channels is where the splice found it. -/
theorem noFailedEntry_afterTick (lsp : PublicKey) (w : World) (t : Tick) :
    NoFailedEntry (w.afterTick lsp t) ↔ FailedMoved w := by
  refine ⟨fun h u e c hm hp hs hc hf => ?_, fun h u e hm hp hs => ?_⟩
  · have ha : (advanced w.inFlight (w.seenBy t)).lookup u = some e := by
      rw [lookup_advanceInFlight, hm, Option.bind_some]
      exact (advanceEntry_unpromoted.2 ⟨rfl, hp, c, hc, hf⟩).1
    have hl : (w.afterTick lsp t).inFlight.lookup u = some e := lookup_tick.2 (.inr ha)
    rcases lookup_splices_afterTick lsp w t u with h' | h'
    · obtain ⟨⟨f, ho⟩, -⟩ := h'
      rw [lookup_advanced_of_outcome ho] at ha
      cases ha
    · exact h u e hl hp (h'.2.trans hs)
  · rcases lookup_splices_afterTick lsp w t u with h' | h'
    · rw [h'.2] at hs; cases hs
    · have hm' : (tick lsp w.inFlight (w.seenBy t)).lookup u = some e := hm
      rw [lookup_tick_of_ne h'.1, Option.bind_eq_some_iff] at hm'
      obtain ⟨e₀, he₀, ha⟩ := hm'
      obtain ⟨rfl, hp₀, c, hc, hf⟩ := advanceEntry_unpromoted.1 ⟨ha, hp⟩
      exact h u e c he₀ hp₀ (h'.2.symm.trans hs) hc hf

/-- Over a run: after every tick no unpromoted entry is of a failed splice,
exactly when at every tick no such entry's channel is listed with the outpoint
recorded for it. -/
theorem failed_iff (lsp : PublicKey) (w : World) (is : List Input) :
    FailedReleased lsp w is ↔
      ∀ p ∈ trace (step lsp) w is, ∀ t, p.2 = .tick t → FailedMoved p.1 := by
  refine forall₂_congr fun p _ => forall₂_congr fun t ht => ?_
  rw [ht]
  exact noFailedEntry_afterTick lsp p.1 t

/-- A splice goes out, fails, and is still in the map after the next tick, on
a channel that is open at the outpoint it had. -/
theorem failed_splice_kept :
    let lsp : PublicKey := ⟨Vector.replicate 33 2⟩
    let a := lspChannel lsp 1 100000
    ¬ FailedReleased lsp (.init [a])
      [.tick (willingTick 0 [a]), .fail ⟨1⟩ none, .tick (willingTick (30 * 10 ^ 9) [a])] := by
  intro lsp a h
  have hp := h _ (mem_trace _ 2 (by decide)) _ rfl
  exact hp ⟨1⟩ ⟨⟨Vector.replicate 32 1, 0⟩, none⟩ (by decide) rfl (by decide)

/-- An entry stays, without a stamp, for as long as every snapshot lists its
channel with the outpoint recorded; and as long as it stays no tick splices
the channel. -/
theorem never_released {lsp : PublicKey} {pre later : List Tick} {t : Tick} {u : UserChannelId}
    {f : OutPoint} (hs : (t.outcome lsp (mapAfter lsp pre)).1 = some (u, f))
    (hl : ∀ t' ∈ later, ∃ c, findChannel t'.candidates u = some c ∧ c.fundingTxo = some f) :
    (mapAfter lsp (pre ++ t :: later)).lookup u = some ⟨f, none⟩ := by
  have hflip : ∀ t' ∈ later, ¬ Flipped u f t' := fun t' ht => by
    obtain ⟨c, hc, hf⟩ := hl t' ht
    rintro ⟨d, hd, hne⟩
    rw [hc] at hd; cases hd
    exact hne hf
  have hnone : later.find? (fun t' => Flipped u f t') = none :=
    List.find?_eq_none.2 fun t' ht => by simpa using hflip t' ht
  have hh : Held (Gone u) (Flipped u f) Tick.now bdkResyncGrace later := by
    refine ⟨fun t' ht hg => ?_, fun k _ t' ht hf => absurd hf (hflip t' ht)⟩
    obtain ⟨c, hc, -⟩ := hl t' ht
    rw [Gone, hc] at hg
    cases hg
  rw [lookup_of_held hs hh, stampOf, hnone]
  rfl

end Mdkd.Proof.Splice
