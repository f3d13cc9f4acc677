import Mdkd.Proof.Splice.Calls
import Mdkd.Proof.Splice.Largest

/-!
# The outpoint recorded for a splice

A tick reads the outpoint it records from its snapshot, before the three calls
that end with the node's `splice_in`; the node's channels can change at any
moment in between. `recorded_iff` says when an entry records the outpoint its
channel has when the node accepts the splice, and when its stamp then means
that the channel has moved from there, or that the splice is promoted.
-/

namespace Mdkd.Proof.Splice.Recorded

open Framework SpliceManager SpliceSteps

/-! ## The node beside a tick -/

/-- A splice the node accepted: the outpoint its channel had then, and whether
the splice has been promoted since. -/
structure Accepted where
  fundingTxo : Option OutPoint
  promoted : Bool
  deriving DecidableEq

/-- The manager, the node's channels, and the last splice the node accepted on
each. -/
structure World where
  manager : Manager
  channels : List ChannelDetails
  splices : AList fun _ : UserChannelId => Accepted

/-- A call of the manager, or a step of the node: a splice it accepted is
promoted to a new outpoint, or the channels change otherwise. -/
inductive Input where
  | call (call : Call)
  | promote (ucid : UserChannelId) (txo : OutPoint)
  | update (channels : List ChannelDetails)

/-- The funding outpoint of a channel. -/
def fundingTxoOf (channels : List ChannelDetails) (ucid : UserChannelId) : Option OutPoint :=
  (channels.find? fun c => c.userChannelId = ucid).bind (·.fundingTxo)

/-- What the tick has read and the splice it asks for, where the node's
`splice_in` returns `Ok`. -/
def World.accepts (lsp : PublicKey) (w : World) : Input → Option (Locals × SpliceCandidate)
  | .call (.spliceIn answer) =>
    match w.manager.phase with
    | .checked l c amountSats =>
      match answer c.userChannelId lsp amountSats with
      | .ok () => some (l, c)
      | .error _ => none
    | _ => none
  | _ => none

def step (lsp : PublicKey) (w : World) : Input → World
  | .call call =>
    { w with
      manager := w.manager.step lsp w.channels call
      splices :=
        match w.accepts lsp (.call call) with
        | some (_, c) =>
          w.splices.insert c.userChannelId ⟨fundingTxoOf w.channels c.userChannelId, false⟩
        | none => w.splices }
  | .promote ucid txo =>
    match w.splices.lookup ucid, fundingTxoOf w.channels ucid with
    | some s, some f =>
      if s.promoted ∨ f = txo then w
      else
        { w with
          channels := w.channels.map fun c =>
            if c.userChannelId = ucid then { c with fundingTxo := some txo } else c
          splices := w.splices.insert ucid { s with promoted := true } }
    | _, _ => w
  | .update channels => { w with channels }

/-- A node with `channels`, and a manager that has not ticked. -/
def World.init (channels : List ChannelDetails) : World := ⟨.init, channels, ∅⟩

/-! ## What is recorded -/

/-- An entry that the step inserts, which only the node's `Ok` does, records the
outpoint its channel has in the node at that moment. -/
def RecordsCurrent (lsp : PublicKey) (w : World) (i : Input) : Prop :=
  ∀ u e, w.manager.inFlight.lookup u = none → (step lsp w i).manager.inFlight.lookup u = some e →
    fundingTxoOf w.channels u = some e.initialFundingTxo

/-- The step stamps the entry of `u`. -/
def Stamps (lsp : PublicKey) (w : World) (i : Input) (u : UserChannelId) : Prop :=
  ∃ e e', w.manager.inFlight.lookup u = some e ∧ e.promotedAt = none ∧
    (step lsp w i).manager.inFlight.lookup u = some e' ∧ e'.promotedAt ≠ none

/-- An entry is stamped only on a snapshot in which its channel has another
outpoint than it had when the node accepted the splice. -/
def StampsMoved (lsp : PublicKey) (w : World) (i : Input) : Prop :=
  ∀ u, Stamps lsp w i u → ∃ l d s, w.manager.phase = .listed l ∧
    findChannel l.candidates u = some d ∧ w.splices.lookup u = some s ∧
    d.fundingTxo ≠ s.fundingTxo

/-- An entry is stamped only after its splice is promoted. -/
def StampsPromoted (lsp : PublicKey) (w : World) (i : Input) : Prop :=
  ∀ u, Stamps lsp w i u → ∃ s, w.splices.lookup u = some s ∧ s.promoted = true

/-- Where the node accepts a splice, the channel has the outpoint the tick's
snapshot shows. -/
def Unmoved (lsp : PublicKey) (w : World) (i : Input) : Prop :=
  ∀ l c, w.accepts lsp i = some (l, c) → ∀ d, LargestUsable lsp l.candidates d →
    fundingTxoOf w.channels d.userChannelId = d.fundingTxo

/-- A snapshot that the tick goes by shows the channel of a tracked splice
that is not promoted at the outpoint it was accepted at. -/
def Kept (w : World) (i : Input) : Prop :=
  i = .call .decide → ∀ l, w.manager.phase = .listed l → ∀ u e s d,
    w.manager.inFlight.lookup u = some e → e.promotedAt = none →
    w.splices.lookup u = some s → s.promoted = false →
    findChannel l.candidates u = some d → d.fundingTxo = s.fundingTxo

/-! ## What a step does to the map -/

variable {lsp : PublicKey} {w : World} {i : Input} {l : Locals} {c : SpliceCandidate}
  {u : UserChannelId}

/-- The map after the node's `splice_in`. -/
theorem inFlight_spliceIn (answer : UserChannelId → PublicKey → UInt64 → Except NodeError Unit)
    (w : World) :
    (w.manager.spliceIn lsp answer).inFlight =
      match w.accepts lsp (.call (.spliceIn answer)) with
      | some (_, c) => w.manager.inFlight.insert c.userChannelId ⟨c.fundingTxo, none⟩
      | none => w.manager.inFlight := by
  unfold Manager.spliceIn World.accepts
  cases w.manager.phase with
  | checked l c amountSats =>
    dsimp only
    cases answer c.userChannelId lsp amountSats with
    | ok r => rfl
    | error e => exact inFlight_fail ..
  | _ => rfl

/-- What a step can do: the node accepts a splice, and it is recorded; the map
is advanced; or the map stays, and so do the outpoints splices were accepted
at. -/
inductive Effect (lsp : PublicKey) (w : World) (i : Input) : Prop where
  | inserted (l : Locals) (c : SpliceCandidate) (accepts : w.accepts lsp i = some (l, c))
      (inFlight : (step lsp w i).manager.inFlight =
        w.manager.inFlight.insert c.userChannelId ⟨c.fundingTxo, none⟩)
      (splices : (step lsp w i).splices =
        w.splices.insert c.userChannelId ⟨fundingTxoOf w.channels c.userChannelId, false⟩)
  | advanced (l : Locals) (accepts : w.accepts lsp i = none) (input : i = .call .decide)
      (phase : w.manager.phase = .listed l)
      (inFlight : (step lsp w i).manager.inFlight =
        advanceInFlight w.manager.inFlight l.candidates l.now)
      (splices : (step lsp w i).splices = w.splices)
  | untouched (accepts : w.accepts lsp i = none)
      (phase : i = .call .decide → ∀ l, w.manager.phase ≠ .listed l)
      (inFlight : (step lsp w i).manager.inFlight = w.manager.inFlight)
      (splices : ∀ u s, w.splices.lookup u = some s →
        ∃ s', (step lsp w i).splices.lookup u = some s' ∧ s'.fundingTxo = s.fundingTxo)

theorem effect_call (lsp : PublicKey) (w : World) (call : Call) :
    Effect lsp w (.call call) := by
  cases call with
  | listChannels now spendable =>
    exact .untouched rfl nofun (inFlight_listChannels ..) fun u s h => ⟨s, h, rfl⟩
  | decide =>
    by_cases hp : ∃ l, w.manager.phase = .listed l
    · obtain ⟨l, hp⟩ := hp
      exact .advanced l rfl rfl hp (inFlight_decide hp) rfl
    · have hne : ∀ l, w.manager.phase ≠ .listed l := fun l h => hp ⟨l, h⟩
      refine .untouched rfl (fun _ => hne) ?_ fun u s h => ⟨s, h, rfl⟩
      show (w.manager.decide lsp).inFlight = _
      rw [decide_of_ne hne]
  | getMaxSpliceInAmount answer =>
    exact .untouched rfl nofun (inFlight_getMaxSpliceInAmount ..) fun u s h => ⟨s, h, rfl⟩
  | listChannelsAgain =>
    exact .untouched rfl nofun (inFlight_listChannelsAgain ..) fun u s h => ⟨s, h, rfl⟩
  | spliceIn answer =>
    have hm : (step lsp w (.call (.spliceIn answer))).manager.inFlight = _ :=
      inFlight_spliceIn answer w
    cases ha : w.accepts lsp (.call (.spliceIn answer)) with
    | none =>
      refine .untouched ha nofun (by rw [hm, ha]) fun u s h => ⟨s, ?_, rfl⟩
      simp only [step, ha]
      exact h
    | some lc =>
      obtain ⟨l, c⟩ := lc
      exact .inserted l c ha (by rw [hm, ha]) (by simp only [step, ha])

theorem manager_promote (lsp : PublicKey) (w : World) (ucid : UserChannelId) (txo : OutPoint) :
    (step lsp w (.promote ucid txo)).manager = w.manager := by
  unfold step
  dsimp only
  split
  · split <;> rfl
  · rfl

theorem effect (lsp : PublicKey) (w : World) (i : Input) : Effect lsp w i := by
  cases i with
  | call call => exact effect_call lsp w call
  | update channels => exact .untouched rfl nofun rfl fun u s h => ⟨s, h, rfl⟩
  | promote ucid txo =>
    refine .untouched rfl nofun (by rw [manager_promote]) fun u s h => ?_
    unfold step
    dsimp only
    split
    · rename_i s₀ f hs hf
      split
      · exact ⟨s, h, rfl⟩
      · by_cases hu : u = ucid
        · subst hu
          obtain rfl : s₀ = s := Option.some.inj (hs.symm.trans h)
          exact ⟨_, AList.lookup_insert _, rfl⟩
        · exact ⟨s, (AList.lookup_insert_ne hu).trans h, rfl⟩
    · exact ⟨s, h, rfl⟩

/-- Advancing an entry keeps the outpoint it recorded. -/
theorem initialFundingTxo_advanceEntry {cs : List ChannelCandidate} {now : Nat} {e e' : InFlight}
    (h : advanceEntry cs now u e = some e') : e'.initialFundingTxo = e.initialFundingTxo := by
  unfold advanceEntry at h
  split at h
  · cases h
  · split at h
    · rw [← Option.some.inj h]
    · split at h
      · rw [← Option.some.inj h]
      · split at h
        · rw [← Option.some.inj h]
        · cases h

/-- Advancing stamps an entry where its channel is listed with an outpoint
other than the one recorded. -/
theorem advanceEntry_stamps {cs : List ChannelCandidate} {now : Nat} {e : InFlight}
    (hn : e.promotedAt = none) :
    (∃ e', advanceEntry cs now u e = some e' ∧ e'.promotedAt ≠ none) ↔
      ∃ d, findChannel cs u = some d ∧ d.fundingTxo ≠ some e.initialFundingTxo := by
  unfold advanceEntry
  cases hd : findChannel cs u with
  | none => simp
  | some d => by_cases hf : d.fundingTxo = some e.initialFundingTxo <;> simp [hn, hf]

/-- When a step stamps an entry. -/
theorem stamps_iff :
    Stamps lsp w i u ↔ i = .call .decide ∧ ∃ l e d, w.manager.phase = .listed l ∧
      w.manager.inFlight.lookup u = some e ∧ e.promotedAt = none ∧
      findChannel l.candidates u = some d ∧ d.fundingTxo ≠ some e.initialFundingTxo := by
  constructor
  · intro h
    obtain ⟨e, e', he, hn, he', hn'⟩ := h
    cases effect lsp w i with
    | inserted l c ha hm hs =>
      by_cases hu : u = c.userChannelId
      · subst hu
        rw [hm, AList.lookup_insert] at he'
        exact absurd (congrArg InFlight.promotedAt (Option.some.inj he')).symm hn'
      · rw [hm, AList.lookup_insert_ne hu, he] at he'
        exact absurd (Option.some.inj he' ▸ hn) hn'
    | advanced l ha hi hp hm hs =>
      rw [hm, lookup_advanceInFlight, he, Option.bind_some] at he'
      obtain ⟨d, hd, hf⟩ := (advanceEntry_stamps hn).1 ⟨e', he', hn'⟩
      exact ⟨hi, l, e, d, hp, he, hn, hd, hf⟩
    | untouched ha hp hm hs =>
      rw [hm, he] at he'
      exact absurd (Option.some.inj he' ▸ hn) hn'
  · intro h
    obtain ⟨rfl, l, e, d, hp, he, hn, hd, hf⟩ := h
    obtain ⟨e', he', hn'⟩ := (advanceEntry_stamps hn).2 ⟨d, hd, hf⟩
    refine ⟨e, e', he, hn, ?_, hn'⟩
    show (w.manager.decide lsp).inFlight.lookup u = some e'
    rw [inFlight_decide hp, lookup_advanceInFlight, he, Option.bind_some, he']

/-! ## Entries and the splices they are of -/

/-- The manager is at a run of ticks, and every entry records the outpoint its
splice was accepted at. -/
structure Inv (lsp : PublicKey) (w : World) : Prop where
  follows : ∃ ts t, Follows lsp ts t w.manager
  accepted : ∀ u e, w.manager.inFlight.lookup u = some e →
    ∃ s, w.splices.lookup u = some s ∧ s.fundingTxo = some e.initialFundingTxo

theorem phase_of_accepts (h : w.accepts lsp i = some (l, c)) :
    ∃ amountSats, w.manager.phase = .checked l c amountSats := by
  unfold World.accepts at h
  split at h
  · split at h
    · rename_i hp
      split at h
      · cases h
        exact ⟨_, hp⟩
      · cases h
    · cases h
  · cases h

/-- The splice the node accepts is the one `decide` chose from the snapshot,
and its channel is not tracked. -/
theorem Inv.chosen (h : Inv lsp w) (ha : w.accepts lsp i = some (l, c)) :
    w.manager.inFlight.lookup c.userChannelId = none ∧
      ∃ d, LargestUsable lsp l.candidates d ∧ d.userChannelId = c.userChannelId ∧
        d.fundingTxo = some c.fundingTxo := by
  obtain ⟨amountSats, hp⟩ := phase_of_accepts ha
  obtain ⟨ts, t, hf⟩ := h.follows
  rw [Follows, hp] at hf
  obtain ⟨hb, -⟩ := hf
  have hdec := hb.decision
  rw [Tick.decision, hb.candidates] at hdec
  obtain ⟨-, d, f, hd, hdf, hn, rfl⟩ := decide_eq_splice.1 hdec
  exact ⟨lookup_eq_none_iff.2 hn, d, hd, rfl, hdf⟩

/-- The condition on a step that accepts a splice. -/
theorem Inv.unmoved_iff (h : Inv lsp w) (ha : w.accepts lsp i = some (l, c)) :
    Unmoved lsp w i ↔ fundingTxoOf w.channels c.userChannelId = some c.fundingTxo := by
  obtain ⟨-, d, hd, hu, hf⟩ := h.chosen ha
  constructor
  · intro hm
    have hd' := hm l c ha d hd
    rwa [hu, hf] at hd'
  · intro hc l' c' ha' d' hd'
    obtain ⟨rfl, rfl⟩ := Prod.mk.inj (Option.some.inj (ha.symm.trans ha'))
    obtain rfl := hd.unique hd'
    rw [hu, hf, hc]

theorem unmoved_of_none (ha : w.accepts lsp i = none) : Unmoved lsp w i := by
  intro l c h
  rw [ha] at h
  cases h

/-- One step: what it records is current exactly when the channel is where the
snapshot showed it. -/
theorem Inv.records_iff (h : Inv lsp w) : RecordsCurrent lsp w i ↔ Unmoved lsp w i := by
  cases effect lsp w i with
  | inserted l c ha hm hs =>
    rw [h.unmoved_iff ha]
    constructor
    · intro hr
      exact hr _ ⟨c.fundingTxo, none⟩ (h.chosen ha).1 (by rw [hm, AList.lookup_insert])
    · intro hc u e hn he
      by_cases hu : u = c.userChannelId
      · subst hu
        rw [hm, AList.lookup_insert] at he
        rw [← Option.some.inj he]
        exact hc
      · rw [hm, AList.lookup_insert_ne hu, hn] at he
        cases he
  | advanced l ha hi hp hm hs =>
    refine iff_of_true (fun u e hn he => ?_) (unmoved_of_none ha)
    rw [hm, lookup_advanceInFlight, hn] at he
    cases he
  | untouched ha hp hm hs =>
    refine iff_of_true (fun u e hn he => ?_) (unmoved_of_none ha)
    rw [hm, hn] at he
    cases he

theorem Inv.step (h : Inv lsp w) (hu : Unmoved lsp w i) : Inv lsp (step lsp w i) where
  follows := by
    obtain ⟨ts, t, hf⟩ := h.follows
    cases i with
    | call call => exact follows_step hf w.channels call
    | promote ucid txo => exact ⟨ts, t, (manager_promote lsp w ucid txo).symm ▸ hf⟩
    | update channels => exact ⟨ts, t, hf⟩
  accepted := by
    intro v e he
    cases effect lsp w i with
    | inserted l c ha hm hs =>
      rw [hm] at he
      rw [hs]
      by_cases hv : v = c.userChannelId
      · subst hv
        rw [AList.lookup_insert] at he
        rw [← Option.some.inj he]
        exact ⟨_, AList.lookup_insert _, (h.unmoved_iff ha).1 hu⟩
      · rw [AList.lookup_insert_ne hv] at he ⊢
        exact h.accepted v e he
    | advanced l ha hi hp hm hs =>
      rw [hm, lookup_advanceInFlight, Option.bind_eq_some_iff] at he
      obtain ⟨e₀, he₀, ha⟩ := he
      rw [hs, initialFundingTxo_advanceEntry ha]
      exact h.accepted v e₀ he₀
    | untouched ha hp hm hs =>
      rw [hm] at he
      obtain ⟨s, hs₀, hf⟩ := h.accepted v e he
      obtain ⟨s', hs', hf'⟩ := hs v s hs₀
      exact ⟨s', hs', hf'.trans hf⟩

/-- An entry that records where its splice was accepted is stamped once its
channel has moved. -/
theorem Inv.stampsMoved (h : Inv lsp w) (i : Input) : StampsMoved lsp w i := by
  intro u hu
  obtain ⟨-, l, e, d, hp, he, -, hd, hf⟩ := stamps_iff.1 hu
  obtain ⟨s, hs, hsf⟩ := h.accepted u e he
  exact ⟨l, d, s, hp, hd, hs, by rwa [hsf]⟩

theorem Inv.stampsPromoted_iff (h : Inv lsp w) : StampsPromoted lsp w i ↔ Kept w i := by
  constructor
  · intro hst hi l hp u e s d he hn hs hpr hd
    obtain ⟨s', hs', hsf⟩ := h.accepted u e he
    obtain rfl : s' = s := Option.some.inj (hs'.symm.trans hs)
    by_contra hne
    rw [hsf] at hne
    obtain ⟨s'', hs'', hpr'⟩ := hst u (stamps_iff.2 ⟨hi, l, e, d, hp, he, hn, hd, hne⟩)
    obtain rfl : s'' = s' := Option.some.inj (hs''.symm.trans hs)
    rw [hpr] at hpr'
    cases hpr'
  · intro hk u hu
    obtain ⟨hi, l, e, d, hp, he, hn, hd, hf⟩ := stamps_iff.1 hu
    obtain ⟨s, hs, hsf⟩ := h.accepted u e he
    cases hpr : s.promoted with
    | true => exact ⟨s, hs, hpr⟩
    | false => exact absurd ((hk hi l hp u e s d he hn hs hpr hd).trans hsf) hf

theorem inv_init (lsp : PublicKey) (channels : List ChannelDetails) :
    Inv lsp (.init channels) where
  follows := ⟨[], willingTick 0 [], (follows_of_sleeping rfl).2 ⟨rfl, rfl⟩⟩
  accepted := by
    intro u e h
    cases h

/-! ## Runs -/

/-- Over a run of calls and steps of the node: every entry records the outpoint
its channel has when the node accepts the splice, and is stamped only once the
channel has another one, exactly when at every acceptance the channel has the
outpoint that the tick's snapshot shows. No entry is stamped before its splice
is promoted, in such a run, exactly when no snapshot shows a tracked channel
moved before that. -/
theorem recorded_iff (lsp : PublicKey) (channels : List ChannelDetails) (is : List Input) :
    ((∀ p ∈ trace (step lsp) (.init channels) is,
        RecordsCurrent lsp p.1 p.2 ∧ StampsMoved lsp p.1 p.2) ↔
      ∀ p ∈ trace (step lsp) (.init channels) is, Unmoved lsp p.1 p.2) ∧
    ((∀ p ∈ trace (step lsp) (.init channels) is,
        RecordsCurrent lsp p.1 p.2 ∧ StampsPromoted lsp p.1 p.2) ↔
      ∀ p ∈ trace (step lsp) (.init channels) is, Unmoved lsp p.1 p.2 ∧ Kept p.1 p.2) := by
  have hkeep : ∀ w i, Inv lsp w → Unmoved lsp w i → Inv lsp (step lsp w i) :=
    fun _ _ h hu => h.step hu
  have hkeep' : ∀ w i, Inv lsp w → Unmoved lsp w i ∧ Kept w i → Inv lsp (step lsp w i) :=
    fun _ _ h hu => h.step hu.1
  have hmoved : ∀ w i, Inv lsp w →
      (RecordsCurrent lsp w i ∧ StampsMoved lsp w i ↔ Unmoved lsp w i) := by
    intro w i h
    rw [h.records_iff]
    exact and_iff_left (h.stampsMoved i)
  have hpromoted : ∀ w i, Inv lsp w →
      (RecordsCurrent lsp w i ∧ StampsPromoted lsp w i ↔ Unmoved lsp w i ∧ Kept w i) := by
    intro w i h
    rw [h.records_iff, h.stampsPromoted_iff]
  have h0 := inv_init lsp channels
  exact ⟨forall_trace_iff h0 hmoved hkeep is, forall_trace_iff h0 hpromoted hkeep' is⟩

/-- A tick in whose course an earlier splice of its channel is promoted, a tick
30 s later, and one 60 s after that. -/
def promotedMidTick (b : ChannelDetails) : List Input :=
  [.call (.listChannels 0 50000), .call .decide, .update [b],
    .call (.getMaxSpliceInAmount fun _ _ => .ok 49000), .call .listChannelsAgain,
    .call (.spliceIn fun _ _ _ => .ok ()),
    .call (.listChannels (30 * 10 ^ 9) 50000), .call .decide,
    .call (.listChannels (90 * 10 ^ 9) 50000), .call .decide]

/-- The entry records the outpoint before the promotion. The next tick stamps
it, with the channel where the node accepted the splice, and the third drops
it; the splice is pending all along. -/
theorem stale_outpoint_recorded :
    let lsp : PublicKey := ⟨Vector.replicate 33 2⟩
    let a := lspChannel lsp 1 100000
    let is := promotedMidTick { a with fundingTxo := some ⟨Vector.replicate 32 9, 0⟩ }
    (¬ ∀ p ∈ trace (step lsp) (.init [a]) is, RecordsCurrent lsp p.1 p.2) ∧
      (¬ ∀ p ∈ trace (step lsp) (.init [a]) is, StampsMoved lsp p.1 p.2) ∧
      (¬ ∀ p ∈ trace (step lsp) (.init [a]) is, StampsPromoted lsp p.1 p.2) ∧
      (run (step lsp) (.init [a]) is).manager.inFlight.lookup ⟨1⟩ = none ∧
      (run (step lsp) (.init [a]) is).splices.lookup ⟨1⟩ =
        some ⟨some ⟨Vector.replicate 32 9, 0⟩, false⟩ := by
  intro lsp a is
  let old : OutPoint := ⟨Vector.replicate 32 1, 0⟩
  let w := run (step lsp) (.init [a]) (is.take 7)
  have hstamps : Stamps lsp w (.call .decide) ⟨1⟩ :=
    ⟨⟨old, none⟩, ⟨old, some (30 * 10 ^ 9)⟩, by decide, rfl, by decide, by decide⟩
  have hsplice : w.splices.lookup ⟨1⟩ = some ⟨some ⟨Vector.replicate 32 9, 0⟩, false⟩ := by decide
  refine ⟨fun h => ?_, fun h => ?_, fun h => ?_, by decide, by decide⟩
  · have hr := h _ (mem_trace is 5 (by decide)) ⟨1⟩ ⟨old, none⟩ (by decide) (by decide)
    exact absurd hr (by decide)
  · obtain ⟨l, d, s, hp, hd, hs, hne⟩ := h _ (mem_trace is 7 (by decide)) ⟨1⟩ hstamps
    obtain rfl : ⟨some ⟨Vector.replicate 32 9, 0⟩, false⟩ = s :=
      Option.some.inj (hsplice.symm.trans hs)
    obtain rfl : ⟨30 * 10 ^ 9, 50000, w.channels.map .ofDetails⟩ = l := Phase.listed.inj hp
    exact hne (by rw [← Option.some.inj hd]; rfl)
  · obtain ⟨s, hs, hpr⟩ := h _ (mem_trace is 7 (by decide)) ⟨1⟩ hstamps
    rw [← Option.some.inj (hsplice.symm.trans hs)] at hpr
    exact absurd hpr (by decide)

end Mdkd.Proof.Splice.Recorded
