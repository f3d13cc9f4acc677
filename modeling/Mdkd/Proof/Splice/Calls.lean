import Mdkd.Impl.SpliceSteps
import Mdkd.Proof.Splice.Step

/-!
# The calls of a tick

Whatever the node does between the calls of a tick, they come to one `tick` of
what the calls have read: `calls_eq_tick` for a tick that starts and ends, and
`follows_run` for a manager in any phase (`Follows`), so that what holds of runs
of ticks holds of every manager that sleeps.
-/

namespace Mdkd.Proof.Splice

open Framework SpliceManager SpliceSteps

variable {lsp : PublicKey} {ts : List Tick} {t : Tick} {m : Manager} {l : Locals}
  {c : SpliceCandidate} {amountSats : UInt64} {events : List MdkEvent}

/-- The events of a run of ticks. -/
def emittedAfter (lsp : PublicKey) (ts : List Tick) : List MdkEvent :=
  (trace (tick lsp) ∅ ts).flatMap fun p => (p.2.outcome lsp p.1).2

theorem emittedAfter_snoc (lsp : PublicKey) (ts : List Tick) (t : Tick) :
    emittedAfter lsp (ts ++ [t]) = emittedAfter lsp ts ++ (t.outcome lsp (mapAfter lsp ts)).2 := by
  rw [emittedAfter, trace_snoc, List.flatMap_append, List.flatMap_singleton]
  rfl

/-! ## The map -/

theorem inFlight_fail (c : SpliceCandidate) (m : Manager) (e : MdkError) :
    (m.fail c e).inFlight = m.inFlight := by
  unfold Manager.fail
  split <;> rfl

theorem phase_fail (c : SpliceCandidate) (m : Manager) (e : MdkError) :
    (m.fail c e).phase = .sleeping := by
  unfold Manager.fail
  split <;> rfl

theorem inFlight_listChannels (now : Nat) (spendable : UInt64) (channels : List ChannelDetails)
    (m : Manager) : (m.listChannels now spendable channels).inFlight = m.inFlight := by
  unfold Manager.listChannels
  split <;> rfl

theorem decide_of_skip {r : SkipReason} (hp : m.phase = .listed l)
    (hd : SpliceManager.decide l.onchainBalanceSats l.candidates lsp
      (advanceInFlight m.inFlight l.candidates l.now).keys = .skip r) :
    m.decide lsp =
      { m with inFlight := advanceInFlight m.inFlight l.candidates l.now, phase := .sleeping } := by
  rw [Manager.decide, hp]
  dsimp only
  rw [hd]

theorem decide_of_splice (hp : m.phase = .listed l)
    (hd : SpliceManager.decide l.onchainBalanceSats l.candidates lsp
      (advanceInFlight m.inFlight l.candidates l.now).keys = .splice c) :
    m.decide lsp =
      { m with
        inFlight := advanceInFlight m.inFlight l.candidates l.now, phase := .decided l c } := by
  rw [Manager.decide, hp]
  dsimp only
  rw [hd]

theorem inFlight_decide (hp : m.phase = .listed l) :
    (m.decide lsp).inFlight = advanceInFlight m.inFlight l.candidates l.now := by
  cases hd : SpliceManager.decide l.onchainBalanceSats l.candidates lsp
      (advanceInFlight m.inFlight l.candidates l.now).keys with
  | skip r => rw [decide_of_skip hp hd]
  | splice c => rw [decide_of_splice hp hd]

theorem decide_of_ne (hp : ∀ l, m.phase ≠ .listed l) : m.decide lsp = m := by
  unfold Manager.decide
  split
  · rename_i l h
    exact absurd h (hp l)
  · rfl

theorem inFlight_getMaxSpliceInAmount
    (answer : UserChannelId → PublicKey → Except NodeError UInt64) (m : Manager) :
    (m.getMaxSpliceInAmount lsp answer).inFlight = m.inFlight := by
  unfold Manager.getMaxSpliceInAmount
  split
  · split <;> rfl
  · rfl

theorem inFlight_listChannelsAgain (channels : List ChannelDetails) (m : Manager) :
    (m.listChannelsAgain channels).inFlight = m.inFlight := by
  unfold Manager.listChannelsAgain
  split
  · split
    · exact inFlight_fail ..
    · split
      · exact inFlight_fail ..
      · split
        · exact inFlight_fail ..
        · rfl
  · rfl

/-! ## A whole tick -/

theorem getMaxSpliceInAmount_of_sleeping (hp : m.phase = .sleeping)
    (answer : UserChannelId → PublicKey → Except NodeError UInt64) :
    m.getMaxSpliceInAmount lsp answer = m := by
  rw [Manager.getMaxSpliceInAmount, hp]

theorem listChannelsAgain_of_sleeping (hp : m.phase = .sleeping)
    (channels : List ChannelDetails) : m.listChannelsAgain channels = m := by
  rw [Manager.listChannelsAgain, hp]

theorem spliceIn_of_sleeping (hp : m.phase = .sleeping)
    (answer : UserChannelId → PublicKey → UInt64 → Except NodeError Unit) :
    m.spliceIn lsp answer = m := by
  rw [Manager.spliceIn, hp]

/-- The last two calls are `MdkClient::splice_in`, and `apply` after it. -/
theorem spliceIn_listChannelsAgain (hp : m.phase = .sized l c amountSats) (t : Tick) :
    (m.listChannelsAgain t.channelsAtSplice).spliceIn lsp t.nodeSpliceIn =
      match SpliceManager.spliceIn lsp t c.userChannelId amountSats with
      | .ok () =>
        { m.finish [.spliceInitiated c.channelId] with
          inFlight := m.inFlight.insert c.userChannelId ⟨c.fundingTxo, none⟩ }
      | .error e => m.fail c e := by
  rw [Manager.listChannelsAgain, hp, SpliceManager.spliceIn]
  dsimp only
  by_cases h0 : amountSats = 0
  · simp only [h0, ↓reduceIte]
    exact spliceIn_of_sleeping (phase_fail ..) _
  simp only [h0, ↓reduceIte]
  cases t.channelsAtSplice.find? fun d => d.userChannelId = c.userChannelId with
  | none => exact spliceIn_of_sleeping (phase_fail ..) _
  | some d =>
    by_cases hu : d.isUsable = true
    · simp only [hu, not_true_eq_false, ↓reduceIte, Manager.spliceIn]
      cases t.nodeSpliceIn c.userChannelId lsp amountSats with
      | ok r => rfl
      | error e => rfl
    · simp only [hu, Bool.false_eq_true, not_false_eq_true, ↓reduceIte]
      exact spliceIn_of_sleeping (phase_fail ..) _

/-- The end of a tick whose `MdkClient::splice_in` failed is that of `apply`. -/
theorem fail_eq_finish {e : MdkError} (m : Manager)
    (ha : t.getMaxSpliceInAmount c.userChannelId lsp = .ok amountSats)
    (hs : SpliceManager.spliceIn lsp t c.userChannelId amountSats = .error e) :
    (apply lsp t (.splice c)).1 = none ∧ m.fail c e = m.finish (apply lsp t (.splice c)).2 := by
  unfold Manager.fail
  split
  · simp only [apply, ha, hs, and_self]
  · simp only [apply, ha, hs, and_self]

/-- The calls of a tick that finds the manager asleep come to `tick`, whatever
becomes of the node's channels between its two listings. -/
theorem calls_eq_tick (hp : m.phase = .sleeping) (lsp : PublicKey) (t : Tick) :
    (((((m.listChannels t.now t.spendableOnchainBalanceSats t.channels).decide
      lsp).getMaxSpliceInAmount lsp t.getMaxSpliceInAmount).listChannelsAgain
      t.channelsAtSplice).spliceIn lsp t.nodeSpliceIn) =
      ⟨tick lsp m.inFlight t, .sleeping, m.emitted ++ (t.outcome lsp m.inFlight).2⟩ := by
  let l : Locals := ⟨t.now, t.spendableOnchainBalanceSats, t.candidates⟩
  have hlist : m.listChannels t.now t.spendableOnchainBalanceSats t.channels =
      { m with phase := .listed l } := by
    rw [Manager.listChannels, hp]
    rfl
  rw [hlist]
  cases hd : t.decision lsp (advanced m.inFlight t) with
  | skip r =>
    have ho : t.outcome lsp m.inFlight = (none, []) := by rw [Tick.outcome, hd, apply]
    rw [@decide_of_skip lsp { m with phase := .listed l } l r rfl hd,
      getMaxSpliceInAmount_of_sleeping rfl, listChannelsAgain_of_sleeping rfl,
      spliceIn_of_sleeping rfl, tick_of_none (by rw [ho]), ho, List.append_nil]
  | splice c =>
    have ho : t.outcome lsp m.inFlight = apply lsp t (.splice c) := by rw [Tick.outcome, hd]
    rw [@decide_of_splice lsp { m with phase := .listed l } l c rfl hd,
      Manager.getMaxSpliceInAmount]
    dsimp only
    cases hm : t.getMaxSpliceInAmount c.userChannelId lsp with
    | error e =>
      have ha : apply lsp t (.splice c) = (none, []) := by simp only [apply, hm]
      dsimp only
      rw [listChannelsAgain_of_sleeping rfl, spliceIn_of_sleeping rfl,
        tick_of_none (by rw [ho, ha]), ho, ha]
      rfl
    | ok amountSats =>
      dsimp only
      rw [spliceIn_listChannelsAgain rfl]
      cases hs : SpliceManager.spliceIn lsp t c.userChannelId amountSats with
      | ok r =>
        have ha : apply lsp t (.splice c) = (some (c.userChannelId, c.fundingTxo),
            [.spliceInitiated c.channelId]) := by simp only [apply, hm, hs]
        rw [tick_of_some (by rw [ho, ha]), ho, ha]
        rfl
      | error e =>
        dsimp only
        rw [(fail_eq_finish _ hm hs).2, tick_of_none (by rw [ho, (fail_eq_finish m hm hs).1]), ho]
        rfl

/-! ## Phases -/

/-- The manager has done the ticks `ts`. -/
structure Done (lsp : PublicKey) (ts : List Tick) (m : Manager) : Prop where
  inFlight : m.inFlight = mapAfter lsp ts
  emitted : m.emitted = emittedAfter lsp ts

/-- The manager has done the ticks `ts` and is in the next one, `t`, in which
it has decided to splice into `c`. -/
structure Began (lsp : PublicKey) (ts : List Tick) (t : Tick) (l : Locals) (c : SpliceCandidate)
    (m : Manager) : Prop where
  candidates : t.candidates = l.candidates
  inFlight : m.inFlight = advanced (mapAfter lsp ts) t
  emitted : m.emitted = emittedAfter lsp ts
  decision : t.decision lsp m.inFlight = .splice c

/-- The manager has done the ticks `ts`; a tick it is in has read what `t`
has. -/
def Follows (lsp : PublicKey) (ts : List Tick) (t : Tick) (m : Manager) : Prop :=
  match m.phase with
  | .sleeping => Done lsp ts m
  | .listed l =>
    Done lsp ts m ∧ t.now = l.now ∧ t.spendableOnchainBalanceSats = l.onchainBalanceSats ∧
      t.candidates = l.candidates
  | .decided l c => Began lsp ts t l c m
  | .sized l c amountSats =>
    Began lsp ts t l c m ∧ t.getMaxSpliceInAmount c.userChannelId lsp = .ok amountSats
  | .checked l c amountSats =>
    Began lsp ts t l c m ∧ t.getMaxSpliceInAmount c.userChannelId lsp = .ok amountSats ∧
      amountSats ≠ 0 ∧ ∃ d, (t.channelsAtSplice.find? fun d => d.userChannelId = c.userChannelId) =
        some d ∧ d.isUsable = true

theorem follows_of_sleeping (hp : m.phase = .sleeping) :
    Follows lsp ts t m ↔ Done lsp ts m := by
  rw [Follows, hp]

/-! ## The end of a tick -/

/-- What the tick a manager has begun comes to. -/
theorem Began.outcome (h : Began lsp ts t l c m) :
    t.outcome lsp (mapAfter lsp ts) = apply lsp t (.splice c) := by
  have hd := h.decision
  rw [h.inFlight] at hd
  rw [Tick.outcome, hd]

/-- It has read nothing of what comes after its decision. -/
theorem Began.answered (h : Began lsp ts t l c m)
    (getMaxSpliceInAmount : UserChannelId → PublicKey → Except NodeError UInt64)
    (channelsAtSplice : List ChannelDetails)
    (nodeSpliceIn : UserChannelId → PublicKey → UInt64 → Except NodeError Unit) :
    Began lsp ts { t with getMaxSpliceInAmount, channelsAtSplice, nodeSpliceIn } l c m :=
  ⟨h.candidates, h.inFlight, h.emitted, h.decision⟩

theorem Began.goesOn (h : Began lsp ts t l c m) (phase : Phase) :
    Began lsp ts t l c { m with phase } :=
  ⟨h.candidates, h.inFlight, h.emitted, h.decision⟩

theorem Began.done (h : Began lsp ts t l c m) (ha : apply lsp t (.splice c) = (none, events)) :
    Done lsp (ts ++ [t]) (m.finish events) where
  inFlight := by
    have ho : (t.outcome lsp (mapAfter lsp ts)).1 = none := by rw [h.outcome, ha]
    rw [mapAfter_snoc, tick_of_none ho]
    exact h.inFlight
  emitted := by
    rw [emittedAfter_snoc, h.outcome, ha, ← h.emitted]
    rfl

theorem Began.done_of_some {u : UserChannelId} {f : OutPoint} (h : Began lsp ts t l c m)
    (ha : apply lsp t (.splice c) = (some (u, f), events)) :
    Done lsp (ts ++ [t])
      { m.finish events with inFlight := m.inFlight.insert u ⟨f, none⟩ } where
  inFlight := by
    have ho : (t.outcome lsp (mapAfter lsp ts)).1 = some (u, f) := by rw [h.outcome, ha]
    rw [mapAfter_snoc, tick_of_some ho, ← h.inFlight]
  emitted := by
    rw [emittedAfter_snoc, h.outcome, ha, ← h.emitted]
    rfl

/-- A tick that ends in a failure of `MdkClient::splice_in`. -/
theorem Began.follows_of_failed {e : MdkError} (h : Began lsp ts t l c m)
    (ha : t.getMaxSpliceInAmount c.userChannelId lsp = .ok amountSats)
    (hs : SpliceManager.spliceIn lsp t c.userChannelId amountSats = .error e) :
    Follows lsp (ts ++ [t]) t (m.fail c e) := by
  obtain ⟨hn, hf⟩ := fail_eq_finish m ha hs
  rw [hf, follows_of_sleeping rfl]
  exact h.done (Prod.ext hn rfl)

/-! ## A call -/

theorem follows_listChannels (h : Follows lsp ts t m) (now : Nat) (spendable : UInt64)
    (channels : List ChannelDetails) :
    ∃ t', Follows lsp ts t' (m.listChannels now spendable channels) := by
  unfold Manager.listChannels
  cases hp : m.phase with
  | sleeping =>
    have hd := (follows_of_sleeping hp).1 h
    refine ⟨{ t with now, spendableOnchainBalanceSats := spendable, channels }, ?_⟩
    exact ⟨⟨hd.inFlight, hd.emitted⟩, rfl, rfl, rfl⟩
  | _ => exact ⟨t, h⟩

/-- `advance_in_flight` and `decide` are those of the tick. -/
theorem follows_decide (h : Follows lsp ts t m) :
    ∃ ts', Follows lsp ts' t (m.decide lsp) := by
  by_cases hp : ∃ l, m.phase = .listed l
  · obtain ⟨l, hp⟩ := hp
    rw [Follows, hp] at h
    obtain ⟨hd, hnow, hbal, hcs⟩ := h
    have hadv : advanceInFlight m.inFlight l.candidates l.now = advanced (mapAfter lsp ts) t := by
      rw [hd.inFlight, ← hcs, ← hnow]
    have hdec : SpliceManager.decide l.onchainBalanceSats l.candidates lsp
        (advanceInFlight m.inFlight l.candidates l.now).keys =
          t.decision lsp (advanced (mapAfter lsp ts) t) := by
      rw [hadv, Tick.decision, hbal, hcs]
    cases hr : t.decision lsp (advanced (mapAfter lsp ts) t) with
    | skip r =>
      have ho : t.outcome lsp (mapAfter lsp ts) = (none, []) := by rw [Tick.outcome, hr, apply]
      rw [decide_of_skip hp (hdec.trans hr), hadv]
      refine ⟨ts ++ [t], (follows_of_sleeping rfl).2 ⟨?_, ?_⟩⟩
      · rw [mapAfter_snoc, tick_of_none (by rw [ho])]
      · rw [emittedAfter_snoc, ho, List.append_nil]
        exact hd.emitted
    | splice c =>
      rw [decide_of_splice hp (hdec.trans hr), hadv]
      exact ⟨ts, hcs, rfl, hd.emitted, hr⟩
  · rw [decide_of_ne fun l hl => hp ⟨l, hl⟩]
    exact ⟨ts, h⟩

theorem follows_getMaxSpliceInAmount (h : Follows lsp ts t m)
    (answer : UserChannelId → PublicKey → Except NodeError UInt64) :
    ∃ ts' t', Follows lsp ts' t' (m.getMaxSpliceInAmount lsp answer) := by
  unfold Manager.getMaxSpliceInAmount
  cases hp : m.phase with
  | decided l c =>
    have hb := h
    rw [Follows, hp] at hb
    -- The tick goes on with this answer.
    let t' := { t with getMaxSpliceInAmount := answer }
    have hb' : Began lsp ts t' l c m := hb.answered answer t.channelsAtSplice t.nodeSpliceIn
    dsimp only
    cases ha : answer c.userChannelId lsp with
    | error e =>
      have hd : Done lsp (ts ++ [t']) (m.finish []) := hb'.done (by simp only [apply, t', ha])
      exact ⟨ts ++ [t'], t', (follows_of_sleeping rfl).2 hd⟩
    | ok amountSats =>
      exact ⟨ts, t', hb'.goesOn _, ha⟩
  | _ => exact ⟨ts, t, h⟩

theorem follows_listChannelsAgain (h : Follows lsp ts t m) (channels : List ChannelDetails) :
    ∃ ts' t', Follows lsp ts' t' (m.listChannelsAgain channels) := by
  unfold Manager.listChannelsAgain
  cases hp : m.phase with
  | sized l c amountSats =>
    have hb := h
    rw [Follows, hp] at hb
    let t' := { t with channelsAtSplice := channels }
    have hb' : Began lsp ts t' l c m :=
      hb.1.answered t.getMaxSpliceInAmount channels t.nodeSpliceIn
    have ha : t'.getMaxSpliceInAmount c.userChannelId lsp = .ok amountSats := hb.2
    -- A failed check is that of `MdkClient::splice_in`.
    have hfail : ∀ e, SpliceManager.spliceIn lsp t' c.userChannelId amountSats = .error e →
        ∃ ts' t', Follows lsp ts' t' (m.fail c e) := fun e he =>
      ⟨ts ++ [t'], t', hb'.follows_of_failed ha he⟩
    dsimp only
    by_cases h0 : amountSats = 0
    · simp only [h0, ↓reduceIte]
      exact hfail _ (by simp only [SpliceManager.spliceIn, h0, ↓reduceIte])
    simp only [h0, ↓reduceIte]
    cases hc : channels.find? fun d => d.userChannelId = c.userChannelId with
    | none => exact hfail _ (by simp only [SpliceManager.spliceIn, h0, t', hc, ↓reduceIte])
    | some d =>
      by_cases hu : d.isUsable = true
      · simp only [hu, not_true_eq_false, ↓reduceIte]
        exact ⟨ts, t', hb'.goesOn _, ha, h0, d, hc, hu⟩
      · simp only [hu, Bool.false_eq_true, not_false_eq_true, ↓reduceIte]
        exact hfail _ (by
          simp only [SpliceManager.spliceIn, h0, t', hc, hu, Bool.false_eq_true,
            not_false_eq_true, ↓reduceIte])
  | _ => exact ⟨ts, t, h⟩

theorem follows_spliceIn (h : Follows lsp ts t m)
    (answer : UserChannelId → PublicKey → UInt64 → Except NodeError Unit) :
    ∃ ts' t', Follows lsp ts' t' (m.spliceIn lsp answer) := by
  unfold Manager.spliceIn
  cases hp : m.phase with
  | checked l c amountSats =>
    have hb := h
    rw [Follows, hp] at hb
    obtain ⟨hb, ha, h0, d, hd, hu⟩ := hb
    let t' := { t with nodeSpliceIn := answer }
    have hb' : Began lsp ts t' l c m :=
      hb.answered t.getMaxSpliceInAmount t.channelsAtSplice answer
    have ha' : t'.getMaxSpliceInAmount c.userChannelId lsp = .ok amountSats := ha
    have hd' : (t'.channelsAtSplice.find? fun d => d.userChannelId = c.userChannelId) = some d := hd
    dsimp only
    cases hn : answer c.userChannelId lsp amountSats with
    | ok r =>
      have hs : SpliceManager.spliceIn lsp t' c.userChannelId amountSats = .ok () :=
        spliceIn_eq_ok.2 ⟨h0, d, hd', hu, hn⟩
      refine ⟨ts ++ [t'], t', (follows_of_sleeping rfl).2 (hb'.done_of_some ?_)⟩
      simp only [apply, ha', hs]
    | error e =>
      have hs : SpliceManager.spliceIn lsp t' c.userChannelId amountSats =
          .error (mapSpliceError e) := by
        simp only [SpliceManager.spliceIn, h0, hd', hu, t', hn, not_true_eq_false, ↓reduceIte]
      exact ⟨ts ++ [t'], t', hb'.follows_of_failed ha' hs⟩
  | _ => exact ⟨ts, t, h⟩

/-! ## Runs -/

/-- A call keeps the manager at a run of ticks. -/
theorem follows_step (h : Follows lsp ts t m) (channels : List ChannelDetails) (call : Call) :
    ∃ ts' t', Follows lsp ts' t' (m.step lsp channels call) := by
  cases call with
  | listChannels now spendable => exact ⟨ts, follows_listChannels h now spendable channels⟩
  | decide =>
    obtain ⟨ts', h'⟩ := follows_decide h
    exact ⟨ts', t, h'⟩
  | getMaxSpliceInAmount answer => exact follows_getMaxSpliceInAmount h answer
  | listChannelsAgain => exact follows_listChannelsAgain h channels
  | spliceIn answer => exact follows_spliceIn h answer

/-- The node may have other channels at every call. -/
theorem follows_run (lsp : PublicKey) (calls : List (List ChannelDetails × Call)) :
    ∃ ts t, Follows lsp ts t (run (fun m i => m.step lsp i.1 i.2) .init calls) := by
  have h0 : ∃ ts t, Follows lsp ts t .init :=
    ⟨[], willingTick 0 [], (follows_of_sleeping rfl).2 ⟨rfl, rfl⟩⟩
  have hs : ∀ (m : Manager) (i : List ChannelDetails × Call), (∃ ts t, Follows lsp ts t m) →
      ∃ ts t, Follows lsp ts t (m.step lsp i.1 i.2) := by
    intro m i h
    obtain ⟨ts, t, h⟩ := h
    exact follows_step h i.1 i.2
  exact @invariant_run _ _ _ _ (fun m => ∃ ts t, Follows lsp ts t m) h0 hs calls

end Mdkd.Proof.Splice
