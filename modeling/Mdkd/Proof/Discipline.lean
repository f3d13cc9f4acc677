import Mdkd.Framework.Num
import Mdkd.Proof.Expiry
import Mdkd.Proof.Store

/-!
# How often an expiry is announced

For one payment hash, a step changes two things: its row, and the number of
`InvoiceExpired` deliveries spawned for it. `find_poll` and `expiries_poll` say
what an iteration of the expiry monitor does to them, and `step_cases` what any
other step does; the invariants of runs are `Announced`, `Expirable` and
`Once`, and `expiry_discipline` is what they come to.
-/

namespace Mdkd.Proof.Expiry

open Framework Daemon InvoiceMetadataStore

/-- The delivery announces that the invoice of a payment hash has expired. -/
def isExpiryOf (h : String) (d : Delivery) : Bool :=
  match d.event with
  | .invoiceExpired h' _ _ => h' = h
  | .paymentReceived .. => false

/-- The number of expiry announcements spawned for a payment hash. -/
def expiries (h : String) (s : State) : Nat := s.spawned.countP (isExpiryOf h)

/-- The row of a payment hash. -/
abbrev rowAt (h : String) (s : State) : Option MetadataRow := s.store.invoices.find h

/-- A row with its announcement recorded. -/
def notified (row : MetadataRow) : MetadataRow := { row with notifiedExpired := 1 }

theorem map_notified_idem (o : Option MetadataRow) :
    (o.map notified).map notified = o.map notified := by
  cases o <;> rfl

/-! ## An iteration of the monitor -/

/-- An invoice with a webhook is announced once, under its payment hash. -/
theorem isExpiryOf_expiredDelivery (now : UInt64) {m : InvoiceMetadata} (h : String)
    (hw : m.webhookUrl.isSome) :
    ((expiredDelivery now m).map (isExpiryOf h)).getD false = decide (m.paymentHash = h) := by
  obtain ⟨url, hu⟩ := Option.isSome_iff_exists.1 hw
  rw [expiredDelivery, hu]
  rfl

/-- The row of a payment hash is due an announcement. -/
def due (now : UInt64) (h : String) (s : State) : Bool :=
  (rowAt h s).any (expiredPending now.toInt64)

theorem webhook_of_due {now : Int64} {row : MetadataRow} (h : expiredPending now row = true) :
    (InvoiceMetadata.ofRow row).webhookUrl.isSome :=
  Option.isSome_iff_ne_none.2 (expiredPending_iff.1 h).1

/-- An iteration announces the expiry of each payment hash that is due, once. -/
theorem expiries_poll (now : UInt64) (markOk : String → Bool) (s : State) (h : String) :
    expiries h (pollExpired now true markOk s) = expiries h s + if due now h s then 1 else 0 := by
  rw [expiries, spawned_pollExpired, List.countP_append, getExpiredPending, List.countP_filterMap,
    List.countP_map, List.countP_filter]
  congr 1
  rw [due, ← Table.countP_find]
  refine List.countP_congr fun row _ => ?_
  by_cases hx : expiredPending now.toInt64 row = true
  · have := isExpiryOf_expiredDelivery now h (webhook_of_due hx)
    simp only [Function.comp_apply, this, hx, Bool.and_true, Bool.true_and]
    rfl
  · simp [hx]

theorem find_notifyExpired (now : UInt64) (markOk : String → Bool) (s : State) (h : String)
    {m : InvoiceMetadata} (hw : m.webhookUrl.isSome) :
    rowAt h (notifyExpired now markOk s m) =
      if h = m.paymentHash ∧ markOk h = true then (rowAt h s).map notified else rowAt h s := by
  obtain ⟨url, hu⟩ := Option.isSome_iff_exists.1 hw
  simp only [notifyExpired, expiredDelivery, hu, Option.map_some, rowAt]
  by_cases hm : markOk m.paymentHash = true
  · simp only [hm, ↓reduceIte, Store.find_markExpiredNotified]
    by_cases hk : h = m.paymentHash
    · rw [if_pos hk, if_pos ⟨hk, hk ▸ hm⟩]
      rfl
    · rw [if_neg hk, if_neg fun h' => hk h'.1]
  · have hn : ¬ (h = m.paymentHash ∧ markOk h = true) := fun h' => hm (h'.1 ▸ h'.2)
    rw [if_neg hm, if_neg hn]

/-- The loop marks the rows of the invoices it announces, where the mark succeeds. -/
theorem find_foldl_notifyExpired (now : UInt64) (markOk : String → Bool) (h : String)
    {ms : List InvoiceMetadata} (hw : ∀ m ∈ ms, m.webhookUrl.isSome) (s : State) :
    rowAt h (ms.foldl (notifyExpired now markOk) s) =
      if h ∈ ms.map (·.paymentHash) ∧ markOk h = true then (rowAt h s).map notified
      else rowAt h s := by
  induction ms generalizing s with
  | nil => simp
  | cons m ms ih =>
    rw [List.foldl_cons, ih (fun m' hm' => hw m' (List.mem_cons_of_mem _ hm')),
      find_notifyExpired now markOk s h (hw m List.mem_cons_self)]
    simp only [List.map_cons, List.mem_cons]
    by_cases hm : markOk h = true
    · by_cases hk : h = m.paymentHash
      · by_cases hms : h ∈ ms.map (·.paymentHash)
        · rw [if_pos ⟨hms, hm⟩, if_pos ⟨hk, hm⟩, if_pos ⟨.inl hk, hm⟩, map_notified_idem]
        · rw [if_neg fun h' => hms h'.1, if_pos ⟨hk, hm⟩, if_pos ⟨.inl hk, hm⟩]
      · simp only [hk, false_or, false_and, ↓reduceIte]
    · simp only [hm, Bool.false_eq_true, and_false, ↓reduceIte]

theorem mem_paymentHash_getExpiredPending (now : UInt64) (s : State) (h : String) :
    h ∈ (s.store.getExpiredPending now).map (·.paymentHash) ↔ due now h s = true := by
  rw [due, Option.any_eq_true, getExpiredPending, List.map_map]
  simp only [List.mem_map, List.mem_filter, Function.comp_apply]
  constructor
  · rintro ⟨row, ⟨hr, hx⟩, rfl⟩
    exact ⟨row, Table.find_eq_some.2 ⟨hr, rfl⟩, hx⟩
  · rintro ⟨row, hr, hx⟩
    obtain ⟨hmem, rfl⟩ := Table.find_eq_some.1 hr
    exact ⟨row, ⟨hmem, hx⟩, rfl⟩

/-- An iteration marks the rows that are due, where the mark succeeds. -/
theorem find_poll (now : UInt64) (markOk : String → Bool) (s : State) (h : String) :
    rowAt h (pollExpired now true markOk s) =
      if due now h s = true ∧ markOk h = true then (rowAt h s).map notified else rowAt h s := by
  have hw : ∀ m ∈ s.store.getExpiredPending now, m.webhookUrl.isSome := by
    intro m hm
    obtain ⟨row, hr, rfl⟩ := List.mem_map.1 hm
    exact webhook_of_due (List.mem_filter.1 hr).2
  rw [pollExpired, if_neg (by decide), find_foldl_notifyExpired now markOk h hw]
  simp only [mem_paymentHash_getExpiredPending]

/-! ## Any other step -/

/-- What a step other than an iteration does to the row of a payment hash. -/
inductive RowChange : Option MetadataRow → Option MetadataRow → Prop where
  | same (row : Option MetadataRow) : RowChange row row
  | paid (row : MetadataRow) : RowChange (some row) (some { row with paid := 1 })
  | inserted (m : InvoiceMetadata) : RowChange none (some (rowOf m))

theorem rowChange_markPaid (s : InvoiceMetadataStore) (k h : String) :
    RowChange (s.invoices.find h) ((s.markPaid k).invoices.find h) := by
  rw [Store.find_markPaid]
  by_cases hk : h = k
  · rw [if_pos hk]
    cases s.invoices.find h with
    | none => exact .same _
    | some row => exact .paid row
  · rw [if_neg hk]
    exact .same _

theorem rowChange_insert (s : InvoiceMetadataStore) (m : InvoiceMetadata) (h : String) :
    RowChange (s.invoices.find h) (((s.insert m).getD s).invoices.find h) := by
  unfold InvoiceMetadataStore.insert
  cases hi : s.invoices.insert (rowOf m) with
  | none => exact .same _
  | some invoices =>
    show RowChange _ (invoices.find h)
    rw [Table.find_insert hi]
    by_cases hk : h = m.paymentHash
    · subst hk
      have hnew : s.invoices.find m.paymentHash = none := Table.find_of_insert hi
      rw [hnew]
      show RowChange none (if m.paymentHash = m.paymentHash then _ else _)
      rw [if_pos rfl]
      exact .inserted m
    · show RowChange _ (if h = m.paymentHash then _ else _)
      rw [if_neg hk]
      exact .same _

/-- A step is an iteration whose query succeeds, or it announces no expiry and
inserts or pays at most. -/
theorem step_cases (s : State) (i : Input) :
    (∃ now markOk, i = .poll now true markOk) ∨
      ∀ h, expiries h (step s i) = expiries h s ∧ RowChange (rowAt h s) (rowAt h (step s i)) := by
  cases i with
  | insert m ok =>
    right
    intro h
    cases ok with
    | false => exact ⟨rfl, .same _⟩
    | true => exact ⟨rfl, rowChange_insert s.store m h⟩
  | poll now queryOk markOk =>
    cases queryOk with
    | true => exact .inl ⟨now, markOk, rfl⟩
    | false => exact .inr fun h => ⟨rfl, .same _⟩
  | event e now lookupOk markOk =>
    right
    intro h
    show expiries h (handleEvent now lookupOk markOk s e) = _ ∧
      RowChange _ (rowAt h (handleEvent ..))
    rcases Events.handleEvent_cases now lookupOk markOk s e with he | ⟨k, sats, m, -, -, he⟩
    · rw [he]
      exact ⟨rfl, .same _⟩
    · rw [he]
      refine ⟨?_, ?_⟩
      · show List.countP _ (_ ++ _) = _
        rw [List.countP_append]
        cases m.webhookUrl <;> simp [expiries, isExpiryOf, Events.announcement]
      · cases markOk with
        | false => exact .same _
        | true => exact rowChange_markPaid s.store k h

/-! ## Invariants -/

/-- The row of a payment hash records that its expiry was announced. -/
def Recorded (h : String) (s : State) : Prop :=
  ∃ row, rowAt h s = some row ∧ row.notifiedExpired = 1

/-- What is recorded as announced has been. -/
def Announced (s : State) : Prop := ∀ h, Recorded h s → 0 < expiries h s

/-- What has been announced has a row that expires, with a webhook. -/
def Expirable (s : State) : Prop :=
  ∀ h, 0 < expiries h s → ∃ row, rowAt h s = some row ∧ row.expiresAt ≠ 0 ∧ row.webhookUrl ≠ none

/-- Nothing has been announced twice, and what has been is recorded. -/
def Once (s : State) : Prop :=
  ∀ h, expiries h s ≤ 1 ∧ (0 < expiries h s → Recorded h s)

/-- No mark of an iteration fails. -/
def MarksSucceed (s : State) (i : Input) : Prop :=
  ∀ now markOk, i = .poll now true markOk → ∀ h, due now h s = true → markOk h = true

theorem due_iff {now : UInt64} {h : String} {s : State} :
    due now h s = true ↔
      ∃ row, rowAt h s = some row ∧ expiredPending now.toInt64 row = true := by
  rw [due, Option.any_eq_true]

theorem not_recorded_of_due {now : UInt64} {h : String} {s : State} (hd : due now h s = true) :
    ¬ Recorded h s := by
  obtain ⟨row, hr, hx⟩ := due_iff.1 hd
  rintro ⟨row', hr', hn⟩
  obtain rfl := Option.some.inj (hr.symm.trans hr')
  rw [(expiredPending_iff.1 hx).2.2.2] at hn
  exact absurd hn (by decide)

theorem recorded_poll {now : UInt64} {markOk : String → Bool} {s : State} {h : String} :
    Recorded h (pollExpired now true markOk s) ↔
      Recorded h s ∨ due now h s = true ∧ markOk h = true := by
  unfold Recorded
  rw [find_poll]
  by_cases hd : due now h s = true ∧ markOk h = true
  · obtain ⟨row, hr, -⟩ := due_iff.1 hd.1
    rw [if_pos hd, hr]
    exact iff_of_true ⟨notified row, rfl, rfl⟩ (.inr hd)
  · rw [if_neg hd]
    simp only [hd, or_false]

theorem RowChange.recorded {r r' : Option MetadataRow} (h : RowChange r r') :
    (∃ row, r' = some row ∧ row.notifiedExpired = 1) ↔
      ∃ row, r = some row ∧ row.notifiedExpired = 1 := by
  cases h with
  | same => rfl
  | paid row => simp
  | inserted m =>
    refine iff_of_false ?_ (by simp)
    rintro ⟨row, hr, hn⟩
    obtain rfl := Option.some.inj hr
    have h0 : (0 : Int64) = 1 := hn
    exact absurd h0 (by decide)

theorem announced_step (s : State) (i : Input) (hs : Announced s) : Announced (step s i) := by
  intro h hr
  rcases step_cases s i with ⟨now, markOk, rfl⟩ | hq
  · show 0 < expiries h (pollExpired now true markOk s)
    rw [expiries_poll]
    rcases recorded_poll.1 hr with hr | hd
    · have := hs h hr
      omega
    · rw [if_pos hd.1]
      omega
  · obtain ⟨he, hc⟩ := hq h
    rw [he]
    exact hs h (hc.recorded.1 hr)

theorem once_step (s : State) (i : Input) (hs : Once s) (hi : MarksSucceed s i) :
    Once (step s i) := by
  intro h
  obtain ⟨hle, hrec⟩ := hs h
  rcases step_cases s i with ⟨now, markOk, rfl⟩ | hq
  · show expiries h (pollExpired now true markOk s) ≤ 1 ∧ (0 < expiries h (pollExpired ..) →
      Recorded h (pollExpired now true markOk s))
    rw [expiries_poll, recorded_poll]
    by_cases hd : due now h s = true
    · have h0 : ¬ 0 < expiries h s := fun hpos => not_recorded_of_due hd (hrec hpos)
      rw [if_pos hd]
      exact ⟨by omega, fun _ => .inr ⟨hd, hi now markOk rfl h hd⟩⟩
    · rw [if_neg hd]
      exact ⟨hle, fun hpos => .inl (hrec hpos)⟩
  · obtain ⟨he, hc⟩ := hq h
    rw [he]
    exact ⟨hle, fun hpos => hc.recorded.2 (hrec hpos)⟩

/-- A row with its announcement due, or announced, keeps its expiry and its webhook. -/
theorem RowChange.kept {r r' : Option MetadataRow} (h : RowChange r r') {row : MetadataRow}
    (hr : r = some row) : ∃ row', r' = some row' ∧ row'.expiresAt = row.expiresAt ∧
      row'.webhookUrl = row.webhookUrl := by
  cases h with
  | same => exact ⟨row, hr, rfl, rfl⟩
  | paid row' =>
    obtain rfl := Option.some.inj hr
    exact ⟨_, rfl, rfl, rfl⟩
  | inserted m => cases hr

theorem kept_poll {now : UInt64} {markOk : String → Bool} {s : State} {h : String}
    {row : MetadataRow} (hr : rowAt h s = some row) :
    ∃ row', rowAt h (pollExpired now true markOk s) = some row' ∧ row'.expiresAt = row.expiresAt ∧
      row'.webhookUrl = row.webhookUrl := by
  rw [find_poll, hr]
  by_cases hd : due now h s = true ∧ markOk h = true
  · rw [if_pos hd]
    exact ⟨notified row, rfl, rfl, rfl⟩
  · rw [if_neg hd]
    exact ⟨row, rfl, rfl, rfl⟩

theorem expirable_step (s : State) (i : Input) (hs : Expirable s) : Expirable (step s i) := by
  intro h hpos
  rcases step_cases s i with ⟨now, markOk, rfl⟩ | hq
  · have hrow : ∃ row, rowAt h s = some row ∧ row.expiresAt ≠ 0 ∧ row.webhookUrl ≠ none := by
      have hpos' : 0 < expiries h (pollExpired now true markOk s) := hpos
      rw [expiries_poll] at hpos'
      by_cases hd : due now h s = true
      · obtain ⟨row, hr, hx⟩ := due_iff.1 hd
        obtain ⟨hw, h0, -⟩ := expiredPending_iff.1 hx
        exact ⟨row, hr, fun e => absurd (e ▸ h0) (by decide), hw⟩
      · rw [if_neg hd] at hpos'
        exact hs h hpos'
    obtain ⟨row, hr, h0, hw⟩ := hrow
    obtain ⟨row', hr', he, hwe⟩ := kept_poll hr
    exact ⟨row', hr', he ▸ h0, hwe ▸ hw⟩
  · obtain ⟨he, hc⟩ := hq h
    rw [he] at hpos
    obtain ⟨row, hr, h0, hw⟩ := hs h hpos
    obtain ⟨row', hr', he', hwe⟩ := hc.kept hr
    exact ⟨row', hr', he' ▸ h0, hwe ▸ hw⟩

/-! ## Runs -/

/-- The deliveries of an iteration, counted for one payment hash. -/
theorem countP_spawnedBy_poll (s : State) (now : UInt64) (markOk : String → Bool) (h : String) :
    (spawnedBy s (.poll now true markOk)).countP (isExpiryOf h) = if due now h s then 1 else 0 := by
  have he := expiries_poll now markOk s h
  show ((pollExpired now true markOk s).spawned.drop _).countP _ = _
  rw [expiries, expiries, spawned_pollExpired, List.countP_append] at he
  rw [spawned_pollExpired, List.drop_left]
  omega

/-- What the query compares as signed numbers, it would select as unsigned
ones too, at any time the clock can show. -/
theorem expiredPending_of {now : UInt64} (hnow : now.toNat < 2 ^ 63) {row : MetadataRow}
    (hw : row.webhookUrl ≠ none) (h0 : 0 < (InvoiceMetadata.ofRow row).expiresAt)
    (hle : (InvoiceMetadata.ofRow row).expiresAt ≤ now) (hn : row.notifiedExpired = 0) :
    expiredPending now.toInt64 row = true := by
  have hlt : row.expiresAt.toUInt64.toNat ≤ now.toNat := UInt64.le_iff_toNat_le.1 hle
  have hpos : 0 < row.expiresAt.toUInt64.toNat := UInt64.lt_iff_toNat_lt.1 h0
  have he : row.expiresAt.toInt = row.expiresAt.toUInt64.toNat := by
    have := toInt_toInt64 (a := row.expiresAt.toUInt64) (by omega)
    rwa [Int64.toInt64_toUInt64] at this
  have h0 : (0 : Int64).toInt = 0 := rfl
  refine expiredPending_iff.2 ⟨hw, ?_, ?_, hn⟩
  · rw [Int64.lt_iff_toInt_lt, he, h0]
    omega
  · rw [Int64.le_iff_toInt_le, he, toInt_toInt64 hnow]
    omega

/-- The discipline of expiry announcements over a run from an empty database,
whatever store operations fail:

* a row that records its announcement was announced;
* if no mark fails, nothing is announced twice;
* an iteration whose query succeeds announces every invoice with a webhook that
  has expired by then and whose announcement is not recorded, exactly once;
* an invoice that does not expire, or has no webhook, is never announced. -/
theorem expiry_discipline (is : List Input) :
    let s := run step .init is
    (∀ row ∈ s.store.invoices.rows, row.notifiedExpired = 1 → 0 < expiries row.paymentHash s) ∧
    ((∀ p ∈ trace step .init is, MarksSucceed p.1 p.2) → ∀ h, expiries h s ≤ 1) ∧
    (∀ p ∈ trace step .init is, ∀ now markOk, p.2 = .poll now true markOk → now.toNat < 2 ^ 63 →
      ∀ row ∈ p.1.store.invoices.rows, row.webhookUrl ≠ none →
        0 < (InvoiceMetadata.ofRow row).expiresAt → (InvoiceMetadata.ofRow row).expiresAt ≤ now →
        row.notifiedExpired = 0 →
        (spawnedBy p.1 p.2).countP (isExpiryOf row.paymentHash) = 1) ∧
    ∀ row ∈ s.store.invoices.rows, row.expiresAt = 0 ∨ row.webhookUrl = none →
      expiries row.paymentHash s = 0 := by
  intro s
  refine ⟨fun row hr hn => ?_, fun hm h => ?_, fun p _ now markOk hi hnow row hr hw h0 hle hn => ?_,
    fun row hr hx => ?_⟩
  · have ha : Announced s := invariant_run (fun h ⟨row, hr, _⟩ => by cases hr) announced_step is
    exact ha _ ⟨row, Table.find_eq_some.2 ⟨hr, rfl⟩, hn⟩
  · have ho : Once s := invariant_run_of
      (fun h => ⟨Nat.zero_le 1, fun hpos => absurd hpos (Nat.lt_irrefl 0)⟩) once_step hm
    exact (ho h).1
  · have hd : due now row.paymentHash p.1 = true :=
      due_iff.2 ⟨row, Table.find_eq_some.2 ⟨hr, rfl⟩, expiredPending_of hnow hw h0 hle hn⟩
    rw [hi, countP_spawnedBy_poll, if_pos hd]
  · have he : Expirable s := invariant_run
      (fun h hpos => absurd hpos (Nat.lt_irrefl 0)) expirable_step is
    by_contra hne
    obtain ⟨row', hr', h0, hw⟩ := he row.paymentHash (Nat.pos_of_ne_zero hne)
    obtain rfl := Option.some.inj (hr'.symm.trans (Table.find_eq_some.2 ⟨hr, rfl⟩))
    rcases hx with hx | hx
    · exact h0 hx
    · exact hw hx

end Mdkd.Proof.Expiry
