import Mdkd.Framework.Trace
import Mdkd.Impl.PayWait

/-!
# The wait loop

A message that settles the payment is followed from its send to the loop
(`kept_run`), which gets closer to it with every read (`ended_run`); what ends
the loop is in `endedWell_run`, and `replied_run` says what is answered.
`settles_iff` is about ids and their texts, and `reply_payChecked` says that the
interleaved call does what `handle_pay` does.
-/

namespace Mdkd.Proof.PayWait

open Framework Client Mdkd.Pay Mdkd.PayWait
open EventLoop (Message channelCapacity)

/-! ## Ids and their texts -/

theorem toLowerHexString_eq (bytes : Bytes32) : toLowerHexString bytes = toHex bytes := by
  have hhigh : ∀ b : UInt8, (b >>> 4).toNat = b.toNat / 16 := by
    intro b
    rw [UInt8.toNat_shiftRight]
    exact Nat.shiftRight_eq_div_pow b.toNat 4
  have hlow : ∀ b : UInt8, (b &&& 15).toNat = b.toNat % 16 := by
    intro b
    rw [UInt8.toNat_and]
    exact Nat.and_two_pow_sub_one_eq_mod b.toNat 4
  have htable : ∀ n < 16, hexTable.getD n '0' = hexDigit n := by decide
  rw [toLowerHexString, toHex, hexDigits_eq_flatMap]
  congr 1
  refine List.flatMap_congr fun b _ => ?_
  have hb : b.toNat < 256 := b.toNat_lt
  rw [hhigh, hlow, htable _ (by omega), htable _ (by omega)]

/-- The two texts of an id are one. -/
theorem formatPaymentId_some (id : PaymentId) :
    String.ofList (id.bytes.toList.flatMap formatByte) = toLowerHexString id.bytes ∧
      formatPaymentId (some id) = toLowerHexString id.bytes := by
  rw [toLowerHexString_eq]
  refine ⟨?_, rfl⟩
  rw [toHex, hexDigits_eq_flatMap]
  congr 1
  exact List.flatMap_congr fun b _ => formatByte_eq b

/-- The text of an event's id is that of one payment: another id has another
text, and so has an event without an id. -/
theorem formatPaymentId_eq_iff {o : Option PaymentId} {id : PaymentId} :
    formatPaymentId o = toLowerHexString id.bytes ↔ o = some id := by
  rw [toLowerHexString_eq]
  cases o with
  | none =>
    refine iff_of_false (fun h => ?_) (by simp)
    have hn : fromHex 32 (formatPaymentId none) = none := by decide
    rw [h, fromHex_toHex] at hn
    cases hn
  | some pid =>
    rw [formatPaymentId, toHex_inj, Option.some.injEq]
    exact ⟨fun h => by cases pid; cases id; cases h; rfl, fun h => h ▸ rfl⟩

/-- The event of the node settles the payment. -/
def SettlesPayment (e : LdkEvent) (id : PaymentId) : Prop :=
  (∃ paymentHash fee, e = .paymentSuccessful (some id) paymentHash fee) ∨
    ∃ paymentHash reason, e = .paymentFailed (some id) paymentHash reason

/-- The loop returns on the client's event exactly when the node's is of the
payment. -/
theorem settles_iff {e : LdkEvent} {ev : MdkEvent} (h : (handleLdkEvent e).2 = some ev)
    {id : PaymentId} : settles (toLowerHexString id.bytes) ev = true ↔ SettlesPayment e id := by
  cases e with
  | paymentSuccessful pid paymentHash fee =>
    obtain rfl := Option.some.inj h
    simp only [settles, decide_eq_true_eq, formatPaymentId_eq_iff]
    simp [SettlesPayment]
  | paymentFailed pid paymentHash reason =>
    obtain rfl := Option.some.inj h
    simp only [settles, decide_eq_true_eq, formatPaymentId_eq_iff]
    simp [SettlesPayment]
  | other => cases h
  | _ =>
    obtain rfl := Option.some.inj h
    simp [settles, SettlesPayment]

/-! ## One message -/

/-- The messages a run sends. -/
def sentIn (s : System) (is : List Input) : List Message :=
  (trace step s is).filterMap fun p => p.1.sends p.2

/-- The receiver of the call, until the loop for `id` is over. -/
def Listens (id : PaymentId) (c : Call) (rx : Receiver Message channelCapacity) : Prop :=
  c = .subscribed rx ∨ c = .waiting id rx

variable {s : System} {i : Input} {c : Call} {id : PaymentId} {m : Message} {n : ℕ}
  {rx : Receiver Message channelCapacity}

theorem sentIn_cons (s : System) (i : Input) (is : List Input) :
    sentIn s (i :: is) = (s.sends i).toList ++ sentIn (step s i) is := by
  rw [sentIn, trace_cons, List.filterMap_cons]
  cases s.sends i <;> rfl

theorem sentIn_append (s : System) (is js : List Input) :
    sentIn s (is ++ js) = sentIn s is ++ sentIn (run step s is) js := by
  induction is generalizing s with
  | nil => rfl
  | cons i is ih => rw [List.cons_append, sentIn_cons, sentIn_cons, ih, List.append_assoc]; rfl

/-- A turn of the loop: it returns, or it has read no message that settles the
payment and waits on. -/
theorem turn_cases (clientDropped : Bool) (id : PaymentId)
    (rx : Receiver Message channelCapacity) :
    (∃ m, rx.recv.1 = .message m ∧ settles (toLowerHexString id.bytes) m.event = true ∧
      turn clientDropped id rx = .ended id (.settled m.event)) ∨
    (rx.recv.1 = .empty ∧ clientDropped = true ∧
      turn clientDropped id rx = .ended id .closed) ∨
    ((∀ m, rx.recv.1 = .message m → settles (toLowerHexString id.bytes) m.event = false) ∧
      turn clientDropped id rx = .waiting id rx.recv.2) := by
  unfold turn
  cases rx.recv.1 with
  | message m =>
    by_cases hs : settles (toLowerHexString id.bytes) m.event = true
    · exact .inl ⟨m, rfl, hs, if_pos hs⟩
    · refine .inr (.inr ⟨fun m' h => ?_, if_neg hs⟩)
      rw [← Received.message.inj h]
      exact Bool.eq_false_iff.2 hs
  | lagged k => exact .inr (.inr ⟨fun m h => (by cases h), rfl⟩)
  | empty =>
    cases clientDropped with
    | true => exact .inr (.inl ⟨rfl, rfl, rfl⟩)
    | false => exact .inr (.inr ⟨fun m h => (by cases h), rfl⟩)

/-- The message, with `n` sent after it, is unread while the call listens. -/
def Kept (id : PaymentId) (m : Message) (n : ℕ) : Call → Prop
  | .resolved => False
  | .subscribed rx => rx.Waits m n (2 * channelCapacity - 1)
  | .waiting id' rx => id' = id → rx.Waits m n (2 * channelCapacity - 1)
  | .refused _ | .ended .. | .replied .. => True

theorem Kept.waits (h : Kept id m n c) (hl : Listens id c rx) :
    rx.Waits m n (2 * channelCapacity - 1) := by
  rcases hl with rfl | rfl
  · exact h
  · exact h rfl

/-- A message is unread right after it is sent to a call that has subscribed. -/
theorem kept_of_send (hr : c ≠ .resolved) (id : PaymentId) (m : Message) :
    Kept id m 0 (c.send (some m)) := by
  have hsend : ∀ rx : Receiver Message channelCapacity,
      (rx.send m).Waits m 0 (2 * channelCapacity - 1) :=
    fun rx => Receiver.waits_send rx m (by decide)
  cases c with
  | resolved => exact absurd rfl hr
  | subscribed rx => exact hsend rx
  | waiting id' rx => exact fun _ => hsend rx
  | _ => trivial

/-- Sending keeps a message unread that is not pushed out. -/
theorem Kept.send (h : Kept id m n c) {mo : Option Message}
    (hn : n + mo.toList.length < channelCapacity) :
    Kept id m (n + mo.toList.length) (c.send mo) := by
  have hsend : ∀ rx : Receiver Message channelCapacity,
      rx.Waits m n (2 * channelCapacity - 1) →
        (mo.elim rx rx.send).Waits m (n + mo.toList.length) (2 * channelCapacity - 1) := by
    intro rx hw
    cases mo with
    | none => exact hw
    | some m' => exact hw.send hn m'
  cases c with
  | resolved => exact h
  | subscribed rx => exact hsend rx h
  | waiting id' rx => exact fun e => hsend rx (h e)
  | _ => trivial

/-- The loop does not pass a message over that settles the payment. -/
theorem Kept.recv (hm : settles (toLowerHexString id.bytes) m.event = true) (h : Kept id m n c)
    (clientDropped : Bool) : Kept id m n (c.recv clientDropped) := by
  cases c with
  | waiting id' rx =>
    rw [Call.recv]
    rcases turn_cases clientDropped id' rx with ⟨m', -, -, he⟩ | ⟨-, -, he⟩ | ⟨hne, he⟩
    · rw [he]
      trivial
    · rw [he]
      trivial
    · rw [he]
      rintro rfl
      rcases (h rfl).recv with hr | ⟨j, hj, hw⟩
      · rw [hne m hr] at hm
        cases hm
      · exact hw.mono (by omega)
  | _ => exact h

theorem Kept.subscribe (h : Kept id m n c) : Kept id m n c.subscribe := by
  cases c with
  | resolved => cases h
  | _ => exact h

theorem Kept.timeout (h : Kept id m n c) : Kept id m n c.timeout := by
  cases c with
  | waiting id' rx => trivial
  | _ => exact h

theorem Kept.reply (h : Kept id m n c) (node : PaymentStore) (target : PaymentTarget) :
    Kept id m n (c.reply node target) := by
  cases c with
  | ended id' why => trivial
  | _ => exact h

theorem Kept.dispatch (h : Kept id m n c) (result : Except AppError PaymentId) :
    Kept id m n (c.dispatch result) := by
  cases c with
  | subscribed rx =>
    cases result with
    | ok id' => exact fun _ => h
    | error e => trivial
  | _ => exact h

/-- What a step does to the call. -/
theorem call_step (s : System) (i : Input) :
    (step s i).call = match i with
      | .task _ => s.call.send (s.sends i)
      | .records _ | .dropClient => s.call
      | .subscribe => s.call.subscribe
      | .dispatch result => s.call.dispatch result
      | .recv => s.call.recv s.clientDropped
      | .timeout => s.call.timeout
      | .reply => s.call.reply s.node s.target := by
  cases i with
  | task j =>
    unfold step
    by_cases hd : s.clientDropped = true
    · have hs : s.sends (.task j) = none := if_pos hd
      simp only [hd, hs, ↓reduceIte]
      cases s.call <;> rfl
    · simp only [hd, Bool.false_eq_true, ↓reduceIte]
  | _ => rfl

theorem kept_step (hm : settles (toLowerHexString id.bytes) m.event = true)
    (h : Kept id m n s.call) (hn : n + (s.sends i).toList.length < channelCapacity) :
    Kept id m (n + (s.sends i).toList.length) (step s i).call := by
  rw [call_step]
  cases i with
  | task j => exact h.send hn
  | records node => exact h
  | dropClient => exact h
  | subscribe => exact h.subscribe
  | dispatch result => exact h.dispatch result
  | recv => exact h.recv hm s.clientDropped
  | timeout => exact h.timeout
  | reply => exact h.reply s.node s.target

theorem kept_run (hm : settles (toLowerHexString id.bytes) m.event = true)
    (h : Kept id m n s.call) {is : List Input}
    (hn : n + (sentIn s is).length < channelCapacity) :
    Kept id m (n + (sentIn s is).length) (run step s is).call := by
  induction is generalizing s n with
  | nil => exact h
  | cons i is ih =>
    rw [sentIn_cons, List.length_append] at hn ⊢
    rw [run_cons, ← Nat.add_assoc]
    exact ih (kept_step hm h (by omega)) (by omega)

theorem kept_sent (hr : s.call ≠ .resolved) (hs : s.sends i = some m) (id : PaymentId) :
    Kept id m 0 (step s i).call := by
  cases i with
  | task j =>
    rw [call_step, hs]
    exact kept_of_send hr id m
  | _ => cases hs

/-! ## The end of the loop -/

/-- The loop for `id` is over. -/
def Over (id : PaymentId) (why : Ended) (c : Call) : Prop :=
  c = .ended id why ∨ ∃ response, c = .replied id why response

/-- It stays over. -/
theorem over_step {why : Ended} (h : Over id why s.call) (i : Input) :
    Over id why (step s i).call := by
  rw [call_step]
  rcases h with h | ⟨r, h⟩
  · rw [h]
    cases i with
    | reply => exact .inr ⟨_, rfl⟩
    | _ => exact .inl rfl
  · rw [h]
    cases i <;> exact .inr ⟨r, rfl⟩

theorem over_run {why : Ended} (h : Over id why s.call) (is : List Input) :
    Over id why (run step s is).call := by
  induction is generalizing s with
  | nil => exact h
  | cons i is ih => exact ih (over_step h i)

def isRecv : Input → Bool
  | .recv => true
  | _ => false

/-- The loop that reads on gets to an unread message that settles the payment,
unless the message is pushed out. -/
theorem ended_run (hm : settles (toLowerHexString id.bytes) m.event = true) {k : ℕ}
    (hc : s.call = .waiting id rx) (hw : rx.Waits m n k) {is : List Input}
    (ht : ∀ i ∈ is, i ≠ .timeout) (hk : k < is.countP isRecv)
    (hn : n + (sentIn s is).length < channelCapacity) :
    ∃ ev, settles (toLowerHexString id.bytes) ev = true ∧
      Over id (.settled ev) (run step s is).call := by
  induction is generalizing s rx n k with
  | nil => exact absurd hk (Nat.not_lt_zero k)
  | cons i is ih =>
    rw [List.forall_mem_cons] at ht
    rw [sentIn_cons, List.length_append] at hn
    rw [run_cons]
    have hrest : n + (sentIn (step s i) is).length < channelCapacity := by omega
    have hcall := call_step s i
    rw [hc] at hcall
    cases i with
    | task j =>
      rw [List.countP_cons_of_neg Bool.false_ne_true] at hk
      cases hs : s.sends (.task j) with
      | none =>
        rw [hs] at hcall
        exact ih hcall hw ht.2 hk hrest
      | some m' =>
        rw [hs] at hcall hn
        rw [Option.toList_some, List.length_singleton] at hn
        exact ih hcall (hw.send (by omega) m') ht.2 hk (by omega)
    | recv =>
      rw [List.countP_cons_of_pos rfl] at hk
      rcases turn_cases s.clientDropped id rx with ⟨m', -, hs', he⟩ | ⟨he, -, -⟩ | ⟨hne, he⟩
      · exact ⟨m'.event, hs', over_run (.inl (hcall.trans he)) is⟩
      · exact absurd he hw.recv_ne_empty
      · rcases hw.recv with hr | ⟨j, rfl, hw'⟩
        · rw [hne m hr] at hm
          cases hm
        · exact ih (hcall.trans he) hw' ht.2 (by omega) hrest
    | timeout => exact absurd rfl ht.1
    | _ =>
      rw [List.countP_cons_of_neg Bool.false_ne_true] at hk
      exact ih hcall hw ht.2 hk hrest

variable {why : Ended} {response : PayResponse}

/-- A loop ends in one step: on an event of the payment, on a closed channel, or
at the timeout. -/
theorem ended_of_step (h : (step s i).call = .ended id why) :
    s.call = .ended id why ∨
      (∃ ev, why = .settled ev ∧ settles (toLowerHexString id.bytes) ev = true) ∨
      (why = .closed ∧ s.clientDropped = true) ∨ (why = .timedOut ∧ i = .timeout) := by
  rw [call_step] at h
  cases hc : s.call with
  | waiting id' rx =>
    rw [hc] at h
    cases i with
    | recv =>
      rw [Call.recv] at h
      rcases turn_cases s.clientDropped id' rx with ⟨m', -, hs', he⟩ | ⟨-, hd, he⟩ | ⟨-, he⟩
      · obtain ⟨rfl, rfl⟩ := Call.ended.inj (he.symm.trans h)
        exact .inr (.inl ⟨_, rfl, hs'⟩)
      · obtain ⟨rfl, rfl⟩ := Call.ended.inj (he.symm.trans h)
        exact .inr (.inr (.inl ⟨rfl, hd⟩))
      · cases he.symm.trans h
    | timeout =>
      obtain ⟨rfl, rfl⟩ := Call.ended.inj h
      exact .inr (.inr (.inr ⟨rfl, rfl⟩))
    | _ => cases h
  | ended id' why' =>
    rw [hc] at h
    cases i with
    | reply => cases h
    | _ => exact .inl h
  | subscribed rx =>
    rw [hc] at h
    cases i with
    | dispatch result => cases result <;> cases h
    | _ => cases h
  | _ =>
    rw [hc] at h
    cases i <;> cases h

/-- A reply is given once, when the loop is over, from the node's record then. -/
theorem replied_of_step (h : (step s i).call = .replied id why response) :
    s.call = .replied id why response ∨
      (i = .reply ∧ s.call = .ended id why ∧ response = replyTo s.node s.target id) := by
  rw [call_step] at h
  cases hc : s.call with
  | replied id' why' r =>
    rw [hc] at h
    cases i <;> exact .inl h
  | ended id' why' =>
    rw [hc] at h
    cases i with
    | reply =>
      obtain ⟨rfl, rfl, rfl⟩ := Call.replied.inj h
      exact .inr ⟨rfl, rfl, rfl⟩
    | _ => cases h
  | waiting id' rx =>
    rw [hc] at h
    cases i with
    | recv =>
      rw [Call.recv] at h
      rcases turn_cases s.clientDropped id' rx with ⟨m', -, -, he⟩ | ⟨-, -, he⟩ | ⟨-, he⟩
      · cases he.symm.trans h
      · cases he.symm.trans h
      · cases he.symm.trans h
    | _ => cases h
  | subscribed rx =>
    rw [hc] at h
    cases i with
    | dispatch result => cases result <;> cases h
    | _ => cases h
  | _ =>
    rw [hc] at h
    cases i <;> cases h

/-- A loop that is over was over before, or ended in this step. -/
theorem over_of_step (h : Over id why (step s i).call) :
    Over id why s.call ∨
      (∃ ev, why = .settled ev ∧ settles (toLowerHexString id.bytes) ev = true) ∨
      (why = .closed ∧ s.clientDropped = true) ∨ (why = .timedOut ∧ i = .timeout) := by
  rcases h with h | ⟨response, h⟩
  · rcases ended_of_step h with h | h
    · exact .inl (.inl h)
    · exact .inr h
  · rcases replied_of_step h with h | ⟨-, h, -⟩
    · exact .inl (.inr ⟨response, h⟩)
    · exact .inl (.inl h)

theorem task_step (s : System) (j : EventLoop.Input) :
    (step s (.task j)).clientDropped = s.clientDropped ∧ (step s (.task j)).target = s.target := by
  show (if s.clientDropped = true then s else _).clientDropped = _ ∧
    (if s.clientDropped = true then s else _).target = _
  split <;> exact ⟨rfl, rfl⟩

theorem clientDropped_run {tasks : EventLoop.System} {node : PaymentStore}
    {target : PaymentTarget} {is : List Input}
    (h : (run step (.init tasks node target) is).clientDropped = true) : .dropClient ∈ is := by
  induction is using List.reverseRecOn with
  | nil => cases h
  | append_singleton is i ih =>
    rw [run_snoc] at h
    cases i with
    | dropClient => simp
    | task j => exact List.mem_append_left _ (ih ((task_step _ j).1 ▸ h))
    | _ => exact List.mem_append_left _ (ih h)

/-- What ended a loop. -/
theorem ended_by {tasks : EventLoop.System} {node : PaymentStore} {target : PaymentTarget}
    {is : List Input} (h : Over id why (run step (.init tasks node target) is).call) :
    (∃ ev, why = .settled ev ∧ settles (toLowerHexString id.bytes) ev = true) ∨
      (why = .closed ∧ .dropClient ∈ is) ∨ (why = .timedOut ∧ .timeout ∈ is) := by
  induction is using List.reverseRecOn with
  | nil => rcases h with h | ⟨r, h⟩ <;> cases h
  | append_singleton is i ih =>
    rw [run_snoc] at h
    rcases over_of_step h with h | h | ⟨hw, hd⟩ | ⟨hw, rfl⟩
    · rcases ih h with h | ⟨hw, hd⟩ | ⟨hw, ht⟩
      · exact .inl h
      · exact .inr (.inl ⟨hw, List.mem_append_left _ hd⟩)
      · exact .inr (.inr ⟨hw, List.mem_append_left _ ht⟩)
    · exact .inl h
    · exact .inr (.inl ⟨hw, List.mem_append_left _ (clientDropped_run hd)⟩)
    · exact .inr (.inr ⟨hw, by simp⟩)

/-! ## The reply -/

/-- The status the node's record has, pending where there is none. -/
def storedStatus (node : PaymentStore) (id : PaymentId) : PayStatus :=
  (node.payment id).elim .pending fun d => mapStatus d.status

theorem status_replyTo (node : PaymentStore) (target : PaymentTarget) (id : PaymentId) :
    (replyTo node target id).status = storedStatus node id := by
  unfold replyTo storedStatus
  cases node.payment id <;> rfl

theorem target_run (s : System) (is : List Input) : (run step s is).target = s.target := by
  induction is generalizing s with
  | nil => rfl
  | cons i is ih =>
    rw [run_cons, ih]
    cases i with
    | task j => exact (task_step s j).2
    | _ => rfl

/-- The reply of a run. -/
theorem replied_run {tasks : EventLoop.System} {node : PaymentStore} {target : PaymentTarget}
    {is : List Input}
    (h : (run step (.init tasks node target) is).call = .replied id why response) :
    ∃ pre post, is = pre ++ .reply :: post ∧
      (run step (.init tasks node target) pre).call = .ended id why ∧
      response = replyTo (run step (.init tasks node target) pre).node target id := by
  induction is using List.reverseRecOn with
  | nil => cases h
  | append_singleton is i ih =>
    rw [run_snoc] at h
    rcases replied_of_step h with h | ⟨rfl, he, hr⟩
    · obtain ⟨pre, post, rfl, hp⟩ := ih h
      exact ⟨pre, post ++ [i], by simp, hp⟩
    · rw [target_run] at hr
      exact ⟨is, [], rfl, he, hr⟩

/-! ## The call without its surroundings -/

/-- What a read gives the loop, unless it has to wait. -/
def outcome (clientDropped : Bool) : Received Message → Option RecvOutcome
  | .message m => some (.ok m.event)
  | .lagged missed => some (.lagged (.ofNat missed))
  | .empty => if clientDropped then some .closed else none

/-- What a step gives the loop. -/
def reads (s : System) : Input → Option RecvOutcome
  | .recv =>
    match s.call with
    | .waiting _ rx => outcome s.clientDropped rx.recv.1
    | _ => none
  | _ => none

/-- What a run gives the loop. -/
def readIn (s : System) (is : List Input) : List RecvOutcome :=
  (trace step s is).filterMap fun p => reads p.1 p.2

theorem readIn_cons (s : System) (i : Input) (is : List Input) :
    readIn s (i :: is) = (reads s i).toList ++ readIn (step s i) is := by
  rw [readIn, trace_cons, List.filterMap_cons]
  cases reads s i <;> rfl

/-- A loop that is over reads no more. -/
theorem readIn_of_over (h : Over id why s.call) (is : List Input) : readIn s is = [] := by
  induction is generalizing s with
  | nil => rfl
  | cons i is ih =>
    have hr : reads s i = none := by
      cases i with
      | recv =>
        rcases h with h | ⟨r, h⟩
        · simp only [reads, h]
        · simp only [reads, h]
      | _ => rfl
    rw [readIn_cons, hr, ih (over_step h i)]
    rfl

theorem awaitSettled_ok (hex : String) (ev : MdkEvent) (os : List RecvOutcome) :
    awaitSettled hex (.ok ev :: os) =
      if settles hex ev = true then 1 else 1 + awaitSettled hex os := by
  cases ev with
  | paymentSuccessful pid _ _ => simp [awaitSettled, settles]
  | paymentFailed pid _ => simp [awaitSettled, settles]
  | _ => rfl

/-- The loop of a run reads what the loop of `handle_pay` reads. -/
theorem awaitSettled_readIn (hc : s.call = .waiting id rx) (is : List Input) :
    awaitSettled (toLowerHexString id.bytes) (readIn s is) = (readIn s is).length := by
  induction is generalizing s rx with
  | nil => rfl
  | cons i is ih =>
    have hcall := call_step s i
    rw [hc] at hcall
    rw [readIn_cons]
    cases i with
    | recv =>
      have hr : reads s .recv = outcome s.clientDropped rx.recv.1 := by simp only [reads, hc]
      rw [hr]
      rcases turn_cases s.clientDropped id rx with ⟨m', hm', hs', he⟩ | ⟨hm', hd, he⟩ | ⟨hne, he⟩
      · rw [readIn_of_over (.inl (hcall.trans he)), hm']
        show awaitSettled _ [RecvOutcome.ok m'.event] = 1
        rw [awaitSettled_ok, if_pos hs']
      · rw [readIn_of_over (.inl (hcall.trans he)), hm', hd]
        rfl
      · have htail := ih (hcall.trans he)
        cases hm : rx.recv.1 with
        | message m' =>
          show awaitSettled _ (RecvOutcome.ok m'.event :: readIn _ is) = (readIn _ is).length + 1
          rw [awaitSettled_ok, if_neg (by rw [hne m' hm]; exact Bool.false_ne_true), htail]
          omega
        | lagged missed =>
          show 1 + awaitSettled _ (readIn _ is) = (readIn _ is).length + 1
          rw [htail]
          omega
        | empty =>
          cases hd : s.clientDropped with
          | true =>
            rw [turn, hm, hd] at he
            cases he
          | false => exact htail
    | timeout =>
      rw [readIn_of_over (.inl hcall)]
      rfl
    | task j => exact ih hcall
    | _ => exact ih hcall

/-- A call that has dispatched its payment replies what `handle_pay` answers,
where that reads what the run gives the loop, and the node's record as it is
when the loop is over. -/
theorem ended_payChecked {env : PayEnv} {req : PayRequest} {waitSecs : UInt64}
    {amountMsat : Option UInt64} (hw : waitSecs ≠ 0)
    (ht : resolveTarget env req amountMsat = .ok s.target)
    (hcheck : checkTarget req s.target = .ok ())
    (hd : (dispatch env s.target req).result = .ok id) (hc : s.call = .waiting id rx)
    (is : List Input) (hr : env.received = readIn s is)
    (hp : env.payment env.received.length id = (run step s is).node.payment id) :
    (payChecked env req waitSecs amountMsat).result =
      .ok (replyTo (run step s is).node s.target id) := by
  have hread : awaitSettled (toHex id.bytes) env.received = env.received.length := by
    rw [hr, ← toLowerHexString_eq]
    exact awaitSettled_readIn hc is
  rw [payChecked, Act.result_bind_of_ok (a := s.target) ht,
    Act.result_bind_of_ok (a := ()) hcheck, Act.result_bind_of_ok hd, if_neg hw, hread]
  simp only [hp]
  rfl

/-- The wait loop of a call, for every run of the tasks around it:

* an event of the payment sent once the call has subscribed is unread while the
  call listens, and a loop that reads on returns on such an event, unless the
  event is pushed out by the later ones;
* a loop ends on an event of the payment, on a closed channel, or at the
  timeout; the text of an id is the same from either encoder, that of no other
  id, and not that of an event without one;
* the status answered is the one the node has stored then. -/
theorem pay_waits (tasks : EventLoop.System) (node : PaymentStore) (target : PaymentTarget) :
    let s₀ := System.init tasks node target
    (∀ pre i post id m, (run step s₀ pre).call ≠ .resolved →
      (run step s₀ pre).sends i = some m → settles (toLowerHexString id.bytes) m.event = true →
      let s := step (run step s₀ pre) i
      (∀ rx, Listens id (run step s post).call rx →
        m ∈ rx.unread ∨ channelCapacity ≤ (sentIn s post).length) ∧
      ∀ rx is, (run step s post).call = .waiting id rx → (∀ i ∈ is, i ≠ .timeout) →
        2 * channelCapacity ≤ is.countP isRecv →
        (∃ ev, settles (toLowerHexString id.bytes) ev = true ∧
          Over id (.settled ev) (run step s (post ++ is)).call) ∨
        channelCapacity ≤ (sentIn s (post ++ is)).length) ∧
    (∀ is id why, Over id why (run step s₀ is).call →
      (∃ ev, why = .settled ev ∧ settles (toLowerHexString id.bytes) ev = true) ∨
        (why = .closed ∧ .dropClient ∈ is) ∨ (why = .timedOut ∧ .timeout ∈ is)) ∧
    (∀ id : PaymentId,
      String.ofList (id.bytes.toList.flatMap formatByte) = toLowerHexString id.bytes ∧
      (∀ o, formatPaymentId o = toLowerHexString id.bytes ↔ o = some id) ∧
      ∀ e ev, (handleLdkEvent e).2 = some ev →
        (settles (toLowerHexString id.bytes) ev = true ↔ SettlesPayment e id)) ∧
    ∀ is id why response, (run step s₀ is).call = .replied id why response →
      ∃ pre post, is = pre ++ .reply :: post ∧ (run step s₀ pre).call = .ended id why ∧
        response.status = storedStatus (run step s₀ pre).node id := by
  intro s₀
  refine ⟨fun pre i post id m hr hs hm => ?_, fun is id why h => ended_by h, fun id => ?_,
    fun is id why response h => ?_⟩
  · intro s
    have hkept : (sentIn s post).length < channelCapacity →
        Kept id m (sentIn s post).length (run step s post).call := by
      intro hn
      rw [← Nat.zero_add (sentIn s post).length] at hn ⊢
      exact kept_run hm (kept_sent hr hs id) hn
    refine ⟨fun rx hl => ?_, fun rx is hc ht hrecv => ?_⟩
    · by_cases hn : (sentIn s post).length < channelCapacity
      · exact .inl ((hkept hn).waits hl).mem
      · exact .inr (Nat.le_of_not_lt hn)
    · by_cases hn : (sentIn s (post ++ is)).length < channelCapacity
      · rw [sentIn_append, List.length_append] at hn
        have hw := (hkept (by omega)).waits (.inr hc)
        have hlt : 2 * channelCapacity - 1 < is.countP isRecv := by
          have : 0 < channelCapacity := by decide
          omega
        rw [run_append]
        exact .inl (ended_run hm hc hw ht hlt hn)
      · exact .inr (Nat.le_of_not_lt hn)
  · obtain ⟨hf, -⟩ := formatPaymentId_some id
    exact ⟨hf, fun o => formatPaymentId_eq_iff, fun e ev h => settles_iff h⟩
  · obtain ⟨pre, post, his, he, rfl⟩ := replied_run h
    exact ⟨pre, post, his, he, status_replyTo _ _ _⟩

end Mdkd.Proof.PayWait
