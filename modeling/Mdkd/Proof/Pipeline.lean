import Mdkd.Framework.Ledger
import Mdkd.Proof.Service

/-!
# The daemon at work: its payments

A payment on its way from the node to the subscribers: in the node's queue, with
the client, on the channel, and then announced. `told` lists them all, the
announced first; `told_step` says what a step loses of it, and `payments_told`
what has become of the payments of a run. A payment is told apart by its hash
and the amount subscribers are told.
-/

namespace Mdkd.Proof.Service

open Framework Mdkd.Service

variable {env : Dispatcher.Env} {s : System}

/-! ## Where a payment can be -/

abbrev Payment : Type := String × UInt64

def ofLdkEvent : LdkEvent → Option Payment
  | .paymentReceived paymentHash amountMsat => some (paymentHash, amountMsat / 1000 * 1000)
  | _ => none

def ofMdkEvent : MdkEvent → Option Payment
  | .paymentReceived paymentHash amountSats => some (paymentHash, amountSats * 1000)
  | _ => none

def ofWebhookEvent : Daemon.WebhookEvent → Option Payment
  | .paymentReceived paymentHash amountMsat _ _ => some (paymentHash, amountMsat)
  | .invoiceExpired .. => none

/-- The payments the subscribers have been told of. -/
def announced (s : System) : List Payment := s.daemon.messages.filterMap ofWebhookEvent

abbrev Channel : Type := Option (Receiver EventLoop.Message EventLoop.channelCapacity)

def onChannel (rx : Channel) : List Payment :=
  (rx.elim [] (·.unread)).filterMap fun m => ofMdkEvent m.event

/-- The payment the client has acknowledged and is about to emit. -/
def atClient : EventLoop.ClientLoop → List Payment
  | .acknowledged e => (ofLdkEvent e.event).toList
  | _ => []

def inQueue (queue : List EventLoop.Numbered) : List Payment :=
  queue.filterMap fun e => ofLdkEvent e.event

/-- The payments on their way. -/
def onTheWay (l : EventLoop.System) : List Payment :=
  onChannel l.daemon ++ (atClient l.client ++ inQueue l.queue)

/-- All the payments there are, the announced first. -/
def told (s : System) : List Payment := announced s ++ onTheWay s.loop

/-- The payment of an event the node queues. -/
def queuedBy : LoopInput → List Payment
  | .enqueue event => (ofLdkEvent event).toList
  | _ => []

def enqueued : Input → List Payment
  | .loop j => queuedBy j
  | _ => []

/-! ## What a step loses -/

/-- The message a send on the channel costs: the one it evicts, or itself. -/
def lostBy (rx : Channel) (m : EventLoop.Message) : Option EventLoop.Message :=
  rx.elim (some m) (·.evicted m)

/-- The client acknowledges a payment only when the node hears of it. -/
def Acks (s : System) (i : Input) : Prop :=
  match i with
  | .loop (.eventHandled ok) =>
    match s.loop.client with
    | .handling e => ok = true ∨ ofLdkEvent e.event = none
    | _ => True
  | _ => True

/-- The step loses no payment: not on the channel, and not where the daemon
looks up its invoice. -/
def Tells (s : System) (i : Input) : Prop :=
  match i with
  | .loop j => ∀ m ∈ s.loop.sends j.toInput, ∀ lost ∈ lostBy s.loop.daemon m,
      ofMdkEvent lost.event = none
  | .recv lookupOk _ => ∀ m ∈ s.received, ∀ p ∈ ofMdkEvent m.event,
      lookupOk = true ∧ (s.daemon.store.getByPaymentHash p.1).isSome = true
  | _ => True

instance (s : System) (i : Input) : Decidable (Tells s i) :=
  match i with
  | .loop j => inferInstanceAs (Decidable (∀ m ∈ s.loop.sends j.toInput,
      ∀ lost ∈ lostBy s.loop.daemon m, ofMdkEvent lost.event = none))
  | .recv lookupOk _ => inferInstanceAs (Decidable (∀ m ∈ s.received, ∀ p ∈ ofMdkEvent m.event,
      lookupOk = true ∧ (s.daemon.store.getByPaymentHash p.1).isSome = true))
  | .tick _ | .insert _ _ | .poll _ _ | .wake _ | .answer _ _ | .connect | .read _ _ =>
    .isTrue trivial

/-- The event that is being handled is the first of the node's queue. -/
def Handling (s : System) : Prop :=
  ∀ e, s.loop.client = .handling e → s.loop.queue.head? = some e

/-- What is taken out of the middle of a list. -/
theorem append_sublist_iff {α : Type} (as xs bs : List α) :
    (as ++ bs).Sublist (as ++ (xs ++ bs)) ∧ (as ++ bs = as ++ (xs ++ bs) ↔ xs = []) := by
  refine ⟨(List.sublist_append_right xs bs).append_left as, ?_⟩
  rw [List.append_cancel_left_eq, List.self_eq_append_left]

theorem ofMdkEvent_handleLdkEvent (e : LdkEvent) :
    (Client.handleLdkEvent e).2.bind ofMdkEvent = ofLdkEvent e := by
  cases e <;> rfl

/-- A send on the channel. -/
theorem onChannel_send (rx : Channel) (m : EventLoop.Message) :
    (lostBy rx m).toList.filterMap (fun m => ofMdkEvent m.event) ++ onChannel (rx.map (·.send m)) =
      onChannel rx ++ (ofMdkEvent m.event).toList := by
  have hone : ∀ m : EventLoop.Message,
      [m].filterMap (fun m => ofMdkEvent m.event) = (ofMdkEvent m.event).toList := by
    intro m
    cases h : ofMdkEvent m.event <;> simp [h]
  cases rx with
  | none => exact (List.append_nil _).trans (hone m)
  | some r =>
    show (r.evicted m).toList.filterMap _ ++ (r.send m).unread.filterMap _ = r.unread.filterMap _ ++ _
    rw [← List.filterMap_append, Receiver.evicted_append_send, List.filterMap_append, hone]

theorem lost_eq_nil_iff (o : Option EventLoop.Message) :
    o.toList.filterMap (fun m => ofMdkEvent m.event) = [] ↔
      ∀ m ∈ o, ofMdkEvent m.event = none := by
  cases o with
  | none => simp
  | some m => simp

/-- What a step does to the payments there are: it adds what is queued, and
loses some unless it meets `Tells`. -/
def Moves (env : Dispatcher.Env) (s : System) (i : Input) : Prop :=
  (told (step env s i)).Sublist (told s ++ enqueued i) ∧
    (told (step env s i) = told s ++ enqueued i ↔ Tells s i)

theorem moves_of_eq {i : Input} (h : told (step env s i) = told s ++ enqueued i)
    (ht : Tells s i) : Moves env s i :=
  ⟨h ▸ List.Sublist.refl _, iff_of_true h ht⟩

/-! ## Steps of the client's tasks -/

variable {j : LoopInput}

/-- A step that sends nothing. -/
theorem moves_quiet (hsends : s.loop.sends j.toInput = none)
    (h : onTheWay (EventLoop.step s.loop j.toInput) = onTheWay s.loop ++ queuedBy j) :
    Moves env s (.loop j) := by
  refine moves_of_eq ?_ fun m hm => ?_
  · show announced s ++ onTheWay (EventLoop.step s.loop j.toInput) = told s ++ queuedBy j
    rw [h, told, List.append_assoc]
  · rw [hsends] at hm
    cases hm

/-- A step that sends a message, of the payment the client has at hand if it is
of one. -/
theorem moves_send {m : EventLoop.Message} (hsends : s.loop.sends j.toInput = some m)
    (hj : queuedBy j = [])
    (hchannel : (EventLoop.step s.loop j.toInput).daemon = s.loop.daemon.map (·.send m))
    (hqueue : (EventLoop.step s.loop j.toInput).queue = s.loop.queue)
    (hclient : atClient s.loop.client =
      (ofMdkEvent m.event).toList ++ atClient (EventLoop.step s.loop j.toInput).client) :
    Moves env s (.loop j) := by
  have hsend := onChannel_send s.loop.daemon m
  let rest := onChannel (s.loop.daemon.map (·.send m)) ++
    (atClient (EventLoop.step s.loop j.toInput).client ++ inQueue s.loop.queue)
  let lost := (lostBy s.loop.daemon m).toList.filterMap fun m => ofMdkEvent m.event
  have hafter : told (step env s (.loop j)) = announced s ++ rest := by
    show announced s ++ onTheWay (EventLoop.step s.loop j.toInput) = _
    rw [onTheWay, hchannel, hqueue]
  have hbefore : told s = announced s ++ (lost ++ rest) := by
    have hregroup : onTheWay s.loop = (onChannel s.loop.daemon ++ (ofMdkEvent m.event).toList) ++
        (atClient (EventLoop.step s.loop j.toInput).client ++ inQueue s.loop.queue) := by
      rw [onTheWay, hclient]
      simp only [List.append_assoc]
    rw [told, hregroup, ← hsend, List.append_assoc]
  have htells : Tells s (.loop j) ↔ lost = [] := by
    rw [lost_eq_nil_iff]
    show (∀ m' ∈ s.loop.sends j.toInput, _) ↔ _
    rw [hsends]
    simp
  have henqueued : enqueued (.loop j) = [] := hj
  rw [Moves, henqueued, List.append_nil, hafter, hbefore, htells]
  exact append_sublist_iff _ _ _

theorem inQueue_cons (e : EventLoop.Numbered) (queue : List EventLoop.Numbered) :
    inQueue (e :: queue) = (ofLdkEvent e.event).toList ++ inQueue queue := by
  cases h : ofLdkEvent e.event <;> simp [inQueue, h]

theorem onTheWay_enqueue (l : EventLoop.System) (event : LdkEvent) :
    onTheWay (EventLoop.step l (.enqueue event)) = onTheWay l ++ (ofLdkEvent event).toList := by
  have hqueue : inQueue (l.queue ++ [⟨l.next, event⟩]) =
      inQueue l.queue ++ (ofLdkEvent event).toList := by
    rw [inQueue, List.filterMap_append]
    cases h : ofLdkEvent event <;> simp [inQueue, h]
  show onChannel l.daemon ++ (atClient l.client ++ inQueue (l.queue ++ [⟨l.next, event⟩])) = _
  rw [hqueue, onTheWay]
  simp only [List.append_assoc]

theorem onTheWay_start (l : EventLoop.System) :
    onTheWay (EventLoop.step l .start) = onTheWay l := by
  simp only [EventLoop.step]
  split
  · rename_i h
    simp only [onTheWay, h, atClient]
  · rfl

theorem onTheWay_nextEvent (l : EventLoop.System) :
    onTheWay (EventLoop.step l .nextEvent) = onTheWay l := by
  simp only [EventLoop.step]
  split
  · rename_i h _
    simp only [onTheWay, h, atClient]
  · rfl

/-- An acknowledged payment passes from the queue to the client. -/
theorem onTheWay_eventHandled (hh : Handling s) {ok : Bool}
    (ha : Acks s (.loop (.eventHandled ok))) :
    onTheWay (EventLoop.step s.loop (.eventHandled ok)) = onTheWay s.loop := by
  cases hc : s.loop.client with
  | handling e =>
    obtain ⟨queue, hq⟩ := List.head?_eq_some_iff.1 (hh e hc)
    cases ok with
    | true =>
      simp only [EventLoop.step, hc, EventLoop.System.eventHandled, if_true, hq, List.tail_cons,
        onTheWay, inQueue_cons, atClient, List.nil_append]
    | false =>
      -- what is kept in the queue is not of a payment
      have hnot : ofLdkEvent e.event = none := by simpa [Acks, hc] using ha
      simp [EventLoop.step, hc, EventLoop.System.eventHandled, onTheWay, atClient, hnot]
  | _ => simp only [EventLoop.step, hc]

theorem onTheWay_subscribe (l : EventLoop.System) :
    onTheWay (EventLoop.step l .subscribe) = onTheWay l := by
  simp only [EventLoop.step]
  split
  · rename_i h
    simp only [onTheWay, h.2]
    rfl
  · rfl

/-- The client emits what it acknowledged. -/
theorem moves_emit (env : Dispatcher.Env) (s : System) : Moves env s (.loop .emit) := by
  cases hc : s.loop.client with
  | acknowledged e =>
    cases hm : (Client.handleLdkEvent e.event).2 with
    | none =>
      have hsends : s.loop.sends .emit = none := by simp only [EventLoop.System.sends, hc, hm]; rfl
      have hnot : ofLdkEvent e.event = none := by
        rw [← ofMdkEvent_handleLdkEvent, hm]
        rfl
      refine moves_quiet hsends ?_
      show onTheWay (EventLoop.step s.loop .emit) = onTheWay s.loop ++ []
      simp [EventLoop.step, hc, hsends, EventLoop.System.send, onTheWay, atClient, hnot]
    | some event =>
      have hsends : s.loop.sends .emit = some ⟨some e, event⟩ := by
        simp only [EventLoop.System.sends, hc, hm]
        rfl
      have hpayment : ofMdkEvent event = ofLdkEvent e.event := by
        rw [← ofMdkEvent_handleLdkEvent, hm]
        rfl
      refine moves_send hsends rfl ?_ ?_ ?_
      · simp only [LoopInput.toInput, EventLoop.step, hc, hsends, EventLoop.System.send]
      · simp only [LoopInput.toInput, EventLoop.step, hc, hsends, EventLoop.System.send]
      · simp only [LoopInput.toInput, EventLoop.step, hc, atClient, List.append_nil, hpayment]
  | _ =>
    refine moves_quiet (by simp only [LoopInput.toInput, EventLoop.System.sends, hc]) ?_
    show onTheWay (EventLoop.step s.loop .emit) = onTheWay s.loop ++ []
    simp only [EventLoop.step, hc, List.append_nil]

/-- The splice manager emits events of its own, of no payment. -/
theorem moves_splice {event : MdkEvent} (hj : j.toInput = .spliceManagerEmit event)
    (hq : queuedBy j = []) (hevent : ofMdkEvent event = none) : Moves env s (.loop j) := by
  by_cases hc : s.loop.client = .notStarted
  · have hsends : s.loop.sends (.spliceManagerEmit event) = none := if_pos hc
    refine moves_quiet (hj ▸ hsends) ?_
    rw [hj, hq, List.append_nil]
    show onTheWay (s.loop.send (s.loop.sends (.spliceManagerEmit event))) = _
    rw [hsends]
    rfl
  · have hsends : s.loop.sends (.spliceManagerEmit event) = some ⟨none, event⟩ := if_neg hc
    have hstep : EventLoop.step s.loop j.toInput =
        { s.loop with daemon := s.loop.daemon.map (·.send ⟨none, event⟩) } := by
      rw [hj]
      show s.loop.send (s.loop.sends (.spliceManagerEmit event)) = _
      rw [hsends]
      rfl
    refine moves_send (hj ▸ hsends) hq ?_ ?_ ?_
    · rw [hstep]
    · rw [hstep]
    · rw [hstep, hevent]
      rfl

theorem moves_loop (j : LoopInput) (hh : Handling s) (ha : Acks s (.loop j)) :
    Moves env s (.loop j) := by
  cases j with
  | enqueue event => exact moves_quiet rfl (onTheWay_enqueue s.loop event)
  | start => exact moves_quiet rfl ((onTheWay_start s.loop).trans (List.append_nil _).symm)
  | nextEvent => exact moves_quiet rfl ((onTheWay_nextEvent s.loop).trans (List.append_nil _).symm)
  | eventHandled ok =>
    exact moves_quiet rfl ((onTheWay_eventHandled hh ha).trans (List.append_nil _).symm)
  | emit => exact moves_emit env s
  | spliceInitiated channelId => exact moves_splice rfl rfl rfl
  | spliceFailed channelId reason => exact moves_splice rfl rfl rfl
  | subscribe => exact moves_quiet rfl ((onTheWay_subscribe s.loop).trans (List.append_nil _).symm)

/-! ## Steps of the daemon -/

/-- What the daemon announces of a message it is handed. -/
theorem announced_event (now : UInt64) (lookupOk markOk : Bool) (d : Daemon.State)
    (m : MdkEvent) : (Daemon.handleEvent now lookupOk markOk d m).messages.filterMap ofWebhookEvent =
      d.messages.filterMap ofWebhookEvent ++ (ofMdkEvent m).toList.filter fun p =>
        lookupOk && (d.store.getByPaymentHash p.1).isSome := by
  cases m with
  | paymentReceived paymentHash sats =>
    cases lookupOk with
    | false => simp [Daemon.handleEvent, ofMdkEvent]
    | true =>
      cases hm : d.store.getByPaymentHash paymentHash with
      | none =>
        rw [Events.handleEvent_of_new hm]
        simp [ofMdkEvent, hm]
      | some md =>
        rw [Events.handleEvent_of_stored hm]
        simp [Events.announce, Events.announcement, ofMdkEvent, ofWebhookEvent, hm]
  | _ => simp [Daemon.handleEvent, ofMdkEvent]

/-- The payment of the message the daemon's event loop reads next. -/
def nextPayment (s : System) : List Payment :=
  (s.received.bind fun m => ofMdkEvent m.event).toList

/-- A read takes it off the channel. -/
theorem onTheWay_recv (s : System) : onTheWay s.loop = nextPayment s ++ onTheWay s.loop.recv := by
  unfold nextPayment System.received EventLoop.System.recv
  cases hd : s.loop.daemon with
  | none => rfl
  | some r =>
    have hread := Receiver.received_append_recv r
    have hkeys : (r.unread).filterMap (fun m => ofMdkEvent m.event) =
        (r.recv.1.message?.bind fun m => ofMdkEvent m.event).toList ++
          r.recv.2.unread.filterMap fun m => ofMdkEvent m.event := by
      rw [← hread, List.filterMap_append]
      congr 1
      cases r.recv.1.message? with
      | none => rfl
      | some m => cases h : ofMdkEvent m.event <;> simp [h]
    show onChannel s.loop.daemon ++ _ = _
    rw [hd, Option.bind_some]
    show r.unread.filterMap _ ++ _ = _
    rw [hkeys, List.append_assoc]
    rfl

/-- The invoices the daemon looks up are those it finds. -/
def found (s : System) (lookupOk : Bool) (p : Payment) : Bool :=
  lookupOk && (s.daemon.store.getByPaymentHash p.1).isSome

theorem told_recv (env : Dispatcher.Env) (s : System) (lookupOk markOk : Bool) :
    told (step env s (.recv lookupOk markOk)) =
      announced s ++ ((nextPayment s).filter (found s lookupOk) ++ onTheWay s.loop.recv) := by
  show told (s.recv env lookupOk markOk) = _
  unfold System.recv nextPayment
  cases hr : s.received with
  | none => rfl
  | some m =>
    show (Daemon.handleEvent _ lookupOk markOk s.daemon m.event).messages.filterMap _ ++
      onTheWay s.loop.recv = _
    rw [announced_event, List.append_assoc]
    rfl

/-- A turn of the daemon's event loop. -/
theorem moves_recv (env : Dispatcher.Env) (s : System) (lookupOk markOk : Bool) :
    Moves env s (.recv lookupOk markOk) := by
  have hbefore : told s ++ enqueued (.recv lookupOk markOk) =
      announced s ++ (nextPayment s ++ onTheWay s.loop.recv) := by
    rw [told, onTheWay_recv]
    exact List.append_nil _
  have htells : Tells s (.recv lookupOk markOk) ↔
      (nextPayment s).filter (found s lookupOk) = nextPayment s := by
    rw [List.filter_eq_self]
    unfold nextPayment found
    show (∀ m ∈ s.received, ∀ p ∈ ofMdkEvent m.event, _) ↔ _
    cases s.received with
    | none => simp
    | some m => simp
  rw [Moves, hbefore, told_recv, htells, List.append_cancel_left_eq, List.append_cancel_right_eq]
  exact ⟨(List.filter_sublist.append_right _).append_left _, Iff.rfl⟩

theorem moves_step (env : Dispatcher.Env) {i : Input} (hh : Handling s) (ha : Acks s i) :
    Moves env s i := by
  cases i with
  | loop j => exact moves_loop j hh ha
  | recv lookupOk markOk => exact moves_recv env s lookupOk markOk
  | insert metadata ok =>
    refine moves_of_eq ?_ trivial
    have hsame : (Daemon.step s.daemon (.insert metadata ok)).messages = s.daemon.messages := by
      cases ok <;> rfl
    show (Daemon.step s.daemon (.insert metadata ok)).messages.filterMap _ ++ _ = told s ++ []
    rw [hsame, List.append_nil]
    rfl
  | poll queryOk markOk =>
    refine moves_of_eq ?_ trivial
    show told (s.poll env queryOk markOk) = told s ++ []
    rw [List.append_nil]
    unfold System.poll
    split
    · rfl
    · show (Daemon.pollExpired _ queryOk markOk s.daemon).messages.filterMap _ ++ _ = _
      rw [messages_pollExpired]
      rfl
  | _ => exact moves_of_eq (List.append_nil _).symm trivial

/-! ## Runs -/

theorem loop_step (env : Dispatcher.Env) (s : System) (i : Input) :
    (step env s i).loop =
      match i with
      | .loop j => EventLoop.step s.loop j.toInput
      | .recv _ _ => s.loop.recv
      | _ => s.loop := by
  cases i with
  | recv lookupOk markOk =>
    show (s.recv env lookupOk markOk).loop = s.loop.recv
    unfold System.recv
    cases s.received <;> rfl
  | poll queryOk markOk =>
    show (s.poll env queryOk markOk).loop = s.loop
    unfold System.poll
    split <;> rfl
  | _ => rfl

/-- What the client handles stays at the head of the queue, until it is
acknowledged. -/
theorem handling_step (h : Handling s) (i : Input) : Handling (step env s i) := by
  intro e he
  rw [loop_step] at he ⊢
  cases i with
  | loop j =>
    cases j with
    | enqueue event =>
      have hq := h e he
      show (s.loop.queue ++ _).head? = some e
      rw [List.head?_append, hq]
      rfl
    | start =>
      revert he
      simp only [LoopInput.toInput, EventLoop.step]
      split
      · intro he
        cases he
      · exact h e
    | nextEvent =>
      revert he
      simp only [LoopInput.toInput, EventLoop.step]
      split
      · rename_i hq
        intro he
        rw [hq, EventLoop.ClientLoop.handling.inj he]
        rfl
      · exact h e
    | eventHandled ok =>
      revert he
      simp only [LoopInput.toInput, EventLoop.step]
      split
      · intro he
        cases he
      · exact h e
    | emit =>
      revert he
      simp only [LoopInput.toInput, EventLoop.step]
      split
      · intro he
        cases he
      · exact h e
    | spliceInitiated channelId =>
      revert he
      simp only [LoopInput.toInput, EventLoop.step, EventLoop.System.send]
      split <;> exact h e
    | spliceFailed channelId reason =>
      revert he
      simp only [LoopInput.toInput, EventLoop.step, EventLoop.System.send]
      split <;> exact h e
    | subscribe =>
      revert he
      simp only [LoopInput.toInput, EventLoop.step]
      split <;> exact h e
  | recv lookupOk markOk =>
    revert he
    simp only [EventLoop.System.recv]
    split <;> exact h e
  | _ => exact h e he

/-- The payments of the webhook deliveries. -/
def delivered (s : System) : List Payment :=
  s.daemon.spawned.filterMap fun d => ofWebhookEvent d.event

/-- What a delivery tells a webhook has been announced. -/
theorem delivered_step (h : (delivered s).Sublist (announced s)) (i : Input) :
    (delivered (step env s i)).Sublist (announced (step env s i)) := by
  unfold delivered announced at h ⊢
  rw [daemon_step]
  cases daemonInput s i with
  | none => exact h
  | some j =>
    show ((Daemon.step s.daemon j).spawned.filterMap _).Sublist
      ((Daemon.step s.daemon j).messages.filterMap _)
    cases j with
    | insert metadata ok => cases ok <;> exact h
    | poll now queryOk markOk =>
      show ((Daemon.pollExpired now queryOk markOk s.daemon).spawned.filterMap _).Sublist
        ((Daemon.pollExpired now queryOk markOk s.daemon).messages.filterMap _)
      cases queryOk with
      | false => exact h
      | true =>
        -- an iteration of the monitor tells of no payment
        have hnone : ((s.daemon.store.getExpiredPending now).filterMap
            (Daemon.expiredDelivery now)).filterMap (fun d => ofWebhookEvent d.event) = [] := by
          rw [List.filterMap_eq_nil_iff]
          intro d hd
          obtain ⟨m, -, hm⟩ := List.mem_filterMap.1 hd
          obtain ⟨url, -, rfl⟩ := Option.map_eq_some_iff.1 hm
          rfl
        rw [messages_pollExpired, Expiry.spawned_pollExpired, List.filterMap_append, hnone,
          List.append_nil]
        exact h
    | event event now lookupOk markOk =>
      show ((Daemon.handleEvent now lookupOk markOk s.daemon event).spawned.filterMap _).Sublist
        ((Daemon.handleEvent now lookupOk markOk s.daemon event).messages.filterMap _)
      rcases Events.handleEvent_cases now lookupOk markOk s.daemon event with hs | hs
      · rw [hs]
        exact h
      · obtain ⟨paymentHash, sats, m, -, -, hs⟩ := hs
        rw [hs, Events.announce, List.filterMap_append, List.filterMap_append]
        refine h.append ?_
        cases m.webhookUrl with
        | none => exact List.nil_sublist _
        | some url => exact List.Sublist.refl _

/-- The payments of a run in which the client's acknowledgements get through,
those announced first, then those on their way:

* they are of the events the node queued, in that order, and none is announced
  twice;
* they are all of them exactly when no step loses one;
* a webhook is told of payments that are announced, in that order, too. -/
theorem payments_told (env : Dispatcher.Env) (clock : Nat) (store : InvoiceMetadataStore)
    (is : List Input) (h : ∀ p ∈ trace (step env) (.start clock store) is, Acks p.1 p.2) :
    let s := run (step env) (.start clock store) is
    (told s).Sublist (is.flatMap enqueued) ∧
      (told s = is.flatMap enqueued ↔
        ∀ p ∈ trace (step env) (.start clock store) is, Tells p.1 p.2) ∧
      (delivered s).Sublist (announced s) := by
  intro s
  have h0 : Handling (.start clock store) := fun e he => by cases he
  have hs : ∀ (s : System) (i : Input), Handling s → Acks s i → Handling (step env s i) :=
    fun s i hs _ => handling_step hs i
  have hsub := held_run_sublist h0 hs (fun s i hs ha => (moves_step env hs ha).1) h
  have hiff := held_run_eq_iff h0 hs (fun s i hs ha => (moves_step env hs ha).1)
    (fun s i hs ha => (moves_step env hs ha).2) h
  have hnil : told (.start clock store) = [] := rfl
  rw [hnil, List.nil_append, arrivals_eq_flatMap] at hsub hiff
  refine ⟨hsub, hiff, ?_⟩
  exact @invariant_run _ _ (step env) _ (fun s => (delivered s).Sublist (announced s))
    (List.Sublist.refl _) (fun s i hs => delivered_step hs i) is

/-- The invoice is paid, with half a satoshi too much. -/
def paidRun : List Input :=
  [.insert sampleInvoice true, .loop .start, .loop .subscribe,
    .loop (.enqueue (.paymentReceived "aa" 1000500)), .loop .nextEvent,
    .loop (.eventHandled true), .loop .emit, .recv true true]

theorem payments_told_sample :
    let s := run (step sampleEnv) sampleStart paidRun
    told s = paidRun.flatMap enqueued ∧ announced s = [("aa", 1000000)] := by
  intro s
  have hacks : ∀ p ∈ trace (step sampleEnv) sampleStart paidRun, Acks p.1 p.2 := by
    simp only [paidRun, trace_cons, trace_nil, List.forall_mem_cons]
    exact ⟨trivial, trivial, trivial, trivial, trivial, .inl rfl, trivial, trivial,
      fun p hp => by cases hp⟩
  exact ⟨(payments_told sampleEnv _ .empty paidRun hacks).2.1.2 (by decide +kernel),
    by decide +kernel⟩

end Mdkd.Proof.Service
