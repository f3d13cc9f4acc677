import Mathlib.Data.List.Basic

/-!
# Receivers of a bounded broadcast channel

A receiver holds the messages sent since it subscribed that it has not read,
the newest `cap` of them. A send to a full receiver evicts the oldest, and the
next read reports how many were missed. `evicted_append_send` and
`received_append_recv` account for every message: one sent is unread until it
is read or evicted. `Waits` follows one message: it stays unread while fewer
than `cap` are sent after it (`Waits.send`), and every read gets closer to it
(`Waits.recv`).
-/

namespace Framework

variable {α : Type*} {cap : Nat}

/-- A receiver: the unread messages, oldest first, and the number evicted
since the last read. -/
structure Receiver (α : Type*) (cap : Nat) where
  unread : List α
  missed : Nat
  bound : unread.length ≤ cap

/-- What a read gives. -/
inductive Received (α : Type*) where
  | message (a : α)
  | lagged (missed : Nat)
  | empty
  deriving DecidableEq

/-- The message a read takes, if it takes one. -/
def Received.message? : Received α → Option α
  | .message a => some a
  | .lagged _ => none
  | .empty => none

namespace Receiver

/-- A receiver sees nothing sent before it subscribed. -/
def subscribe : Receiver α cap := ⟨[], 0, Nat.zero_le _⟩

/-- The message a send evicts. -/
def evicted (r : Receiver α cap) (a : α) : Option α :=
  if r.unread.length < cap then none else (r.unread ++ [a]).head?

def send (r : Receiver α cap) (a : α) : Receiver α cap :=
  if h : r.unread.length < cap then
    ⟨r.unread ++ [a], r.missed, by rw [List.length_append, List.length_singleton]; omega⟩
  else
    ⟨(r.unread ++ [a]).tail, r.missed + 1, by
      have := r.bound
      rw [List.length_tail, List.length_append, List.length_singleton]; omega⟩

/-- A read: of the messages missed, if any were, or of the oldest unread. -/
def recv (r : Receiver α cap) : Received α × Receiver α cap :=
  if r.missed = 0 then
    match h : r.unread with
    | [] => (.empty, r)
    | a :: as => (.message a, ⟨as, 0, by
        have := r.bound
        rw [h, List.length_cons] at this; omega⟩)
  else (.lagged r.missed, { r with missed := 0 })

/-- A send keeps every message but the one it evicts. -/
theorem evicted_append_send (r : Receiver α cap) (a : α) :
    (r.evicted a).toList ++ (r.send a).unread = r.unread ++ [a] := by
  unfold evicted send
  by_cases h : r.unread.length < cap
  · simp [h]
  · simp only [h, ↓reduceIte, ↓reduceDIte]
    cases r.unread <;> rfl

/-- A read takes the oldest message or none. -/
theorem received_append_recv (r : Receiver α cap) :
    r.recv.1.message?.toList ++ r.recv.2.unread = r.unread := by
  unfold recv
  split
  · split
    · rename_i h; simp [Received.message?, h]
    · rename_i h; simp [Received.message?, h]
  · rfl

/-! ## Sends -/

/-- A receiver holds the newest of what it held and what is sent. -/
theorem unread_send (r : Receiver α cap) (a : α) :
    (r.send a).unread = (r.unread ++ [a]).drop (r.unread.length + 1 - cap) := by
  have hb := r.bound
  unfold send
  by_cases h : r.unread.length < cap
  · have h0 : r.unread.length + 1 - cap = 0 := by omega
    rw [dif_pos h, h0, List.drop_zero]
  · have h1 : r.unread.length + 1 - cap = 1 := by omega
    rw [dif_neg h, h1, List.drop_one]

theorem unread_sends (r : Receiver α cap) (as : List α) :
    (as.foldl send r).unread = (r.unread ++ as).drop (r.unread.length + as.length - cap) := by
  induction as generalizing r with
  | nil =>
    have hb := r.bound
    have h0 : r.unread.length + 0 - cap = 0 := by omega
    rw [List.foldl_nil, List.append_nil, List.length_nil, h0, List.drop_zero]
  | cons a as ih =>
    have hb := r.bound
    -- what the first send drops, of the two lists together
    have hdrop : r.unread.length + 1 - cap ≤ (r.unread ++ [a]).length := by
      rw [List.length_append, List.length_singleton]
      omega
    have hlen : ((r.unread ++ [a]).drop (r.unread.length + 1 - cap)).length =
        r.unread.length + 1 - (r.unread.length + 1 - cap) := by
      rw [List.length_drop, List.length_append, List.length_singleton]
    rw [List.foldl_cons, ih, unread_send, hlen, ← List.drop_append_of_le_length hdrop,
      List.drop_drop, List.append_assoc, List.singleton_append, List.length_cons]
    congr 1
    omega

theorem unread_sends_sublist (r : Receiver α cap) (as : List α) :
    (as.foldl send r).unread.Sublist (r.unread ++ as) := by
  rw [unread_sends]
  exact List.drop_sublist _ _

/-- Nothing is evicted exactly when there is room for all of it. -/
theorem unread_sends_eq_iff (r : Receiver α cap) (as : List α) :
    (as.foldl send r).unread = r.unread ++ as ↔ r.unread.length + as.length ≤ cap := by
  have hlen : (r.unread ++ as).length = r.unread.length + as.length := List.length_append
  rw [unread_sends]
  constructor
  · intro h
    have := congrArg List.length h
    rw [List.length_drop, hlen] at this
    omega
  · intro h
    rw [Nat.sub_eq_zero_of_le h, List.drop_zero]

/-! ## One message -/

/-- The message `m` is unread, with `n` sent after it, and at most `k` reads
come before its own. -/
def Waits (r : Receiver α cap) (m : α) (n k : Nat) : Prop :=
  ∃ before after, r.unread = before ++ m :: after ∧ after.length = n ∧
    2 * before.length + (if r.missed = 0 then 0 else 1) ≤ k

variable {r : Receiver α cap} {m : α} {n k : Nat}

theorem Waits.mem (h : Waits r m n k) : m ∈ r.unread := by
  obtain ⟨before, after, hu, -⟩ := h
  rw [hu]
  exact List.mem_append_right _ List.mem_cons_self

theorem Waits.mono {l : Nat} (h : Waits r m n k) (hkl : k ≤ l) : Waits r m n l := by
  obtain ⟨before, after, hu, hn, hk⟩ := h
  exact ⟨before, after, hu, hn, Nat.le_trans hk hkl⟩

/-- A message that was just sent. -/
theorem waits_send (r : Receiver α cap) (m : α) (hcap : 0 < cap) :
    Waits (r.send m) m 0 (2 * cap - 1) := by
  unfold send
  by_cases hl : r.unread.length < cap
  · rw [dif_pos hl]
    refine ⟨r.unread, [], rfl, rfl, ?_⟩
    have : (if r.missed = 0 then 0 else 1) ≤ 1 := by split <;> omega
    show 2 * r.unread.length + (if r.missed = 0 then 0 else 1) ≤ _
    omega
  · rw [dif_neg hl]
    have hb := r.bound
    have hne : r.unread ≠ [] := by
      intro h
      rw [h, List.length_nil] at hl
      omega
    refine ⟨r.unread.tail, [], List.tail_append_of_ne_nil hne, rfl, ?_⟩
    show 2 * r.unread.tail.length + (if r.missed + 1 = 0 then 0 else 1) ≤ _
    rw [List.length_tail, if_neg (Nat.succ_ne_zero _)]
    omega

/-- A later message leaves it unread, unless it is the `cap`-th. -/
theorem Waits.send (h : Waits r m n k) (hn : n + 1 < cap) (a : α) :
    Waits (r.send a) m (n + 1) k := by
  obtain ⟨before, after, hu, rfl, hk⟩ := h
  unfold Receiver.send
  by_cases hl : r.unread.length < cap
  · rw [dif_pos hl]
    refine ⟨before, after ++ [a], ?_, List.length_append, hk⟩
    show r.unread ++ [a] = _
    rw [hu, List.append_assoc, List.cons_append]
  · rw [dif_neg hl]
    -- a full receiver holds more than the message and what came after it
    have hlen := congrArg List.length hu
    rw [List.length_append, List.length_cons] at hlen
    cases before with
    | nil => rw [List.length_nil] at hlen; omega
    | cons b before =>
      refine ⟨before, after ++ [a], ?_, List.length_append, ?_⟩
      · show (r.unread ++ [a]).tail = _
        rw [hu, List.append_assoc, List.cons_append, List.cons_append, List.tail_cons]
      · show 2 * before.length + (if r.missed + 1 = 0 then 0 else 1) ≤ k
        rw [List.length_cons] at hk
        rw [if_neg (Nat.succ_ne_zero _)]
        omega

/-- A read of a receiver that missed nothing takes its oldest message. -/
theorem recv_cons {a : α} {as : List α} (hm : r.missed = 0) (hu : r.unread = a :: as) :
    r.recv.1 = .message a ∧ r.recv.2.unread = as ∧ r.recv.2.missed = 0 := by
  unfold recv
  rw [if_pos hm]
  split
  · rename_i hnil
    rw [hu] at hnil
    cases hnil
  · rename_i b bs hbs
    rw [hu] at hbs
    obtain ⟨rfl, rfl⟩ := List.cons.inj hbs
    exact ⟨rfl, rfl, rfl⟩

/-- There is something to read. -/
theorem Waits.recv_ne_empty (h : Waits r m n k) : r.recv.1 ≠ .empty := by
  by_cases hm : r.missed = 0
  · have hu := h.mem
    cases hr : r.unread with
    | nil =>
      rw [hr] at hu
      cases hu
    | cons a as =>
      rw [(recv_cons hm hr).1]
      exact fun h => by cases h
  · have hr : r.recv = (.lagged r.missed, { r with missed := 0 }) := if_neg hm
    rw [hr]
    exact fun h => by cases h

/-- A read takes it, or gets closer to it. -/
theorem Waits.recv (h : Waits r m n k) :
    r.recv.1 = .message m ∨ ∃ j, k = j + 1 ∧ Waits r.recv.2 m n j := by
  obtain ⟨before, after, hu, rfl, hk⟩ := h
  by_cases hm : r.missed = 0
  · rw [if_pos hm] at hk
    cases before with
    | nil => exact .inl (recv_cons hm hu).1
    | cons b before =>
      obtain ⟨-, hu', hm'⟩ := recv_cons hm hu
      rw [List.length_cons] at hk
      refine .inr ⟨k - 1, by omega, before, after, hu', rfl, ?_⟩
      rw [if_pos hm']
      omega
  · rw [if_neg hm] at hk
    have hr : r.recv = (.lagged r.missed, { r with missed := 0 }) := if_neg hm
    refine .inr ⟨k - 1, by omega, before, after, ?_, rfl, ?_⟩
    · rw [hr]
      exact hu
    · rw [hr]
      show 2 * before.length + (if (0 : Nat) = 0 then 0 else 1) ≤ k - 1
      rw [if_pos rfl]
      omega

end Receiver

end Framework
