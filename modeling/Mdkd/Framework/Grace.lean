import Mathlib.Data.List.Induction

/-!
# Entries with a grace period

An entry is tracked through a list of observations. An observation in which
the tracked thing is gone drops the entry; the first one in which it has
flipped stamps the entry with its time; one in which it has flipped a grace
period or more after the stamp drops it. `observe` is that rule for one
observation, and `observe_stampOf` what it makes of an entry that nothing has
dropped so far (`Held`), stamped with the time of its first flip.
-/

namespace Framework

variable {α : Type*} (gone flipped : α → Prop) [DecidablePred gone] [DecidablePred flipped]
  (time : α → Nat) (grace : Nat)

/-- One observation of an entry with a given stamp: `none` when it is dropped. -/
def observe (stamp : Option Nat) (a : α) : Option (Option Nat) :=
  if gone a then none
  else if ¬ flipped a then some stamp
  else
    match stamp with
    | none => some (some (time a))
    | some t => if time a - t < grace then some stamp else none

/-- No observation finds the tracked thing gone, and every one that finds it
flipped is within the grace period of the first that does. -/
structure Held (as : List α) : Prop where
  present : ∀ a ∈ as, ¬ gone a
  inGrace : ∀ k, as.find? (fun a => flipped a) = some k → ∀ a ∈ as, flipped a →
    time a < time k + grace

/-- The time of the first flip. -/
def stampOf (as : List α) : Option Nat := (as.find? fun a => flipped a).map time

variable {gone flipped time grace}

omit [DecidablePred gone] in
theorem Held.nil : Held gone flipped time grace [] := ⟨by simp, by simp⟩

omit [DecidablePred gone] in
/-- Dropping the last observation. -/
theorem Held.of_snoc {as : List α} {a : α} (h : Held gone flipped time grace (as ++ [a])) :
    Held gone flipped time grace as where
  present b hb := h.present b (List.mem_append_left _ hb)
  inGrace k hk b hb hf :=
    h.inGrace k (by rw [List.find?_append, hk]; rfl) b (List.mem_append_left _ hb) hf

theorem stampOf_snoc (as : List α) (a : α) :
    stampOf flipped time (as ++ [a]) =
      (stampOf flipped time as).or (if flipped a then some (time a) else none) := by
  simp only [stampOf, List.find?_append]
  cases as.find? fun a => flipped a with
  | some k => rfl
  | none => by_cases h : flipped a <;> simp [h]

/-- One more observation of an entry held so far: it stays held exactly when
`observe` keeps it, with the stamp of the longer list. -/
theorem observe_stampOf (hg : 0 < grace) {as : List α} (h : Held gone flipped time grace as) (a : α)
    (p : Option Nat) :
    observe gone flipped time grace (stampOf flipped time as) a = some p ↔
      Held gone flipped time grace (as ++ [a]) ∧ p = stampOf flipped time (as ++ [a]) := by
  rw [stampOf_snoc]
  have present : ¬ gone a → ∀ b ∈ as ++ [a], ¬ gone b := fun ha b hb => by
    rcases List.mem_append.1 hb with hb | hb
    · exact h.present b hb
    · rw [List.mem_singleton.1 hb]; exact ha
  by_cases ha : gone a
  · have hn : ¬ Held gone flipped time grace (as ++ [a]) := fun h' => h'.present a (by simp) ha
    simp [observe, ha, hn]
  by_cases hf : flipped a
  · cases hs : as.find? fun a => flipped a with
    | none =>
      -- The first flip: nothing before it can be out of its grace period.
      have hh : Held gone flipped time grace (as ++ [a]) := by
        refine ⟨present ha, fun k hk b hb hfb => ?_⟩
        rw [List.find?_append, hs] at hk
        have hk : a = k := by simpa [hf] using hk
        rcases List.mem_append.1 hb with hb | hb
        · exact absurd hfb (by simpa using List.find?_eq_none.1 hs b hb)
        · rw [List.mem_singleton.1 hb, hk]; omega
      simp [observe, ha, hf, stampOf, hs, hh, eq_comm]
    | some k =>
      have hh : Held gone flipped time grace (as ++ [a]) ↔ time a - time k < grace := by
        constructor
        · intro h'
          have := h'.inGrace k (by rw [List.find?_append, hs]; rfl) a (by simp) hf
          omega
        · intro hlt
          refine ⟨present ha, fun k' hk' b hb hfb => ?_⟩
          rw [List.find?_append, hs] at hk'
          cases hk'
          rcases List.mem_append.1 hb with hb | hb
          · exact h.inGrace k hs b hb hfb
          · rw [List.mem_singleton.1 hb]; omega
      by_cases hlt : time a - time k < grace
      · simp [observe, ha, hf, stampOf, hs, hh, hlt, eq_comm]
      · simp [observe, ha, hf, stampOf, hs, hh, hlt]
  · have hh : Held gone flipped time grace (as ++ [a]) := by
      refine ⟨present ha, fun k hk b hb hfb => ?_⟩
      have hk : as.find? (fun a => flipped a) = some k := by
        rw [List.find?_append] at hk
        simpa [hf] using hk
      rcases List.mem_append.1 hb with hb | hb
      · exact h.inGrace k hk b hb hfb
      · exact absurd hfb (by rw [List.mem_singleton.1 hb]; exact hf)
    simp [observe, ha, hf, hh, eq_comm]

end Framework
