import Mdkd.Framework.Trace

/-!
# What arrives, and what is kept of it

Things arrive at a system with its steps, and it holds some of them, in the
order in which they came. Where each step holds on to at most what was held and
what arrives with it, a run holds a sublist of all that arrived: nothing twice,
and nothing out of order (`held_run_sublist`). It holds all of it exactly when
each of its steps loses nothing (`held_run_eq_iff`).
-/

namespace Framework

variable {σ ι α : Type*}

/-- What arrives over a run. -/
def arrivals (step : σ → ι → σ) (added : σ → ι → List α) (s : σ) (is : List ι) : List α :=
  (trace step s is).flatMap fun p => added p.1 p.2

section
variable {step : σ → ι → σ} {added : σ → ι → List α} {held : σ → List α} {s : σ}

@[simp] theorem arrivals_nil : arrivals step added s [] = [] := rfl

@[simp] theorem arrivals_cons (i : ι) (is : List ι) :
    arrivals step added s (i :: is) = added s i ++ arrivals step added (step s i) is := rfl

/-- Arrivals that only depend on the inputs. -/
theorem arrivals_eq_flatMap (f : ι → List α) (is : List ι) :
    arrivals step (fun _ i => f i) s is = is.flatMap f := by
  induction is generalizing s with
  | nil => rfl
  | cons i is ih => rw [arrivals_cons, ih, List.flatMap_cons]

variable {Inv : σ → Prop} {C K : σ → ι → Prop}

/-- A run whose steps meet `C` holds a sublist of what it held and what arrives. -/
theorem held_run_sublist (h0 : Inv s) (hs : ∀ s i, Inv s → C s i → Inv (step s i))
    (hsub : ∀ s i, Inv s → C s i → (held (step s i)).Sublist (held s ++ added s i)) {is : List ι}
    (hc : ∀ p ∈ trace step s is, C p.1 p.2) :
    (held (run step s is)).Sublist (held s ++ arrivals step added s is) := by
  induction is generalizing s with
  | nil => exact List.sublist_append_left _ _
  | cons i is ih =>
    rw [trace_cons, List.forall_mem_cons] at hc
    have hrest := ih (hs s i h0 hc.1) hc.2
    rw [run_cons, arrivals_cons, ← List.append_assoc]
    exact hrest.trans ((hsub s i h0 hc.1).append_right _)

/-- It holds all of it exactly when no step loses any. -/
theorem held_run_eq_iff (h0 : Inv s) (hs : ∀ s i, Inv s → C s i → Inv (step s i))
    (hsub : ∀ s i, Inv s → C s i → (held (step s i)).Sublist (held s ++ added s i))
    (hk : ∀ s i, Inv s → C s i → (held (step s i) = held s ++ added s i ↔ K s i)) {is : List ι}
    (hc : ∀ p ∈ trace step s is, C p.1 p.2) :
    held (run step s is) = held s ++ arrivals step added s is ↔
      ∀ p ∈ trace step s is, K p.1 p.2 := by
  induction is generalizing s with
  | nil => simp
  | cons i is ih =>
    rw [trace_cons, List.forall_mem_cons] at hc
    rw [trace_cons, List.forall_mem_cons, run_cons, arrivals_cons, ← List.append_assoc,
      ← hk s i h0 hc.1, ← ih (hs s i h0 hc.1) hc.2]
    constructor
    · intro h
      -- nothing that a step loses is ever regained
      have hrest := held_run_sublist (hs s i h0 hc.1) hs hsub hc.2
      have hlen := hrest.length_le
      have hstep := hsub s i h0 hc.1
      rw [h, List.length_append, @List.length_append _ (held (step s i))] at hlen
      have hone : held (step s i) = held s ++ added s i := hstep.eq_of_length_le (by omega)
      exact ⟨hone, by rw [h, hone]⟩
    · intro h
      rw [h.2, h.1]

end

end Framework
