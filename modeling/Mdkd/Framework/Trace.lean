import Mathlib.Data.List.Basic

/-!
# Runs of a transition system

A system is a step function on states `σ`, taking an input `ι` that resolves
everything the environment decides. A run is a list of inputs; `trace` lists
the state before each input, so that a statement about every step of a run
quantifies over its members.

* `invariant_run`: an inductive invariant holds at the end of a run;
* `invariant_post`, `invariant_run_of`: the same under a condition every step of
  the run meets, after each of its steps and at its end;
* `forall_trace_iff`, `forall_post_iff`: a property holds of every step of a run,
  or after it, exactly when every step meets the condition under which one step
  has it.
-/

namespace Framework

variable {σ ι : Type*}

/-- The state a run ends in. -/
def run (step : σ → ι → σ) (s : σ) (is : List ι) : σ := is.foldl step s

/-- The steps of a run: each input with the state before it. -/
def trace (step : σ → ι → σ) : σ → List ι → List (σ × ι)
  | _, [] => []
  | s, i :: is => (s, i) :: trace step (step s i) is

section
variable {step : σ → ι → σ} {s : σ}

@[simp] theorem run_nil : run step s [] = s := rfl

@[simp] theorem run_cons (i : ι) (is : List ι) :
    run step s (i :: is) = run step (step s i) is := rfl

theorem run_append (is js : List ι) : run step s (is ++ js) = run step (run step s is) js :=
  List.foldl_append

@[simp] theorem run_snoc (is : List ι) (i : ι) :
    run step s (is ++ [i]) = step (run step s is) i := by
  rw [run_append, run_cons, run_nil]

@[simp] theorem trace_nil : trace step s [] = [] := rfl

@[simp] theorem trace_cons (i : ι) (is : List ι) :
    trace step s (i :: is) = (s, i) :: trace step (step s i) is := rfl

theorem trace_snoc (is : List ι) (i : ι) :
    trace step s (is ++ [i]) = trace step s is ++ [(run step s is, i)] := by
  induction is generalizing s with
  | nil => rfl
  | cons j is ih => rw [List.cons_append, trace_cons, ih, trace_cons, run_cons, List.cons_append]

/-- The step with the input at a given place. -/
theorem mem_trace (is : List ι) (n : ℕ) (h : n < is.length) :
    (run step s (is.take n), is[n]) ∈ trace step s is := by
  induction is generalizing s n with
  | nil => exact absurd h (Nat.not_lt_zero n)
  | cons i is ih =>
    cases n with
    | zero => exact List.mem_cons_self
    | succ n => exact List.mem_cons_of_mem _ (ih n (Nat.lt_of_succ_lt_succ h))

/-- A step of a run takes one of its inputs. -/
theorem input_mem {is : List ι} {p : σ × ι} (h : p ∈ trace step s is) : p.2 ∈ is := by
  induction is generalizing s with
  | nil => cases h
  | cons i is ih =>
    rcases List.mem_cons.1 h with rfl | h
    · exact List.mem_cons_self
    · exact List.mem_cons_of_mem _ (ih h)

/-- An invariant holds where a run ends. -/
theorem invariant_run {Inv : σ → Prop} (h0 : Inv s) (hs : ∀ s i, Inv s → Inv (step s i))
    (is : List ι) : Inv (run step s is) := by
  induction is generalizing s with
  | nil => exact h0
  | cons i is ih => exact ih (hs _ i h0)

/-- It holds where the run ends, too. -/
theorem invariant_run_of {Inv : σ → Prop} {C : σ → ι → Prop} (h0 : Inv s)
    (hs : ∀ s i, Inv s → C s i → Inv (step s i)) {is : List ι}
    (hc : ∀ p ∈ trace step s is, C p.1 p.2) : Inv (run step s is) := by
  induction is generalizing s with
  | nil => exact h0
  | cons i is ih =>
    rw [trace_cons, List.forall_mem_cons] at hc
    exact ih (hs s i h0 hc.1) hc.2

/-- What is said of each step, in states where `Inv` holds, is the condition `C`,
and a step that meets `C` keeps `Inv`: then it is said of every step of a run
exactly when every step meets `C`. -/
theorem forall_trace_iff {Inv : σ → Prop} {A C : σ → ι → Prop} (h0 : Inv s)
    (h : ∀ s i, Inv s → (A s i ↔ C s i)) (hs : ∀ s i, Inv s → C s i → Inv (step s i))
    (is : List ι) :
    (∀ p ∈ trace step s is, A p.1 p.2) ↔ ∀ p ∈ trace step s is, C p.1 p.2 := by
  induction is generalizing s with
  | nil => simp
  | cons i is ih =>
    simp only [trace_cons, List.forall_mem_cons]
    rw [h s i h0]
    refine and_congr_right fun hc => ?_
    exact ih (hs s i h0 hc)

/-- A property `P` holds after every step of a run exactly when every step
meets the condition `C` under which a step keeps `P`. -/
theorem forall_post_iff {P : σ → Prop} {C : σ → ι → Prop} (h0 : P s)
    (h : ∀ s i, P s → (P (step s i) ↔ C s i)) (is : List ι) :
    (∀ p ∈ trace step s is, P (step p.1 p.2)) ↔ ∀ p ∈ trace step s is, C p.1 p.2 :=
  forall_trace_iff h0 h (fun s i hp hc => (h s i hp).2 hc) is

end

end Framework
