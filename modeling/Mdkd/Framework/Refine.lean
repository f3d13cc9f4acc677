import Mathlib.Logic.Relation
import Mdkd.Framework.Trace

/-!
# Refinement of programs that answer

A program takes a request `ι` in a state `σ` to its next state and an answer
`ο`. One program `Simulates` another along a relation of their states when, from
related states, each request has the same answer and leads to related states;
then so does a whole run (`Simulates.answers_eq`, `Simulates.run_rel`), and
simulations compose (`Simulates.comp`).
-/

namespace Framework

variable {σ τ υ ι ο : Type*}

/-- The state after a request. -/
def next (exec : σ → ι → σ × ο) (s : σ) (i : ι) : σ := (exec s i).1

/-- The answers to a sequence of requests. -/
def answers (exec : σ → ι → σ × ο) : σ → List ι → List ο
  | _, [] => []
  | s, i :: is => (exec s i).2 :: answers exec (next exec s i) is

/-- From related states, the two programs give one answer and stay related. -/
def Simulates (R : σ → τ → Prop) (exec : σ → ι → σ × ο) (exec' : τ → ι → τ × ο) : Prop :=
  ∀ s t i, R s t → R (next exec s i) (next exec' t i) ∧ (exec s i).2 = (exec' t i).2

namespace Simulates

variable {R : σ → τ → Prop} {exec : σ → ι → σ × ο} {exec' : τ → ι → τ × ο}

/-- The states after a run are related. -/
theorem run_rel (h : Simulates R exec exec') {s : σ} {t : τ} (hr : R s t) (is : List ι) :
    R (run (next exec) s is) (run (next exec') t is) := by
  induction is generalizing s t with
  | nil => exact hr
  | cons i is ih =>
    rw [run_cons, run_cons]
    exact ih (h s t i hr).1

/-- The answers over a run are the same. -/
theorem answers_eq (h : Simulates R exec exec') {s : σ} {t : τ} (hr : R s t) (is : List ι) :
    answers exec s is = answers exec' t is := by
  induction is generalizing s t with
  | nil => rfl
  | cons i is ih =>
    obtain ⟨hnext, ha⟩ := h s t i hr
    rw [answers, answers, ha, ih hnext]

/-- A program that simulates one that simulates a third simulates that. -/
theorem comp {R' : τ → υ → Prop} {exec'' : υ → ι → υ × ο} (h : Simulates R exec exec')
    (h' : Simulates R' exec' exec'') : Simulates (Relation.Comp R R') exec exec'' := by
  rintro s u i ⟨t, hr, hr'⟩
  obtain ⟨hn, ha⟩ := h s t i hr
  obtain ⟨hn', ha'⟩ := h' t u i hr'
  exact ⟨⟨_, hn, hn'⟩, ha.trans ha'⟩

end Simulates

end Framework
