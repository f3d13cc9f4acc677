import Mdkd.Framework.Trace

/-!
# Tasks of a system

A system starts tasks that run beside it. They form a list that only grows:
each step changes the tasks there are, one by one, and adds those it starts
(`Pool`). `Pool.forall_step` is the step lemma of an invariant of tasks, and
`Pool.run_task` follows one task through a run. `run_kept` leaves out of a run
the inputs that do not touch what is observed.
-/

namespace Framework

variable {σ ι τ : Type*} {step : σ → ι → σ} {tasks : σ → List τ}

/-- One function for every element, and one for the element at a place. -/
theorem map_eq_mapIdx (xs : List τ) (f : τ → τ) : xs.map f = xs.mapIdx fun _ => f := by
  refine List.ext_getElem? fun n => ?_
  rw [List.getElem?_map, List.getElem?_mapIdx]

theorem modify_eq_mapIdx (xs : List τ) (k : Nat) (f : τ → τ) :
    xs.modify k f = xs.mapIdx fun n t => if n = k then f t else t := by
  refine List.ext_getElem? fun n => ?_
  rw [List.getElem?_modify, List.getElem?_mapIdx]
  by_cases h : k = n
  · simp [h]
  · have h' : n ≠ k := fun e => h e.symm
    simp [h, h']

theorem eq_mapIdx_id (xs : List τ) : xs = xs.mapIdx fun _ t => t := by
  rw [← map_eq_mapIdx, List.map_id']

/-- What the steps of a system do to its tasks: `act` to each of those there
are, and `born` are new. -/
structure Pool (step : σ → ι → σ) (tasks : σ → List τ) where
  act : σ → ι → Nat → τ → τ
  born : σ → ι → List τ
  tasks_step : ∀ s i, tasks (step s i) = (tasks s).mapIdx (act s i) ++ born s i

namespace Pool

/-- A task after a step. -/
theorem getElem?_step (pool : Pool step tasks) {s : σ} {n : Nat} {t : τ} (i : ι)
    (h : (tasks s)[n]? = some t) : (tasks (step s i))[n]? = some (pool.act s i n t) := by
  obtain ⟨hn, rfl⟩ := List.getElem?_eq_some_iff.1 h
  have hlen : n < ((tasks s).mapIdx (pool.act s i)).length := by rwa [List.length_mapIdx]
  rw [pool.tasks_step, List.getElem?_append_left hlen, List.getElem?_mapIdx, h, Option.map_some]

/-- The task at a place after a step: one there was, or a new one. -/
theorem getElem?_step_eq (pool : Pool step tasks) (s : σ) (i : ι) (n : Nat) :
    (tasks (step s i))[n]? =
      if n < (tasks s).length then (tasks s)[n]?.map (pool.act s i n)
      else (pool.born s i)[n - (tasks s).length]? := by
  rw [pool.tasks_step, List.getElem?_append, List.length_mapIdx, List.getElem?_mapIdx]

theorem length_step (pool : Pool step tasks) (s : σ) (i : ι) :
    (tasks (step s i)).length = (tasks s).length + (pool.born s i).length := by
  rw [pool.tasks_step, List.length_append, List.length_mapIdx]

/-- What holds of the tasks there are, and of the new ones, holds of the tasks
after a step. -/
theorem forall_step (pool : Pool step tasks) {s : σ} {i : ι} {P Q : τ → Prop}
    (h : ∀ t ∈ tasks s, P t) (hact : ∀ n, ∀ t ∈ tasks s, P t → Q (pool.act s i n t))
    (hborn : ∀ t ∈ pool.born s i, Q t) : ∀ t ∈ tasks (step s i), Q t := by
  intro t ht
  rw [pool.tasks_step, List.mem_append, List.mem_mapIdx] at ht
  rcases ht with ht | ht
  · obtain ⟨n, hn, rfl⟩ := ht
    exact hact n _ (List.getElem_mem hn) (h _ (List.getElem_mem hn))
  · exact hborn t ht

end Pool

/-- The inputs of a run that are kept, each judged in the state it comes in. -/
def kept (step : σ → ι → σ) (keep : σ → ι → Bool) : σ → List ι → List ι
  | _, [] => []
  | s, i :: is =>
    if keep s i then i :: kept step keep (step s i) is else kept step keep (step s i) is

/-- Inputs that keep states related to what is observed can be left out of the
run that is observed. -/
theorem run_kept {R : σ → σ → Prop} {keep : σ → ι → Bool}
    (hkeep : ∀ s t i, keep s i = true → R s t → R (step s i) (step t i))
    (hskip : ∀ s t i, keep s i = false → R s t → R (step s i) t) {s t : σ} (h : R s t)
    (is : List ι) : R (run step s is) (run step t (kept step keep s is)) := by
  induction is generalizing s t with
  | nil => exact h
  | cons i is ih =>
    rw [kept, run_cons]
    cases hp : keep s i with
    | true =>
      rw [if_pos rfl, run_cons]
      exact ih (hkeep s t i hp h)
    | false =>
      rw [if_neg (by decide)]
      exact ih (hskip s t i hp h)

theorem kept_eq_filter (p : ι → Bool) (s : σ) (is : List ι) :
    kept step (fun _ => p) s is = is.filter p := by
  induction is generalizing s with
  | nil => rfl
  | cons i is ih =>
    rw [kept, ih]
    cases hp : p i with
    | true => rw [if_pos rfl, List.filter_cons_of_pos hp]
    | false => rw [if_neg (by decide), List.filter_cons_of_neg (by rw [hp]; decide)]

/-- The same for inputs that are told by themselves. -/
theorem run_filter {R : σ → σ → Prop} {p : ι → Bool}
    (hkeep : ∀ s t i, p i = true → R s t → R (step s i) (step t i))
    (hskip : ∀ s t i, p i = false → R s t → R (step s i) t) {s t : σ} (h : R s t) (is : List ι) :
    R (run step s is) (run step t (is.filter p)) := by
  rw [← @kept_eq_filter _ _ step p s is]
  exact @run_kept _ _ step R (fun _ => p) hkeep hskip s t h is

end Framework
