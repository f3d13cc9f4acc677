import Mathlib.Logic.Basic

/-!
# Computations that make calls

A computation that can fail, together with the calls it has made to its
surroundings, in order. `Holds` is a postcondition on both; `holds_lift`,
`holds_call` and `holds_bind` are its rules, one for each way a computation is
put together, and a proof walks a computation with them step by step. Where
only a result matters, `result_bind` and `result_bind_eq_ok` take a computation apart.
-/

namespace Framework

theorem mapError_eq_ok {ε ε' α : Type} {f : ε → ε'} {r : Except ε α} {a : α} :
    r.mapError f = .ok a ↔ r = .ok a := by
  cases r with
  | error e => exact iff_of_false (fun h => by cases h) (fun h => by cases h)
  | ok b =>
    constructor
    · intro h
      rw [Except.ok.inj h]
    · intro h
      rw [Except.ok.inj h]
      rfl

theorem mapError_eq_error {ε ε' α : Type} {f : ε → ε'} {r : Except ε α} {e' : ε'} :
    r.mapError f = .error e' ↔ ∃ e, r = .error e ∧ f e = e' := by
  cases r with
  | error e =>
    constructor
    · intro h
      exact ⟨e, rfl, Except.error.inj h⟩
    · intro h
      obtain ⟨e₀, he, hf⟩ := h
      rw [Except.error.inj he, ← hf]
      rfl
  | ok a =>
    refine iff_of_false (fun h => by cases h) fun h => ?_
    obtain ⟨e, he, -⟩ := h
    cases he

/-- What a computation came to, and the calls it made. -/
structure Act (χ ε α : Type) where
  result : Except ε α
  calls : List χ

namespace Act

variable {χ ε α β : Type}

/-- A step that makes no call. -/
def lift (r : Except ε α) : Act χ ε α := ⟨r, []⟩

/-- The call `c`, answered by `r`. -/
def call (c : χ) (r : Except ε α) : Act χ ε α := ⟨r, [c]⟩

/-- `x`, and then `f` unless `x` failed. -/
def bind (x : Act χ ε α) (f : α → Act χ ε β) : Act χ ε β :=
  match x.result with
  | .error e => ⟨.error e, x.calls⟩
  | .ok a => ⟨(f a).result, x.calls ++ (f a).calls⟩

/-- `x`, with its failure translated. -/
def mapError {ε' : Type} (f : ε → ε') (x : Act χ ε α) : Act χ ε' α :=
  ⟨x.result.mapError f, x.calls⟩

/-- `x`, with its calls as calls of another kind. -/
def mapCalls {χ' : Type} (f : χ → χ') (x : Act χ ε α) : Act χ' ε α := ⟨x.result, x.calls.map f⟩

instance : Monad (Act χ ε) where
  pure a := lift (.ok a)
  bind := bind

@[simp] theorem result_lift (r : Except ε α) : (lift r : Act χ ε α).result = r := rfl

@[simp] theorem result_call (c : χ) (r : Except ε α) : (call c r).result = r := rfl

@[simp] theorem result_pure (a : α) : (pure a : Act χ ε α).result = .ok a := rfl

/-- The computation ends with a result and calls that satisfy `Q`. -/
def Holds (x : Act χ ε α) (Q : Except ε α → List χ → Prop) : Prop := Q x.result x.calls

variable {Q : Except ε β → List χ → Prop}

theorem holds_pure {a : β} : Holds (pure a : Act χ ε β) Q ↔ Q (.ok a) [] := Iff.rfl

/-- A computation and its continuation. -/
theorem holds_bind {x : Act χ ε α} {f : α → Act χ ε β} :
    Holds (x >>= f) Q ↔
      (∀ e, x.result = .error e → Q (.error e) x.calls) ∧
        ∀ a, x.result = .ok a → Holds (f a) fun r cs => Q r (x.calls ++ cs) := by
  show Holds (bind x f) Q ↔ _
  unfold bind Holds
  cases x.result <;> simp

/-- A step without a call, and its continuation. -/
theorem holds_lift {r : Except ε α} {f : α → Act χ ε β} :
    Holds (lift r >>= f) Q ↔
      (∀ e, r = .error e → Q (.error e) []) ∧ ∀ a, r = .ok a → Holds (f a) Q := by
  rw [holds_bind]
  simp [lift]

/-- A call, and its continuation. -/
theorem holds_call {c : χ} {r : Except ε α} {f : α → Act χ ε β} :
    Holds (call c r >>= f) Q ↔
      (∀ e, r = .error e → Q (.error e) [c]) ∧
        ∀ a, r = .ok a → Holds (f a) fun r cs => Q r (c :: cs) := by
  rw [holds_bind]
  simp [call]

/-- A computation whose failure is translated. -/
theorem holds_mapError {ε' : Type} {f : ε → ε'} {x : Act χ ε β}
    {Q : Except ε' β → List χ → Prop} :
    Holds (x.mapError f) Q ↔ Holds x fun r cs => Q (r.mapError f) cs := Iff.rfl

/-- The result of a computation is made of the results of its parts. -/
theorem result_bind (x : Act χ ε α) (f : α → Act χ ε β) :
    (x >>= f).result = x.result.bind fun a => (f a).result := by
  show (bind x f).result = _
  unfold bind
  cases x.result <;> rfl

/-- A part that ended well leaves the rest to do. -/
theorem result_bind_of_ok {x : Act χ ε α} {f : α → Act χ ε β} {a : α} (h : x.result = .ok a) :
    (x >>= f).result = (f a).result := by
  rw [result_bind, h]
  rfl

/-- A computation ends well when its parts do, one after the other. -/
theorem result_bind_eq_ok {x : Act χ ε α} {f : α → Act χ ε β} {b : β} :
    (x >>= f).result = .ok b ↔ ∃ a, x.result = .ok a ∧ (f a).result = .ok b := by
  show (bind x f).result = .ok b ↔ _
  unfold bind
  cases x.result <;> simp

end Act

end Framework
