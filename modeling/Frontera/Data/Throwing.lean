import Mathlib.Data.List.Basic

/-! Inversion of a successful `Except` computation, one bind at a time. -/

namespace Frontera.Data

variable {ε α β : Type}

variable {x : Except ε α} {b : β} {a : α} {e : ε} {f : α → β}

theorem bind_eq_ok {f : α → Except ε β} : (x >>= f) = .ok b ↔ ∃ a, x = .ok a ∧ f a = .ok b := by
  cases x with
  | error e => simp [bind,Except.bind]
  | ok a => simp [bind,Except.bind]

@[simp] theorem pure_eq_ok {b : α} : (pure a : Except ε α) = .ok b ↔ a = b := by
  simp [pure,Except.pure]

@[simp] theorem ok_eq_pure {b : α} : (.ok b : Except ε α) = pure a ↔ b = a := by
  simp [pure,Except.pure]

@[simp] theorem throw_eq_ok : (throw e : Except ε α) = .ok a ↔ False := by
  simp [throw,throwThe,MonadExceptOf.throw]

@[simp] theorem ok_bind (a : α) (f : α → Except ε β) : ((.ok a : Except ε α) >>= f) = f a := rfl

theorem guard_eq_ok {c : Prop} [Decidable c] : (if c then .error e else x) = .ok a ↔ ¬ c ∧ x = .ok a := by
  split_ifs with h <;> simp [h]

@[simp] theorem functor_map_eq_ok : f <$> x = .ok b ↔ ∃ a, x = .ok a ∧ f a = b := by
  cases x <;> simp [Functor.map,Except.map]

theorem map_eq_ok : x.map f = .ok b ↔ ∃ a, x = .ok a ∧ f a = b := by
  cases x <;> simp [Except.map]

end Frontera.Data
