import Mathlib.Data.List.Basic

/-! A run is a list of steps taken from a state. A condition on the steps is asked of each of them
in the state it is taken from; what one such step keeps, the run keeps. -/

namespace Frontera.Data

variable {σ α : Type*}

/-- Every step of the run meets the condition in the state it is taken from. -/
def StepsMeet (next : σ → α → σ) (condition : σ → α → Prop) (s : σ) : List α → Prop
  | [] => True
  | a :: steps => condition s a ∧ StepsMeet next condition (next s a) steps

variable {next : σ → α → σ} {condition : σ → α → Prop} {s : σ} {steps : List α}

theorem StepsMeet.invariant {Inv : σ → Prop}
    (hstep : ∀ s a, Inv s → condition s a → Inv (next s a)) (hs : Inv s)
    (h : StepsMeet next condition s steps) : Inv (steps.foldl next s) := by
  induction steps generalizing s with
  | nil => exact hs
  | cons a steps ih => exact ih (hstep s a hs h.1) h.2

theorem stepsMeet_append {front back : List α} : StepsMeet next condition s (front ++ back) ↔
      StepsMeet next condition s front ∧ StepsMeet next condition (front.foldl next s) back := by
  induction front generalizing s with
  | nil => simp [StepsMeet]
  | cons a front ih => simp [StepsMeet,ih,and_assoc]

theorem StepsMeet.and {first second : σ → α → Prop} (hfirst : StepsMeet next first s steps)
    (hsecond : StepsMeet next second s steps) :
    StepsMeet next (fun s a => first s a ∧ second s a) s steps := by
  induction steps generalizing s with
  | nil => trivial
  | cons a steps ih => exact ⟨⟨hfirst.1,hsecond.1⟩,ih hfirst.2 hsecond.2⟩

theorem stepsMeet_of_forall (h : ∀ a ∈ steps, ∀ s, condition s a) (s : σ) :
    StepsMeet next condition s steps := by
  induction steps generalizing s with
  | nil => trivial
  | cons a steps ih =>
    exact ⟨h a List.mem_cons_self s,ih (fun b hb => h b (List.mem_cons_of_mem a hb)) _⟩

end Frontera.Data
