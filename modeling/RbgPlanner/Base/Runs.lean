/-!
# Runs of a transition system

A run is a list of actions played from a state. A property of steps holds along
a run when it holds of every step where the run takes it.
-/

namespace RbgPlanner.Base

variable {σ A : Type} {step : σ → A → σ}

/-- `P` holds of every step of the run. -/
def Along (step : σ → A → σ) (P : σ → A → Prop) : σ → List A → Prop
  | _, [] => True
  | s, a :: rest => P s a ∧ Along step P (step s a) rest

/-- Two properties that agree on steps from states of an invariant agree along
runs. The invariant has to survive only the steps that have the property. -/
theorem along_congr {I : σ → Prop} {E P Q : σ → A → Prop}
    (hI : ∀ s a, I s → E s a → P s a → I (step s a))
    (hPQ : ∀ s a, I s → E s a → (P s a ↔ Q s a)) {s : σ} {run : List A} (hs : I s)
    (hE : Along step E s run) : Along step P s run ↔ Along step Q s run := by
  induction run generalizing s with
  | nil => rfl
  | cons a rest ih =>
      obtain ⟨ha, hrest⟩ := hE
      constructor
      · intro ⟨hP, htail⟩
        exact ⟨(hPQ s a hs ha).mp hP, (ih (hI s a hs ha hP) hrest).mp htail⟩
      · intro ⟨hQ, htail⟩
        have hP : P s a := (hPQ s a hs ha).mpr hQ
        exact ⟨hP, (ih (hI s a hs ha hP) hrest).mpr htail⟩

section Ends

variable {I : σ → Prop} {E : σ → A → Prop} {s : σ} {run : List A}
  (hI : ∀ s a, I s → E s a → I (step s a))
include hI

end Ends

end RbgPlanner.Base
