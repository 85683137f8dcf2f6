import RbgPlanner.Base.BinaryFormat

/-!
# Integers in float arithmetic

Integers have no bound. One that meets a float is converted, which raises out of
the range of doubles. What is in range stays exact.
-/

namespace RbgPlanner.Base

/-- A finite number when rounded to a double. -/
def InDoubleRange (q : ℚ) : Prop := (FloatFormat.binary64.round q).isFinite = true

instance : DecidablePred InDoubleRange := fun _ => inferInstanceAs (Decidable (_ = true))

theorem InDoubleRange.of_abs_le {a b : ℚ} (hb : InDoubleRange b) (h : |a| ≤ b) :
    InDoubleRange a := by
  obtain ⟨r, hr⟩ := PyFloat.isFinite_iff.mp hb
  exact FloatFormat.isFinite_round_of_abs_le hr h

/-- An exact number that float arithmetic takes in. -/
def double (q : ℚ) : Except PyExc ℚ :=
  if InDoubleRange q then .ok q else .error .overflowError

theorem double_of_inRange {q : ℚ} (h : InDoubleRange q) : double q = .ok q := if_pos h

theorem double_eq_ok {q a : ℚ} (h : double q = .ok a) : InDoubleRange q ∧ a = q := by
  unfold double at h
  split_ifs at h with hrange
  exact ⟨hrange, (Except.ok.inj h).symm⟩

/-- A number: an integer of any size, or a float. -/
inductive PyNumber
  | int (n : ℤ)
  | float (x : PyFloat)
  deriving DecidableEq, Repr

namespace PyNumber

/-- Truth value of a number. -/
def truthy : PyNumber → Bool
  | int n => decide (n ≠ 0)
  | float x => x.truthy

/-- `float`. -/
def toFloat : PyNumber → Except PyExc PyFloat
  | int n => (double n).map .fin
  | float x => .ok x

/-- The number without regard to its size. -/
def value : PyNumber → PyFloat
  | int n => .ofInt n
  | float x => x

/-- A float, or an integer in the range of doubles. -/
def InRange : PyNumber → Prop
  | int n => InDoubleRange n
  | float _ => True

instance : DecidablePred InRange
  | int n => inferInstanceAs (Decidable (InDoubleRange n))
  | float _ => inferInstanceAs (Decidable True)

variable {x : PyNumber} {y : PyFloat}

theorem toFloat_of_inRange (h : x.InRange) : x.toFloat = .ok x.value := by
  cases x with
  | int n => exact congrArg (Except.map PyFloat.fin) (double_of_inRange h)
  | float y => rfl

/-- `float` keeps what is in range and returns nothing else. -/
theorem toFloat_eq_ok (h : x.toFloat = .ok y) : x.InRange ∧ y = x.value := by
  cases x with
  | int n =>
      change (double n).map PyFloat.fin = .ok y at h
      by_cases hrange : InDoubleRange n
      · rw [double_of_inRange hrange] at h
        exact ⟨hrange, (Except.ok.inj h).symm⟩
      · rw [double, if_neg hrange] at h
        cases h
  | float z => exact ⟨trivial, (Except.ok.inj h).symm⟩

end PyNumber

end RbgPlanner.Base
