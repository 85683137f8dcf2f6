import RbgPlanner.Base.PyFloat

/-!
# Sizes of floats

Whether a number is zero, another finite number, infinite or NaN is decided for
products and quotients by the same question about their operands.
-/

namespace RbgPlanner.Base

/-- What is left of a number without its sign and its finite value. -/
inductive Size
  | zero
  | nonzero
  | infinite
  | undefined
  deriving DecidableEq, Repr

namespace Size

/-- The size of a product: undefined as soon as a factor is, or zero meets an infinity. -/
def mul : Size → Size → Size
  | undefined, _ => undefined
  | _, undefined => undefined
  | zero, infinite => undefined
  | infinite, zero => undefined
  | zero, _ => zero
  | _, zero => zero
  | infinite, _ => infinite
  | _, infinite => infinite
  | nonzero, nonzero => nonzero

/-- The size of a quotient: undefined as soon as a part is, or where zero
meets zero or infinity infinity. -/
def div : Size → Size → Size
  | undefined, _ => undefined
  | _, undefined => undefined
  | zero, zero => undefined
  | infinite, infinite => undefined
  | zero, _ => zero
  | _, infinite => zero
  | infinite, _ => infinite
  | _, zero => infinite
  | nonzero, nonzero => nonzero

/-- Two numbers without a quotient although both are numbers. -/
def Coincide (a b : Size) : Prop := a = b ∧ (a = zero ∨ a = infinite)

instance (a b : Size) : Decidable (Coincide a b) := inferInstanceAs (Decidable (_ ∧ _))

/-- One factor is undefined, or one is zero and another one infinite. -/
def Indeterminate (sizes : List Size) : Prop :=
  undefined ∈ sizes ∨ zero ∈ sizes ∧ infinite ∈ sizes

instance (sizes : List Size) : Decidable (Indeterminate sizes) :=
  inferInstanceAs (Decidable (_ ∨ _))

theorem mul_comm (a b : Size) : a.mul b = b.mul a := by
  cases a <;> cases b <;> rfl

theorem mul_eq_undefined (a b : Size) : a.mul b = undefined ↔ Indeterminate [a, b] := by
  cases a <;> cases b <;> decide

theorem div_eq_undefined (a b : Size) :
    a.div b = undefined ↔ a = undefined ∨ b = undefined ∨ Coincide a b := by
  cases a <;> cases b <;> decide

end Size

namespace PyFloat

def size : PyFloat → Size
  | fin q => if q = 0 then .zero else .nonzero
  | posInf => .infinite
  | negInf => .infinite
  | nan => .undefined

variable {x : PyFloat} {q : ℚ}

theorem size_fin_of_ne (hq : q ≠ 0) : (fin q).size = .nonzero := by
  simp [size, hq]

theorem size_eq_undefined : x.size = .undefined ↔ x = nan := by
  cases x with
  | fin q => by_cases hq : q = 0 <;> simp [size, hq]
  | _ => simp [size]

theorem size_neg (q : ℚ) : (fin (-q)).size = (fin q).size := by
  simp [size]

/-- The size of a number times an infinity. -/
theorem size_infOfSign (q : ℚ) : (infOfSign q).size = (fin q).size.mul .infinite := by
  by_cases hq : q = 0
  · simp [infOfSign, size, hq, Size.mul]
  · rw [infOfSign, if_neg hq, size_fin_of_ne hq]
    split_ifs <;> rfl

/-- The size of a product is the product of the sizes. -/
theorem size_mul (x y : PyFloat) : (x * y).size = x.size.mul y.size := by
  cases x with
  | fin a =>
      cases y with
      | fin b => by_cases ha : a = 0 <;> by_cases hb : b = 0 <;> simp [size, ha, hb, Size.mul]
      | posInf => exact size_infOfSign a
      | negInf => exact (size_infOfSign (-a)).trans (by rw [size_neg]; rfl)
      | nan => cases (fin a).size <;> rfl
  | posInf =>
      cases y with
      | fin b => exact (size_infOfSign b).trans (Size.mul_comm _ _)
      | _ => rfl
  | negInf =>
      cases y with
      | fin b => exact (size_infOfSign (-b)).trans (by rw [size_neg, Size.mul_comm]; rfl)
      | _ => rfl
  | nan => rfl

/-- The size of a quotient is the quotient of the sizes. -/
theorem size_ieeeDiv (x y : PyFloat) : (x.ieeeDiv y).size = x.size.div y.size := by
  cases x with
  | fin a =>
      cases y with
      | fin b =>
          by_cases hb : b = 0
          · have hquotient : (fin a).ieeeDiv (fin b) = infOfSign a := by simp [PyFloat.ieeeDiv, hb]
            rw [hquotient, size_infOfSign]
            by_cases ha : a = 0 <;> simp [size, ha, hb, Size.mul, Size.div]
          · by_cases ha : a = 0 <;> simp [PyFloat.ieeeDiv, size, ha, hb, Size.div]
      | nan => cases (fin a).size <;> rfl
      | _ => by_cases ha : a = 0 <;> simp [PyFloat.ieeeDiv, size, ha, Size.div]
  | nan => rfl
  | posInf =>
      cases y with
      | fin b =>
          have hinfinite : (posInf.ieeeDiv (fin b)).size = .infinite := by
            simp only [PyFloat.ieeeDiv]
            split_ifs <;> rfl
          rw [hinfinite]
          by_cases hb : b = 0 <;> simp [size, hb, Size.div]
      | _ => rfl
  | negInf =>
      cases y with
      | fin b =>
          have hinfinite : (negInf.ieeeDiv (fin b)).size = .infinite := by
            simp only [PyFloat.ieeeDiv]
            split_ifs <;> rfl
          rw [hinfinite]
          by_cases hb : b = 0 <;> simp [size, hb, Size.div]
      | _ => rfl

/-- Dividing by a finite number other than zero keeps the size. -/
theorem size_ieeeDiv_fin {c : ℚ} (hc : c ≠ 0) (x : PyFloat) :
    (x.ieeeDiv (fin c)).size = x.size := by
  rw [size_ieeeDiv, size_fin_of_ne hc]
  cases x.size <;> rfl

end PyFloat

end RbgPlanner.Base
