import RbgPlanner.Base.Rounding

/-!
# Python numbers

Floats are exact rationals extended by the two infinities and NaN. The
operators of the language raise on a zero divisor, those of numpy do not.
Results are exact here and rounded by a floating-point format elsewhere; the
sign of zero is not represented.
-/

namespace RbgPlanner.Base

open Rounding

/-- The built-in exceptions a numeric or container expression can raise. -/
inductive PyExc
  | zeroDivisionError
  | overflowError
  | valueError
  | typeError
  | indexError
  | keyError
  | runtimeError
  deriving DecidableEq, Repr

/-- A Python float with exact finite values. -/
inductive PyFloat
  | fin (q : ℚ)
  | posInf
  | negInf
  | nan
  deriving DecidableEq, Repr

namespace PyFloat

/-- A finite number: neither an infinity nor NaN. -/
def isFinite : PyFloat → Bool
  | fin _ => true
  | _ => false

def isNan : PyFloat → Bool
  | nan => true
  | _ => false

/-- The infinity with the sign of `q`, and NaN for zero. -/
def infOfSign (q : ℚ) : PyFloat :=
  if q = 0 then nan else if 0 < q then posInf else negInf

protected def neg : PyFloat → PyFloat
  | fin q => fin (-q)
  | posInf => negInf
  | negInf => posInf
  | nan => nan

protected def add : PyFloat → PyFloat → PyFloat
  | fin a, fin b => fin (a + b)
  | nan, _ => nan
  | _, nan => nan
  | posInf, negInf => nan
  | negInf, posInf => nan
  | posInf, _ => posInf
  | _, posInf => posInf
  | negInf, _ => negInf
  | _, negInf => negInf

protected def sub (a b : PyFloat) : PyFloat := a.add b.neg

protected def mul : PyFloat → PyFloat → PyFloat
  | fin a, fin b => fin (a * b)
  | nan, _ => nan
  | _, nan => nan
  | posInf, posInf => posInf
  | negInf, negInf => posInf
  | posInf, negInf => negInf
  | negInf, posInf => negInf
  | posInf, fin b => infOfSign b
  | negInf, fin b => infOfSign (-b)
  | fin a, posInf => infOfSign a
  | fin a, negInf => infOfSign (-a)

/-- IEEE division, as numpy scalars divide. A zero divisor counts as positive. -/
protected def ieeeDiv : PyFloat → PyFloat → PyFloat
  | fin a, fin b => if b = 0 then infOfSign a else fin (a / b)
  | nan, _ => nan
  | _, nan => nan
  | fin _, _ => fin 0
  | posInf, fin b => if 0 ≤ b then posInf else negInf
  | negInf, fin b => if 0 ≤ b then negInf else posInf
  | _, _ => nan

instance : Neg PyFloat := ⟨PyFloat.neg⟩
instance : Add PyFloat := ⟨PyFloat.add⟩
instance : Sub PyFloat := ⟨PyFloat.sub⟩
instance : Mul PyFloat := ⟨PyFloat.mul⟩

/-- The `/` of the language: a zero divisor raises. -/
def div (a b : PyFloat) : Except PyExc PyFloat :=
  if b = fin 0 then .error .zeroDivisionError else .ok (a.ieeeDiv b)

/-- The `/` of the language on two integers. -/
def intDiv (a b : ℤ) : Except PyExc ℚ :=
  if b = 0 then .error .zeroDivisionError else .ok (a / b)

/-- `<`, false as soon as a side is NaN. -/
def lt : PyFloat → PyFloat → Bool
  | fin a, fin b => decide (a < b)
  | negInf, fin _ => true
  | negInf, posInf => true
  | fin _, posInf => true
  | _, _ => false

/-- `<=`, false as soon as a side is NaN. -/
def le : PyFloat → PyFloat → Bool
  | fin a, fin b => decide (a ≤ b)
  | negInf, b => !b.isNan
  | a, posInf => !a.isNan
  | _, _ => false

/-- The two-argument built-in `max`, which keeps its first argument unless the
second is greater. -/
def max (a b : PyFloat) : PyFloat := if a.lt b then b else a

/-- The two-argument built-in `min`, which keeps its first argument unless the
second is smaller. -/
def min (a b : PyFloat) : PyFloat := if b.lt a then b else a

/-- `math.ceil`. -/
def ceil : PyFloat → Except PyExc ℤ
  | fin q => .ok ⌈q⌉
  | nan => .error .valueError
  | _ => .error .overflowError

/-- `int`, which truncates toward zero. -/
def toInt : PyFloat → Except PyExc ℤ
  | fin q => .ok (if 0 ≤ q then ⌊q⌋ else ⌈q⌉)
  | nan => .error .valueError
  | _ => .error .overflowError

/-- `round` to an integer. -/
def round : PyFloat → Except PyExc ℤ
  | fin q => .ok (roundHalfEven q)
  | nan => .error .valueError
  | _ => .error .overflowError

/-- `np.round`. -/
def npRound : PyFloat → PyFloat
  | fin q => fin (roundHalfEven q)
  | x => x

/-- `np.clip`, which lets NaN through. -/
def npClip (x : PyFloat) (lo hi : ℚ) : PyFloat :=
  match x with
  | fin q => fin (Min.min (Max.max q lo) hi)
  | posInf => fin hi
  | negInf => fin (Min.min lo hi)
  | nan => nan

/-- `round(x, k)`. -/
def roundDigits (k : ℕ) : PyFloat → PyFloat
  | fin q => fin (roundTo k q)
  | x => x

/-- Truth value of a float. -/
def truthy (x : PyFloat) : Bool := decide (x ≠ fin 0)

/-- An integer used as a float. -/
def ofInt (n : ℤ) : PyFloat := fin n

/-- `sum` of a list of floats. -/
def sum (xs : List PyFloat) : PyFloat := xs.foldl (· + ·) (fin 0)

section Finite

variable (a b : ℚ)

@[simp] theorem fin_add : fin a + fin b = fin (a + b) := rfl
@[simp] theorem fin_sub : fin a - fin b = fin (a - b) := by
  rw [sub_eq_add_neg a b]
  rfl
@[simp] theorem fin_mul : fin a * fin b = fin (a * b) := rfl
@[simp] theorem fin_lt : (fin a).lt (fin b) = decide (a < b) := rfl
@[simp] theorem fin_le : (fin a).le (fin b) = decide (a ≤ b) := rfl
@[simp] theorem fin_ceil : (fin a).ceil = .ok ⌈a⌉ := rfl
@[simp] theorem roundDigits_fin (k : ℕ) : (fin a).roundDigits k = fin (roundTo k a) := rfl

theorem fin_div {b : ℚ} (hb : b ≠ 0) : (fin a).div (fin b) = .ok (fin (a / b)) := by
  simp [div, PyFloat.ieeeDiv, hb]

theorem div_zero (x : PyFloat) : x.div (fin 0) = .error .zeroDivisionError := by
  simp [div]

@[simp] theorem fin_max : (fin a).max (fin b) = fin (Max.max a b) := by
  unfold PyFloat.max
  by_cases h : a < b
  · simp [h, max_eq_right h.le]
  · simp [h, max_eq_left (not_lt.mp h)]

@[simp] theorem fin_min : (fin a).min (fin b) = fin (Min.min a b) := by
  unfold PyFloat.min
  by_cases h : b < a
  · simp [h, min_eq_right h.le]
  · simp [h, min_eq_left (not_lt.mp h)]

end Finite

theorem sub_fin_zero (x : PyFloat) : x - fin 0 = x := by
  cases x with
  | fin q => rw [fin_sub, sub_zero]
  | _ => rfl

/-- A division that returns has a nonzero divisor. -/
theorem div_eq_ok {x y z : PyFloat} (h : x.div y = .ok z) : y ≠ fin 0 ∧ x.ieeeDiv y = z := by
  unfold div at h
  split_ifs at h with hy
  exact ⟨hy, by simpa using h⟩

/-- A division that raises has a zero divisor. -/
theorem div_eq_error {x y : PyFloat} {e : PyExc} (h : x.div y = .error e) : y = fin 0 := by
  unfold div at h
  split_ifs at h with hy
  exact hy

theorem intDiv_eq_error {a b : ℤ} {e : PyExc} (h : intDiv a b = .error e) : b = 0 := by
  unfold intDiv at h
  split_ifs at h with hb
  exact hb

theorem ceil_ne_zeroDivision (x : PyFloat) : x.ceil ≠ .error .zeroDivisionError := by
  cases x <;> simp [ceil]

theorem ofInt_eq_zero {n : ℤ} : ofInt n = fin 0 ↔ n = 0 := by
  simp [ofInt]

/-- `math.ceil` returns on finite numbers only. -/
theorem ceil_eq_ok {x : PyFloat} {n : ℤ} (h : x.ceil = .ok n) : ∃ q, x = fin q ∧ ⌈q⌉ = n := by
  cases x <;> simp_all [ceil]

theorem round_eq_ok {x : PyFloat} {n : ℤ} (h : x.round = .ok n) :
    ∃ q, x = fin q ∧ roundHalfEven q = n := by
  cases x <;> simp_all [round]

/-- `<=` is transitive, whatever is not a number. -/
theorem le_trans {x y z : PyFloat} (hxy : x.le y) (hyz : y.le z) : x.le z := by
  cases x <;> cases y <;> cases z <;> simp_all [le, isNan]
  exact hxy.trans hyz

theorem isFinite_iff {x : PyFloat} : x.isFinite = true ↔ ∃ q, x = fin q := by
  cases x <;> simp [isFinite]

/-- A sum is finite when both of its terms are. -/
theorem isFinite_add (x y : PyFloat) : (x + y).isFinite = (x.isFinite && y.isFinite) := by
  cases x <;> cases y <;> rfl

theorem infOfSign_of_pos {q : ℚ} (h : 0 < q) : infOfSign q = posInf := by
  rw [infOfSign, if_neg h.ne', if_pos h]

theorem infOfSign_of_neg {q : ℚ} (h : q < 0) : infOfSign q = negInf := by
  rw [infOfSign, if_neg h.ne, if_neg h.not_gt]

theorem infOfSign_ne_fin (a q : ℚ) : infOfSign a ≠ fin q := by
  unfold infOfSign
  split_ifs <;> simp

/-- A finite product has finite factors. -/
theorem mul_eq_fin {x y : PyFloat} {q : ℚ} (h : x * y = fin q) :
    ∃ a b, x = fin a ∧ y = fin b := by
  cases x <;> cases y <;> try exact ⟨_, _, rfl, rfl⟩
  all_goals
    change _ = fin q at h
    simp only [HMul.hMul, Mul.mul, PyFloat.mul, infOfSign_ne_fin, reduceCtorEq] at h

/-- A finite quotient by a finite number has a finite dividend. -/
theorem ieeeDiv_eq_fin {x : PyFloat} {b q : ℚ} (h : x.ieeeDiv (fin b) = fin q) :
    ∃ a, x = fin a := by
  cases x with
  | fin a => exact ⟨a, rfl⟩
  | posInf =>
      simp only [PyFloat.ieeeDiv] at h
      split_ifs at h
  | negInf =>
      simp only [PyFloat.ieeeDiv] at h
      split_ifs at h
  | nan => cases h

end PyFloat

end RbgPlanner.Base
