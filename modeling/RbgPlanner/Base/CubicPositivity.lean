import Mathlib.Algebra.CubicDiscriminant
import Mathlib.Algebra.Order.Field.Basic
import Mathlib.Tactic.FieldSimp
import Mathlib.Tactic.LinearCombination
import Mathlib.Tactic.Linarith
import Mathlib.Tactic.Positivity

/-!
# Positive cubics

When a cubic that is positive at both ends is positive in between, on the
half line and, in Bernstein form, on the unit interval. A cubic with positive
roots is not positive at one of two quotients of its coefficients, so that the
criterion holds over any ordered field.
-/

namespace RbgPlanner.Base.CubicPositivity

variable {α : Type*} [Field α] [LinearOrder α] [IsStrictOrderedRing α]

/-- The value of a cubic. -/
def value (P : Cubic α) (s : α) : α := P.a * s ^ 3 + P.b * s ^ 2 + P.c * s + P.d

/-- The derivative of a cubic. -/
def derivative (P : Cubic α) (s : α) : α := 3 * P.a * s ^ 2 + 2 * P.b * s + P.c

section Depressed

variable {p q y z : α}

theorem sq_three_mul_sub_le (h : y ^ 2 ≤ 4 * p) : (3 * p * y - y ^ 3) ^ 2 ≤ 4 * p ^ 3 := by
  have hfactor : (3 * p * y - y ^ 3) ^ 2 - 4 * p ^ 3 = (y ^ 2 - p) ^ 2 * (y ^ 2 - 4 * p) := by
    ring
  have hsign : (y ^ 2 - p) ^ 2 * (y ^ 2 - 4 * p) ≤ 0 :=
    mul_nonpos_of_nonneg_of_nonpos (sq_nonneg _) (by linarith)
  linarith

/-- A depressed cubic that falls from a positive value has three real roots:
its discriminant is not negative. -/
theorem sq_le_of_falls (hzy : z ≤ y) (hz : 0 < z ^ 3 - 3 * p * z + q)
    (hy : y ^ 3 - 3 * p * y + q ≤ 0) : q ^ 2 ≤ 4 * p ^ 3 := by
  have hlt : 0 < y - z := by
    rcases hzy.eq_or_lt with heq | hlt
    · rw [heq] at hz
      exact absurd hy (not_le.mpr hz)
    · exact sub_pos.mpr hlt
  have hfalls : (y - z) * (y ^ 2 + y * z + z ^ 2 - 3 * p) < 0 := by
    have hdifference : (y - z) * (y ^ 2 + y * z + z ^ 2 - 3 * p) =
        (y ^ 3 - 3 * p * y + q) - (z ^ 3 - 3 * p * z + q) := by ring
    rw [hdifference]
    linarith
  have hslope : y ^ 2 + y * z + z ^ 2 < 3 * p := by
    linarith [neg_of_mul_neg_right hfalls hlt.le]
  have hysq : y ^ 2 ≤ 4 * p := by nlinarith [sq_nonneg (2 * z + y)]
  have hzsq : z ^ 2 ≤ 4 * p := by nlinarith [sq_nonneg (2 * y + z)]
  -- the constant lies between two values whose squares are bounded
  rcases le_total 0 q with hq | hq
  · calc q ^ 2 ≤ (3 * p * y - y ^ 3) ^ 2 := pow_le_pow_left₀ hq (by linarith) 2
      _ ≤ 4 * p ^ 3 := sq_three_mul_sub_le hysq
  · calc q ^ 2 = (-q) ^ 2 := (neg_sq q).symm
      _ ≤ (-(3 * p * z - z ^ 3)) ^ 2 :=
        pow_le_pow_left₀ (neg_nonneg.mpr hq) (by linarith) 2
      _ = (3 * p * z - z ^ 3) ^ 2 := neg_sq _
      _ ≤ 4 * p ^ 3 := sq_three_mul_sub_le hzsq

end Depressed

/-! ## The half line -/

section HalfLine

variable (P : Cubic α)

/-- The coefficients of the depressed cubic. -/
def delta₀ : α := P.b ^ 2 - 3 * P.a * P.c

def delta₁ : α := 2 * P.b ^ 3 - 9 * P.a * P.b * P.c + 27 * P.a ^ 2 * P.d

omit [LinearOrder α] [IsStrictOrderedRing α] in
theorem discr_eq : 4 * delta₀ P ^ 3 - delta₁ P ^ 2 = 27 * P.a ^ 2 * P.discr := by
  simp only [delta₀, delta₁, Cubic.discr]
  ring

omit [LinearOrder α] [IsStrictOrderedRing α] in
theorem value_depressed (s : α) :
    27 * P.a ^ 2 * value P s =
      (3 * P.a * s + P.b) ^ 3 - 3 * delta₀ P * (3 * P.a * s + P.b) + delta₁ P := by
  simp only [delta₀, delta₁, value]
  ring

variable {P}

theorem value_pos_of_coeff_nonneg (ha : 0 < P.a) (hd : 0 < P.d) (hb : 0 ≤ P.b) (hc : 0 ≤ P.c)
    {s : α} (hs : 0 ≤ s) : 0 < value P s := by
  unfold value
  positivity

theorem value_pos_of_discr_neg (ha : 0 < P.a) (hd : 0 < P.d) (hdiscr : P.discr < 0) {s : α}
    (hs : 0 ≤ s) : 0 < value P s := by
  by_contra hneg
  have hscale : 0 < 27 * P.a ^ 2 := by positivity
  have hstart : 0 < P.b ^ 3 - 3 * delta₀ P * P.b + delta₁ P := by
    have hvalue := value_depressed P 0
    have hzero : value P 0 = P.d := by simp [value]
    rw [hzero, mul_zero, zero_add] at hvalue
    rw [← hvalue]
    exact mul_pos hscale hd
  have hend : (3 * P.a * s + P.b) ^ 3 - 3 * delta₀ P * (3 * P.a * s + P.b) + delta₁ P ≤ 0 := by
    rw [← value_depressed]
    exact mul_nonpos_of_nonneg_of_nonpos hscale.le (not_lt.mp hneg)
  have horder : P.b ≤ 3 * P.a * s + P.b := by
    have hstep : 0 ≤ 3 * P.a * s := by positivity
    linarith
  have hsquare := sq_le_of_falls horder hstart hend
  have hnegative : 27 * P.a ^ 2 * P.discr < 0 := mul_neg_of_pos_of_neg hscale hdiscr
  linarith [discr_eq P]

/-- The inflection point. -/
theorem value_inflection (ha : P.a ≠ 0) :
    27 * P.a ^ 2 * value P (-P.b / (3 * P.a)) = delta₁ P := by
  have hzero : 3 * P.a * (-P.b / (3 * P.a)) + P.b = 0 := by
    rw [mul_div_cancel₀ _ (mul_ne_zero three_ne_zero ha)]
    exact neg_add_cancel _
  rw [value_depressed, hzero]
  ring

/-- The vertex of the Hessian: a double root when the discriminant is zero. -/
theorem value_hessian (h : delta₀ P ≠ 0) :
    8 * delta₀ P ^ 3 * value P ((9 * P.a * P.d - P.b * P.c) / (2 * delta₀ P)) =
      -(delta₁ P * P.discr) := by
  unfold value
  field_simp
  simp only [delta₀, delta₁, Cubic.discr]
  ring

section Counterexample

variable (ha : 0 < P.a) (hd : 0 < P.d) (hcoeff : ¬ (0 ≤ P.b ∧ 0 ≤ P.c))
include ha hd hcoeff

/-- The value at the inflection point is positive unless that point decides. -/
theorem delta₁_pos (hinflection : ¬ (P.b < 0 ∧ delta₁ P ≤ 0)) : 0 < delta₁ P := by
  rcases lt_or_ge P.b 0 with hb | hb
  · exact not_le.mp fun hle => hinflection ⟨hb, hle⟩
  · have hc : P.c < 0 := not_le.mp fun hc => hcoeff ⟨hb, hc⟩
    have hcube : 0 ≤ P.b ^ 3 := by positivity
    have hmixed : 0 ≤ P.a * P.b * -P.c :=
      mul_nonneg (mul_nonneg ha.le hb) (neg_nonneg.mpr hc.le)
    have hlast : 0 < P.a ^ 2 * P.d := by positivity
    unfold delta₁
    linarith

omit hd hcoeff in
/-- A cubic with three real roots has two stationary points. -/
theorem delta₀_pos (hdelta₁ : 0 < delta₁ P) (hdiscr : 0 ≤ P.discr) : 0 < delta₀ P := by
  have hsquare : 0 < delta₁ P ^ 2 := by positivity
  have hproduct : 0 ≤ 27 * P.a ^ 2 * P.discr := mul_nonneg (by positivity) hdiscr
  have hcube : 0 < delta₀ P ^ 3 := by linarith [discr_eq P]
  by_contra hle
  exact absurd hcube (not_lt.mpr (Odd.pow_nonpos (by decide) (not_lt.mp hle)))

/-- The vertex of the Hessian is on the half line. -/
theorem hessianVertex_pos (hdelta₁ : 0 < delta₁ P) (hdelta₀ : 0 < delta₀ P) :
    0 < 9 * P.a * P.d - P.b * P.c := by
  rcases lt_or_ge P.b 0 with hb | hb
  · have hshift : 3 * P.a * (9 * P.a * P.d - P.b * P.c) =
        delta₁ P + 2 * (-P.b * delta₀ P) := by
      simp only [delta₀, delta₁]
      ring
    have hright : 0 < delta₁ P + 2 * (-P.b * delta₀ P) := by
      have hterm := mul_pos (neg_pos.mpr hb) hdelta₀
      linarith
    rw [← hshift] at hright
    exact pos_of_mul_pos_right hright (by positivity)
  · have hc : P.c < 0 := not_le.mp fun hc => hcoeff ⟨hb, hc⟩
    have hproduct : 0 < P.a * P.d := mul_pos ha hd
    have hmixed : 0 ≤ P.b * -P.c := mul_nonneg hb (neg_nonneg.mpr hc.le)
    linarith

/-- With a coefficient below zero and three real roots the cubic is not
positive at its inflection point or at the vertex of its Hessian. -/
theorem exists_value_nonpos (hdiscr : 0 ≤ P.discr) : ∃ s, 0 ≤ s ∧ value P s ≤ 0 := by
  by_cases hinflection : P.b < 0 ∧ delta₁ P ≤ 0
  · obtain ⟨hb, hdelta⟩ := hinflection
    refine ⟨-P.b / (3 * P.a), div_nonneg (neg_nonneg.mpr hb.le) (by positivity), ?_⟩
    rw [← value_inflection ha.ne'] at hdelta
    exact nonpos_of_mul_nonpos_right hdelta (by positivity)
  · have hdelta₁ := delta₁_pos ha hd hcoeff hinflection
    have hdelta₀ := delta₀_pos ha hdelta₁ hdiscr
    have hvertex := hessianVertex_pos ha hd hcoeff hdelta₁ hdelta₀
    refine ⟨(9 * P.a * P.d - P.b * P.c) / (2 * delta₀ P), by positivity, ?_⟩
    have hvalue : 8 * delta₀ P ^ 3 *
        value P ((9 * P.a * P.d - P.b * P.c) / (2 * delta₀ P)) ≤ 0 := by
      rw [value_hessian hdelta₀.ne']
      exact neg_nonpos.mpr (mul_nonneg hdelta₁.le hdiscr)
    exact nonpos_of_mul_nonpos_right hvalue (by positivity)

end Counterexample

/-- A cubic with a positive leading coefficient and a positive value at zero is
positive on the half line exactly when its other coefficients are not negative
or its discriminant is. -/
theorem value_pos_iff (ha : 0 < P.a) (hd : 0 < P.d) :
    (∀ s, 0 ≤ s → 0 < value P s) ↔ (0 ≤ P.b ∧ 0 ≤ P.c) ∨ P.discr < 0 := by
  constructor
  · intro hpos
    by_contra hcondition
    obtain ⟨hcoeff, hdiscr⟩ := not_or.mp hcondition
    obtain ⟨s, hs, hvalue⟩ := exists_value_nonpos ha hd hcoeff (not_lt.mp hdiscr)
    exact absurd (hpos s hs) (not_lt.mpr hvalue)
  · rintro (⟨hb, hc⟩ | hdiscr) s hs
    · exact value_pos_of_coeff_nonneg ha hd hb hc hs
    · exact value_pos_of_discr_neg ha hd hdiscr hs

end HalfLine

/-! ## The unit interval -/

/-- A cubic in Bernstein form. -/
structure Controls (α : Type*) where
  c₀ : α
  c₁ : α
  c₂ : α
  c₃ : α

namespace Controls

/-- The cubic with given values and slopes at both ends, over an interval of a given length. -/
def hermite (length y slope y' slope' : α) : Controls α where
  c₀ := y
  c₁ := y + length * slope / 3
  c₂ := y' - length * slope' / 3
  c₃ := y'

variable (c : Controls α)

def value (t : α) : α :=
  c.c₀ * (1 - t) ^ 3 + 3 * c.c₁ * (1 - t) ^ 2 * t + 3 * c.c₂ * (1 - t) * t ^ 2 + c.c₃ * t ^ 3

/-- The second derivative at the left end, over six. -/
def leftCurvature : α := c.c₀ - 2 * c.c₁ + c.c₂

/-- The second derivative at the right end, over six. -/
def rightCurvature : α := c.c₁ - 2 * c.c₂ + c.c₃

/-- The third derivative, over six. -/
def jerk : α := c.c₃ - 3 * c.c₂ + 3 * c.c₁ - c.c₀

/-- The cubic in `t / (1 - t)`. -/
def cubic : Cubic α := ⟨c.c₃, 3 * c.c₂, 3 * c.c₁, c.c₀⟩

/-- The inner control values are not negative, or the discriminant is. -/
def Positive : Prop := (0 ≤ c.c₁ ∧ 0 ≤ c.c₂) ∨ c.cubic.discr < 0

instance : Decidable c.Positive := inferInstanceAs (Decidable (_ ∨ _))

variable {c} {t : α}

omit [LinearOrder α] [IsStrictOrderedRing α] in
@[simp] theorem value_zero : c.value 0 = c.c₀ := by
  simp [value]

omit [LinearOrder α] [IsStrictOrderedRing α] in
@[simp] theorem value_one : c.value 1 = c.c₃ := by
  simp [value]

omit [LinearOrder α] [IsStrictOrderedRing α] in
theorem value_eq_cubic (ht : 1 - t ≠ 0) :
    c.value t = (1 - t) ^ 3 * CubicPositivity.value c.cubic (t / (1 - t)) := by
  simp only [value, CubicPositivity.value, cubic]
  field_simp
  ring

/-- A cubic with positive ends is positive in between exactly when its controls are. -/
theorem value_pos_iff (h₀ : 0 < c.c₀) (h₃ : 0 < c.c₃) :
    (∀ t, 0 ≤ t → t ≤ 1 → 0 < c.value t) ↔ c.Positive := by
  have hcoeff : ∀ x : α, 0 ≤ 3 * x ↔ 0 ≤ x := fun x => mul_nonneg_iff_of_pos_left three_pos
  have hline := CubicPositivity.value_pos_iff (P := c.cubic) h₃ h₀
  have hpositive : c.Positive ↔ (0 ≤ c.cubic.b ∧ 0 ≤ c.cubic.c) ∨ c.cubic.discr < 0 := by
    rw [Positive, cubic, hcoeff, hcoeff, and_comm]
  rw [hpositive, ← hline]
  constructor
  · intro hvalue s hs
    -- the parameter of `s` is `s / (1 + s)`
    have hden : 0 < 1 + s := by linarith
    have hparameter : 1 - s / (1 + s) = 1 / (1 + s) := by
      field_simp
      ring
    have hrest : 0 < 1 - s / (1 + s) := by
      rw [hparameter]
      exact one_div_pos.mpr hden
    have hback : s / (1 + s) / (1 - s / (1 + s)) = s := by
      rw [hparameter]
      field_simp
    have hpos := hvalue (s / (1 + s)) (div_nonneg hs hden.le) (by linarith)
    rw [value_eq_cubic hrest.ne', hback] at hpos
    exact pos_of_mul_pos_right hpos (pow_pos hrest 3).le
  · intro hvalue t ht₀ ht₁
    rcases ht₁.eq_or_lt with heq | hlt
    · rw [heq, value_one]
      exact h₃
    · have hrest : 0 < 1 - t := by linarith
      rw [value_eq_cubic hrest.ne']
      exact mul_pos (pow_pos hrest 3) (hvalue _ (div_nonneg ht₀ hrest.le))

end Controls

end RbgPlanner.Base.CubicPositivity
