import RbgPlanner.Base.FloatSize

/-!
# Floating-point formats

A format delivers the exact result of an operation as one of its numbers: it
rounds, and what it has no number for becomes infinite. Each operation below
computes exactly and delivers the result. Exact arithmetic is the format that
has all numbers.
-/

namespace RbgPlanner.Base

/-- How finite results are delivered: the numbers of the format as they are, the
others in their order and with their sign. One is a number of the format. -/
structure FloatFormat where
  round : ℚ → PyFloat
  round_round : ∀ {a b : ℚ}, round a = .fin b → round b = .fin b
  round_le : ∀ {a b : ℚ}, a ≤ b → (round a).le (round b) = true
  round_neg : ∀ q, round (-q) = -round q
  round_one : round 1 = .fin 1

namespace FloatFormat

open PyFloat

/-- The format with all numbers. -/
def exact : FloatFormat where
  round := fin
  round_round := fun _ => rfl
  round_le := decide_eq_true
  round_neg := fun _ => rfl
  round_one := rfl

variable (F : FloatFormat)

/-! ## Operations -/

/-- A result in the format. -/
def deliver : PyFloat → PyFloat
  | fin q => F.round q
  | x => x

def add (x y : PyFloat) : PyFloat := F.deliver (x + y)

def sub (x y : PyFloat) : PyFloat := F.deliver (x - y)

def mul (x y : PyFloat) : PyFloat := F.deliver (x * y)

/-- The division of numpy. -/
def ieeeDiv (x y : PyFloat) : PyFloat := F.deliver (x.ieeeDiv y)

/-- The `/` of the language: a zero divisor raises. -/
def div (x y : PyFloat) : Except PyExc PyFloat :=
  if y = fin 0 then .error .zeroDivisionError else .ok (F.ieeeDiv x y)

/-- A finite result, where an infinite one raises. -/
def finite (q : ℚ) : Except PyExc PyFloat :=
  if (F.round q).isFinite then .ok (F.round q) else .error .overflowError

/-- An integer in float arithmetic. -/
def ofInt (n : ℤ) : Except PyExc PyFloat := F.finite n

/-- The `/` of the language on two integers. -/
def intDiv (a b : ℤ) : Except PyExc PyFloat :=
  if b = 0 then .error .zeroDivisionError else F.finite (a / b)

/-- `sum` of a list of floats. -/
def sum (xs : List PyFloat) : PyFloat := xs.foldl F.add (fin 0)

variable {F} {x y z : PyFloat} {a b q : ℚ}

/-! ## Rounding -/

theorem round_zero : F.round 0 = fin 0 := by
  have hneg : F.round 0 = -F.round 0 := by
    have h := F.round_neg 0
    rwa [neg_zero] at h
  have hle : (F.round 0).le (F.round 0) = true := F.round_le le_rfl
  cases hzero : F.round 0 with
  | fin q =>
      rw [hzero] at hneg
      have hq : q = -q := fin.inj hneg
      rw [show q = 0 by linarith]
  | posInf =>
      rw [hzero] at hneg
      cases hneg
  | negInf =>
      rw [hzero] at hneg
      cases hneg
  | nan =>
      rw [hzero] at hle
      cases hle

theorem round_ne_nan (q : ℚ) : F.round q ≠ nan := by
  have hle : (F.round q).le (F.round q) = true := F.round_le le_rfl
  rintro hnan
  rw [hnan] at hle
  cases hle

/-- Finite results are in the order of what they round. -/
theorem le_of_round (ha : F.round a = fin q) {r : ℚ} (hb : F.round b = fin r) (h : a ≤ b) :
    q ≤ r := by
  have hle := F.round_le h
  rw [ha, hb] at hle
  exact of_decide_eq_true hle

theorem nonpos_of_round (h : F.round a = fin q) (ha : a ≤ 0) : q ≤ 0 :=
  le_of_round h round_zero ha

theorem nonneg_of_round (h : F.round a = fin q) (ha : 0 ≤ a) : 0 ≤ q :=
  le_of_round round_zero h ha

/-- What is one or more does not vanish. -/
theorem round_ne_zero_of_one_le (h : 1 ≤ q) : F.round q ≠ fin 0 := by
  intro hzero
  have hle := le_of_round F.round_one hzero h
  linarith

/-- What is within a finite result is finite. -/
theorem isFinite_round_of_abs_le {r : ℚ} (hb : F.round b = fin r) (h : |q| ≤ b) :
    (F.round q).isFinite = true := by
  obtain ⟨hlow, hhigh⟩ := abs_le.mp h
  have hle := F.round_le hhigh
  have hge := F.round_le hlow
  rw [F.round_neg] at hge
  rw [hb] at hle hge
  cases hq : F.round q with
  | fin a => rfl
  | posInf =>
      rw [hq] at hle
      cases hle
  | negInf =>
      rw [hq] at hge
      cases hge
  | nan => exact absurd hq (round_ne_nan q)

theorem round_intCast_eq_zero {n : ℤ} : F.round n = fin 0 ↔ n = 0 := by
  constructor
  · intro h
    by_contra hn
    rcases lt_or_gt_of_ne hn with hneg | hpos
    · refine round_ne_zero_of_one_le (F := F) (q := -(n : ℚ)) ?_ ?_
      · have hone : 1 ≤ -n := by omega
        exact_mod_cast hone
      · rw [F.round_neg, h]
        rfl
    · exact round_ne_zero_of_one_le (by exact_mod_cast hpos) h
  · rintro rfl
    rw [Int.cast_zero]
    exact round_zero

/-! ## Results -/

theorem deliver_eq_nan : F.deliver x = nan ↔ x = nan := by
  cases x with
  | fin q => simp [deliver, round_ne_nan]
  | _ => simp [deliver]

/-- A finite result rounds a finite one. -/
theorem deliver_eq_fin : F.deliver x = fin q ↔ ∃ a, x = fin a ∧ F.round a = fin q := by
  cases x with
  | fin a => simp [deliver]
  | _ => simp [deliver]

theorem mul_eq_nan_iff : F.mul x y = nan ↔ Size.Indeterminate [x.size, y.size] := by
  rw [mul, deliver_eq_nan, ← size_eq_undefined, size_mul, Size.mul_eq_undefined]

theorem ieeeDiv_eq_nan_iff : F.ieeeDiv x y = nan ↔ x.size.div y.size = .undefined := by
  rw [ieeeDiv, deliver_eq_nan, ← size_eq_undefined, size_ieeeDiv]

/-- A quotient by an integer in range is NaN when the dividend is. -/
theorem ieeeDiv_round_eq_nan {n : ℤ} (hn : n ≠ 0) (hfinite : (F.round n).isFinite = true) :
    F.ieeeDiv x (F.round n) = nan ↔ x = nan := by
  obtain ⟨c, hc⟩ := isFinite_iff.mp hfinite
  have hne : c ≠ 0 := by
    rintro rfl
    exact hn (round_intCast_eq_zero.mp hc)
  rw [hc, ieeeDiv, deliver_eq_nan, ← size_eq_undefined, size_ieeeDiv_fin hne, size_eq_undefined]

theorem mul_eq_fin (h : F.mul x y = fin q) : ∃ a b, x = fin a ∧ y = fin b := by
  obtain ⟨c, hc, -⟩ := deliver_eq_fin.mp h
  exact PyFloat.mul_eq_fin hc

theorem ieeeDiv_nonfinite (hx : x.isFinite = false) : (F.ieeeDiv x y).isFinite = false := by
  cases x with
  | fin a => cases hx
  | nan => rfl
  | posInf =>
      cases y with
      | fin b =>
          simp only [ieeeDiv, PyFloat.ieeeDiv]
          split_ifs <;> rfl
      | _ => rfl
  | negInf =>
      cases y with
      | fin b =>
          simp only [ieeeDiv, PyFloat.ieeeDiv]
          split_ifs <;> rfl
      | _ => rfl

/-- A finite quotient has a finite dividend. -/
theorem ieeeDiv_eq_fin (h : F.ieeeDiv x y = fin q) : ∃ a, x = fin a := by
  rw [← isFinite_iff]
  by_contra hx
  have hquotient := ieeeDiv_nonfinite (F := F) (y := y) (Bool.eq_false_iff.mpr hx)
  rw [h] at hquotient
  cases hquotient

theorem nonpos_of_mul (ha : a ≤ 0) (hb : 0 ≤ b) (h : F.mul (fin a) (fin b) = fin q) : q ≤ 0 :=
  nonpos_of_round h (mul_nonpos_of_nonpos_of_nonneg ha hb)

theorem mul_nonneg (ha : 0 ≤ a) (hb : 0 ≤ b) : (fin 0).le (F.mul (fin a) (fin b)) = true := by
  have hle := F.round_le (a := 0) (b := a * b) (by positivity)
  rwa [round_zero] at hle

/-- A quotient of numbers on two sides of zero is not positive. -/
theorem nonpos_of_ieeeDiv (ha : a ≤ 0) (hy : (fin 0).le y = true)
    (h : F.ieeeDiv (fin a) y = fin q) : q ≤ 0 := by
  obtain ⟨c, hc, hround⟩ := deliver_eq_fin.mp h
  refine nonpos_of_round hround ?_
  cases y with
  | fin b =>
      have hb : 0 ≤ b := of_decide_eq_true hy
      simp only [PyFloat.ieeeDiv] at hc
      split_ifs at hc with hzero
      · exact absurd hc (infOfSign_ne_fin _ _)
      · rw [← fin.inj hc]
        exact div_nonpos_of_nonpos_of_nonneg ha hb
  | posInf => exact (fin.inj hc).ge
  | negInf => cases hy
  | nan => cases hc

theorem div_eq_ok : F.div x y = .ok z ↔ y ≠ fin 0 ∧ F.ieeeDiv x y = z := by
  unfold div
  split_ifs with hy
  · simp [hy]
  · simp [hy]

theorem finite_eq_ok : F.finite q = .ok z ↔ (∃ a, z = fin a) ∧ F.round q = z := by
  unfold finite
  split_ifs with h
  · obtain ⟨a, ha⟩ := isFinite_iff.mp h
    rw [Except.ok.injEq]
    constructor
    · rintro rfl
      exact ⟨⟨a, ha⟩, rfl⟩
    · exact And.right
  · refine iff_of_false nofun ?_
    rintro ⟨⟨a, rfl⟩, hround⟩
    exact h (isFinite_iff.mpr ⟨a, hround⟩)

theorem ofInt_eq_ok {n : ℤ} : F.ofInt n = .ok z ↔ (∃ a, z = fin a) ∧ F.round n = z :=
  finite_eq_ok

/-- A finite integer is handed on as it rounds. -/
theorem ofInt_eq_ok_iff {n : ℤ} :
    F.ofInt n = .ok z ↔ (F.round n).isFinite = true ∧ F.round n = z := by
  unfold ofInt finite
  split_ifs with h
  · simp [h]
  · simp [h]

theorem ofInt_nonneg {n : ℤ} (hn : 0 ≤ n) (h : F.ofInt n = .ok z) :
    ∃ c, z = fin c ∧ 0 ≤ c := by
  obtain ⟨⟨c, rfl⟩, hround⟩ := ofInt_eq_ok.mp h
  exact ⟨c, rfl, nonneg_of_round hround (by exact_mod_cast hn)⟩

/-- An integer becomes zero when it is. -/
theorem ofInt_eq_zero {n : ℤ} : F.ofInt n = .ok (fin 0) ↔ n = 0 := by
  rw [ofInt_eq_ok, round_intCast_eq_zero]
  exact and_iff_right ⟨0, rfl⟩

theorem ofInt_zero : F.ofInt 0 = .ok (fin 0) := ofInt_eq_zero.mpr rfl

variable (F) in
/-- Numbers that can be added to a total one after the other: each one is finite,
and so is each new total. -/
def AddsUp : ℚ → List PyFloat → Prop
  | _, [] => True
  | total, x :: xs => ∃ b t : ℚ, x = fin b ∧ F.round (total + b) = fin t ∧ AddsUp t xs

/-- What is not finite stays so, whatever is added. -/
theorem foldl_add_nonfinite {xs : List PyFloat} (hx : x.isFinite = false) :
    (xs.foldl F.add x).isFinite = false := by
  induction xs generalizing x with
  | nil => exact hx
  | cons y xs ih =>
      apply ih
      have hsum : (x + y).isFinite = false := by rw [isFinite_add, hx, Bool.false_and]
      unfold add deliver
      split
      · next h =>
          rw [h] at hsum
          cases hsum
      · exact hsum

theorem isFinite_foldl_add_iff {xs : List PyFloat} {total : ℚ} :
    (xs.foldl F.add (fin total)).isFinite = true ↔ F.AddsUp total xs := by
  induction xs generalizing total with
  | nil => exact iff_of_true rfl trivial
  | cons x xs ih =>
      rw [List.foldl_cons]
      constructor
      · intro h
        cases hx : F.add (fin total) x with
        | fin t =>
            obtain ⟨c, hc, hround⟩ := deliver_eq_fin.mp hx
            have hfinite : (fin total + x).isFinite = true := by rw [hc]; rfl
            rw [isFinite_add, Bool.and_eq_true] at hfinite
            obtain ⟨b, rfl⟩ := isFinite_iff.mp hfinite.2
            rw [hx] at h
            exact ⟨b, t, rfl, hx, ih.mp h⟩
        | _ =>
            rw [hx, foldl_add_nonfinite rfl] at h
            cases h
      · rintro ⟨b, t, rfl, hround, htail⟩
        have hadd : F.add (fin total) (fin b) = fin t := hround
        rw [hadd]
        exact ih.mpr htail

/-- A sum is finite exactly when its terms can be added one after the other. -/
theorem isFinite_sum_iff {xs : List PyFloat} : (F.sum xs).isFinite = true ↔ F.AddsUp 0 xs :=
  isFinite_foldl_add_iff

/-- A finite sum is a number of the format. -/
theorem round_sum {xs : List PyFloat} (h : F.sum xs = fin q) : F.round q = fin q := by
  have hfold : ∀ (xs : List PyFloat) (x : PyFloat), (∀ a, x = fin a → F.round a = fin a) →
      xs.foldl F.add x = fin q → F.round q = fin q := by
    intro xs
    induction xs with
    | nil => exact fun x hx h => hx q h
    | cons y xs ih =>
        intro x _ h
        refine ih _ (fun a ha => ?_) h
        obtain ⟨c, -, hround⟩ := deliver_eq_fin.mp ha
        exact F.round_round hround
  refine hfold xs (fin 0) (fun a ha => ?_) h
  rw [← fin.inj ha]
  exact round_zero

/-- A mean of as many numbers as the format can count, or more, is finite when their sum is. -/
theorem isFinite_mean_iff {xs : List PyFloat} (hxs : xs ≠ []) :
    (F.ieeeDiv (F.sum xs) (F.round xs.length)).isFinite = true ↔ F.AddsUp 0 xs := by
  rw [← isFinite_sum_iff]
  constructor
  · intro h
    obtain ⟨q, hq⟩ := isFinite_iff.mp h
    obtain ⟨a, ha⟩ := ieeeDiv_eq_fin hq
    rw [ha]
    rfl
  · intro h
    obtain ⟨s, hs⟩ := isFinite_iff.mp h
    have hround := round_sum hs
    have hlength : (1 : ℚ) ≤ xs.length := by
      exact_mod_cast List.length_pos_iff.mpr hxs
    rw [hs]
    cases hcount : F.round xs.length with
    | fin c =>
        have hc : 1 ≤ c := le_of_round F.round_one hcount hlength
        have hquotient : (fin s).ieeeDiv (fin c) = fin (s / c) := if_neg (by linarith)
        rw [ieeeDiv, hquotient]
        have habs : F.round |s| = fin |s| := by
          rcases abs_choice s with hsign | hsign
          · rw [hsign, hround]
          · rw [hsign, F.round_neg, hround]
            rfl
        refine isFinite_round_of_abs_le habs ?_
        rw [abs_div]
        exact div_le_self (abs_nonneg s) (hc.trans (le_abs_self c))
    | posInf =>
        have hquotient : (fin s).ieeeDiv posInf = fin 0 := rfl
        rw [ieeeDiv, hquotient, deliver, round_zero]
        rfl
    | negInf =>
        have hle := F.round_le hlength
        rw [hcount, F.round_one] at hle
        cases hle
    | nan => exact absurd hcount (round_ne_nan _)

/-! ## Exact results -/

section Exact

@[simp] theorem exact_deliver (x : PyFloat) : exact.deliver x = x := by
  cases x <;> rfl

@[simp] theorem exact_add (x y : PyFloat) : exact.add x y = x + y := exact_deliver _

@[simp] theorem exact_sub (x y : PyFloat) : exact.sub x y = x - y := exact_deliver _

@[simp] theorem exact_mul (x y : PyFloat) : exact.mul x y = x * y := exact_deliver _

@[simp] theorem exact_ieeeDiv (x y : PyFloat) : exact.ieeeDiv x y = x.ieeeDiv y :=
  exact_deliver _

@[simp] theorem exact_div (x y : PyFloat) : exact.div x y = x.div y := by
  simp [FloatFormat.div, PyFloat.div]

@[simp] theorem exact_finite (q : ℚ) : exact.finite q = .ok (fin q) := rfl

@[simp] theorem exact_ofInt (n : ℤ) : exact.ofInt n = .ok (PyFloat.ofInt n) := rfl

@[simp] theorem exact_intDiv (m n : ℤ) : exact.intDiv m n = (PyFloat.intDiv m n).map fin := by
  unfold intDiv PyFloat.intDiv
  split_ifs <;> rfl

@[simp] theorem exact_sum (xs : List PyFloat) : exact.sum xs = PyFloat.sum xs := by
  have hadd : exact.add = (· + ·) := funext fun x => funext fun y => exact_add x y
  rw [sum, PyFloat.sum, hadd]

end Exact

end FloatFormat

end RbgPlanner.Base
