import Mathlib.Algebra.Order.Round
import Mathlib.Data.Rat.Floor
import Mathlib.Tactic.Linarith
import Mathlib.Tactic.Positivity
import Mathlib.Tactic.FieldSimp
import Mathlib.Tactic.Ring

/-!
# Rounding to nearest, ties to even

The rounding mode of `round` in Python and of `%.1f` in Go, on exact
rationals. A quotient of integers is compared with its rounding through its
Euclidean remainder, so that callers reason about integers only.
-/

namespace RbgPlanner.Base.Rounding

/-- The nearest integer; a tie goes to the even neighbour. -/
def roundHalfEven (x : ℚ) : ℤ :=
  if x - ⌊x⌋ < 1 / 2 then ⌊x⌋
  else if 1 / 2 < x - ⌊x⌋ then ⌊x⌋ + 1
  else if ⌊x⌋ % 2 = 0 then ⌊x⌋ else ⌊x⌋ + 1

/-- Rounding to `k` decimals. -/
def roundTo (k : ℕ) (x : ℚ) : ℚ := roundHalfEven (x * 10 ^ k) / 10 ^ k

theorem roundHalfEven_eq_floor_or (x : ℚ) :
    roundHalfEven x = ⌊x⌋ ∨ roundHalfEven x = ⌊x⌋ + 1 := by
  unfold roundHalfEven
  split_ifs <;> simp

theorem floor_le_roundHalfEven (x : ℚ) : ⌊x⌋ ≤ roundHalfEven x := by
  rcases roundHalfEven_eq_floor_or x with h | h <;> omega

@[simp] theorem roundHalfEven_intCast (n : ℤ) : roundHalfEven (n : ℚ) = n := by
  simp [roundHalfEven]

/-- Rounding to `k` decimals keeps the numbers that have no more than `k`. -/
theorem roundTo_eq_self_iff (k : ℕ) (x : ℚ) : roundTo k x = x ↔ ∃ n : ℤ, x * 10 ^ k = n := by
  have hpow : (10 : ℚ) ^ k ≠ 0 := by positivity
  unfold roundTo
  constructor
  · intro h
    exact ⟨roundHalfEven (x * 10 ^ k), ((div_eq_iff hpow).mp h).symm⟩
  · rintro ⟨n, hn⟩
    rw [hn, roundHalfEven_intCast, ← hn]
    exact mul_div_cancel_right₀ x hpow

theorem roundHalfEven_le_add_half (x : ℚ) : (roundHalfEven x : ℚ) ≤ x + 1 / 2 := by
  have hf := Int.floor_le x
  unfold roundHalfEven
  split_ifs <;> push_cast <;> linarith

theorem sub_half_le_roundHalfEven (x : ℚ) : x - 1 / 2 ≤ (roundHalfEven x : ℚ) := by
  have hf := Int.lt_floor_add_one x
  unfold roundHalfEven
  split_ifs <;> push_cast <;> linarith

/-- The rounding error is at most one half. -/
theorem abs_roundHalfEven_sub_le (x : ℚ) : |(roundHalfEven x : ℚ) - x| ≤ 1 / 2 := by
  rw [abs_le]
  constructor
  · linarith [sub_half_le_roundHalfEven x]
  · linarith [roundHalfEven_le_add_half x]

/-- A tie rounds to an even number. -/
theorem even_roundHalfEven_of_tie {x : ℚ} (h : |(roundHalfEven x : ℚ) - x| = 1 / 2) :
    Even (roundHalfEven x) := by
  have hfloor : (0 : ℚ) ≤ x - ⌊x⌋ := by linarith [Int.floor_le x]
  have hnext : x - ⌊x⌋ < 1 := by linarith [Int.lt_floor_add_one x]
  unfold roundHalfEven at h ⊢
  split_ifs at h ⊢ with hlow hhigh heven
  · rw [abs_sub_comm, abs_of_nonneg hfloor] at h
    linarith
  · push_cast at h
    rw [abs_of_nonneg (by linarith)] at h
    linarith
  · exact Int.even_iff.mpr heven
  · exact Int.even_iff.mpr (by omega)

/-- What rounding is: within one half, and even at a tie. -/
theorem roundHalfEven_eq_iff {x : ℚ} {k : ℤ} :
    roundHalfEven x = k ↔ |(k : ℚ) - x| ≤ 1 / 2 ∧ (|(k : ℚ) - x| = 1 / 2 → Even k) := by
  constructor
  · rintro rfl
    exact ⟨abs_roundHalfEven_sub_le x, even_roundHalfEven_of_tie⟩
  · rintro ⟨hk, heven⟩
    by_contra hne
    have hr := abs_le.mp (abs_roundHalfEven_sub_le x)
    have hk' := abs_le.mp hk
    -- two integers within one half of `x` are neighbours, and both are ties
    rcases lt_or_gt_of_ne hne with hlt | hgt
    · have hstep : (roundHalfEven x : ℚ) + 1 ≤ k := by exact_mod_cast hlt
      have hrtie : |(roundHalfEven x : ℚ) - x| = 1 / 2 := by
        rw [abs_of_nonpos] <;> linarith
      have hktie : |(k : ℚ) - x| = 1 / 2 := by
        rw [abs_of_nonneg] <;> linarith
      have hsucc : (k : ℚ) = roundHalfEven x + 1 := by linarith
      have hsucc : k = roundHalfEven x + 1 := by exact_mod_cast hsucc
      obtain ⟨a, ha⟩ := even_roundHalfEven_of_tie hrtie
      obtain ⟨b, hb⟩ := heven hktie
      omega
    · have hstep : (k : ℚ) + 1 ≤ roundHalfEven x := by exact_mod_cast hgt
      have hrtie : |(roundHalfEven x : ℚ) - x| = 1 / 2 := by
        rw [abs_of_nonneg] <;> linarith
      have hktie : |(k : ℚ) - x| = 1 / 2 := by
        rw [abs_of_nonpos] <;> linarith
      have hsucc : (roundHalfEven x : ℚ) = k + 1 := by linarith
      have hsucc : roundHalfEven x = k + 1 := by exact_mod_cast hsucc
      obtain ⟨a, ha⟩ := even_roundHalfEven_of_tie hrtie
      obtain ⟨b, hb⟩ := heven hktie
      omega

theorem roundHalfEven_neg (x : ℚ) : roundHalfEven (-x) = -roundHalfEven x := by
  have hdistance : |((-roundHalfEven x : ℤ) : ℚ) - -x| = |(roundHalfEven x : ℚ) - x| := by
    rw [← abs_neg]
    push_cast
    ring_nf
  rw [roundHalfEven_eq_iff, hdistance]
  exact ⟨abs_roundHalfEven_sub_le x, fun htie => (even_roundHalfEven_of_tie htie).neg⟩

theorem le_roundHalfEven_of_le {n : ℤ} {x : ℚ} (h : (n : ℚ) ≤ x) :
    n ≤ roundHalfEven x :=
  (Int.le_floor.mpr h).trans (floor_le_roundHalfEven x)

theorem roundHalfEven_le_of_le {n : ℤ} {x : ℚ} (h : x ≤ (n : ℚ)) :
    roundHalfEven x ≤ n := by
  have hh := roundHalfEven_le_add_half x
  have hlt : (roundHalfEven x : ℚ) < (n : ℚ) + 1 := by linarith
  have : roundHalfEven x < n + 1 := by exact_mod_cast hlt
  omega

/-- Rounding keeps the order. -/
theorem roundHalfEven_mono {x y : ℚ} (hxy : x ≤ y) : roundHalfEven x ≤ roundHalfEven y := by
  rcases hxy.eq_or_lt with heq | hlt
  · rw [heq]
  · by_contra hdrop
    have hstep : (roundHalfEven y : ℚ) + 1 ≤ roundHalfEven x := by
      exact_mod_cast not_le.mp hdrop
    have hx := roundHalfEven_le_add_half x
    have hy := sub_half_le_roundHalfEven y
    linarith

/-- A number rounds to at most `n` below the midpoint after `n`, and at it when `n` is even. -/
theorem roundHalfEven_le_iff {x : ℚ} {n : ℤ} :
    roundHalfEven x ≤ n ↔ x < n + 1 / 2 ∨ x = n + 1 / 2 ∧ Even n := by
  have hlow := sub_half_le_roundHalfEven x
  have hhigh := roundHalfEven_le_add_half x
  constructor
  · intro hle
    have hleq : (roundHalfEven x : ℚ) ≤ n := by exact_mod_cast hle
    rcases (show x ≤ n + 1 / 2 by linarith).lt_or_eq with hlt | heq
    · exact .inl hlt
    · have hround : roundHalfEven x = n := by
        have hge : (n : ℚ) ≤ roundHalfEven x := by linarith
        exact le_antisymm hle (by exact_mod_cast hge)
      refine .inr ⟨heq, hround ▸ even_roundHalfEven_of_tie ?_⟩
      rw [hround, heq, abs_of_nonpos] <;> linarith
  · rintro (hlt | ⟨heq, heven⟩)
    · have hlt : (roundHalfEven x : ℚ) < n + 1 := by linarith
      have hlt : roundHalfEven x < n + 1 := by exact_mod_cast hlt
      omega
    · refine (roundHalfEven_eq_iff.mpr ⟨?_, fun _ => heven⟩).le
      rw [heq, abs_of_nonpos] <;> linarith

theorem le_roundHalfEven_iff {x : ℚ} {n : ℤ} :
    n ≤ roundHalfEven x ↔ n - 1 / 2 < x ∨ x = n - 1 / 2 ∧ Even n := by
  rw [← neg_le_neg_iff, ← roundHalfEven_neg, roundHalfEven_le_iff, even_neg, Int.cast_neg]
  refine or_congr ?_ (and_congr_left' ?_)
  · constructor <;> intro h <;> linarith
  · constructor <;> intro h <;> linarith

/-- No integer is nearer than the rounding. -/
theorem abs_roundHalfEven_sub_le_abs (x : ℚ) (k : ℤ) :
    |(roundHalfEven x : ℚ) - x| ≤ |(k : ℚ) - x| := by
  by_contra hnear
  have hnear := not_le.mp hnear
  have hround := abs_roundHalfEven_sub_le x
  -- two integers that are both nearer than one half are equal
  have hdistance : |((k - roundHalfEven x : ℤ) : ℚ)| < 1 := by
    calc |((k - roundHalfEven x : ℤ) : ℚ)| = |((k : ℚ) - x) - (roundHalfEven x - x)| := by
          push_cast
          ring_nf
      _ ≤ |(k : ℚ) - x| + |(roundHalfEven x : ℚ) - x| := abs_sub _ _
      _ < 1 := by linarith
  have hequal : k - roundHalfEven x = 0 := Int.abs_lt_one_iff.mp (by exact_mod_cast hdistance)
  rw [sub_eq_zero.mp hequal] at hnear
  exact lt_irrefl _ hnear

section Grid

variable {h v : ℚ}

/-- Rounding to a multiple of `h` is off by half of `h` at most. -/
theorem abs_roundHalfEven_div_mul_sub_le (hh : 0 < h) :
    |(roundHalfEven (v / h) : ℚ) * h - v| ≤ h / 2 := by
  calc |(roundHalfEven (v / h) : ℚ) * h - v|
      = |((roundHalfEven (v / h) : ℚ) - v / h) * h| := by
        rw [sub_mul, div_mul_cancel₀ v hh.ne']
    _ = |(roundHalfEven (v / h) : ℚ) - v / h| * h := by rw [abs_mul, abs_of_pos hh]
    _ ≤ 1 / 2 * h := mul_le_mul_of_nonneg_right (abs_roundHalfEven_sub_le _) hh.le
    _ = h / 2 := by ring

/-- No multiple of `h` is nearer. -/
theorem abs_roundHalfEven_div_mul_sub_le_abs (hh : 0 < h) (k : ℤ) :
    |(roundHalfEven (v / h) : ℚ) * h - v| ≤ |(k : ℚ) * h - v| := by
  have hscale : ∀ n : ℤ, |(n : ℚ) * h - v| = |(n : ℚ) - v / h| * h := by
    intro n
    rw [← abs_of_pos hh, ← abs_mul, abs_of_pos hh, sub_mul, div_mul_cancel₀ v hh.ne']
  rw [hscale, hscale]
  exact mul_le_mul_of_nonneg_right (abs_roundHalfEven_sub_le_abs _ k) hh.le

end Grid

/-- Rounding to `k` decimals is off by half a unit of the last one. -/
theorem abs_roundTo_sub_le (k : ℕ) (x : ℚ) : |roundTo k x - x| ≤ 1 / (2 * 10 ^ k) := by
  have hpow : (0 : ℚ) < 10 ^ k := by positivity
  have herror : roundTo k x - x = ((roundHalfEven (x * 10 ^ k) : ℚ) - x * 10 ^ k) / 10 ^ k := by
    rw [roundTo, sub_div, mul_div_cancel_right₀ x hpow.ne']
  rw [herror, abs_div, abs_of_pos hpow, div_le_div_iff₀ hpow (by positivity)]
  have hround := abs_roundHalfEven_sub_le (x * 10 ^ k)
  nlinarith

theorem roundTo_nonneg (k : ℕ) {x : ℚ} (h : 0 ≤ x) : 0 ≤ roundTo k x := by
  have hround : 0 ≤ roundHalfEven (x * 10 ^ k) :=
    le_roundHalfEven_of_le (by push_cast; positivity)
  exact div_nonneg (by exact_mod_cast hround) (by positivity)

theorem roundTo_le_one (k : ℕ) {x : ℚ} (h : x ≤ 1) : roundTo k x ≤ 1 := by
  have hpow : (0 : ℚ) < 10 ^ k := by positivity
  have hround : roundHalfEven (x * 10 ^ k) ≤ 10 ^ k := by
    apply roundHalfEven_le_of_le
    push_cast
    exact mul_le_of_le_one_left hpow.le h
  exact (div_le_one hpow).mpr (by exact_mod_cast hround)

section Quotient

variable {n d : ℤ}

theorem floor_intCast_div (hd : 0 < d) : ⌊(n : ℚ) / d⌋ = n / d := by
  rw [Int.floor_eq_iff]
  have hdq : (0 : ℚ) < d := by exact_mod_cast hd
  have he : (n : ℚ) = d * (n / d : ℤ) + (n % d : ℤ) := by
    exact_mod_cast (Int.mul_ediv_add_emod n d).symm
  have hm₀ : (0 : ℚ) ≤ (n % d : ℤ) := by exact_mod_cast Int.emod_nonneg n hd.ne'
  have hm₁ : ((n % d : ℤ) : ℚ) < d := by exact_mod_cast Int.emod_lt_of_pos n hd
  constructor
  · rw [le_div_iff₀ hdq]
    linarith
  · rw [div_lt_iff₀ hdq]
    linarith

/-- The fractional part of a quotient is its remainder over the divisor. -/
theorem intCast_div_sub_floor (hd : 0 < d) :
    (n : ℚ) / d - (n / d : ℤ) = (n % d : ℤ) / d := by
  have hdq : (d : ℚ) ≠ 0 := by exact_mod_cast hd.ne'
  have he : (n : ℚ) = d * (n / d : ℤ) + (n % d : ℤ) := by
    exact_mod_cast (Int.mul_ediv_add_emod n d).symm
  field_simp
  linarith

/-- A rounded quotient is the integer quotient, or one more, as twice the
remainder compares with the divisor. -/
theorem roundHalfEven_intCast_div (hd : 0 < d) :
    roundHalfEven ((n : ℚ) / d) =
      if 2 * (n % d) < d ∨ (2 * (n % d) = d ∧ n / d % 2 = 0) then n / d else n / d + 1 := by
  have hdq : (0 : ℚ) < d := by exact_mod_cast hd
  have hlt : ((n % d : ℤ) : ℚ) / d < 1 / 2 ↔ 2 * (n % d) < d := by
    rw [div_lt_div_iff₀ hdq two_pos]
    constructor
    · intro h
      have h' : (n % d) * 2 < 1 * d := by exact_mod_cast h
      omega
    · intro h
      have h' : (n % d) * 2 < 1 * d := by omega
      exact_mod_cast h'
  have hgt : 1 / 2 < ((n % d : ℤ) : ℚ) / d ↔ d < 2 * (n % d) := by
    rw [div_lt_div_iff₀ two_pos hdq]
    constructor
    · intro h
      have h' : 1 * d < (n % d) * 2 := by exact_mod_cast h
      omega
    · intro h
      have h' : 1 * d < (n % d) * 2 := by omega
      exact_mod_cast h'
  unfold roundHalfEven
  rw [floor_intCast_div hd, intCast_div_sub_floor hd]
  simp only [hlt, hgt]
  split_ifs <;> omega

/-- Rounding a quotient and multiplying back stays within the dividend exactly
when the rounding went down. -/
theorem roundHalfEven_div_mul_le_iff (hd : 0 < d) :
    roundHalfEven ((n : ℚ) / d) * d ≤ n ↔
      2 * (n % d) < d ∨ (2 * (n % d) = d ∧ n / d % 2 = 0) := by
  have he := Int.mul_ediv_add_emod n d
  have hm₀ := Int.emod_nonneg n hd.ne'
  have hm₁ := Int.emod_lt_of_pos n hd
  rw [roundHalfEven_intCast_div hd]
  split_ifs with h
  · constructor
    · intro _
      exact h
    · intro _
      rw [Int.mul_comm]
      omega
  · constructor
    · intro hle
      have : (n / d + 1) * d = d * (n / d) + d := by ring
      omega
    · intro h'
      exact absurd h' h

end Quotient

/-! ## Scaling what was rounded -/

section Scaled

variable {x : ℚ} {n : ℤ}

/-- A product within half the scale leaves a scale of one, or a rounded value of
zero, or a scale of two and a rounded value of one. -/
theorem scale_of_close {k : ℤ} (hn : 1 ≤ n) (hk : 0 ≤ k) (hscaled : (k : ℚ) * n - x ≤ n / 2)
    (herror : |(k : ℚ) - x| ≤ 1 / 2) (htie : |(k : ℚ) - x| = 1 / 2 → Even k) :
    n = 1 ∨ k = 0 ∨ n = 2 ∧ k = 1 := by
  by_cases hone : n = 1
  · exact .inl hone
  by_cases hzero : k = 0
  · exact .inr (.inl hzero)
  have hupper := (abs_le.mp herror).1
  -- twice the bound, in integers: a rounded value above one is too far off
  have hbound : 2 * k * n ≤ n + 2 * k + 1 := by
    have hrat : 2 * (k : ℚ) * n ≤ n + 2 * k + 1 := by linarith
    exact_mod_cast hrat
  have htwo : 2 ≤ n := by omega
  obtain rfl : k = 1 := by
    by_contra hne
    have hproduct : 0 ≤ (k - 2) * (n - 1) := mul_nonneg (by omega) (by omega)
    nlinarith
  obtain rfl | rfl : n = 2 ∨ n = 3 := by omega
  · exact .inr (.inr ⟨rfl, rfl⟩)
  · -- a scale of three is close for a tie only, and one is odd
    exfalso
    push_cast at hscaled hupper
    have hx : x = 3 / 2 := by linarith
    subst hx
    exact absurd (htie (by norm_num)) (by decide)

theorem abs_scaled_sub_le_iff_of_nonneg (hn : 1 ≤ n) (hx : 0 ≤ x) :
    |(roundHalfEven x : ℚ) * n - x| ≤ n / 2 ↔
      n = 1 ∨ x ≤ 1 / 2 ∨ n = 2 ∧ 1 ≤ x ∧ x < 3 / 2 := by
  have hnq : (1 : ℚ) ≤ n := by exact_mod_cast hn
  constructor
  · intro h
    have hscaled := (abs_le.mp h).2
    have hround := abs_roundHalfEven_sub_le x
    have herror := abs_le.mp hround
    have hnonneg : 0 ≤ roundHalfEven x := le_roundHalfEven_of_le (by exact_mod_cast hx)
    rcases scale_of_close hn hnonneg hscaled hround even_roundHalfEven_of_tie with
      hone | hzero | ⟨rfl, hone⟩
    · exact .inl hone
    · rw [hzero] at herror
      exact .inr (.inl (by push_cast at herror; linarith))
    · have htie : |(roundHalfEven x : ℚ) - x| = 1 / 2 → Even (roundHalfEven x) :=
        even_roundHalfEven_of_tie
      rw [hone] at hscaled herror htie
      push_cast at hscaled herror
      have hlt : x < 3 / 2 := by
        apply lt_of_le_of_ne (by linarith)
        rintro rfl
        exact absurd (htie (by norm_num)) (by decide)
      exact .inr (.inr ⟨rfl, by linarith, hlt⟩)
  · rintro (rfl | hhalf | ⟨rfl, hlow, hhigh⟩)
    · simpa using abs_roundHalfEven_sub_le x
    · have hzero : roundHalfEven x = 0 :=
        roundHalfEven_eq_iff.mpr ⟨by simpa [abs_of_nonneg hx] using hhalf, fun _ => Even.zero⟩
      rw [hzero, Int.cast_zero, zero_mul, zero_sub, abs_neg, abs_of_nonneg hx]
      linarith
    · have hdistance : |((1 : ℤ) : ℚ) - x| = x - 1 := by
        rw [Int.cast_one, abs_sub_comm, abs_of_nonneg (by linarith)]
      have hone : roundHalfEven x = 1 := by
        rw [roundHalfEven_eq_iff, hdistance]
        exact ⟨by linarith, fun htie => by linarith⟩
      rw [hone, abs_le]
      push_cast
      constructor <;> linarith

/-- A number that is rounded and then scaled is within half the scale of itself
when the scale is one or the number too small for the scale to show. -/
theorem abs_scaled_sub_le_iff (hn : 1 ≤ n) :
    |(roundHalfEven x : ℚ) * n - x| ≤ n / 2 ↔
      n = 1 ∨ |x| ≤ 1 / 2 ∨ n = 2 ∧ 1 ≤ |x| ∧ |x| < 3 / 2 := by
  rcases le_total 0 x with hx | hx
  · rw [abs_of_nonneg hx]
    exact abs_scaled_sub_le_iff_of_nonneg hn hx
  · have hneg := abs_scaled_sub_le_iff_of_nonneg hn (neg_nonneg.mpr hx)
    have hdistance : |((-roundHalfEven x : ℤ) : ℚ) * n - -x| =
        |(roundHalfEven x : ℚ) * n - x| := by
      rw [← abs_neg]
      push_cast
      ring_nf
    rw [roundHalfEven_neg, hdistance] at hneg
    rwa [abs_of_nonpos hx]

end Scaled

end RbgPlanner.Base.Rounding
