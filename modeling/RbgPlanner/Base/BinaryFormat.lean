import Mathlib.Data.Int.Log
import RbgPlanner.Base.FloatFormat

/-!
# Binary formats

A binary format has the multiples of its last places: a number of significant
digits for each power of two, and a least place below which it has none. It
delivers the nearest of its numbers, the even one of two, and infinity from a
power of two on.
-/

namespace RbgPlanner.Base.BinaryFormat

open Rounding PyFloat

variable (digits : ℕ) (least greatest : ℤ)

/-- The exponent of the last place of numbers of this magnitude. -/
def lastPlace (q : ℚ) : ℤ := max (Int.log 2 |q| - (digits - 1)) least

/-- The nearest multiple of the last place. -/
def nearest (q : ℚ) : ℚ :=
  roundHalfEven (q / 2 ^ lastPlace digits least q) * 2 ^ lastPlace digits least q

def deliver (q : ℚ) : PyFloat :=
  if |nearest digits least q| < 2 ^ greatest then fin (nearest digits least q) else infOfSign q

variable {digits least greatest} {a b q : ℚ} {m : ℤ}

/-! ## Signs -/

theorem nearest_neg (q : ℚ) : nearest digits least (-q) = -nearest digits least q := by
  rw [nearest, nearest, lastPlace, lastPlace, abs_neg, neg_div, roundHalfEven_neg, Int.cast_neg,
    neg_mul]

theorem nearest_nonneg (h : 0 ≤ q) : 0 ≤ nearest digits least q := by
  have hpow : (0 : ℚ) ≤ 2 ^ lastPlace digits least q := (zpow_pos two_pos _).le
  refine mul_nonneg ?_ hpow
  have hround : 0 ≤ roundHalfEven (q / 2 ^ lastPlace digits least q) :=
    le_roundHalfEven_of_le (by exact_mod_cast div_nonneg h hpow)
  exact_mod_cast hround

theorem nearest_zero : nearest digits least 0 = 0 := by
  have hround : roundHalfEven 0 = 0 := by
    simpa using roundHalfEven_intCast 0
  rw [nearest, zero_div, hround, Int.cast_zero, zero_mul]

theorem infOfSign_neg (q : ℚ) : infOfSign (-q) = -infOfSign q := by
  rcases lt_trichotomy q 0 with hneg | rfl | hpos
  · rw [infOfSign_of_neg hneg, infOfSign_of_pos (neg_pos.mpr hneg)]
    rfl
  · rw [neg_zero]
    rfl
  · rw [infOfSign_of_pos hpos, infOfSign_of_neg (neg_neg_of_pos hpos)]
    rfl

/-! ## Powers of two -/

/-- A power of two that is not below the last place is a whole number of last places. -/
theorem zpow_div_lastPlace (h : lastPlace digits least q ≤ m) :
    (2 : ℚ) ^ m / 2 ^ lastPlace digits least q =
      ((2 ^ (m - lastPlace digits least q).toNat : ℤ) : ℚ) := by
  rw [← zpow_sub₀ two_ne_zero, Int.cast_pow, Int.cast_ofNat, ← zpow_natCast,
    Int.toNat_of_nonneg (sub_nonneg.mpr h)]

theorem nearest_le_zpow (hplace : lastPlace digits least q ≤ m) (h : q ≤ 2 ^ m) :
    nearest digits least q ≤ 2 ^ m := by
  have hpow : (0 : ℚ) < 2 ^ lastPlace digits least q := zpow_pos two_pos _
  have hquotient := div_le_div_of_nonneg_right h hpow.le
  rw [zpow_div_lastPlace hplace] at hquotient
  have hround := roundHalfEven_le_of_le hquotient
  rw [nearest, ← le_div_iff₀ hpow, zpow_div_lastPlace hplace]
  exact_mod_cast hround

theorem zpow_le_nearest (hplace : lastPlace digits least q ≤ m) (h : 2 ^ m ≤ q) :
    2 ^ m ≤ nearest digits least q := by
  have hpow : (0 : ℚ) < 2 ^ lastPlace digits least q := zpow_pos two_pos _
  have hquotient := div_le_div_of_nonneg_right h hpow.le
  rw [zpow_div_lastPlace hplace] at hquotient
  have hround := le_roundHalfEven_of_le hquotient
  rw [nearest, ← div_le_iff₀ hpow, zpow_div_lastPlace hplace]
  exact_mod_cast hround

/-! ## Order -/

section Order

variable (hdigits : 1 ≤ digits)
include hdigits

/-- Of positive numbers. Where the last places differ there is a power of two in between. -/
theorem nearest_le_of_pos (ha : 0 < a) (h : a ≤ b) :
    nearest digits least a ≤ nearest digits least b := by
  have hdigits : (1 : ℤ) ≤ digits := by exact_mod_cast hdigits
  have hb : 0 < b := ha.trans_le h
  have hlog : Int.log 2 a ≤ Int.log 2 b := Int.log_mono_right ha h
  have hplaceA : lastPlace digits least a = max (Int.log 2 a - (digits - 1)) least := by
    rw [lastPlace, abs_of_pos ha]
  have hplaceB : lastPlace digits least b = max (Int.log 2 b - (digits - 1)) least := by
    rw [lastPlace, abs_of_pos hb]
  by_cases hsame : lastPlace digits least a = lastPlace digits least b
  · have hpow : (0 : ℚ) < 2 ^ lastPlace digits least b := zpow_pos two_pos _
    rw [nearest, nearest, hsame]
    refine mul_le_mul_of_nonneg_right ?_ hpow.le
    exact_mod_cast roundHalfEven_mono (div_le_div_of_nonneg_right h hpow.le)
  · have hbelow : a ≤ 2 ^ Int.log 2 b := by
      have hlt : Int.log 2 a + 1 ≤ Int.log 2 b := by omega
      have hpow : (2 : ℚ) ^ (Int.log 2 a + 1) ≤ 2 ^ Int.log 2 b :=
        zpow_le_zpow_right₀ one_le_two hlt
      have ha := Int.lt_zpow_succ_log_self (b := 2) one_lt_two a
      rw [Nat.cast_ofNat] at ha
      exact ha.le.trans hpow
    have habove : (2 : ℚ) ^ Int.log 2 b ≤ b := by
      have hb := Int.zpow_log_le_self (b := 2) one_lt_two hb
      rwa [Nat.cast_ofNat] at hb
    exact (nearest_le_zpow (by omega) hbelow).trans (zpow_le_nearest (by omega) habove)

theorem nearest_le (h : a ≤ b) : nearest digits least a ≤ nearest digits least b := by
  rcases lt_or_ge 0 a with hpos | ha
  · exact nearest_le_of_pos hdigits hpos h
  · have hnonpos : nearest digits least a ≤ 0 := by
      have hneg : 0 ≤ nearest digits least (-a) := nearest_nonneg (neg_nonneg.mpr ha)
      rw [nearest_neg] at hneg
      linarith
    rcases le_or_gt 0 b with hb | hneg
    · exact hnonpos.trans (nearest_nonneg hb)
    · have hflip : nearest digits least (-b) ≤ nearest digits least (-a) :=
        nearest_le_of_pos hdigits (neg_pos.mpr hneg) (neg_le_neg h)
      rw [nearest_neg, nearest_neg] at hflip
      linarith

omit hdigits in
/-- What overflows has the sign of what it rounds. -/
theorem overflow_cases (h : ¬ |nearest digits least q| < 2 ^ greatest) :
    (0 < q ∧ 2 ^ greatest ≤ nearest digits least q) ∨
      (q < 0 ∧ nearest digits least q ≤ -2 ^ greatest) := by
  have hover := not_lt.mp h
  have hpow : (0 : ℚ) < 2 ^ greatest := zpow_pos two_pos _
  rcases lt_trichotomy q 0 with hneg | rfl | hpos
  · have hnonneg : 0 ≤ nearest digits least (-q) := nearest_nonneg (neg_nonneg.mpr hneg.le)
    rw [nearest_neg] at hnonneg
    rw [abs_of_nonpos (by linarith)] at hover
    exact .inr ⟨hneg, by linarith⟩
  · rw [nearest_zero, abs_zero] at hover
    linarith
  · rw [abs_of_nonneg (nearest_nonneg hpos.le)] at hover
    exact .inl ⟨hpos, hover⟩

theorem deliver_le (h : a ≤ b) :
    (deliver digits least greatest a).le (deliver digits least greatest b) = true := by
  have hnearest : nearest digits least a ≤ nearest digits least b := nearest_le hdigits h
  unfold deliver
  split_ifs with ha hb hb
  · exact decide_eq_true hnearest
  · rcases overflow_cases hb with ⟨hpos, -⟩ | ⟨-, hlow⟩
    · rw [infOfSign_of_pos hpos]
      rfl
    · exact absurd (hnearest.trans hlow) (not_le.mpr (abs_lt.mp ha).1)
  · rcases overflow_cases ha with ⟨-, hhigh⟩ | ⟨hneg, -⟩
    · exact absurd (hhigh.trans hnearest) (not_le.mpr (abs_lt.mp hb).2)
    · rw [infOfSign_of_neg hneg]
      rfl
  · rcases overflow_cases ha with ⟨hpos, -⟩ | ⟨hneg, -⟩
    · rw [infOfSign_of_pos hpos, infOfSign_of_pos (hpos.trans_le h)]
      rfl
    · rw [infOfSign_of_neg hneg]
      rcases overflow_cases hb with ⟨hposB, -⟩ | ⟨hnegB, -⟩
      · rw [infOfSign_of_pos hposB]
        rfl
      · rw [infOfSign_of_neg hnegB]
        rfl

end Order

/-! ## Numbers of the format -/

/-- A whole number of places that are not below the last one is kept. -/
theorem nearest_eq_self {k : ℤ} {q : ℚ} (hq : q = k * 2 ^ m)
    (hplace : lastPlace digits least q ≤ m) : nearest digits least q = q := by
  have hpow : (2 : ℚ) ^ lastPlace digits least q ≠ 0 := (zpow_pos two_pos _).ne'
  have hwhole : q / 2 ^ lastPlace digits least q =
      ((k * 2 ^ (m - lastPlace digits least q).toNat : ℤ) : ℚ) := by
    rw [Int.cast_mul, ← zpow_div_lastPlace hplace, ← mul_div_assoc, ← hq]
  rw [nearest, hwhole, roundHalfEven_intCast, ← hwhole, div_mul_cancel₀ _ hpow]

/-- What is delivered for a positive number is one of the format: it has the
places of what it rounds, or is the power of two above. -/
theorem nearest_nearest_of_pos (hdigits : 1 ≤ digits) (hq : 0 < q) :
    nearest digits least (nearest digits least q) = nearest digits least q := by
  have hdigits : (1 : ℤ) ≤ digits := by exact_mod_cast hdigits
  have hnonneg : 0 ≤ nearest digits least q := nearest_nonneg hq.le
  rcases hnonneg.eq_or_lt with hzero | hpos
  · rw [← hzero, nearest_zero]
  by_cases hplace : lastPlace digits least (nearest digits least q) ≤ lastPlace digits least q
  · exact nearest_eq_self rfl hplace
  have hlogq : lastPlace digits least q = max (Int.log 2 q - (digits - 1)) least := by
    rw [lastPlace, abs_of_pos hq]
  have hlogr : lastPlace digits least (nearest digits least q) =
      max (Int.log 2 (nearest digits least q) - (digits - 1)) least := by
    rw [lastPlace, abs_of_pos hpos]
  generalize hm : max (Int.log 2 q + 1) (lastPlace digits least q) = m
  have hbelow : q ≤ 2 ^ m := by
    have hsucc := Int.lt_zpow_succ_log_self (b := 2) one_lt_two q
    rw [Nat.cast_ofNat] at hsucc
    exact hsucc.le.trans (zpow_le_zpow_right₀ one_le_two (by omega))
  have hceil : nearest digits least q ≤ 2 ^ m := nearest_le_zpow (by omega) hbelow
  have hfloor : (2 : ℚ) ^ Int.log 2 (nearest digits least q) ≤ nearest digits least q := by
    have h := Int.zpow_log_le_self (b := 2) one_lt_two hpos
    rwa [Nat.cast_ofNat] at h
  have hexponent : Int.log 2 (nearest digits least q) ≤ m :=
    (zpow_le_zpow_iff_right₀ one_lt_two).mp (hfloor.trans hceil)
  obtain rfl : Int.log 2 (nearest digits least q) = m := by omega
  have hpower : nearest digits least q =
      ((1 : ℤ) : ℚ) * 2 ^ Int.log 2 (nearest digits least q) := by
    rw [Int.cast_one, one_mul]
    exact le_antisymm hceil hfloor
  exact nearest_eq_self hpower (by omega)

theorem nearest_nearest (hdigits : 1 ≤ digits) (q : ℚ) :
    nearest digits least (nearest digits least q) = nearest digits least q := by
  rcases lt_trichotomy q 0 with hneg | rfl | hpos
  · have h : nearest digits least (nearest digits least (-q)) = nearest digits least (-q) :=
      nearest_nearest_of_pos hdigits (neg_pos.mpr hneg)
    rw [nearest_neg, nearest_neg] at h
    exact neg_injective h
  · rw [nearest_zero, nearest_zero]
  · exact nearest_nearest_of_pos hdigits hpos

/-- One is a number of a format with a digit, no place above one, and room for it. -/
theorem nearest_one (hdigits : 1 ≤ digits) (hleast : least ≤ 0) : nearest digits least 1 = 1 := by
  have hlog : Int.log 2 (1 : ℚ) = 0 := by
    have h := Int.log_zpow (R := ℚ) (b := 2) one_lt_two 0
    rwa [zpow_zero] at h
  have hplace : lastPlace digits least 1 ≤ 0 := by
    rw [lastPlace, abs_one, hlog]
    omega
  exact nearest_eq_self (k := 1) (by simp) hplace

/-- The format with that many significant digits, that least place and overflow
from that power of two on. -/
def format (digits : ℕ) (least greatest : ℤ) (hdigits : 1 ≤ digits) (hleast : least ≤ 0)
    (hgreatest : 1 ≤ greatest) : FloatFormat where
  round := deliver digits least greatest
  round_round := by
    intro a b h
    unfold deliver at h
    split_ifs at h with hfits
    · obtain rfl := fin.inj h
      rw [deliver, nearest_nearest hdigits, if_pos hfits]
    · exact absurd h (infOfSign_ne_fin _ _)
  round_le := deliver_le hdigits
  round_neg := by
    intro q
    unfold deliver
    rw [nearest_neg, abs_neg, infOfSign_neg]
    split_ifs <;> rfl
  round_one := by
    have hlt : (1 : ℚ) < 2 ^ greatest := one_lt_zpow₀ one_lt_two (by omega)
    rw [deliver, nearest_one hdigits hleast, abs_one, if_pos hlt]

end BinaryFormat

/-- Doubles. -/
def FloatFormat.binary64 : FloatFormat :=
  BinaryFormat.format 53 (-1074) 1024 (by decide) (by decide) (by decide)

example : FloatFormat.binary64.round (1 / 10) = .fin (3602879701896397 / 2 ^ 55) := by
  decide +kernel

end RbgPlanner.Base
