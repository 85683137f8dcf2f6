import RbgPlanner.Base.FloatSize
import RbgPlanner.Planner.PerfInterpolation

/-!
# The nodes of the decode grid

Which row and column a query selects. A query divides its distance from the
first node by the distance of the first two nodes, rounds half to even and
clips, so that it selects the nearest node unless it lies outside the grid.
-/

namespace RbgPlanner.Planner

open Base Base.Rounding

section Linspace

variable {stop : ℚ} {n : ℕ}

@[simp] theorem linspace_zero (stop : ℚ) (n : ℕ) : linspace stop n 0 = 0 := by
  simp [linspace]

/-- The nodes are the multiples of the second one. -/
theorem linspace_eq_mul (stop : ℚ) (n i : ℕ) : linspace stop n i = i * linspace stop n 1 := by
  simp only [linspace, Nat.cast_one, mul_one]
  ring

theorem linspace_pos (hstop : 0 < stop) (hn : 2 ≤ n) : 0 < linspace stop n 1 := by
  have hcast : (2 : ℚ) ≤ n := by exact_mod_cast hn
  rw [linspace, Nat.cast_one, mul_one]
  exact div_pos hstop (by linarith)

theorem linspace_last (stop : ℚ) (hn : 2 ≤ n) : (n - 1) * linspace stop n 1 = stop := by
  have hcast : (2 : ℚ) ≤ n := by exact_mod_cast hn
  rw [linspace, Nat.cast_one, mul_one]
  exact mul_div_cancel₀ stop (by linarith)

end Linspace

/-- An index, clipped to an axis of `n` nodes. -/
def clipIndex (n : ℕ) (i : ℤ) : ℕ := (min (max i 0) (n - 1)).toNat

theorem clipIndex_lt {n : ℕ} (hn : 2 ≤ n) (i : ℤ) : clipIndex n i < n := by
  unfold clipIndex
  omega

/-- An index inside the axis is kept. -/
theorem clipIndex_of_mem {n : ℕ} {i : ℤ} (h₀ : 0 ≤ i) (h₁ : i ≤ n - 1) :
    (clipIndex n i : ℤ) = i := by
  unfold clipIndex
  omega

namespace DecodeInterpolator

variable (self : DecodeInterpolator)

/-- The index that a query rounds to, before it is clipped. -/
def roundedIndex (value first second : ℚ) : ℤ :=
  roundHalfEven ((value - first) / (second - first))

variable {self} {value first second : ℚ}

@[simp] theorem xi_zero : self.xi 0 = 0 := linspace_zero 1 _

theorem xi_one : self.xi 1 = 1 / (self.resolution - 1) := by
  rw [xi, linspace, Nat.cast_one, mul_one]

/-- The number of a numpy index that was rounded and clipped. -/
theorem toInt_npClip_npRound (x : ℚ) :
    ((PyFloat.fin x).npRound.npClip 0 (self.resolution - 1)).toInt =
      .ok (min (max (roundHalfEven x) 0) (self.resolution - 1)) := by
  have hcast : (min (max (roundHalfEven x : ℚ) 0) ((self.resolution : ℚ) - 1)) =
      ((min (max (roundHalfEven x) 0) (self.resolution - 1) : ℤ) : ℚ) := by
    push_cast
    rfl
  have hres := self.two_le_resolution
  have hnonneg : (0 : ℤ) ≤ min (max (roundHalfEven x) 0) (self.resolution - 1) := by omega
  simp only [PyFloat.npRound, PyFloat.npClip, PyFloat.toInt]
  rw [hcast, if_pos (by exact_mod_cast hnonneg), Int.floor_intCast]

/-- On an axis whose first two nodes differ, a query selects the node it
rounds to, clipped. -/
theorem axisIndex_fin (h : first ≠ second) :
    self.axisIndex (.fin value) first second =
      .ok (clipIndex self.resolution (roundedIndex value first second)) := by
  have hne : second - first ≠ 0 := sub_ne_zero.mpr h.symm
  have hsteps : (PyFloat.fin value - .fin first).ieeeDiv (.fin (second - first)) =
      .fin ((value - first) / (second - first)) := by
    rw [PyFloat.fin_sub]
    exact if_neg hne
  simp only [axisIndex, hsteps, toInt_npClip_npRound, bind, Except.bind]
  rfl

/-- Any index that is not NaN is clipped to the axis; NaN raises. -/
theorem axisIndex_returns_iff {x : PyFloat} :
    (∃ i, self.axisIndex x first second = .ok i) ↔
      (x - .fin first).ieeeDiv (.fin (second - first)) ≠ .nan := by
  unfold axisIndex
  generalize (x - .fin first).ieeeDiv (.fin (second - first)) = steps
  cases steps <;>
    simp [PyFloat.npRound, PyFloat.npClip, PyFloat.toInt, bind, Except.bind, pure, Except.pure]

/-- What a query inside an axis of `n` nodes selects: the node it rounds to,
unclipped, with no other one nearer. -/
structure SelectsNearest (axis : ℕ → ℚ) (n : ℕ) (value : ℚ) (i : ℕ) : Prop where
  lt : i < n
  unclipped : roundedIndex value (axis 0) (axis 1) = i
  nearest : ∀ j < n, |axis i - value| ≤ |axis j - value|
  within : |axis i - value| ≤ (axis 1 - axis 0) / 2

theorem axisIndex_of_mem {stop : ℚ} (h₀ : 0 ≤ value) (hstop : 0 < stop) (h₁ : value ≤ stop) :
    ∃ i, self.axisIndex (.fin value) (linspace stop self.resolution 0)
        (linspace stop self.resolution 1) = .ok i ∧
      SelectsNearest (linspace stop self.resolution) self.resolution value i := by
  have hstep := linspace_pos hstop self.two_le_resolution
  have hlast := linspace_last stop self.two_le_resolution
  rw [linspace_zero, axisIndex_fin hstep.ne]
  have hrounded : roundedIndex value 0 (linspace stop self.resolution 1) =
      roundHalfEven (value / linspace stop self.resolution 1) := by
    rw [roundedIndex, sub_zero, sub_zero]
  have hnonneg : 0 ≤ roundHalfEven (value / linspace stop self.resolution 1) :=
    le_roundHalfEven_of_le (by exact_mod_cast div_nonneg h₀ hstep.le)
  have hle : roundHalfEven (value / linspace stop self.resolution 1) ≤ self.resolution - 1 := by
    apply roundHalfEven_le_of_le
    rw [div_le_iff₀ hstep]
    push_cast
    exact h₁.trans_eq hlast.symm
  have hlt := clipIndex_lt self.two_le_resolution
    (roundHalfEven (value / linspace stop self.resolution 1))
  have hclip := clipIndex_of_mem hnonneg hle
  rw [hrounded]
  generalize clipIndex self.resolution
    (roundHalfEven (value / linspace stop self.resolution 1)) = i at hlt hclip
  have hnode : linspace stop self.resolution i =
      roundHalfEven (value / linspace stop self.resolution 1) *
        linspace stop self.resolution 1 := by
    rw [linspace_eq_mul, ← hclip, Int.cast_natCast]
  refine ⟨i, rfl, hlt, ?_, ?_, ?_⟩
  · rw [linspace_zero, hrounded, hclip]
  · intro j _
    rw [hnode, linspace_eq_mul stop self.resolution j]
    exact abs_roundHalfEven_div_mul_sub_le_abs hstep j
  · rw [hnode, linspace_zero, sub_zero]
    exact abs_roundHalfEven_div_mul_sub_le hstep

theorem axisIndex_lt {x : PyFloat} {i : ℕ} (h : self.axisIndex x first second = .ok i) :
    i < self.resolution := by
  obtain ⟨n, hn, hi⟩ := bind_eq_ok.mp h
  obtain rfl : n.toNat = i := Except.ok.inj hi
  have hres := self.two_le_resolution
  have hresq : (2 : ℚ) ≤ self.resolution := by exact_mod_cast hres
  -- whatever is clipped and truncated is at most the last index
  suffices hle : n ≤ self.resolution - 1 by omega
  generalize (x - .fin first).ieeeDiv (.fin (second - first)) = steps at hn
  cases steps with
  | fin q =>
      rw [toInt_npClip_npRound] at hn
      have hn := Except.ok.inj hn
      omega
  | posInf =>
      simp only [PyFloat.npRound, PyFloat.npClip, PyFloat.toInt] at hn
      rw [if_pos (by linarith)] at hn
      have hn := Except.ok.inj hn
      have hfloor : (⌊(self.resolution : ℚ) - 1⌋ : ℚ) ≤ self.resolution - 1 := Int.floor_le _
      rw [hn] at hfloor
      exact_mod_cast hfloor
  | negInf =>
      have hzero : min (0 : ℚ) (self.resolution - 1) = 0 := min_eq_left (by linarith)
      simp only [PyFloat.npRound, PyFloat.npClip, hzero] at hn
      have hn : (0 : ℤ) = n := by simpa [PyFloat.toInt] using hn
      omega
  | nan => cases hn

end DecodeInterpolator

end RbgPlanner.Planner
