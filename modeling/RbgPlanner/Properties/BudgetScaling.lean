import RbgPlanner.Planner.Budget
import RbgPlanner.Properties.InertBudget

/-!
# Scaling down to the budget

The budget step is documented to scale down both roles and to keep their
minima. Decode gains by it when prefill's rounding frees more GPUs than decode
gives up. Which counts gain is decided for every floating-point format.
-/

namespace RbgPlanner.Properties.BudgetScaling

open Base Base.Rounding Base.Sizing Planner InertBudget

/-- The number rounds to `n` or less: it is below the next midpoint, or on it and `n` is even. -/
def RoundsToAtMost (x : ℚ) (n : ℤ) : Prop := x < n + 1 / 2 ∨ x = n + 1 / 2 ∧ Even n

/-- The number rounds to `n` or more. -/
def RoundsToAtLeast (x : ℚ) (n : ℤ) : Prop := n - 1 / 2 < x ∨ x = n - 1 / 2 ∧ Even n

/-- Two counts that fit the budget, or whose prefill part is no more than
prefill's count and reaches some number of engines that leaves no more than
half an engine beyond decode's. -/
def ScalesDown (F : FloatFormat) (config : PlannerConfig) (numP numD : ℤ) : Prop :=
  config.totalGpu numP numD ≤ config.maxGpuBudget ∨
    ∃ part : ℚ, Rounded.proportionalPart F config numP numD = .ok (.fin part) ∧
      RoundsToAtMost part numP ∧
      ∃ (share : ℤ) (room : ℚ), (share ≤ config.minReplicas ∨ RoundsToAtLeast part share) ∧
        Rounded.decodeRoom F config share = .ok (.fin room) ∧ RoundsToAtMost room numD

variable {F : FloatFormat} {config : PlannerConfig} {numP numD p d : ℤ}

theorem RoundsToAtMost.mono {x y : ℚ} {n : ℤ} (h : RoundsToAtMost y n) (hxy : x ≤ y) :
    RoundsToAtMost x n :=
  roundHalfEven_le_iff.mp ((roundHalfEven_mono hxy).trans (roundHalfEven_le_iff.mpr h))

/-- Prefill's rounding frees half an engine at most, so decode's room grows by
half the GPUs of a prefill engine at most. -/
theorem decodeRoom_round_le (hordered : config.Ordered)
    (hover : config.maxGpuBudget < config.totalGpu numP numD) :
    config.decodeRoom (roundHalfEven (config.proportionalPart numP numD)) ≤
      (config.maxGpuBudget : ℚ) / config.totalGpu numP numD * numD +
        config.prefillEngineNumGpu / config.decodeEngineNumGpu / 2 := by
  have hgp : (0 : ℚ) < config.prefillEngineNumGpu := by exact_mod_cast hordered.prefillGpu
  have hgd : (0 : ℚ) < config.decodeEngineNumGpu := by exact_mod_cast hordered.decodeGpu
  have hbudget : (config.maxGpuBudget : ℚ) ≤
      config.maxGpuBudget / config.totalGpu numP numD * config.totalGpu numP numD := by
    by_cases hzero : (config.totalGpu numP numD : ℚ) = 0
    · have hover : (config.maxGpuBudget : ℚ) < config.totalGpu numP numD := by
        exact_mod_cast hover
      rw [hzero, mul_zero]
      exact hover.le.trans_eq hzero
    · exact (div_mul_cancel₀ _ hzero).ge
  have hround := sub_half_le_roundHalfEven (config.proportionalPart numP numD)
  rw [PlannerConfig.proportionalPart] at hround ⊢
  rw [PlannerConfig.decodeRoom, div_le_iff₀ hgd]
  generalize (config.maxGpuBudget : ℚ) / config.totalGpu numP numD = ratio at hbudget hround ⊢
  have htotal : (config.totalGpu numP numD : ℚ) =
      numP * config.prefillEngineNumGpu + numD * config.decodeEngineNumGpu := by
    rw [PlannerConfig.totalGpu]
    push_cast
    rfl
  have hshare := mul_le_mul_of_nonneg_right hround hgp.le
  calc ((config.maxGpuBudget -
        roundHalfEven (numP * ratio) * config.prefillEngineNumGpu : ℤ) : ℚ)
      = config.maxGpuBudget - roundHalfEven (numP * ratio) * config.prefillEngineNumGpu := by
        push_cast
        rfl
    _ ≤ ratio * config.totalGpu numP numD -
          (numP * ratio - 1 / 2) * config.prefillEngineNumGpu := sub_le_sub hbudget hshare
    _ = (ratio * numD + config.prefillEngineNumGpu / config.decodeEngineNumGpu / 2) *
          config.decodeEngineNumGpu := by
        rw [htotal]
        field_simp
        ring

/-- In exact arithmetic counts scale down when a prefill engine takes no more
GPUs than a decode engine. -/
theorem scalesDown_of_prefill_le_decode (hordered : config.Ordered) (hP : 0 ≤ numP)
    (hD : 0 ≤ numD) (hoccupied : config.totalGpu numP numD ≠ 0)
    (hsize : config.prefillEngineNumGpu ≤ config.decodeEngineNumGpu) :
    ScalesDown .exact config numP numD := by
  rcases le_or_gt (config.totalGpu numP numD) config.maxGpuBudget with hfits | hover
  · exact .inl hfits
  have hratio := PlannerConfig.budgetRatio_lt_one hordered hP hD hover
  have hPq : (0 : ℚ) ≤ numP := by exact_mod_cast hP
  have hgpu : config.decodeEngineNumGpu ≠ 0 := by linarith [hordered.decodeGpu]
  have hexact : Rounded.proportionalPart .exact config numP numD =
      .ok (.fin (config.proportionalPart numP numD)) := by
    simp only [Rounded.proportionalPart, FloatFormat.exact_intDiv, PyFloat.intDiv, hoccupied,
      if_false]
    rfl
  have hroomExact : ∀ share, Rounded.decodeRoom .exact config share =
      .ok (.fin (config.decodeRoom share)) := by
    intro share
    rw [Rounded.decodeRoom, FloatFormat.exact_intDiv, PyFloat.intDiv, if_neg hgpu]
    rfl
  refine .inr ⟨_, hexact, ?_, roundHalfEven (config.proportionalPart numP numD), _, ?_,
    hroomExact _, ?_⟩
  · have hpart : config.proportionalPart numP numD ≤ numP := mul_le_of_le_one_right hPq hratio.le
    exact .inl (by linarith)
  · exact .inr (le_roundHalfEven_iff.mp le_rfl)
  · have hgd : (0 : ℚ) < config.decodeEngineNumGpu := by exact_mod_cast hordered.decodeGpu
    have hsizes : (config.prefillEngineNumGpu : ℚ) / config.decodeEngineNumGpu ≤ 1 :=
      (div_le_one hgd).mpr (by exact_mod_cast hsize)
    have hroom := decodeRoom_round_le hordered hover
    -- the half engine is a tie only for no decode engine, and zero is even
    rcases hD.eq_or_lt with hzero | hpos
    · subst hzero
      rw [Int.cast_zero, mul_zero, zero_add] at hroom
      exact RoundsToAtMost.mono (.inr ⟨rfl, Even.zero⟩) (by push_cast; linarith)
    · have hDq : (0 : ℚ) < numD := by exact_mod_cast hpos
      have hless := mul_lt_of_lt_one_left hDq hratio
      exact .inl (by linarith)

end RbgPlanner.Properties.BudgetScaling
