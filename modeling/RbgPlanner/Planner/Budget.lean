import RbgPlanner.Planner.Requirements

/-!
# The budget step

What the budget step does with two counts. Within the budget they are kept.
Over it prefill gets its rounded proportional part, and decode the engines for
which that leaves room.
-/

namespace RbgPlanner.Planner

open Base Base.Rounding

/-- A configuration whose engines occupy GPUs and whose replica bounds are in order. -/
structure PlannerConfig.Ordered (config : PlannerConfig) : Prop where
  prefillGpu : 1 ≤ config.prefillEngineNumGpu
  decodeGpu : 1 ≤ config.decodeEngineNumGpu
  prefillBounds : config.minReplicas ≤ config.maxPrefillReplicas
  decodeBounds : config.minReplicas ≤ config.maxDecodeReplicas

instance (config : PlannerConfig) : Decidable config.Ordered :=
  decidable_of_iff (1 ≤ config.prefillEngineNumGpu ∧ 1 ≤ config.decodeEngineNumGpu ∧
      config.minReplicas ≤ config.maxPrefillReplicas ∧
      config.minReplicas ≤ config.maxDecodeReplicas)
    ⟨fun ⟨h₁, h₂, h₃, h₄⟩ => ⟨h₁, h₂, h₃, h₄⟩, fun ⟨h₁, h₂, h₃, h₄⟩ => ⟨h₁, h₂, h₃, h₄⟩⟩

namespace PlannerConfig

variable (config : PlannerConfig) (numP numD : ℤ)

/-- Prefill engines in proportion to the budget. -/
def proportionalPart : ℚ := numP * ((config.maxGpuBudget : ℚ) / config.totalGpu numP numD)

/-- Decode engines that fit beside a number of prefill engines. -/
def decodeRoom (share : ℤ) : ℚ :=
  ((config.maxGpuBudget - share * config.prefillEngineNumGpu : ℤ) : ℚ) /
    config.decodeEngineNumGpu

variable {config numP numD} {p d : ℤ}

/-- A pair is returned when it is the allocation and fits, or the allocation is
over the budget, occupies some GPUs and scales to the pair. -/
theorem enforceGpuBudget_eq_ok_iff (hgpu : config.decodeEngineNumGpu ≠ 0) :
    config.enforceGpuBudget numP numD = .ok (p, d) ↔
      (config.totalGpu numP numD ≤ config.maxGpuBudget ∧ numP = p ∧ numD = d) ∨
        (config.maxGpuBudget < config.totalGpu numP numD ∧ config.totalGpu numP numD ≠ 0 ∧
          max config.minReplicas (roundHalfEven (config.proportionalPart numP numD)) = p ∧
          max config.minReplicas (roundHalfEven (config.decodeRoom p)) = d) := by
  rcases le_or_gt (config.totalGpu numP numD) config.maxGpuBudget with hfits | hover
  · rw [enforceGpuBudget_of_le hfits, Except.ok.injEq, Prod.mk.injEq]
    simp only [hfits, not_lt.mpr hfits, true_and, false_and, or_false]
  · simp only [hover, not_le.mpr hover, true_and, false_and, false_or]
    by_cases htotal : config.totalGpu numP numD = 0
    · have hnegative : config.maxGpuBudget < 0 := htotal ▸ hover
      simp [enforceGpuBudget, PyFloat.intDiv, htotal, hnegative, bind, Except.bind]
    · rw [enforceGpuBudget_of_lt hover htotal hgpu, Except.ok.injEq, Prod.mk.injEq]
      constructor
      · rintro ⟨hshare, hroom⟩
        refine ⟨htotal, hshare, ?_⟩
        rw [← hroom, ← hshare]
        rfl
      · rintro ⟨-, hshare, hroom⟩
        refine ⟨hshare, ?_⟩
        rw [← hroom, ← hshare]
        rfl

/-- More prefill engines leave less room for decode. -/
theorem decodeRoom_anti (hordered : config.Ordered) {share share' : ℤ} (hle : share ≤ share') :
    config.decodeRoom share' ≤ config.decodeRoom share := by
  have hgp : 0 ≤ config.prefillEngineNumGpu := by linarith [hordered.prefillGpu]
  have hgd : 0 ≤ config.decodeEngineNumGpu := by linarith [hordered.decodeGpu]
  have hgpus : config.maxGpuBudget - share' * config.prefillEngineNumGpu ≤
      config.maxGpuBudget - share * config.prefillEngineNumGpu :=
    sub_le_sub_left (mul_le_mul_of_nonneg_right hle hgp) _
  exact div_le_div_of_nonneg_right (by exact_mod_cast hgpus) (by exact_mod_cast hgd)

section Nonnegative

variable (hordered : config.Ordered) (hP : 0 ≤ numP) (hD : 0 ≤ numD)
include hordered hP hD

theorem totalGpu_nonneg : 0 ≤ config.totalGpu numP numD := by
  have hgp : 0 ≤ config.prefillEngineNumGpu := by linarith [hordered.prefillGpu]
  have hgd : 0 ≤ config.decodeEngineNumGpu := by linarith [hordered.decodeGpu]
  exact add_nonneg (mul_nonneg hP hgp) (mul_nonneg hD hgd)

/-- Counts over a budget shrink in proportion. -/
theorem budgetRatio_lt_one (hover : config.maxGpuBudget < config.totalGpu numP numD) :
    (config.maxGpuBudget : ℚ) / config.totalGpu numP numD < 1 := by
  rcases (totalGpu_nonneg hordered hP hD).eq_or_lt with hzero | hpos
  · rw [← hzero, Int.cast_zero, div_zero]
    exact one_pos
  · exact (div_lt_one (by exact_mod_cast hpos)).mpr (by exact_mod_cast hover)

theorem proportionalPart_le (hover : config.maxGpuBudget < config.totalGpu numP numD) :
    config.proportionalPart numP numD ≤ numP :=
  mul_le_of_le_one_right (by exact_mod_cast hP) (budgetRatio_lt_one hordered hP hD hover).le

/-- A budget of nothing has no part for prefill. -/
theorem proportionalPart_nonpos (hbudget : config.maxGpuBudget ≤ 0) :
    config.proportionalPart numP numD ≤ 0 := by
  have htotal : (0 : ℚ) ≤ config.totalGpu numP numD := by
    exact_mod_cast totalGpu_nonneg hordered hP hD
  exact mul_nonpos_of_nonneg_of_nonpos (by exact_mod_cast hP)
    (div_nonpos_of_nonpos_of_nonneg (by exact_mod_cast hbudget) htotal)

end Nonnegative

/-! ## Two allocations -/

section Monotone

variable {numP' numD' : ℤ} (hordered : config.Ordered) (hP : 0 ≤ numP) (hD : 0 ≤ numD)
include hordered

theorem totalGpu_mono (hleP : numP ≤ numP') (hleD : numD ≤ numD') :
    config.totalGpu numP numD ≤ config.totalGpu numP' numD' := by
  have hgp : 0 ≤ config.prefillEngineNumGpu := by linarith [hordered.prefillGpu]
  have hgd : 0 ≤ config.decodeEngineNumGpu := by linarith [hordered.decodeGpu]
  exact add_le_add (mul_le_mul_of_nonneg_right hleP hgp) (mul_le_mul_of_nonneg_right hleD hgd)

include hD

/-- Engines of prefill occupy GPUs. -/
theorem totalGpu_pos_of_prefill (hpos : 0 < numP) : 0 < config.totalGpu numP numD := by
  have hgd : 0 ≤ config.decodeEngineNumGpu := by linarith [hordered.decodeGpu]
  exact add_pos_of_pos_of_nonneg (mul_pos hpos hordered.prefillGpu) (mul_nonneg hD hgd)

include hP

/-- More prefill engines have a larger part of a budget. -/
theorem proportionalPart_mono_prefill (hbudget : 0 ≤ config.maxGpuBudget)
    (hle : numP ≤ numP') :
    config.proportionalPart numP numD ≤ config.proportionalPart numP' numD := by
  have hbudget : (0 : ℚ) ≤ config.maxGpuBudget := by exact_mod_cast hbudget
  have htotal' := totalGpu_nonneg hordered (hP.trans hle) hD
  rcases hP.eq_or_lt with hzero | hpos
  · rw [proportionalPart, ← hzero, Int.cast_zero, zero_mul]
    exact mul_nonneg (by exact_mod_cast hP.trans hle)
      (div_nonneg hbudget (by exact_mod_cast htotal'))
  · have htotal := totalGpu_pos_of_prefill hordered hD hpos
    have htotal' := totalGpu_pos_of_prefill hordered hD (hpos.trans_le hle)
    have hgd : 0 ≤ config.decodeEngineNumGpu := by linarith [hordered.decodeGpu]
    have hcross : numP * config.totalGpu numP' numD ≤ numP' * config.totalGpu numP numD := by
      have hdecode := mul_le_mul_of_nonneg_right hle (mul_nonneg hD hgd)
      simp only [totalGpu, mul_add]
      linarith [mul_left_comm numP numP' config.prefillEngineNumGpu]
    rw [proportionalPart, proportionalPart, mul_div, mul_div,
      div_le_div_iff₀ (by exact_mod_cast htotal) (by exact_mod_cast htotal')]
    calc (numP : ℚ) * config.maxGpuBudget * config.totalGpu numP' numD
        = config.maxGpuBudget * (numP * config.totalGpu numP' numD : ℤ) := by
          push_cast
          ring
      _ ≤ config.maxGpuBudget * (numP' * config.totalGpu numP numD : ℤ) :=
          mul_le_mul_of_nonneg_left (by exact_mod_cast hcross) hbudget
      _ = numP' * config.maxGpuBudget * config.totalGpu numP numD := by
          push_cast
          ring

/-- Prefill's part of a budget falls as decode engines are added. -/
theorem proportionalPart_anti_decode (hbudget : 0 ≤ config.maxGpuBudget) (hle : numD ≤ numD') :
    config.proportionalPart numP numD' ≤ config.proportionalPart numP numD := by
  rcases hP.eq_or_lt with hzero | hpos
  · rw [proportionalPart, proportionalPart, ← hzero, Int.cast_zero, zero_mul, zero_mul]
  · have htotal := totalGpu_pos_of_prefill hordered hD hpos
    have hmono := totalGpu_mono hordered (le_refl numP) hle
    apply mul_le_mul_of_nonneg_left _ (by exact_mod_cast hP)
    exact div_le_div_of_nonneg_left (by exact_mod_cast hbudget) (by exact_mod_cast htotal)
      (by exact_mod_cast hmono)

/-- A part that is scaled down from over the budget is not below a count that
fits the budget. -/
theorem le_proportionalPart (hfits : config.totalGpu numP numD ≤ config.maxGpuBudget)
    (hover : config.maxGpuBudget < config.totalGpu numP' numD) (hle : numP ≤ numP') :
    (numP : ℚ) ≤ config.proportionalPart numP' numD := by
  have hgd : 0 ≤ config.decodeEngineNumGpu := by linarith [hordered.decodeGpu]
  have htotal := totalGpu_nonneg hordered hP hD
  have htotal' : (0 : ℚ) < config.totalGpu numP' numD := by
    exact_mod_cast htotal.trans_lt (hfits.trans_lt hover)
  have hcross : numP * config.totalGpu numP' numD ≤ numP' * config.maxGpuBudget := by
    have hbudget := mul_le_mul_of_nonneg_left hfits (hP.trans hle)
    have hdecode := mul_le_mul_of_nonneg_right hle (mul_nonneg hD hgd)
    simp only [totalGpu, mul_add] at hbudget ⊢
    linarith [mul_left_comm numP numP' config.prefillEngineNumGpu]
  rw [proportionalPart, mul_div, le_div_iff₀ htotal']
  exact_mod_cast hcross

end Monotone

/-! ## The step keeps the order -/

section Order

variable {p' d' numP' numD' : ℤ} (hordered : config.Ordered) (hmin : 0 ≤ config.minReplicas)
include hordered hmin

/-- Without a budget prefill's share is its floor. -/
theorem prefillPart_eq_min (hP : 0 ≤ numP) (hD : 0 ≤ numD) (hbudget : config.maxGpuBudget ≤ 0) :
    max config.minReplicas (roundHalfEven (config.proportionalPart numP numD)) =
      config.minReplicas := by
  have hpart := proportionalPart_nonpos hordered hP hD hbudget
  exact max_eq_left ((roundHalfEven_le_of_le (n := 0) (by exact_mod_cast hpart)).trans hmin)

/-- With more prefill engines asked for, no fewer are granted. -/
theorem enforceGpuBudget_mono_prefill (hP : config.minReplicas ≤ numP)
    (hD : config.minReplicas ≤ numD) (hle : numP ≤ numP')
    (h : config.enforceGpuBudget numP numD = .ok (p, d))
    (h' : config.enforceGpuBudget numP' numD = .ok (p', d')) : p ≤ p' := by
  have hgd : 0 < config.decodeEngineNumGpu := hordered.decodeGpu
  have hP₀ := hmin.trans hP
  have hD₀ := hmin.trans hD
  rw [enforceGpuBudget_eq_ok_iff hgd.ne'] at h h'
  rcases h' with ⟨hfits', hp', -⟩ | ⟨hover', -, hp', -⟩
  · have hfits := (totalGpu_mono hordered hle le_rfl).trans hfits'
    rcases h with ⟨-, hp, -⟩ | ⟨hover, -⟩
    · rwa [← hp, ← hp']
    · exact absurd hfits (not_le.mpr hover)
  · rcases h with ⟨hfits, hp, -⟩ | ⟨-, -, hp, -⟩
    · rw [← hp, ← hp']
      exact le_max_of_le_right
        (le_roundHalfEven_of_le (le_proportionalPart hordered hP₀ hD₀ hfits hover' hle))
    · rw [← hp, ← hp']
      rcases le_total 0 config.maxGpuBudget with hbudget | hbudget
      · exact max_le_max_left _ (roundHalfEven_mono
          (proportionalPart_mono_prefill hordered hP₀ hD₀ hbudget hle))
      · rw [prefillPart_eq_min hordered hmin hP₀ hD₀ hbudget]
        exact le_max_left _ _

/-- With more decode engines asked for, no fewer are granted. -/
theorem enforceGpuBudget_mono_decode (hP : config.minReplicas ≤ numP)
    (hD : config.minReplicas ≤ numD) (hle : numD ≤ numD')
    (h : config.enforceGpuBudget numP numD = .ok (p, d))
    (h' : config.enforceGpuBudget numP numD' = .ok (p', d')) : d ≤ d' := by
  have hgd : 0 < config.decodeEngineNumGpu := hordered.decodeGpu
  have hgdq : (0 : ℚ) < config.decodeEngineNumGpu := by exact_mod_cast hgd
  have hP₀ := hmin.trans hP
  have hD₀ := hmin.trans hD
  rw [enforceGpuBudget_eq_ok_iff hgd.ne'] at h h'
  rcases h' with ⟨hfits', -, hd'⟩ | ⟨hover', -, hp', hd'⟩
  · have hfits := (totalGpu_mono hordered le_rfl hle).trans hfits'
    rcases h with ⟨-, -, hd⟩ | ⟨hover, -⟩
    · rwa [← hd, ← hd']
    · exact absurd hfits (not_le.mpr hover)
  · rcases h with ⟨hfits, -, hd⟩ | ⟨-, -, hp, hd⟩
    · -- prefill is scaled down, so decode's room holds what fitted before
      have hshare : p' ≤ numP := by
        have hpart := proportionalPart_le hordered hP₀ (hD₀.trans hle) hover'
        exact hp' ▸ max_le hP (roundHalfEven_le_of_le hpart)
      have hroom : (numD : ℚ) ≤ config.decodeRoom numP := by
        rw [decodeRoom, le_div_iff₀ hgdq]
        have hleft : numD * config.decodeEngineNumGpu ≤
            config.maxGpuBudget - numP * config.prefillEngineNumGpu := by
          rw [totalGpu] at hfits
          linarith
        exact_mod_cast hleft
      rw [← hd, ← hd']
      exact le_max_of_le_right
        (le_roundHalfEven_of_le (hroom.trans (decodeRoom_anti hordered hshare)))
    · have hshare : p' ≤ p := by
        rw [← hp, ← hp']
        rcases le_total 0 config.maxGpuBudget with hbudget | hbudget
        · exact max_le_max_left _ (roundHalfEven_mono
            (proportionalPart_anti_decode hordered hP₀ hD₀ hbudget hle))
        · rw [prefillPart_eq_min hordered hmin hP₀ (hD₀.trans hle) hbudget]
          exact le_max_left _ _
      rw [← hd, ← hd']
      exact max_le_max_left _ (roundHalfEven_mono (decodeRoom_anti hordered hshare))

end Order

end PlannerConfig

end RbgPlanner.Planner
