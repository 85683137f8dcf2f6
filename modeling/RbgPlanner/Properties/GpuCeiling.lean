import RbgPlanner.Planner.Requirements

/-!
# The GPU ceiling

The budget step scales an allocation over the budget, with two roundings to
nearest and two floors. This module decides when what it returns fits.
-/

namespace RbgPlanner.Properties.GpuCeiling

open Base Base.Rounding Planner

/-- A configuration whose floor allocation fits its budget. -/
structure FloorFits (config : PlannerConfig) : Prop where
  prefillGpu : 1 ≤ config.prefillEngineNumGpu
  decodeGpu : 1 ≤ config.decodeEngineNumGpu
  minReplicas : 1 ≤ config.minReplicas
  prefillBounds : config.minReplicas ≤ config.maxPrefillReplicas
  decodeBounds : config.minReplicas ≤ config.maxDecodeReplicas
  floor : config.minReplicas * (config.prefillEngineNumGpu + config.decodeEngineNumGpu) ≤
    config.maxGpuBudget

instance (config : PlannerConfig) : Decidable (FloorFits config) :=
  decidable_of_iff (1 ≤ config.prefillEngineNumGpu ∧ 1 ≤ config.decodeEngineNumGpu ∧
      1 ≤ config.minReplicas ∧ config.minReplicas ≤ config.maxPrefillReplicas ∧
      config.minReplicas ≤ config.maxDecodeReplicas ∧
      config.minReplicas * (config.prefillEngineNumGpu + config.decodeEngineNumGpu) ≤
        config.maxGpuBudget)
    ⟨fun ⟨h₁, h₂, h₃, h₄, h₅, h₆⟩ => ⟨h₁, h₂, h₃, h₄, h₅, h₆⟩,
      fun ⟨h₁, h₂, h₃, h₄, h₅, h₆⟩ => ⟨h₁, h₂, h₃, h₄, h₅, h₆⟩⟩

/-- GPUs that remain for decode when `numP` and `numD` engines are over the
budget: prefill gets its rounded proportional part, or the floor. -/
def remainder (config : PlannerConfig) (numP numD : ℤ) : ℤ :=
  config.maxGpuBudget -
    max config.minReplicas (roundHalfEven (numP * ((config.maxGpuBudget : ℚ) /
      (numP * config.prefillEngineNumGpu + numD * config.decodeEngineNumGpu : ℤ)))) *
      config.prefillEngineNumGpu

/-- The allocation fits, or prefill's part leaves the decode floor and a
number of decode engines that rounds down. -/
def RoundsDown (config : PlannerConfig) (numP numD : ℤ) : Prop :=
  numP * config.prefillEngineNumGpu + numD * config.decodeEngineNumGpu ≤ config.maxGpuBudget ∨
    config.minReplicas * config.decodeEngineNumGpu ≤ remainder config numP numD ∧
      (2 * (remainder config numP numD % config.decodeEngineNumGpu) < config.decodeEngineNumGpu ∨
        2 * (remainder config numP numD % config.decodeEngineNumGpu) =
            config.decodeEngineNumGpu ∧
          remainder config numP numD / config.decodeEngineNumGpu % 2 = 0)

variable {config : PlannerConfig}

/-- Engines at their floors occupy some GPUs. -/
theorem totalGpu_pos (hw : FloorFits config) {numP numD : ℤ}
    (hp : config.minReplicas ≤ numP) (hd : config.minReplicas ≤ numD) :
    0 < config.totalGpu numP numD :=
  add_pos (mul_pos (hw.minReplicas.trans hp) hw.prefillGpu)
    (mul_pos (hw.minReplicas.trans hd) hw.decodeGpu)

/-- What a floored rounding occupies stays below a limit exactly when the floor
does and the rounding goes down. -/
theorem max_round_mul_le_iff {m g left : ℤ} (hg : 0 < g) :
    max m (roundHalfEven ((left : ℚ) / g)) * g ≤ left ↔
      m * g ≤ left ∧ (2 * (left % g) < g ∨ (2 * (left % g) = g ∧ left / g % 2 = 0)) := by
  rw [← roundHalfEven_div_mul_le_iff hg, max_mul_of_nonneg _ _ hg.le, max_le_iff]

/-- The budget step, on clamped demands, keeps the ceiling exactly when it rounds down. -/
theorem enforceGpuBudget_fits_iff (hw : FloorFits config) {numP numD p d : ℤ}
    (hp : config.minReplicas ≤ numP) (hd : config.minReplicas ≤ numD)
    (h : config.enforceGpuBudget numP numD = .ok (p, d)) :
    p * config.prefillEngineNumGpu + d * config.decodeEngineNumGpu ≤ config.maxGpuBudget ↔
      RoundsDown config numP numD := by
  have hgd : 0 < config.decodeEngineNumGpu := hw.decodeGpu
  by_cases hfit : config.totalGpu numP numD ≤ config.maxGpuBudget
  · rw [PlannerConfig.enforceGpuBudget_of_le hfit] at h
    obtain ⟨rfl, rfl⟩ : numP = p ∧ numD = d := by simpa using h
    exact ⟨.inl, fun _ => hfit⟩
  · have hover : config.maxGpuBudget < config.totalGpu numP numD := not_le.mp hfit
    rw [PlannerConfig.enforceGpuBudget_of_lt hover (totalGpu_pos hw hp hd).ne' hgd.ne'] at h
    simp only [Except.ok.injEq, Prod.mk.injEq] at h
    obtain ⟨hshare, hdec⟩ := h
    have hrem : remainder config numP numD =
        config.maxGpuBudget - p * config.prefillEngineNumGpu := by
      rw [← hshare]
      rfl
    have hfits : d * config.decodeEngineNumGpu ≤ remainder config numP numD ↔
        config.minReplicas * config.decodeEngineNumGpu ≤ remainder config numP numD ∧
          (2 * (remainder config numP numD % config.decodeEngineNumGpu) <
              config.decodeEngineNumGpu ∨
            2 * (remainder config numP numD % config.decodeEngineNumGpu) =
                config.decodeEngineNumGpu ∧
              remainder config numP numD / config.decodeEngineNumGpu % 2 = 0) := by
      rw [← max_round_mul_le_iff hgd, ← hdec, hshare, hrem]
    calc p * config.prefillEngineNumGpu + d * config.decodeEngineNumGpu ≤ config.maxGpuBudget
        ↔ d * config.decodeEngineNumGpu ≤ remainder config numP numD := by
          rw [hrem]
          omega
      _ ↔ RoundsDown config numP numD := by
          rw [hfits]
          exact ⟨.inr, fun hr => hr.resolve_left hfit⟩

/-- The pair a planner returns keeps the GPU ceiling exactly when the clamped
demands of the two roles fit the budget or round down into it. -/
theorem computeReplicaRequirements_le_budget_iff {self : PlannerState}
    (hw : FloorFits self.config) {nextNumReq nextIsl nextOsl : PyFloat} {capP capD : ℚ}
    (hcapP : self.prefillInterpolator.interpolateThptPerGpu nextIsl = .fin capP)
    (hcapD : self.decodeThptPerGpu nextIsl nextOsl = .ok (.fin capD)) {p d : ℤ}
    (h : self.computeReplicaRequirements nextNumReq nextIsl nextOsl = .ok (p, d)) :
    ∃ numReq isl osl factor : ℚ, nextNumReq = .fin numReq ∧ nextIsl = .fin isl ∧
      nextOsl = .fin osl ∧ self.pCorrectionFactor = .fin factor ∧
      (p * self.config.prefillEngineNumGpu + d * self.config.decodeEngineNumGpu ≤
          self.config.maxGpuBudget ↔
        RoundsDown self.config
          (clampReplicas self.config.minReplicas self.config.maxPrefillReplicas
            ⌈numReq * isl / self.config.adjustmentInterval * factor /
              (capP * self.config.prefillEngineNumGpu)⌉)
          (clampReplicas self.config.minReplicas self.config.maxDecodeReplicas
            ⌈numReq * osl / self.config.adjustmentInterval /
              (capD * self.config.decodeEngineNumGpu)⌉)) := by
  obtain ⟨numP, numD, hnumP, hnumD, hbudget⟩ :=
    PlannerState.computeReplicaRequirements_eq_ok.mp h
  obtain ⟨numReq, isl, factor, rfl, rfl, hfactor⟩ :=
    PlannerState.prefillDemand_finite hcapP hnumP
  obtain ⟨-, osl, -, rfl⟩ := PlannerState.decodeDemand_finite hcapD hnumD
  obtain ⟨-, -, rfl⟩ := (PlannerState.prefillDemand_fin hfactor hcapP).mp hnumP
  obtain ⟨-, -, rfl⟩ := (PlannerState.decodeDemand_fin hcapD).mp hnumD
  refine ⟨numReq, isl, osl, factor, rfl, rfl, rfl, hfactor, ?_⟩
  exact enforceGpuBudget_fits_iff hw (le_clampReplicas le_rfl hw.prefillBounds)
    (le_clampReplicas le_rfl hw.decodeBounds) hbudget

theorem enforceGpuBudget_returns (hw : FloorFits config) {numP numD : ℤ}
    (hp : config.minReplicas ≤ numP) (hd : config.minReplicas ≤ numD) :
    ∃ pair, config.enforceGpuBudget numP numD = .ok pair := by
  have hgd : 0 < config.decodeEngineNumGpu := hw.decodeGpu
  by_cases hfit : config.totalGpu numP numD ≤ config.maxGpuBudget
  · exact ⟨_, PlannerConfig.enforceGpuBudget_of_le hfit⟩
  · exact ⟨_, PlannerConfig.enforceGpuBudget_of_lt (not_le.mp hfit) (totalGpu_pos hw hp hd).ne'
      hgd.ne'⟩

/-- On finite inputs and capacities a pair is returned unless the interval is zero. -/
theorem computeReplicaRequirements_returns {self : PlannerState} (hw : FloorFits self.config)
    {numReq isl osl factor capP capD : ℚ} (hfactor : self.pCorrectionFactor = .fin factor)
    (hcapP : self.prefillInterpolator.interpolateThptPerGpu (.fin isl) = .fin capP)
    (hcapD : self.decodeThptPerGpu (.fin isl) (.fin osl) = .ok (.fin capD))
    (hposP : 0 < capP) (hposD : 0 < capD) (hinterval : self.config.adjustmentInterval ≠ 0) :
    ∃ pair, self.computeReplicaRequirements (.fin numReq) (.fin isl) (.fin osl) = .ok pair := by
  have hgp : (0 : ℚ) < self.config.prefillEngineNumGpu := by exact_mod_cast hw.prefillGpu
  have hgd : (0 : ℚ) < self.config.decodeEngineNumGpu := by exact_mod_cast hw.decodeGpu
  have hnumP : self.prefillDemand (.fin numReq) (.fin isl) = .ok _ :=
    (PlannerState.prefillDemand_fin hfactor hcapP).mpr ⟨hinterval, (mul_pos hposP hgp).ne', rfl⟩
  have hnumD : self.decodeDemand (.fin numReq) (.fin isl) (.fin osl) = .ok _ :=
    (PlannerState.decodeDemand_fin hcapD).mpr ⟨hinterval, (mul_pos hposD hgd).ne', rfl⟩
  obtain ⟨⟨p, d⟩, hpair⟩ := enforceGpuBudget_returns hw (le_clampReplicas le_rfl hw.prefillBounds)
    (le_clampReplicas le_rfl hw.decodeBounds)
  exact ⟨(p, d), PlannerState.computeReplicaRequirements_eq_ok.mpr
    ⟨_, _, hnumP, hnumD, hpair⟩⟩

/-- Two engines of two GPUs each in a budget of four. -/
private def equalSizes : PlannerState :=
  .flat { PlannerConfig.default with
    maxGpuBudget := 4, prefillEngineNumGpu := 2, decodeEngineNumGpu := 2 }
    (.constant []) 100 1000 40 500

/-- With equal sizes the remainder is exact: high demands come down to the budget. -/
theorem computeReplicaRequirements_le_budget_iff_equalSizes :
    equalSizes.computeReplicaRequirements (.fin 100000) (.fin 2048) (.fin 512) = .ok (1, 1) ∧
      RoundsDown equalSizes.config 100 100 := by
  have hpair : equalSizes.computeReplicaRequirements (.fin 100000) (.fin 2048) (.fin 512) =
      .ok (1, 1) := by decide +kernel
  have hcapP : equalSizes.prefillInterpolator.interpolateThptPerGpu (.fin 2048) = .fin 1000 := rfl
  have hcapD : equalSizes.decodeThptPerGpu (.fin 2048) (.fin 512) = .ok (.fin 500) := by
    decide +kernel
  have hP : clampReplicas equalSizes.config.minReplicas equalSizes.config.maxPrefillReplicas
      ⌈(100000 : ℚ) * 2048 / equalSizes.config.adjustmentInterval * 1 /
        (1000 * equalSizes.config.prefillEngineNumGpu)⌉ = 100 := by decide +kernel
  have hD : clampReplicas equalSizes.config.minReplicas equalSizes.config.maxDecodeReplicas
      ⌈(100000 : ℚ) * 512 / equalSizes.config.adjustmentInterval /
        (500 * equalSizes.config.decodeEngineNumGpu)⌉ = 100 := by decide +kernel
  obtain ⟨numReq, isl, osl, factor, hr, hi, ho, hf, hiff⟩ :=
    computeReplicaRequirements_le_budget_iff (by decide) hcapP hcapD hpair
  obtain ⟨rfl, rfl, rfl⟩ : 100000 = numReq ∧ 2048 = isl ∧ 512 = osl :=
    ⟨PyFloat.fin.inj hr, PyFloat.fin.inj hi, PyFloat.fin.inj ho⟩
  obtain rfl : 1 = factor := PyFloat.fin.inj hf
  rw [hP, hD] at hiff
  exact ⟨hpair, hiff.mp (by decide)⟩

/-- On a flat profile of 1000 prefill and 500 decode tokens per second and GPU,
prefill needs 100 engines and decode one. Prefill's part of eight GPUs rounds
up to all of them, and the decode floor comes on top. -/
theorem ceiling_exceeded :
    ∃ self : PlannerState, FloorFits self.config ∧
      self.prefillInterpolator.interpolateThptPerGpu (.fin 2000) = .fin 1000 ∧
      self.decodeThptPerGpu (.fin 2000) (.fin 10) = .ok (.fin 500) ∧
      self.computeReplicaRequirements (.fin 9000) (.fin 2000) (.fin 10) = .ok (8, 1) ∧
      ¬ 8 * self.config.prefillEngineNumGpu + 1 * self.config.decodeEngineNumGpu ≤
        self.config.maxGpuBudget := by
  refine ⟨.flat .default (.constant []) 100 1000 40 500, by decide, rfl, ?_, ?_, by decide⟩
  · decide +kernel
  · decide +kernel

end RbgPlanner.Properties.GpuCeiling
