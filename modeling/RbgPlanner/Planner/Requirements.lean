import RbgPlanner.Planner.State

/-!
# Replica requirements

`_compute_replica_requirements` in four parts: the demand of each role in
engines, the bounds of each role, and the GPU budget. The two demands divide
predicted tokens per second by the capacity of one engine. The arithmetic is
exact; another module has the same computation in floating point.
-/

namespace RbgPlanner.Planner

open Base Base.Rounding

/-- Enforce the minimum, then the maximum of a role. -/
def clampReplicas (minReplicas maxReplicas n : ℤ) : ℤ := min (max n minReplicas) maxReplicas

section Clamp

variable {minReplicas maxReplicas n bound : ℤ}

/-- What is below both bounds is below the count. -/
theorem le_clampReplicas (hmin : bound ≤ minReplicas) (hmax : bound ≤ maxReplicas) :
    bound ≤ clampReplicas minReplicas maxReplicas n :=
  le_min (hmin.trans (le_max_right _ _)) hmax

end Clamp

namespace PlannerConfig

variable (config : PlannerConfig)

/-- GPUs an allocation occupies. -/
def totalGpu (numP numD : ℤ) : ℤ :=
  numP * config.prefillEngineNumGpu + numD * config.decodeEngineNumGpu

/-- Prefill's share of a budget that an allocation exceeds. -/
def prefillShare (numP : ℤ) (scale : ℚ) : ℤ :=
  max config.minReplicas (roundHalfEven (numP * scale))

/-- The GPU budget step: an allocation over the budget is scaled, prefill
first, decode with what is left. -/
def enforceGpuBudget (numP numD : ℤ) : Except PyExc (ℤ × ℤ) :=
  let total := config.totalGpu numP numD
  if config.maxGpuBudget < total then do
    let scale ← PyFloat.intDiv config.maxGpuBudget total
    let nextNumP := config.prefillShare numP scale
    let left ← PyFloat.intDiv (config.maxGpuBudget - nextNumP * config.prefillEngineNumGpu)
      config.decodeEngineNumGpu
    return (nextNumP, max config.minReplicas (roundHalfEven left))
  else return (numP, numD)

end PlannerConfig

namespace PlannerState

variable (self : PlannerState)

/-- Prefill engines needed for the predicted prompt tokens per second. -/
def prefillDemand (nextNumReq nextIsl : PyFloat) : Except PyExc ℤ := do
  let rate ← (nextNumReq * nextIsl).div (.ofInt self.config.adjustmentInterval)
  let predPrefillThroughput := rate * self.pCorrectionFactor
  let prefillEngineCap := self.prefillInterpolator.interpolateThptPerGpu nextIsl *
    .ofInt self.config.prefillEngineNumGpu
  let ratio ← predPrefillThroughput.div prefillEngineCap
  ratio.ceil

/-- The ITL target, corrected by the observed-to-expected ratio when that is positive. -/
def correctedItl : Except PyExc PyFloat :=
  if self.dCorrectionFactor.le (.fin 0) then .ok self.config.itlSla
  else self.config.itlSla.div self.dCorrectionFactor

/-- Decode throughput per GPU that achieves the corrected ITL target. -/
def decodeThptPerGpu (nextIsl nextOsl : PyFloat) : Except PyExc PyFloat := do
  let itl ← self.correctedItl
  let halfOsl ← nextOsl.div (.fin 2)
  let (thpt, _, _) ← self.decodeInterpolator.findBestThroughputPerGpu itl (nextIsl + halfOsl)
  return thpt

/-- Decode engines needed for the predicted generated tokens per second. -/
def decodeDemand (nextNumReq nextIsl nextOsl : PyFloat) : Except PyExc ℤ := do
  let predDecodeThptPerGpu ← self.decodeThptPerGpu nextIsl nextOsl
  let predDecodeThroughput ← (nextNumReq * nextOsl).div (.ofInt self.config.adjustmentInterval)
  let decodeEngineCap := predDecodeThptPerGpu * .ofInt self.config.decodeEngineNumGpu
  let ratio ← predDecodeThroughput.div decodeEngineCap
  ratio.ceil

/-- `_compute_replica_requirements`. -/
def computeReplicaRequirements (nextNumReq nextIsl nextOsl : PyFloat) :
    Except PyExc (ℤ × ℤ) := do
  let nextNumP ← self.prefillDemand nextNumReq nextIsl
  let nextNumD ← self.decodeDemand nextNumReq nextIsl nextOsl
  self.config.enforceGpuBudget
    (clampReplicas self.config.minReplicas self.config.maxPrefillReplicas nextNumP)
    (clampReplicas self.config.minReplicas self.config.maxDecodeReplicas nextNumD)

end PlannerState

namespace PlannerConfig

variable {config : PlannerConfig} {numP numD : ℤ}

/-- An allocation within the budget is kept. -/
theorem enforceGpuBudget_of_le (h : config.totalGpu numP numD ≤ config.maxGpuBudget) :
    config.enforceGpuBudget numP numD = .ok (numP, numD) := by
  simp only [enforceGpuBudget, not_lt.mpr h, if_false]
  rfl

/-- An allocation over the budget becomes prefill's share and decode's rounded
quotient of what the share leaves. -/
theorem enforceGpuBudget_of_lt (h : config.maxGpuBudget < config.totalGpu numP numD)
    (htotal : config.totalGpu numP numD ≠ 0) (hgpu : config.decodeEngineNumGpu ≠ 0) :
    config.enforceGpuBudget numP numD =
      let share := config.prefillShare numP
        ((config.maxGpuBudget : ℚ) / config.totalGpu numP numD)
      .ok (share, max config.minReplicas (roundHalfEven
        (((config.maxGpuBudget - share * config.prefillEngineNumGpu : ℤ) : ℚ) /
          config.decodeEngineNumGpu))) := by
  simp only [enforceGpuBudget, h, if_true, PyFloat.intDiv, htotal, hgpu, if_false]
  rfl

end PlannerConfig

namespace PlannerState

variable {self : PlannerState}

/-- A pair is returned exactly when both demands and the budget step return. -/
theorem computeReplicaRequirements_eq_ok {nextNumReq nextIsl nextOsl : PyFloat} {p d : ℤ} :
    self.computeReplicaRequirements nextNumReq nextIsl nextOsl = .ok (p, d) ↔
      ∃ numP numD, self.prefillDemand nextNumReq nextIsl = .ok numP ∧
        self.decodeDemand nextNumReq nextIsl nextOsl = .ok numD ∧
        self.config.enforceGpuBudget
          (clampReplicas self.config.minReplicas self.config.maxPrefillReplicas numP)
          (clampReplicas self.config.minReplicas self.config.maxDecodeReplicas numD) =
            .ok (p, d) := by
  simp only [computeReplicaRequirements, bind_eq_ok]
  constructor
  · rintro ⟨numP, hp, numD, hd, h⟩
    exact ⟨numP, numD, hp, hd, h⟩
  · rintro ⟨numP, numD, hp, hd, h⟩
    exact ⟨numP, hp, numD, hd, h⟩

/-- A prefill demand over a finite capacity comes from finite inputs. -/
theorem prefillDemand_finite {nextNumReq nextIsl : PyFloat} {cap : ℚ} {n : ℤ}
    (hcap : self.prefillInterpolator.interpolateThptPerGpu nextIsl = .fin cap)
    (h : self.prefillDemand nextNumReq nextIsl = .ok n) :
    ∃ numReq isl p, nextNumReq = .fin numReq ∧ nextIsl = .fin isl ∧
      self.pCorrectionFactor = .fin p := by
  simp only [prefillDemand, bind_eq_ok, hcap, PyFloat.ofInt, PyFloat.fin_mul] at h
  obtain ⟨rate, hrate, ratio, hratio, hceil⟩ := h
  obtain ⟨q, rfl, -⟩ := PyFloat.ceil_eq_ok hceil
  obtain ⟨t, ht⟩ := PyFloat.ieeeDiv_eq_fin (PyFloat.div_eq_ok hratio).2
  obtain ⟨r, p, rfl, hp⟩ := PyFloat.mul_eq_fin ht
  obtain ⟨u, hu⟩ := PyFloat.ieeeDiv_eq_fin (PyFloat.div_eq_ok hrate).2
  obtain ⟨numReq, isl, rfl, rfl⟩ := PyFloat.mul_eq_fin hu
  exact ⟨numReq, isl, p, rfl, rfl, hp⟩

/-- A decode demand over a finite capacity comes from a finite output length. -/
theorem decodeDemand_finite {nextNumReq nextIsl nextOsl : PyFloat} {cap : ℚ} {n : ℤ}
    (hcap : self.decodeThptPerGpu nextIsl nextOsl = .ok (.fin cap))
    (h : self.decodeDemand nextNumReq nextIsl nextOsl = .ok n) :
    ∃ numReq osl, nextNumReq = .fin numReq ∧ nextOsl = .fin osl := by
  simp only [decodeDemand, bind_eq_ok, hcap, Except.ok.injEq, exists_eq_left', PyFloat.ofInt,
    PyFloat.fin_mul] at h
  obtain ⟨rate, hrate, ratio, hratio, hceil⟩ := h
  obtain ⟨q, rfl, -⟩ := PyFloat.ceil_eq_ok hceil
  obtain ⟨r, rfl⟩ := PyFloat.ieeeDiv_eq_fin (PyFloat.div_eq_ok hratio).2
  obtain ⟨u, hu⟩ := PyFloat.ieeeDiv_eq_fin (PyFloat.div_eq_ok hrate).2
  exact PyFloat.mul_eq_fin hu

section Rational

variable {numReq isl osl p cap : ℚ}

/-- On finite inputs the prefill demand is the rounded-up quotient of demand
and capacity, and there is one exactly when neither divisor is zero. -/
theorem prefillDemand_fin {n : ℤ} (hp : self.pCorrectionFactor = .fin p)
    (hcap : self.prefillInterpolator.interpolateThptPerGpu (.fin isl) = .fin cap) :
    self.prefillDemand (.fin numReq) (.fin isl) = .ok n ↔
      self.config.adjustmentInterval ≠ 0 ∧ cap * self.config.prefillEngineNumGpu ≠ 0 ∧
        ⌈numReq * isl / self.config.adjustmentInterval * p /
          (cap * self.config.prefillEngineNumGpu)⌉ = n := by
  by_cases hi : self.config.adjustmentInterval = 0
  · simp [prefillDemand, PyFloat.ofInt, hi, PyFloat.div_zero, bind, Except.bind]
  · have hiq : (self.config.adjustmentInterval : ℚ) ≠ 0 := by exact_mod_cast hi
    by_cases hc : cap * self.config.prefillEngineNumGpu = 0
    · simp [prefillDemand, PyFloat.ofInt, PyFloat.fin_div _ hiq, hp, hcap, hc,
        PyFloat.div_zero, bind, Except.bind]
    · simp only [prefillDemand, PyFloat.ofInt, PyFloat.fin_mul, PyFloat.fin_div _ hiq, hp, hcap,
        PyFloat.fin_div _ hc, bind, Except.bind, PyFloat.fin_ceil, Except.ok.injEq, ne_eq, hi, hc,
        not_false_eq_true, true_and]

/-- On finite inputs the decode demand is the rounded-up quotient of demand
and capacity, and there is one exactly when neither divisor is zero. -/
theorem decodeDemand_fin {n : ℤ}
    (hcap : self.decodeThptPerGpu (.fin isl) (.fin osl) = .ok (.fin cap)) :
    self.decodeDemand (.fin numReq) (.fin isl) (.fin osl) = .ok n ↔
      self.config.adjustmentInterval ≠ 0 ∧ cap * self.config.decodeEngineNumGpu ≠ 0 ∧
        ⌈numReq * osl / self.config.adjustmentInterval /
          (cap * self.config.decodeEngineNumGpu)⌉ = n := by
  by_cases hi : self.config.adjustmentInterval = 0
  · simp [decodeDemand, PyFloat.ofInt, hi, hcap, PyFloat.div_zero, bind, Except.bind]
  · have hiq : (self.config.adjustmentInterval : ℚ) ≠ 0 := by exact_mod_cast hi
    by_cases hc : cap * self.config.decodeEngineNumGpu = 0
    · simp [decodeDemand, PyFloat.ofInt, PyFloat.fin_div _ hiq, hcap, hc,
        PyFloat.div_zero, bind, Except.bind]
    · simp only [decodeDemand, PyFloat.ofInt, PyFloat.fin_mul, PyFloat.fin_div _ hiq, hcap,
        PyFloat.fin_div _ hc, bind, Except.bind, PyFloat.fin_ceil, Except.ok.injEq, ne_eq, hi, hc,
        not_false_eq_true, true_and]

end Rational

end PlannerState

end RbgPlanner.Planner
