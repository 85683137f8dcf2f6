import RbgPlanner.Base.BinaryFormat
import RbgPlanner.Base.Sizing
import RbgPlanner.Controller.Environment
import RbgPlanner.Planner.RoundedRequirements

/-!
# The budget of a deployed planner

The operator derives the GPU budget from the maxima and the GPU counts that it
sends along. Within 64 bits no clamped allocation exceeds it, so a deployed
planner sizes each role by its own demand. The size is the least that covers
the demand in exact arithmetic, and by the rounded quotient in floating point.
-/

namespace RbgPlanner.Properties.InertBudget

open Base Base.Sizing Controller Planner

/-- The environment of the planner that the operator deploys for a RoleBasedGroup. -/
def emittedEnv (ras : AutoScaler) (spec : ParsedSpec) (rbg : RoleBasedGroup) : List EnvVar :=
  let gpus := getGPUsFromRBG rbg spec.prefillRoleName spec.decodeRoleName
  buildPlannerEnv ras.name spec ras.namespaceName (maxGPUBudget spec gpus.1 gpus.2) gpus.1 gpus.2

/-- The GPUs of both roles at their maxima. -/
def maxGPUs (spec : ParsedSpec) (rbg : RoleBasedGroup) : ℤ :=
  spec.prefillMaxReplicas * (getGPUsFromRBG rbg spec.prefillRoleName spec.decodeRoleName).1 +
    spec.decodeMaxReplicas * (getGPUsFromRBG rbg spec.prefillRoleName spec.decodeRoleName).2

/-- `_compute_replica_requirements` leaves the budget step as it entered it. -/
def BudgetInert (config : PlannerConfig) : Prop :=
  ∀ numP numD : ℤ,
    config.totalGpu (clampReplicas config.minReplicas config.maxPrefillReplicas numP)
      (clampReplicas config.minReplicas config.maxDecodeReplicas numD) ≤ config.maxGpuBudget

/-- Both roles at the least number of engines that covers their demands. -/
structure Sized (self : PlannerState) (nextNumReq nextIsl nextOsl : PyFloat)
    (prefillThpt decodeThpt : ℚ) (p d : ℤ) : Prop where
  interval : self.config.adjustmentInterval ≠ 0
  targets : ∃ numReq isl osl correction : ℚ,
    nextNumReq = .fin numReq ∧ nextIsl = .fin isl ∧ nextOsl = .fin osl ∧
      self.pCorrectionFactor = .fin correction ∧
      LeastSufficient self.config.minReplicas self.config.maxPrefillReplicas
        (numReq * isl / self.config.adjustmentInterval * correction)
        (prefillThpt * self.config.prefillEngineNumGpu) p ∧
      LeastSufficient self.config.minReplicas self.config.maxDecodeReplicas
        (numReq * osl / self.config.adjustmentInterval)
        (decodeThpt * self.config.decodeEngineNumGpu) d

/-- Both roles at the least number of engines that is not below the quotient of
demand and capacity, as the format has it. -/
structure RoundedSized (F : FloatFormat) (planner : PlannerState)
    (nextNumReq nextIsl nextOsl : PyFloat) (p d : ℤ) : Prop where
  prefill : ∃ q, Rounded.prefillRatio F planner nextNumReq nextIsl = .ok (.fin q) ∧
    LeastSufficient planner.config.minReplicas planner.config.maxPrefillReplicas q 1 p
  decode : ∃ q, Rounded.decodeRatio F planner nextNumReq nextIsl nextOsl = .ok (.fin q) ∧
    LeastSufficient planner.config.minReplicas planner.config.maxDecodeReplicas q 1 d

/-- A configuration that the operator emits. -/
structure Emitted (ras : AutoScaler) (spec : ParsedSpec) (rbg : RoleBasedGroup)
    (config : PlannerConfig) : Prop where
  read : PlannerConfig.fromEnviron (emittedEnv ras spec rbg) = .ok config
  fits : -2 ^ 63 ≤ maxGPUs spec rbg ∧ maxGPUs spec rbg < 2 ^ 63

variable {ras : AutoScaler} {spec : ParsedSpec} {rbg : RoleBasedGroup} {config : PlannerConfig}

namespace Emitted

variable (h : Emitted ras spec rbg config)
include h

theorem config_eq :
    config = deployedConfig ras.name spec ras.namespaceName (maxGPUs spec rbg)
      (getGPUsFromRBG rbg spec.prefillRoleName spec.decodeRoleName).1
      (getGPUsFromRBG rbg spec.prefillRoleName spec.decodeRoleName).2 := by
  have hread := h.read
  rw [emittedEnv, fromEnviron_buildPlannerEnv, maxGPUBudget_of_fits h.fits.1 h.fits.2] at hread
  exact (Except.ok.inj hread).symm

theorem gpus_pos : 1 ≤ config.prefillEngineNumGpu ∧ 1 ≤ config.decodeEngineNumGpu := by
  rw [h.config_eq]
  exact getGPUsFromRBG_pos rbg spec.prefillRoleName spec.decodeRoleName

/-- Clamped counts are at most the maxima, whose GPUs are the budget. -/
theorem inert : BudgetInert config := by
  intro numP numD
  obtain ⟨hp, hd⟩ := h.gpus_pos
  have hbudget : config.maxGpuBudget = config.maxPrefillReplicas * config.prefillEngineNumGpu +
      config.maxDecodeReplicas * config.decodeEngineNumGpu := by
    rw [h.config_eq]
    rfl
  rw [hbudget]
  exact add_le_add (mul_le_mul_of_nonneg_right (min_le_right _ _) (by omega))
    (mul_le_mul_of_nonneg_right (min_le_right _ _) (by omega))

end Emitted

variable {self : PlannerState} {nextNumReq nextIsl nextOsl : PyFloat} {prefillThpt decodeThpt : ℚ}
  {p d : ℤ}

/-- With positive capacities the budget step starts from the least sufficient counts. -/
theorem computeReplicaRequirements_iff_budgeted
    (hprefill : self.prefillInterpolator.interpolateThptPerGpu nextIsl = .fin prefillThpt)
    (hdecode : self.decodeThptPerGpu nextIsl nextOsl = .ok (.fin decodeThpt))
    (hcapP : 0 < prefillThpt * self.config.prefillEngineNumGpu)
    (hcapD : 0 < decodeThpt * self.config.decodeEngineNumGpu) :
    self.computeReplicaRequirements nextNumReq nextIsl nextOsl = .ok (p, d) ↔
      ∃ numP numD, Sized self nextNumReq nextIsl nextOsl prefillThpt decodeThpt numP numD ∧
        self.config.enforceGpuBudget numP numD = .ok (p, d) := by
  rw [PlannerState.computeReplicaRequirements_eq_ok]
  constructor
  · rintro ⟨numP, numD, hnumP, hnumD, hbudget⟩
    obtain ⟨numReq, isl, correction, rfl, rfl, hcorrection⟩ :=
      PlannerState.prefillDemand_finite hprefill hnumP
    obtain ⟨-, osl, -, rfl⟩ := PlannerState.decodeDemand_finite hdecode hnumD
    obtain ⟨hinterval, -, rfl⟩ := (PlannerState.prefillDemand_fin hcorrection hprefill).mp hnumP
    obtain ⟨-, -, rfl⟩ := (PlannerState.decodeDemand_fin hdecode).mp hnumD
    exact ⟨_, _, ⟨hinterval, numReq, isl, osl, correction, rfl, rfl, rfl, hcorrection,
      leastSufficient_clamp hcapP, leastSufficient_clamp hcapD⟩, hbudget⟩
  · rintro ⟨_, _, ⟨hinterval, numReq, isl, osl, correction, rfl, rfl, rfl, hcorrection, hp, hd⟩,
      hbudget⟩
    refine ⟨_, _, (PlannerState.prefillDemand_fin hcorrection hprefill).mpr
      ⟨hinterval, hcapP.ne', rfl⟩, (PlannerState.decodeDemand_fin hdecode).mpr
      ⟨hinterval, hcapD.ne', rfl⟩, ?_⟩
    rw [← (leastSufficient_iff hcapP).mp hp, ← (leastSufficient_iff hcapD).mp hd] at hbudget
    exact hbudget

/-- On finite forecasts and a finite factor both demands are given. -/
theorem sized_fin_iff {numReq isl osl correction : ℚ}
    (hcorrection : self.pCorrectionFactor = .fin correction) :
    Sized self (.fin numReq) (.fin isl) (.fin osl) prefillThpt decodeThpt p d ↔
      self.config.adjustmentInterval ≠ 0 ∧
        LeastSufficient self.config.minReplicas self.config.maxPrefillReplicas
          (numReq * isl / self.config.adjustmentInterval * correction)
          (prefillThpt * self.config.prefillEngineNumGpu) p ∧
        LeastSufficient self.config.minReplicas self.config.maxDecodeReplicas
          (numReq * osl / self.config.adjustmentInterval)
          (decodeThpt * self.config.decodeEngineNumGpu) d := by
  constructor
  · rintro ⟨hinterval, numReq', isl', osl', correction', hr, hi, ho, hc, hp, hd⟩
    rw [hcorrection] at hc
    obtain ⟨rfl, rfl⟩ := And.intro (PyFloat.fin.inj hr) (PyFloat.fin.inj hi)
    obtain ⟨rfl, rfl⟩ := And.intro (PyFloat.fin.inj ho) (PyFloat.fin.inj hc)
    exact ⟨hinterval, hp, hd⟩
  · rintro ⟨hinterval, hp, hd⟩
    exact ⟨hinterval, numReq, isl, osl, correction, rfl, rfl, rfl, hcorrection, hp, hd⟩

/-- Least sufficient counts are clamped ones. -/
theorem Sized.clamped
    (hcapP : 0 < prefillThpt * self.config.prefillEngineNumGpu)
    (hcapD : 0 < decodeThpt * self.config.decodeEngineNumGpu)
    (h : Sized self nextNumReq nextIsl nextOsl prefillThpt decodeThpt p d) :
    ∃ numP numD, clampReplicas self.config.minReplicas self.config.maxPrefillReplicas numP = p ∧
      clampReplicas self.config.minReplicas self.config.maxDecodeReplicas numD = d := by
  obtain ⟨-, numReq, isl, osl, correction, -, -, -, -, hp, hd⟩ := h
  exact ⟨_, _, (leastSufficient_iff hcapP).mp hp, (leastSufficient_iff hcapD).mp hd⟩

/-- What is returned comes from counts within the bounds of their roles. -/
theorem exists_sized_of_ok (hordered : self.config.Ordered)
    (hprefill : self.prefillInterpolator.interpolateThptPerGpu nextIsl = .fin prefillThpt)
    (hdecode : self.decodeThptPerGpu nextIsl nextOsl = .ok (.fin decodeThpt))
    (hprefillPos : 0 < prefillThpt) (hdecodePos : 0 < decodeThpt)
    (h : self.computeReplicaRequirements nextNumReq nextIsl nextOsl = .ok (p, d)) :
    ∃ numP numD, Sized self nextNumReq nextIsl nextOsl prefillThpt decodeThpt numP numD ∧
      (self.config.minReplicas ≤ numP ∧ numP ≤ self.config.maxPrefillReplicas) ∧
      (self.config.minReplicas ≤ numD ∧ numD ≤ self.config.maxDecodeReplicas) ∧
      self.config.enforceGpuBudget numP numD = .ok (p, d) := by
  have hcapP : 0 < prefillThpt * self.config.prefillEngineNumGpu :=
    mul_pos hprefillPos (by exact_mod_cast hordered.prefillGpu)
  have hcapD : 0 < decodeThpt * self.config.decodeEngineNumGpu :=
    mul_pos hdecodePos (by exact_mod_cast hordered.decodeGpu)
  obtain ⟨numP, numD, hsized, hbudget⟩ :=
    (computeReplicaRequirements_iff_budgeted hprefill hdecode hcapP hcapD).mp h
  obtain ⟨needP, needD, hnumP, hnumD⟩ := hsized.clamped hcapP hcapD
  refine ⟨numP, numD, hsized, ⟨?_, ?_⟩, ⟨?_, ?_⟩, hbudget⟩
  · exact hnumP ▸ le_min (le_max_right _ _) hordered.prefillBounds
  · exact hnumP ▸ min_le_right _ _
  · exact hnumD ▸ le_min (le_max_right _ _) hordered.decodeBounds
  · exact hnumD ▸ min_le_right _ _

/-- With an inert budget and positive capacities the targets are the least sufficient ones. -/
theorem computeReplicaRequirements_iff_sized (hinert : BudgetInert self.config)
    (hgpuP : 1 ≤ self.config.prefillEngineNumGpu) (hgpuD : 1 ≤ self.config.decodeEngineNumGpu)
    (hprefill : self.prefillInterpolator.interpolateThptPerGpu nextIsl = .fin prefillThpt)
    (hdecode : self.decodeThptPerGpu nextIsl nextOsl = .ok (.fin decodeThpt))
    (hprefillPos : 0 < prefillThpt) (hdecodePos : 0 < decodeThpt) :
    self.computeReplicaRequirements nextNumReq nextIsl nextOsl = .ok (p, d) ↔
      Sized self nextNumReq nextIsl nextOsl prefillThpt decodeThpt p d := by
  have hcapP : 0 < prefillThpt * self.config.prefillEngineNumGpu :=
    mul_pos hprefillPos (by exact_mod_cast hgpuP)
  have hcapD : 0 < decodeThpt * self.config.decodeEngineNumGpu :=
    mul_pos hdecodePos (by exact_mod_cast hgpuD)
  rw [computeReplicaRequirements_iff_budgeted hprefill hdecode hcapP hcapD]
  constructor
  · rintro ⟨numP, numD, hsized, hbudget⟩
    obtain ⟨_, _, rfl, rfl⟩ := hsized.clamped hcapP hcapD
    rw [PlannerConfig.enforceGpuBudget_of_le (hinert _ _), Except.ok.injEq, Prod.mk.injEq]
      at hbudget
    obtain ⟨rfl, rfl⟩ := hbudget
    exact hsized
  · intro hsized
    obtain ⟨_, _, rfl, rfl⟩ := hsized.clamped hcapP hcapD
    exact ⟨_, _, hsized, PlannerConfig.enforceGpuBudget_of_le (hinert _ _)⟩

/-! ## In floating point -/

section Rounded

variable {F : FloatFormat}

theorem leastSufficient_one_iff {lo hi n : ℤ} {q : ℚ} :
    LeastSufficient lo hi q 1 n ↔ clampReplicas lo hi ⌈q⌉ = n := by
  rw [leastSufficient_iff one_pos, div_one]
  rfl

/-- The budget step starts from the counts that the two quotients ask for. -/
theorem rounded_iff_budgeted :
    Rounded.computeReplicaRequirements F self nextNumReq nextIsl nextOsl = .ok (p, d) ↔
      ∃ numP numD, RoundedSized F self nextNumReq nextIsl nextOsl numP numD ∧
        Rounded.enforceGpuBudget F self.config numP numD = .ok (p, d) := by
  simp only [Rounded.computeReplicaRequirements, bind_eq_ok]
  constructor
  · rintro ⟨prefill, hprefill, numP, hnumP, decode, hdecode, numD, hnumD, hbudget⟩
    obtain ⟨ratioP, rfl, rfl⟩ := PyFloat.ceil_eq_ok hnumP
    obtain ⟨ratioD, rfl, rfl⟩ := PyFloat.ceil_eq_ok hnumD
    exact ⟨_, _, ⟨⟨ratioP, hprefill, leastSufficient_one_iff.mpr rfl⟩,
      ⟨ratioD, hdecode, leastSufficient_one_iff.mpr rfl⟩⟩, hbudget⟩
  · rintro ⟨numP, numD, ⟨⟨ratioP, hprefill, hnumP⟩, ⟨ratioD, hdecode, hnumD⟩⟩, hbudget⟩
    obtain rfl := leastSufficient_one_iff.mp hnumP
    obtain rfl := leastSufficient_one_iff.mp hnumD
    exact ⟨_, hprefill, _, rfl, _, hdecode, _, rfl, hbudget⟩

theorem RoundedSized.clamped (h : RoundedSized F self nextNumReq nextIsl nextOsl p d) :
    ∃ numP numD, clampReplicas self.config.minReplicas self.config.maxPrefillReplicas numP = p ∧
      clampReplicas self.config.minReplicas self.config.maxDecodeReplicas numD = d := by
  obtain ⟨⟨_, -, hp⟩, ⟨_, -, hd⟩⟩ := h
  exact ⟨_, _, leastSufficient_one_iff.mp hp, leastSufficient_one_iff.mp hd⟩

/-- With an inert budget the targets are the sizes of the two quotients. -/
theorem rounded_iff_sized (hinert : BudgetInert self.config) :
    Rounded.computeReplicaRequirements F self nextNumReq nextIsl nextOsl = .ok (p, d) ↔
      RoundedSized F self nextNumReq nextIsl nextOsl p d := by
  rw [rounded_iff_budgeted]
  constructor
  · rintro ⟨numP, numD, hsized, hbudget⟩
    obtain ⟨_, _, rfl, rfl⟩ := hsized.clamped
    rw [Rounded.enforceGpuBudget_of_le (hinert _ _), Except.ok.injEq, Prod.mk.injEq] at hbudget
    obtain ⟨rfl, rfl⟩ := hbudget
    exact hsized
  · intro hsized
    obtain ⟨_, _, rfl, rfl⟩ := hsized.clamped
    exact ⟨_, _, hsized, Rounded.enforceGpuBudget_of_le (hinert _ _)⟩

end Rounded

/-- Under the operator the budget clause is inert, and each role's target is
the size of its quotient in every format, the least sufficient one in exact arithmetic. -/
theorem budget_inert (hemitted : Emitted ras spec rbg self.config) :
    BudgetInert self.config ∧
      (∀ (F : FloatFormat) (nextNumReq nextIsl nextOsl : PyFloat) (p d : ℤ),
        Rounded.computeReplicaRequirements F self nextNumReq nextIsl nextOsl = .ok (p, d) ↔
          RoundedSized F self nextNumReq nextIsl nextOsl p d) ∧
      ∀ (nextNumReq nextIsl nextOsl : PyFloat) (prefillThpt decodeThpt : ℚ),
        self.prefillInterpolator.interpolateThptPerGpu nextIsl = .fin prefillThpt →
          self.decodeThptPerGpu nextIsl nextOsl = .ok (.fin decodeThpt) →
            0 < prefillThpt → 0 < decodeThpt → ∀ p d : ℤ,
              self.computeReplicaRequirements nextNumReq nextIsl nextOsl = .ok (p, d) ↔
                Sized self nextNumReq nextIsl nextOsl prefillThpt decodeThpt p d := by
  refine ⟨hemitted.inert, fun _ _ _ _ _ _ => rounded_iff_sized hemitted.inert, ?_⟩
  intro nextNumReq nextIsl nextOsl prefillThpt decodeThpt hprefill hdecode hprefillPos
    hdecodePos p d
  exact computeReplicaRequirements_iff_sized hemitted.inert hemitted.gpus_pos.1
    hemitted.gpus_pos.2 hprefill hdecode hprefillPos hdecodePos

private def sizedScaler : AutoScaler := ⟨{ key := ⟨"serving", "mixtral"⟩ }, none, none⟩

private def sizedSpec : ParsedSpec :=
  { ParsedSpec.fallback with
    prefillMaxReplicas := 8
    decodeMaxReplicas := 4 }

/-- A group whose engines take two GPUs and one. -/
private def sizedGroup : RoleBasedGroup where
  metadata := { key := ⟨"serving", "mixtral"⟩ }
  object := .obj [("spec", .obj [("roles", .arr
    [.obj [("name", .str "prefill"), ("template", .obj [("spec", .obj [("containers", .arr
        [.obj [("resources", .obj [("requests", .obj [("nvidia.com/gpu", .str "2")])])]])])])],
     .obj [("name", .str "decode")]])])]

private def sizedPlanner : PlannerState :=
  .flat (deployedConfig "mixtral" sizedSpec "serving" 20 2 1) (.constant []) 100 1000 40 500

private theorem sizedPlanner_emitted :
    Emitted sizedScaler sizedSpec sizedGroup sizedPlanner.config where
  read := fromEnviron_buildPlannerEnv _ _ _ _ _ _
  fits := by decide +kernel

/-- A load that five prefill engines cover and that no four decode engines do. -/
theorem budget_inert_mixtral :
    BudgetInert sizedPlanner.config ∧
      RoundedSized .binary64 sizedPlanner (.fin 900) (.fin 2000) (.fin 500) 5 4 ∧
      Sized sizedPlanner (.fin 900) (.fin 2000) (.fin 500) 1000 500 5 4 := by
  obtain ⟨hinert, hrounded, htargets⟩ := budget_inert sizedPlanner_emitted
  refine ⟨hinert, (hrounded _ _ _ _ _ _).mp (by decide +kernel), (htargets _ _ _ _ _
    (by decide +kernel) (by decide +kernel) (by norm_num) (by norm_num) _ _).mp ?_⟩
  decide +kernel

/-- The double nearest to eleven tenths is above it. -/
private def elevenTenths : ℚ := 4953959590107546 / 2 ^ 52

/-- The deployed planner of engines with one GPU, whose prefill takes longer than promised. -/
private def slowPlanner : PlannerState :=
  { PlannerState.flat (deployedConfig "mixtral" { sizedSpec with prefillMaxReplicas := 100 }
      "serving" 104 1 1) (.constant []) 100 1000 40 500 with
    pCorrectionFactor := .fin elevenTenths }

/-- In doubles the quotient of demand and capacity rounds to eleven, and eleven
engines do not cover the demand. -/
theorem demand_not_covered :
    ∃ (ras : AutoScaler) (spec : ParsedSpec) (rbg : RoleBasedGroup) (self : PlannerState),
      Emitted ras spec rbg self.config ∧
      self.config.minReplicas ≤ self.config.maxPrefillReplicas ∧
      self.config.minReplicas ≤ self.config.maxDecodeReplicas ∧
      self.pCorrectionFactor = .fin elevenTenths ∧
      self.prefillInterpolator.interpolateThptPerGpu (.fin 2000) = .fin 1000 ∧
      self.decodeThptPerGpu (.fin 2000) (.fin 100) = .ok (.fin 500) ∧
      Rounded.computeReplicaRequirements .binary64 self (.fin 900) (.fin 2000) (.fin 100) =
        .ok (11, 1) ∧
      ¬ (900 * 2000 / self.config.adjustmentInterval * elevenTenths : ℚ) ≤
        (11 : ℤ) * (1000 * self.config.prefillEngineNumGpu) ∧
      ¬ LeastSufficient self.config.minReplicas self.config.maxPrefillReplicas
        (900 * 2000 / self.config.adjustmentInterval * elevenTenths)
        (1000 * self.config.prefillEngineNumGpu : ℚ) 11 := by
  have hshort : ¬ (900 * 2000 / slowPlanner.config.adjustmentInterval * elevenTenths : ℚ) ≤
      (11 : ℤ) * (1000 * slowPlanner.config.prefillEngineNumGpu) := by
    decide +kernel
  refine ⟨sizedScaler, { sizedSpec with prefillMaxReplicas := 100 },
    ⟨{ key := ⟨"serving", "mixtral"⟩ }, .obj []⟩, slowPlanner,
    ⟨fromEnviron_buildPlannerEnv _ _ _ _ _ _, by decide +kernel⟩,
    by decide, by decide, rfl, by decide +kernel, by decide +kernel, by decide +kernel, hshort, ?_⟩
  rintro (hleast | ⟨-, hmaximum⟩)
  · exact hshort hleast.1.2.2
  · exact absurd hmaximum (by decide)

end RbgPlanner.Properties.InertBudget
