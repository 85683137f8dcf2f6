import RbgPlanner.Controller.Admission
import RbgPlanner.Planner.Divisions
import RbgPlanner.Properties.InertBudget

/-!
# Divisors of a deployed planner

The planner divides by numbers of its configuration and of the cluster, some of
them unchecked. This module decides which AutoScalers give it a zero divisor.
-/

namespace RbgPlanner.Properties.ZeroDivisors

open Base Base.Json Api Controller Planner Planner.PlannerState
open InertBudget (emittedEnv)

/-- No divisor of any cycle on finite readings is zero. -/
def DivisorsNonzero (self : PlannerState) : Prop :=
  ∀ o x, self.CycleDivides o x → x ≠ .fin 0

/-- What the planner relies on besides the interval. -/
structure Positive (config : PlannerConfig) : Prop where
  minReplicas : 1 ≤ config.minReplicas
  maxPrefillReplicas : 1 ≤ config.maxPrefillReplicas
  maxDecodeReplicas : 1 ≤ config.maxDecodeReplicas
  prefillEngineNumGpu : 1 ≤ config.prefillEngineNumGpu
  decodeEngineNumGpu : 1 ≤ config.decodeEngineNumGpu

/-- An admitted AutoScaler and any RoleBasedGroup give positive bounds and
engine sizes, and the submitted interval. -/
theorem config_of_admitted {v stored : Json} {r : AutoScalerReconciler} {spec : ParsedSpec}
    {ras : AutoScaler} {rbg : RoleBasedGroup} {config : PlannerConfig}
    (hadmitted : autoScalerSpec.admitted v = some stored)
    (hparse : r.parseRASSpec (some stored) = .ok spec)
    (hread : PlannerConfig.fromEnviron (emittedEnv ras spec rbg) = .ok config) :
    Positive config ∧ (config.adjustmentInterval = 0 ↔ SubmitsZeroInterval v) := by
  rw [emittedEnv, fromEnviron_buildPlannerEnv] at hread
  obtain rfl := Except.ok.inj hread
  obtain ⟨hprefill, hdecode⟩ := replicas_of_admitted hadmitted hparse
  obtain ⟨hgpuP, hgpuD⟩ := getGPUsFromRBG_pos rbg spec.prefillRoleName spec.decodeRoleName
  exact ⟨⟨hprefill.1, hprefill.2, hdecode.2, hgpuP, hgpuD⟩,
    scalingInterval_of_admitted hadmitted hparse⟩

section Cycle

variable {self : PlannerState} {x : PyFloat}

/-- The budget step is given at least one engine of each role. -/
theorem clampedGpu_pos (h : Positive self.config) (numP numD : ℤ) :
    0 < self.clampedGpu numP numD := by
  have hp : 1 ≤ (self.clamped numP numD).1 :=
    le_min (h.minReplicas.trans (le_max_right _ _)) h.maxPrefillReplicas
  have hd : 1 ≤ (self.clamped numP numD).2 :=
    le_min (h.minReplicas.trans (le_max_right _ _)) h.maxDecodeReplicas
  exact add_pos (mul_pos hp h.prefillEngineNumGpu) (mul_pos hd h.decodeEngineNumGpu)

theorem ofInt_ne_zero {n : ℤ} (h : n ≠ 0) : PyFloat.ofInt n ≠ .fin 0 :=
  mt PyFloat.ofInt_eq_zero.mp h

theorem computeDivides_ne_zero {nextNumReq nextIsl nextOsl : PyFloat} (h : Positive self.config)
    (hinterval : self.config.adjustmentInterval ≠ 0)
    (hdivides : self.ComputeDivides nextNumReq nextIsl nextOsl x) : x ≠ .fin 0 := by
  cases hdivides with
  | prefillRate => exact ofInt_ne_zero hinterval
  | correctedItl _ hpositive =>
      intro hzero
      rw [hzero] at hpositive
      simp at hpositive
  | decodeRate => exact ofInt_ne_zero hinterval
  | scale => exact ofInt_ne_zero (clampedGpu_pos h _ _).ne'
  | budgetLeft =>
      have hgpu := h.decodeEngineNumGpu
      exact ofInt_ne_zero (by omega)

/-- Apart from the interval, every divisor is checked or positive. -/
theorem divisorsNonzero_of_interval (h : Positive self.config)
    (hinterval : self.config.adjustmentInterval ≠ 0) : DivisorsNonzero self := by
  intro o x hdivides
  cases hdivides with
  | observe hobserve =>
      cases hobserve with
      | requestRate => exact ofInt_ne_zero hinterval
  | update hobserved _ hupdate =>
      have hconfig := self.observed_config o
      rw [hobserved] at hconfig
      cases hupdate with
      | perWorker hready => exact ofInt_ne_zero hready
      | concurrency => exact ofInt_ne_zero (hconfig ▸ hinterval)
  | @compute s s' _ hobserved hcorrected _ hcompute =>
      have hconfig := self.observed_config o
      have hconfig' := s.corrected_config o.readyDecode
      rw [hobserved] at hconfig
      rw [hcorrected] at hconfig'
      have hconfig : s'.config = self.config := hconfig'.trans hconfig
      exact computeDivides_ne_zero (hconfig ▸ h) (hconfig ▸ hinterval) hcompute

/-- One request of one token in and out, at one worker of each role. -/
def oneRequest : Surroundings where
  numP := 1
  numD := 1
  readyDecode := 1
  readings := ⟨1, 1, 1, 1, 1, 1⟩
  forecasters := .failing

/-- Whatever it is configured to do otherwise, a planner without an interval
divides by it as soon as it observes one request. -/
theorem divides_zero (hinterval : self.config.adjustmentInterval = 0) :
    ∃ x, self.CycleDivides oneRequest x ∧ x = .fin 0 := by
  have hzero : PyFloat.ofInt self.config.adjustmentInterval = .fin 0 :=
    PyFloat.ofInt_eq_zero.mpr hinterval
  by_cases hexport : self.promMetrics = true
  · exact ⟨_, .observe (.requestRate hexport), hzero⟩
  · have hobserved : self.observed oneRequest =
        (.ok (), self.recordMetrics oneRequest.readings.metrics) :=
      if_neg hexport
    by_cases hcorrection : self.config.noCorrection = true
    · have hcorrected : (self.recordMetrics oneRequest.readings.metrics).corrected 1 =
          (.ok (), self.recordMetrics oneRequest.readings.metrics) :=
        if_pos hcorrection
      exact ⟨_, .compute hobserved hcorrected (fun h => (hexport h).elim) .prefillRate, hzero⟩
    · obtain ⟨p, hp⟩ := correctedFactor_returns (rfl : (some (.fin 1) : Option PyFloat) = _)
        (self.prefillInterpolator.interpolateTtft (.fin 1)) self.pCorrectionFactor
      exact ⟨_, .update hobserved (Bool.eq_false_iff.mpr hcorrection)
        (.concurrency one_ne_zero hp rfl rfl), hzero⟩

end Cycle

/-- The planner of an admitted AutoScaler has no zero divisor, whatever the
RoleBasedGroup, the ready workers and the readings, exactly when the submitted
interval is not zero. -/
theorem divisorsNonzero_iff {v stored : Json} {r : AutoScalerReconciler} {spec : ParsedSpec}
    {ras : AutoScaler} {rbg : RoleBasedGroup} {self : PlannerState}
    (hadmitted : autoScalerSpec.admitted v = some stored)
    (hparse : r.parseRASSpec (some stored) = .ok spec)
    (hread : PlannerConfig.fromEnviron (emittedEnv ras spec rbg) = .ok self.config) :
    DivisorsNonzero self ↔ ¬ SubmitsZeroInterval v := by
  obtain ⟨hpositive, hinterval⟩ := config_of_admitted hadmitted hparse hread
  rw [← hinterval]
  constructor
  · intro hnonzero hzero
    obtain ⟨x, hdivides, hx⟩ := divides_zero hzero
    exact hnonzero oneRequest x hdivides hx
  · exact divisorsNonzero_of_interval hpositive

/-! ## Two intervals -/

/-- An AutoScaler with an interval and up to eight engines of each role. -/
private def intervalSpec (seconds : ℤ) : Json :=
  .obj [("scalingInterval", .int seconds),
    ("pattern", .obj [("PDDisaggregated", .obj [("prefill", .obj [("maxReplicas", .int 8)]),
      ("decode", .obj [("maxReplicas", .int 8), ("roleName", .str "decode")])])]),
    ("implementation", .obj [("DynamoPlanner", .obj [])])]

private def intervalParsedSpec (seconds : ℤ) : ParsedSpec :=
  { ParsedSpec.fallback with
    scalingInterval := seconds
    prefillMaxReplicas := 8
    decodeMaxReplicas := 8 }

private def intervalScaler : AutoScaler := ⟨{ key := ⟨"serving", "qwen"⟩ }, none, none⟩

/-- A group that requests no GPU: each engine counts as one. -/
private def plainGroup : RoleBasedGroup := ⟨{ key := ⟨"serving", "qwen"⟩ }, .obj []⟩

/-- Its planner on a flat profile, with its metrics server running. -/
private def intervalPlanner (seconds : ℤ) : PlannerState :=
  { PlannerState.flat (deployedConfig "qwen" (intervalParsedSpec seconds) "serving" 16 1 1)
      (.constant []) 100 1000 40 500 with promMetrics := true }

private theorem intervalPlanner_read (seconds : ℤ) :
    PlannerConfig.fromEnviron (emittedEnv intervalScaler (intervalParsedSpec seconds) plainGroup) =
      .ok (intervalPlanner seconds).config :=
  fromEnviron_buildPlannerEnv _ _ _ _ _ _

theorem divisorsNonzero_of_minute : DivisorsNonzero (intervalPlanner 60) := by
  have hinterval : ¬ SubmitsZeroInterval (intervalSpec 60) := by
    rintro (h | h)
    · cases h
    · cases h
  exact (divisorsNonzero_iff (v := intervalSpec 60) (r := ⟨"", "", ""⟩) rfl rfl
    (intervalPlanner_read 60)).mpr hinterval

/-- The schema admits an interval of zero, and the planner's first observation
divides by it, an exception that ends the process. -/
theorem zero_interval_divides :
    ∃ (stored : Json) (planner : PlannerState) (o : Surroundings) (x : PyFloat),
      autoScalerSpec.admitted (intervalSpec 0) = some stored ∧
      (⟨"", "", ""⟩ : AutoScalerReconciler).parseRASSpec (some stored) =
        .ok (intervalParsedSpec 0) ∧
      PlannerConfig.fromEnviron (emittedEnv intervalScaler (intervalParsedSpec 0) plainGroup) =
        .ok planner.config ∧
      planner.CycleDivides o x ∧ x = .fin 0 ∧
      (planner.observed o).1 = .error (.builtin .zeroDivisionError) := by
  refine ⟨_, intervalPlanner 0, oneRequest, _, rfl, rfl, intervalPlanner_read 0,
    .observe (.requestRate rfl), rfl, ?_⟩
  decide +kernel

end RbgPlanner.Properties.ZeroDivisors
