import RbgPlanner.Controller.Deployment

/-!
# The configuration of a deployed planner

The operator prints the spec into environment variables and the planner reads
its configuration back from them. Every number, flag and name arrives, the two
latency targets up to one decimal.
-/

namespace RbgPlanner.Controller

open Base Base.NumberText Base.Rounding Planner

/-- The configuration of the planner the operator deploys. -/
def deployedConfig (rbgName : String) (spec : ParsedSpec) (namespaceName : String)
    (maxGPUBudget prefillGPUs decodeGPUs : ℤ) : PlannerConfig where
  rbgName := rbgName
  rbgNamespace := namespaceName
  prefillRoleName := spec.prefillRoleName
  decodeRoleName := spec.decodeRoleName
  prometheusEndpoint := spec.prometheusEndpoint
  metricSource := spec.metricSource
  modelName := spec.modelName
  adjustmentInterval := spec.scalingInterval
  maxGpuBudget := maxGPUBudget
  minReplicas := spec.prefillMinReplicas
  maxPrefillReplicas := spec.prefillMaxReplicas
  maxDecodeReplicas := spec.decodeMaxReplicas
  prefillEngineNumGpu := prefillGPUs
  decodeEngineNumGpu := decodeGPUs
  ttftSla := .fin (roundTo 1 spec.ttft)
  itlSla := .fin (roundTo 1 spec.itl)
  loadPredictor := spec.loadPredictor
  loadPredictionWindowSize := spec.predictionWindow
  noCorrection := spec.noCorrection
  profileResultsDir := "/etc/rbg-planner/profiling"
  plannerPrometheusPort := spec.metricsPort
  noOperation := spec.dryRun

/-- The planner reads what the operator wrote. -/
theorem fromEnviron_buildPlannerEnv (rbgName : String) (spec : ParsedSpec)
    (namespaceName : String) (maxGPUBudget prefillGPUs decodeGPUs : ℤ) :
    PlannerConfig.fromEnviron
        (buildPlannerEnv rbgName spec namespaceName maxGPUBudget prefillGPUs decodeGPUs) =
      .ok (deployedConfig rbgName spec namespaceName maxGPUBudget prefillGPUs decodeGPUs) := by
  simp [PlannerConfig.fromEnviron, buildPlannerEnv, environGet, deployedConfig, bind, Except.bind,
    pure, Except.pure]

/-- A budget that fits a 64-bit integer is not wrapped. -/
theorem maxGPUBudget_of_fits {spec : ParsedSpec} {prefillGPUs decodeGPUs : ℤ}
    (hlow : -2 ^ 63 ≤ spec.prefillMaxReplicas * prefillGPUs + spec.decodeMaxReplicas * decodeGPUs)
    (hhigh : spec.prefillMaxReplicas * prefillGPUs + spec.decodeMaxReplicas * decodeGPUs <
      2 ^ 63) :
    maxGPUBudget spec prefillGPUs decodeGPUs =
      spec.prefillMaxReplicas * prefillGPUs + spec.decodeMaxReplicas * decodeGPUs :=
  Int.bmod_eq_of_le (by omega) (by omega)

/-! ## GPU counts -/

theorem assignGPUs_pos {prefillRole decodeRole : String} {gpus : ℤ × ℤ} (role : Json)
    (h : 1 ≤ gpus.1 ∧ 1 ≤ gpus.2) :
    1 ≤ (assignGPUs prefillRole decodeRole gpus role).1 ∧
      1 ≤ (assignGPUs prefillRole decodeRole gpus role).2 := by
  unfold assignGPUs
  split
  · dsimp only
    split_ifs with hpos
    · exact ⟨hpos, h.2⟩
    · exact ⟨h.1, hpos⟩
    · exact h
    · exact h
  · exact h

/-- An engine occupies at least one GPU. -/
theorem getGPUsFromRBG_pos (rbg : RoleBasedGroup) (prefillRole decodeRole : String) :
    1 ≤ (getGPUsFromRBG rbg prefillRole decodeRole).1 ∧
      1 ≤ (getGPUsFromRBG rbg prefillRole decodeRole).2 := by
  unfold getGPUsFromRBG
  cases rbg.object.nestedSlice ["spec", "roles"] with
  | none => exact ⟨le_rfl, le_rfl⟩
  | some roles =>
      refine List.foldlRecOn (motive := fun gpus : ℤ × ℤ => 1 ≤ gpus.1 ∧ 1 ≤ gpus.2) roles
        (assignGPUs prefillRole decodeRole) ⟨le_rfl, le_rfl⟩ ?_
      intro gpus h role _
      exact assignGPUs_pos role h

/-- The loop over the roles; there may be none. -/
theorem getGPUsFromRBG_eq_foldl (rbg : RoleBasedGroup) (prefillRole decodeRole : String) :
    getGPUsFromRBG rbg prefillRole decodeRole =
      ((rbg.object.nestedSlice ["spec", "roles"]).getD []).foldl
        (assignGPUs prefillRole decodeRole) (1, 1) := by
  unfold getGPUsFromRBG
  cases rbg.object.nestedSlice ["spec", "roles"] <;> rfl

end RbgPlanner.Controller
