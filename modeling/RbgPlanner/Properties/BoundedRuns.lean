import RbgPlanner.Properties.GovernedRuns

/-!
# Replicas over a run

A deployed planner among the controllers of the cluster: however long it runs
and whatever it observes, the governed counts of its two roles stay within the
bounds it was deployed with, their GPUs within its budget, and no other role is
touched.
-/

namespace RbgPlanner.Properties

open Base Base.Prog Planner InertBudget

/-- Within the bounds of a role. -/
def WithinBounds (minReplicas maxReplicas n : ℤ) : Prop :=
  min minReplicas maxReplicas ≤ n ∧ n ≤ maxReplicas

/-- Both roles within their bounds, and every other one as at the start. -/
abbrev KeepsBounds (connector : RBGConnector) (config : PlannerConfig) (names : List String)
    (start s : ScalingState) : Prop :=
  KeepsRoles connector config names start
    (WithinBounds config.minReplicas config.maxPrefillReplicas)
    (WithinBounds config.minReplicas config.maxDecodeReplicas) s

variable {connector : RBGConnector} {config : PlannerConfig} {names : List String}
  {start s s' : ScalingState}

theorem clampReplicas_within {minReplicas maxReplicas n : ℤ} :
    WithinBounds minReplicas maxReplicas (clampReplicas minReplicas maxReplicas n) :=
  ⟨min_le_min_right maxReplicas (le_max_right n minReplicas), min_le_right _ _⟩

/-- Counts that a planner with an inert budget decides on are within the bounds. -/
theorem Decided.within (hinert : BudgetInert config) {target : ℤ × ℤ}
    (h : Decided config target) :
    WithinBounds config.minReplicas config.maxPrefillReplicas target.1 ∧
      WithinBounds config.minReplicas config.maxDecodeReplicas target.2 := by
  obtain ⟨planner, forecast, rfl, hnext⟩ := h
  unfold PlannerState.nextReplicas at hnext
  rcases hpair : planner.computeReplicaRequirements forecast.1 forecast.2.1 forecast.2.2 with
    e | ⟨p, d⟩
  · rw [hpair] at hnext
    cases hnext
  · rw [hpair] at hnext
    obtain rfl := Option.some.inj hnext
    obtain ⟨numP, numD, -, -, hbudget⟩ := PlannerState.computeReplicaRequirements_eq_ok.mp hpair
    rw [PlannerConfig.enforceGpuBudget_of_le (hinert numP numD)] at hbudget
    rw [← Except.ok.inj hbudget]
    exact ⟨clampReplicas_within, clampReplicas_within⟩

/-- GPUs of counts within the bounds are within an inert budget. -/
theorem KeepsBounds.gpus (hinert : BudgetInert config)
    (hs : KeepsBounds connector config names start s) :
    config.totalGpu (connector.governed s config.prefillRoleName)
      (connector.governed s config.decodeRoleName) ≤ config.maxGpuBudget := by
  have hclamp : ∀ {minReplicas maxReplicas n : ℤ}, WithinBounds minReplicas maxReplicas n →
      clampReplicas minReplicas maxReplicas n = n := by
    rintro minReplicas maxReplicas n ⟨hlow, hhigh⟩
    simp only [clampReplicas]
    omega
  have hbudget := hinert (connector.governed s config.prefillRoleName)
    (connector.governed s config.decodeRoleName)
  rwa [hclamp hs.prefill, hclamp hs.decode] at hbudget

/-- A deployed planner that starts within its bounds never leaves them: in every
run among the other controllers and wherever it ends, both roles are within the
bounds of the spec, their GPUs within the budget, and no other role has changed. -/
theorem run_keepsBounds {ras : Controller.AutoScaler} {spec : Controller.ParsedSpec}
    {rbg : Controller.RoleBasedGroup} {planner : PlannerState} {forecasters : Forecasters}
    {turns : ℕ} {tr : List LoopEvent} {out}
    (hemitted : Emitted ras spec rbg planner.config)
    (hroles : planner.config.prefillRoleName ≠ planner.config.decodeRoleName)
    (hs : KeepsBounds connector planner.config names s s)
    (h : (ExceptT.run (planner.run connector forecasters turns)).Exec (LoopAnswers fun _ _ => True)
      (KeepsCounts connector names) s tr out s') :
    KeepsBounds connector planner.config names s s' ∧
      planner.config.totalGpu (connector.governed s' planner.config.prefillRoleName)
        (connector.governed s' planner.config.decodeRoleName) ≤ planner.config.maxGpuBudget := by
  have hkept := run_keepsRoles (keeps_config forecasters planner.config) rfl
    (fun _ hdecided => Decided.within hemitted.inert hdecided) hroles hs h
  exact ⟨hkept, KeepsBounds.gpus hemitted.inert hkept⟩

private def boundedScaler : Controller.AutoScaler := ⟨{ key := ⟨"serving", "qwen"⟩ }, none, none⟩

private def boundedScalerSpec : Controller.ParsedSpec :=
  { Controller.ParsedSpec.fallback with
    prefillMaxReplicas := 3
    decodeMaxReplicas := 8 }

private def boundedGroup : Controller.RoleBasedGroup where
  metadata := { key := ⟨"serving", "qwen"⟩ }
  object := .obj []

private def boundedPlanner : PlannerState :=
  .flat (Controller.deployedConfig "qwen" boundedScalerSpec "serving" 11 1 1) (.constant [])
    100 1000 40 500

private def boundedRun : LoopProg (Except PlannerExc RunningPlanner) :=
  ExceptT.run (boundedPlanner.run (.ofConfig boundedPlanner.config "serving") .failing 11)

/-- Six prefill engines are wanted, three are within the bounds. -/
theorem run_keepsBounds_small :
    KeepsBounds (.ofConfig boundedPlanner.config "serving") boundedPlanner.config
        ["prefill", "decode"] Host.small.cluster
        (boundedRun.run (Host.serve (.fin 2000)) Host.small).2.cluster ∧
      (boundedRun.run (Host.serve (.fin 2000)) Host.small).2.cluster.count "prefill" = some 3 := by
  have hemitted : Emitted boundedScaler boundedScalerSpec boundedGroup boundedPlanner.config :=
    ⟨Controller.fromEnviron_buildPlannerEnv _ _ _ _ _ _, by decide +kernel⟩
  have hstart : KeepsBounds (.ofConfig boundedPlanner.config "serving") boundedPlanner.config
      ["prefill", "decode"] Host.small.cluster Host.small.cluster := by
    refine ⟨?_, ⟨by decide, by decide⟩, ⟨by decide, by decide⟩, fun _ _ _ => rfl⟩
    rintro rbg hrbg
    obtain rfl := Option.some.inj hrbg
    rfl
  refine ⟨(run_keepsBounds hemitted (by decide) hstart
    (exec_of_run_seen (loopAnswers_serve fun _ => trivial) boundedRun Host.small)).1, ?_⟩
  decide +kernel

end RbgPlanner.Properties
