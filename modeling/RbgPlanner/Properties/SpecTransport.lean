import RbgPlanner.Controller.Admission
import RbgPlanner.Controller.Environment

/-!
# The spec in the environment

The operator encodes a parsed spec as strings and the planner decodes it. The
two are inverse on every field but the latency targets, which lose what is
behind their first decimal.
-/

namespace RbgPlanner.Properties.SpecTransport

open Base Base.Rounding Controller Planner

/-- What one Deployment is given besides the spec. -/
structure Target where
  rbgName : String
  namespaceName : String
  maxGPUBudget : ℤ
  prefillGPUs : ℤ
  decodeGPUs : ℤ

namespace Target

variable (target : Target) (spec : ParsedSpec)

/-- The environment of the planner's container. -/
def env : List EnvVar :=
  buildPlannerEnv target.rbgName spec target.namespaceName target.maxGPUBudget target.prefillGPUs
    target.decodeGPUs

/-- A configuration that has every encoded value. -/
structure Carried (config : PlannerConfig) : Prop where
  rbgName : config.rbgName = target.rbgName
  rbgNamespace : config.rbgNamespace = target.namespaceName
  prefillRoleName : config.prefillRoleName = spec.prefillRoleName
  decodeRoleName : config.decodeRoleName = spec.decodeRoleName
  prometheusEndpoint : config.prometheusEndpoint = spec.prometheusEndpoint
  metricSource : config.metricSource = spec.metricSource
  modelName : config.modelName = spec.modelName
  adjustmentInterval : config.adjustmentInterval = spec.scalingInterval
  maxGpuBudget : config.maxGpuBudget = target.maxGPUBudget
  minReplicas : config.minReplicas = spec.prefillMinReplicas
  maxPrefillReplicas : config.maxPrefillReplicas = spec.prefillMaxReplicas
  maxDecodeReplicas : config.maxDecodeReplicas = spec.decodeMaxReplicas
  prefillEngineNumGpu : config.prefillEngineNumGpu = target.prefillGPUs
  decodeEngineNumGpu : config.decodeEngineNumGpu = target.decodeGPUs
  ttftSla : config.ttftSla = .fin spec.ttft
  itlSla : config.itlSla = .fin spec.itl
  loadPredictor : config.loadPredictor = spec.loadPredictor
  loadPredictionWindowSize : config.loadPredictionWindowSize = spec.predictionWindow
  noCorrection : config.noCorrection = spec.noCorrection
  noOperation : config.noOperation = spec.dryRun
  plannerPrometheusPort : config.plannerPrometheusPort = spec.metricsPort

/-- Decoding the environment gives back what was encoded. -/
def Faithful : Prop :=
  ∃ config, PlannerConfig.fromEnviron (target.env spec) = .ok config ∧ target.Carried spec config

end Target

variable {target : Target} {spec : ParsedSpec}

/-- The configuration a planner is deployed with carries all but the rounded targets. -/
theorem carried_deployedConfig_iff :
    target.Carried spec (deployedConfig target.rbgName spec target.namespaceName
        target.maxGPUBudget target.prefillGPUs target.decodeGPUs) ↔
      roundTo 1 spec.ttft = spec.ttft ∧ roundTo 1 spec.itl = spec.itl := by
  constructor
  · intro h
    exact ⟨PyFloat.fin.inj h.ttftSla, PyFloat.fin.inj h.itlSla⟩
  · rintro ⟨httft, hitl⟩
    constructor
    case ttftSla => exact congrArg PyFloat.fin httft
    case itlSla => exact congrArg PyFloat.fin hitl
    all_goals rfl

/-- The environment is faithful to the specs whose targets have one decimal. -/
theorem faithful_iff (target : Target) (spec : ParsedSpec) :
    target.Faithful spec ↔
      (∃ n : ℤ, spec.ttft * 10 = n) ∧ ∃ n : ℤ, spec.itl * 10 = n := by
  have hread : PlannerConfig.fromEnviron (target.env spec) = .ok _ :=
    fromEnviron_buildPlannerEnv _ _ _ _ _ _
  have hround : ∀ x : ℚ, roundTo 1 x = x ↔ ∃ n : ℤ, x * 10 = n := by
    intro x
    simpa using roundTo_eq_self_iff 1 x
  rw [Target.Faithful, hread]
  simp only [Except.ok.injEq, exists_eq_left', carried_deployedConfig_iff, hround]

/-- A spec that sets an inter-token latency. -/
private def latencySpec (itl : ℚ) : Json :=
  .obj [("pattern", .obj [("PDDisaggregated", .obj
      [("prefill", .obj [("roleName", .str "prefill"), ("maxReplicas", .int 1)]),
        ("decode", .obj [("roleName", .str "decode"), ("maxReplicas", .int 1)])])]),
    ("implementation", .obj [("DynamoPlanner", .obj [("itl", .float itl)])])]

private def latencyTarget : Target where
  rbgName := "qwen"
  namespaceName := "serving"
  maxGPUBudget := 2
  prefillGPUs := 1
  decodeGPUs := 1

/-- A positive target that the schema admits can arrive as zero. -/
theorem small_itl_lost :
    Api.autoScalerSpec.valid (Api.autoScalerSpec.complete (latencySpec (1 / 32))) = true ∧
      (⟨"", "", ""⟩ : AutoScalerReconciler).parseRASSpec
          (some (Api.autoScalerSpec.complete (latencySpec (1 / 32)))) =
        .ok { ParsedSpec.fallback with itl := 1 / 32 } ∧
      ((PlannerConfig.fromEnviron
        (latencyTarget.env { ParsedSpec.fallback with itl := 1 / 32 })).map (·.itlSla) =
          .ok (.fin 0)) ∧
      ¬ latencyTarget.Faithful { ParsedSpec.fallback with itl := 1 / 32 } := by
  have hread : PlannerConfig.fromEnviron
      (latencyTarget.env { ParsedSpec.fallback with itl := 1 / 32 }) = .ok _ :=
    fromEnviron_buildPlannerEnv _ _ _ _ _ _
  have hzero : (PlannerConfig.fromEnviron
      (latencyTarget.env { ParsedSpec.fallback with itl := 1 / 32 })).map (·.itlSla) =
        .ok (.fin 0) := by
    rw [hread]
    decide +kernel
  refine ⟨by decide +kernel, by decide +kernel, hzero, ?_⟩
  rintro ⟨config, hconfig, hcarried⟩
  rw [hconfig] at hzero
  have hitl : PyFloat.fin (1 / 32) = .fin 0 :=
    hcarried.itlSla.symm.trans (Except.ok.inj hzero)
  exact absurd hitl (by decide +kernel)

end RbgPlanner.Properties.SpecTransport
