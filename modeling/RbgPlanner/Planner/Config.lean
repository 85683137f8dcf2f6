import RbgPlanner.Base.NumberText

/-!
# Planner configuration

`PlannerConfig` is read once from the process environment. A variable that is
absent has the default of its field; one that does not parse raises while the
class body runs.
-/

namespace RbgPlanner.Planner

open Base Base.NumberText

/-- One entry of a container's environment. -/
structure EnvVar where
  name : String
  value : String
  deriving DecidableEq, Repr

/-- `os.environ.get(name, default)`. Of two entries with one name the later one counts. -/
def environGet (env : List EnvVar) (name default : String) : String :=
  match env.reverse.find? (·.name == name) with
  | some v => v.value
  | none => default

/-- `PlannerConfig`, the source of truth for planner configuration. -/
structure PlannerConfig where
  rbgName : String
  rbgNamespace : String
  prefillRoleName : String
  decodeRoleName : String
  prometheusEndpoint : String
  metricSource : String
  modelName : String
  adjustmentInterval : ℤ
  maxGpuBudget : ℤ
  minReplicas : ℤ
  maxPrefillReplicas : ℤ
  maxDecodeReplicas : ℤ
  prefillEngineNumGpu : ℤ
  decodeEngineNumGpu : ℤ
  ttftSla : PyFloat
  itlSla : PyFloat
  loadPredictor : String
  loadPredictionWindowSize : ℤ
  noCorrection : Bool
  profileResultsDir : String
  plannerPrometheusPort : ℤ
  noOperation : Bool
  deriving DecidableEq, Repr

def defaultPrometheusEndpoint : String :=
  "http://prometheus-kube-prometheus-prometheus.monitoring.svc.cluster.local:9090"

/-- The class body of `PlannerConfig`: every field from the environment. -/
def PlannerConfig.fromEnviron (env : List EnvVar) : Except PyExc PlannerConfig := do
  let get := environGet env
  let adjustmentInterval ← pyInt (get "ADJUSTMENT_INTERVAL" "180")
  let maxGpuBudget ← pyInt (get "MAX_GPU_BUDGET" "8")
  let minReplicas ← pyInt (get "MIN_REPLICAS" "1")
  let maxPrefillReplicas ← pyInt (get "MAX_PREFILL_REPLICAS" "100")
  let maxDecodeReplicas ← pyInt (get "MAX_DECODE_REPLICAS" "100")
  let prefillEngineNumGpu ← pyInt (get "PREFILL_ENGINE_NUM_GPU" "1")
  let decodeEngineNumGpu ← pyInt (get "DECODE_ENGINE_NUM_GPU" "1")
  let ttftSla ← pyFloat (get "TTFT_SLA" "500.0")
  let itlSla ← pyFloat (get "ITL_SLA" "50.0")
  let loadPredictionWindowSize ← pyInt (get "LOAD_PREDICTION_WINDOW_SIZE" "50")
  let plannerPrometheusPort ← pyInt (get "PLANNER_PROMETHEUS_PORT" "0")
  return {
    rbgName := get "RBG_NAME" ""
    rbgNamespace := get "RBG_NAMESPACE" "default"
    prefillRoleName := get "PREFILL_ROLE_NAME" "prefill"
    decodeRoleName := get "DECODE_ROLE_NAME" "decode"
    prometheusEndpoint := get "PROMETHEUS_ENDPOINT" defaultPrometheusEndpoint
    metricSource := get "METRIC_SOURCE" "sglang"
    modelName := get "MODEL_NAME" ""
    adjustmentInterval, maxGpuBudget, minReplicas, maxPrefillReplicas, maxDecodeReplicas,
    prefillEngineNumGpu, decodeEngineNumGpu, ttftSla, itlSla
    loadPredictor := get "LOAD_PREDICTOR" "arima"
    loadPredictionWindowSize
    noCorrection := isTrueWord (get "NO_CORRECTION" "false")
    profileResultsDir := get "PROFILE_RESULTS_DIR" "/etc/rbg-planner/profiling"
    plannerPrometheusPort
    noOperation := isTrueWord (get "NO_OPERATION" "false") }

/-- The configuration of an empty environment. -/
def PlannerConfig.default : PlannerConfig where
  rbgName := ""
  rbgNamespace := "default"
  prefillRoleName := "prefill"
  decodeRoleName := "decode"
  prometheusEndpoint := defaultPrometheusEndpoint
  metricSource := "sglang"
  modelName := ""
  adjustmentInterval := 180
  maxGpuBudget := 8
  minReplicas := 1
  maxPrefillReplicas := 100
  maxDecodeReplicas := 100
  prefillEngineNumGpu := 1
  decodeEngineNumGpu := 1
  ttftSla := .fin 500
  itlSla := .fin 50
  loadPredictor := "arima"
  loadPredictionWindowSize := 50
  noCorrection := false
  profileResultsDir := "/etc/rbg-planner/profiling"
  plannerPrometheusPort := 0
  noOperation := false

/-- Every default parses. -/
theorem PlannerConfig.fromEnviron_nil : fromEnviron [] = .ok default := by
  decide +kernel

end RbgPlanner.Planner
