import RbgPlanner.Base.Argparse
import RbgPlanner.Planner.Config

/-!
# The planner's command line

`main` reads the configuration from the environment, overrides what the options
name, and asks for the name of a group unless it only observes.
-/

namespace RbgPlanner.Planner

open Base Base.NumberText Base.Argparse

/-- The namespace that `parse_args` fills. What is not given stays `None`. -/
structure Arguments where
  rbgName : Option String := none
  rbgNamespace : Option String := none
  prefillRoleName : Option String := none
  decodeRoleName : Option String := none
  prometheusEndpoint : Option String := none
  metricSource : Option String := none
  modelName : Option String := none
  adjustmentInterval : Option ℤ := none
  maxGpuBudget : Option ℤ := none
  minReplicas : Option ℤ := none
  prefillEngineNumGpu : Option ℤ := none
  decodeEngineNumGpu : Option ℤ := none
  ttftSla : Option PyFloat := none
  itlSla : Option PyFloat := none
  loadPredictor : Option String := none
  loadPredictionWindowSize : Option ℤ := none
  noCorrection : Option Bool := none
  profileResultsDir : Option String := none
  plannerPrometheusPort : Option ℤ := none
  noOperation : Option Bool := none
  logLevel : String := "INFO"
  deriving DecidableEq, Repr

namespace Arguments

/-! ## Options -/

/-- An option whose value `type` converts. -/
def store {α : Type} (type : String → Except PyExc α) (set : α → Arguments → Arguments) :
    Action Arguments :=
  .store fun value ns => (type value).toOption.map fun a => set a ns

/-- An option whose value is kept as it is. -/
def storeText (set : String → Arguments → Arguments) : Action Arguments := store .ok set

/-- An option of type `int`. -/
def storeInt (set : ℤ → Arguments → Arguments) : Action Arguments := store pyInt set

/-- An option of type `float`. -/
def storeFloat (set : PyFloat → Arguments → Arguments) : Action Arguments := store pyFloat set

/-- An option with `choices`. -/
def storeChoice (choices : List String) (set : String → Arguments → Arguments) :
    Action Arguments :=
  .store fun value ns => if value ∈ choices then some (set value ns) else none

def metricSources : List String := ["sglang", "vllm", "patio"]

def loadPredictors : List String := ["constant", "arima", "prophet"]

def logLevels : List String := ["DEBUG", "INFO", "WARNING", "ERROR"]

/-- The options of `parse_args`, and `argparse`'s own. -/
def parser : List (Opt Arguments) :=
  [⟨"-h", .help⟩, ⟨"--help", .help⟩,
   ⟨"--rbg-name", storeText fun v ns => { ns with rbgName := v }⟩,
   ⟨"--rbg-namespace", storeText fun v ns => { ns with rbgNamespace := v }⟩,
   ⟨"--prefill-role-name", storeText fun v ns => { ns with prefillRoleName := v }⟩,
   ⟨"--decode-role-name", storeText fun v ns => { ns with decodeRoleName := v }⟩,
   ⟨"--prometheus-endpoint", storeText fun v ns => { ns with prometheusEndpoint := v }⟩,
   ⟨"--metric-source", storeChoice metricSources fun v ns => { ns with metricSource := v }⟩,
   ⟨"--model-name", storeText fun v ns => { ns with modelName := v }⟩,
   ⟨"--adjustment-interval", storeInt fun n ns => { ns with adjustmentInterval := n }⟩,
   ⟨"--max-gpu-budget", storeInt fun n ns => { ns with maxGpuBudget := n }⟩,
   ⟨"--min-replicas", storeInt fun n ns => { ns with minReplicas := n }⟩,
   ⟨"--prefill-engine-num-gpu", storeInt fun n ns => { ns with prefillEngineNumGpu := n }⟩,
   ⟨"--decode-engine-num-gpu", storeInt fun n ns => { ns with decodeEngineNumGpu := n }⟩,
   ⟨"--ttft-sla", storeFloat fun x ns => { ns with ttftSla := x }⟩,
   ⟨"--itl-sla", storeFloat fun x ns => { ns with itlSla := x }⟩,
   ⟨"--load-predictor", storeChoice loadPredictors fun v ns => { ns with loadPredictor := v }⟩,
   ⟨"--load-prediction-window-size",
     storeInt fun n ns => { ns with loadPredictionWindowSize := n }⟩,
   ⟨"--no-correction", .flag fun ns => { ns with noCorrection := true }⟩,
   ⟨"--profile-results-dir", storeText fun v ns => { ns with profileResultsDir := v }⟩,
   ⟨"--planner-prometheus-port", storeInt fun n ns => { ns with plannerPrometheusPort := n }⟩,
   ⟨"--no-operation", .flag fun ns => { ns with noOperation := true }⟩,
   ⟨"--log-level", storeChoice logLevels fun v ns => { ns with logLevel := v }⟩]

/-- `build_config`: what is given overrides the environment. -/
def buildConfig (args : Arguments) (config : PlannerConfig) : PlannerConfig :=
  { config with
    rbgName := args.rbgName.getD config.rbgName
    rbgNamespace := args.rbgNamespace.getD config.rbgNamespace
    prefillRoleName := args.prefillRoleName.getD config.prefillRoleName
    decodeRoleName := args.decodeRoleName.getD config.decodeRoleName
    prometheusEndpoint := args.prometheusEndpoint.getD config.prometheusEndpoint
    metricSource := args.metricSource.getD config.metricSource
    modelName := args.modelName.getD config.modelName
    adjustmentInterval := args.adjustmentInterval.getD config.adjustmentInterval
    maxGpuBudget := args.maxGpuBudget.getD config.maxGpuBudget
    minReplicas := args.minReplicas.getD config.minReplicas
    prefillEngineNumGpu := args.prefillEngineNumGpu.getD config.prefillEngineNumGpu
    decodeEngineNumGpu := args.decodeEngineNumGpu.getD config.decodeEngineNumGpu
    ttftSla := args.ttftSla.getD config.ttftSla
    itlSla := args.itlSla.getD config.itlSla
    loadPredictor := args.loadPredictor.getD config.loadPredictor
    loadPredictionWindowSize :=
      args.loadPredictionWindowSize.getD config.loadPredictionWindowSize
    noCorrection := args.noCorrection.getD config.noCorrection
    profileResultsDir := args.profileResultsDir.getD config.profileResultsDir
    plannerPrometheusPort := args.plannerPrometheusPort.getD config.plannerPrometheusPort
    noOperation := args.noOperation.getD config.noOperation }

end Arguments

/-- How `main` ends before there is a planner. -/
inductive PlannerExit
  | builtin (e : PyExc)
  | arguments (e : ParseExit)
  | nameRequired
  | kubeConfig
  deriving DecidableEq, Repr

/-- `main` up to its planner. The environment is read when `PlannerConfig` is imported. -/
def mainConfig (env : List EnvVar) (args : List String) : Except PlannerExit PlannerConfig :=
  match PlannerConfig.fromEnviron env with
  | .error e => .error (.builtin e)
  | .ok base =>
      match parseArgs Arguments.parser {} args with
      | .error e => .error (.arguments e)
      | .ok ns =>
          let config := ns.buildConfig base
          if config.rbgName = "" ∧ config.noOperation = false then .error .nameRequired
          else .ok config

end RbgPlanner.Planner
