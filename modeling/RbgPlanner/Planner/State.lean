import RbgPlanner.Planner.Config
import RbgPlanner.Planner.LoadPredictor
import RbgPlanner.Planner.PerfInterpolation
import RbgPlanner.Planner.Prometheus

/-!
# Planner state

The attributes of a running `Planner`: its configuration, what it is built
from, and what it remembers from one cycle to the next.
-/

namespace RbgPlanner.Planner

open Base

/-- `Metrics`, the last readings. A field is `none` until it is first observed. -/
structure Metrics where
  ttft : Option PyFloat := none
  itl : Option PyFloat := none
  numReq : Option PyFloat := none
  isl : Option PyFloat := none
  osl : Option PyFloat := none
  requestDuration : Option PyFloat := none
  deriving DecidableEq, Repr

/-- Neither `None` nor NaN. -/
def isNumber : Option PyFloat → Bool
  | some x => !x.isNan
  | none => false

/-- `Metrics.is_valid`: the four checked readings are numbers. -/
def Metrics.isValid (m : Metrics) : Bool :=
  isNumber m.ttft && isNumber m.itl && isNumber m.isl && isNumber m.osl

/-- The readings that are checked are there once they are valid. -/
theorem readings_of_valid {m : Metrics} (h : m.isValid = true) :
    (∃ x, m.ttft = some x) ∧ (∃ x, m.itl = some x) ∧ (∃ x, m.isl = some x) ∧
      ∃ x, m.osl = some x := by
  have some_of_isNumber : ∀ {o : Option PyFloat}, isNumber o = true → ∃ x, o = some x := by
    intro o ho
    cases o with
    | none => cases ho
    | some x => exact ⟨x, rfl⟩
  simp only [Metrics.isValid, Bool.and_eq_true] at h
  obtain ⟨⟨⟨httft, hitl⟩, hisl⟩, hosl⟩ := h
  exact ⟨some_of_isNumber httft, some_of_isNumber hitl, some_of_isNumber hisl,
    some_of_isNumber hosl⟩

/-- `Planner`. The flag tells whether the planner's own metrics server started. -/
structure PlannerState where
  config : PlannerConfig
  metricsClient : PrometheusAdapter
  numReqPredictor : LoadPredictor
  islPredictor : LoadPredictor
  oslPredictor : LoadPredictor
  prefillInterpolator : PrefillInterpolator
  decodeInterpolator : DecodeInterpolator
  lastMetrics : Metrics := {}
  pCorrectionFactor : PyFloat := .fin 1
  dCorrectionFactor : PyFloat := .fin 1
  cumulativeGpuHours : PyFloat := .fin 0
  promMetrics : Bool := false

/-- `Planner.__init__` on a loaded profile; `serverStarts` tells whether
`start_http_server` succeeds. -/
def PlannerState.init (scipy : SciPy) (config : PlannerConfig) (prefillData : PrefillRawData)
    (decodeData : DecodeRawData) (serverStarts : Bool) : Except PyExc PlannerState := do
  let metricsClient ← createMetricsAdapter config.metricSource
  let predictor ← LoadPredictor.create config.loadPredictor config.loadPredictionWindowSize
  let prefillInterpolator ← PrefillInterpolator.init scipy prefillData
  let decodeInterpolator ← DecodeInterpolator.init scipy 100 (by decide) decodeData
  return {
    config, metricsClient
    numReqPredictor := predictor
    islPredictor := predictor
    oslPredictor := predictor
    prefillInterpolator, decodeInterpolator
    promMetrics := decide (0 < config.plannerPrometheusPort) && serverStarts }

/-! ## Flat profiles -/

/-- The interpolator of a profile that does not depend on the ISL. -/
def PrefillInterpolator.flat (ttft thptPerGpu : ℚ) : PrefillInterpolator where
  minIsl := 1
  maxIsl := 8192
  ttftInterpolator := fun _ => .fin ttft
  thptInterpolator := fun _ => .fin thptPerGpu

/-- The interpolator of a profile that is the same at every node. -/
def DecodeInterpolator.flat (itl thptPerGpu : ℚ) : DecodeInterpolator where
  resolution := 2
  two_le_resolution := le_rfl
  maxContextLength := 8192
  maxKvTokens := 100000
  itlInterpolator := fun _ _ => .fin itl
  thptInterpolator := fun _ _ => .fin thptPerGpu

/-- A planner on a flat profile, as it starts. -/
def PlannerState.flat (config : PlannerConfig) (predictor : LoadPredictor)
    (ttft prefillThpt itl decodeThpt : ℚ) : PlannerState where
  config := config
  metricsClient := sglangAdapter
  numReqPredictor := predictor
  islPredictor := predictor
  oslPredictor := predictor
  prefillInterpolator := .flat ttft prefillThpt
  decodeInterpolator := .flat itl decodeThpt

end RbgPlanner.Planner
