import RbgPlanner.Planner.Cycle
import RbgPlanner.Planner.RoundedRequirements

/-!
# The planning cycle in floating point

The cycle with each reading, correction factor and exported value in a
floating-point format. Sums of samples may leave its range, and an integer that
no float holds raises. In exact arithmetic it is the cycle of the other module.
-/

namespace RbgPlanner.Planner.Rounded

open Base Base.NumberText PlannerState

variable (F : FloatFormat)

/-! ## Readings -/

/-- `_exec_avg` on a response. The length of a list is in the range of floats. -/
def avgReading : Except PyExc (List PyFloat) → PyFloat
  | .error _ => .fin 0
  | .ok result =>
      let values := result.filter fun v => !v.isNan
      if values.isEmpty then .fin 0
      else F.ieeeDiv (F.sum values) (F.round values.length)

/-- `_query_increase` on a response. -/
def increaseReading : Except PyExc (List PyFloat) → PyFloat
  | .error _ => .fin 0
  | .ok result => F.sum (result.filter fun v => !v.isNan)

def execAvg (query : String) : PlannerProg PyFloat := do
  let response ← Prog.request (.customQuery query)
  return avgReading F response

def queryIncrease (query : String) : PlannerProg PyFloat := do
  let response ← Prog.request (.customQuery query)
  return increaseReading F response

/-! ## Observation -/

section Observation

variable (self : PlannerState)

/-- The readings of one cycle. -/
def readMetrics : PlannerProg Metrics := do
  let interval := itoa self.config.adjustmentInterval ++ "s"
  let model := if self.config.modelName = "" then none else some self.config.modelName
  let adapter := self.metricsClient
  let ttft ← execAvg F (adapter.avgMetricQuery adapter.metrics.ttft interval model)
  let itl ← execAvg F (adapter.avgMetricQuery adapter.metrics.itl interval model)
  let numReq ← queryIncrease F (adapter.increaseQuery adapter.metrics.requestsTotal interval model)
  let requestDuration ←
    execAvg F (adapter.avgMetricQuery adapter.metrics.requestDuration interval model)
  let isl ← execAvg F (adapter.tokensQuery interval model adapter.metrics.promptTokens)
  let osl ← execAvg F (adapter.tokensQuery interval model adapter.metrics.generationTokens)
  return {
    ttft := some (F.mul ttft (.fin 1000))
    itl := some (F.mul itl (.fin 1000))
    numReq := some numReq
    isl := some isl
    osl := some osl
    requestDuration := some requestDuration }

/-- A rate over the interval. -/
def rate (value : PyFloat) : Except PyExc PyFloat := do
  let interval ← F.ofInt self.config.adjustmentInterval
  F.div value interval

/-- The gauges of an observation, and the GPU hours of its interval. -/
def observationGauges (numP numD : ℤ) (numReq : PyFloat) : Except PyExc PyFloat := do
  let _ ← F.ofInt numP
  let _ ← F.ofInt numD
  let _ ← rate F self numReq
  F.intDiv (self.config.totalGpu numP numD * self.config.adjustmentInterval) 3600

/-- The exporting half of `observe_metrics`. -/
def exportObservation (numP numD : ℤ) (numReq : PyFloat) : Step :=
  if self.promMetrics then
    match observationGauges F self numP numD numReq with
    | .error e => (.error (.builtin e), self)
    | .ok hours =>
        (.ok (), { self with cumulativeGpuHours := F.add self.cumulativeGpuHours hours })
  else (.ok (), self)

/-- `observe_metrics`. -/
def observeMetrics : PlannerProg Step := do
  match ← self.getNumWorkers self.config.prefillRoleName with
  | .error e => return (.error e, self)
  | .ok numP =>
      match ← self.getNumWorkers self.config.decodeRoleName with
      | .error e => return (.error e, self)
      | .ok numD =>
          let m ← readMetrics F self
          return exportObservation F (self.recordMetrics m) numP numD (m.numReq.getD .nan)

end Observation

/-! ## Correction factors -/

section Correction

variable (self : PlannerState)

/-- The ITL the profile promises for the observed concurrency and context length. -/
def expectedItl (numD : ℤ) : Except PyExc PyFloat := do
  let numReq ← reading self.lastMetrics.numReq
  let requestDuration ← reading self.lastMetrics.requestDuration
  let isl ← reading self.lastMetrics.isl
  let osl ← reading self.lastMetrics.osl
  let workers ← F.ofInt numD
  let perWorker ← F.div numReq workers
  let interval ← F.ofInt self.config.adjustmentInterval
  let concurrency ← F.div (F.mul perWorker requestDuration) interval
  let halfOsl ← F.div osl (.fin 2)
  interpolateItl F self.decodeInterpolator concurrency (F.add isl halfOsl)

/-- Actual over expected, when something positive is expected. -/
def correctedFactor (actual : Option PyFloat) (expected factor : PyFloat) :
    Except PyExc PyFloat :=
  if (PyFloat.fin 0).lt expected then do
    let actual ← reading actual
    F.div actual expected
  else .ok factor

def nextPCorrectionFactor : Except PyExc PyFloat := do
  let expectTtft ← self.expectedTtft
  correctedFactor F self.lastMetrics.ttft expectTtft self.pCorrectionFactor

def nextDCorrectionFactor (numD : ℤ) : Except PyExc PyFloat := do
  let expectItl ← expectedItl F self numD
  correctedFactor F self.lastMetrics.itl expectItl self.dCorrectionFactor

/-- The update with `numD` ready decode workers. -/
def applyCorrection (numD : ℤ) : Step :=
  if numD = 0 then (.ok (), self)
  else match nextPCorrectionFactor F self with
    | .error e => (.error (.builtin e), self)
    | .ok p =>
        let self := { self with pCorrectionFactor := p }
        match nextDCorrectionFactor F self numD with
        | .error e => (.error (.builtin e), self)
        | .ok d => (.ok (), { self with dCorrectionFactor := d })

/-- `_update_correction_factors`. -/
def updateCorrectionFactors : PlannerProg Step := do
  match ← self.getNumWorkers self.config.decodeRoleName with
  | .error e => return (.error e, self)
  | .ok numD => return applyCorrection F self numD

end Correction

/-! ## Adjustment -/

section Adjustment

variable (forecasters : Forecasters) (self : PlannerState)

/-- Set the replicas of a decision, and the gauges that show it. -/
def applyDecision (target : ℤ × ℤ) : PlannerProg Step :=
  let gauges := do
    let _ ← F.ofInt target.1
    F.ofInt target.2
  match (if self.promMetrics then gauges else .ok (.fin 0)) with
  | .error e => return (.error (.builtin e), self)
  | .ok _ =>
      if self.config.noOperation then return (.ok (), self)
      else do
        let result ← Prog.request (.setReplicas (self.config.targets target) false)
        return (result, self)

/-- The half of `make_adjustments` after the correction factors. -/
def adjustReplicas : PlannerProg Step :=
  let forecast := self.predictLoad forecasters
  match (if self.promMetrics then rate F self forecast.1 else .ok (.fin 0)) with
  | .error e => return (.error (.builtin e), self)
  | .ok _ =>
      match computeReplicaRequirements F self forecast.1 forecast.2.1 forecast.2.2 with
      | .error _ => return (.ok (), self)
      | .ok target => applyDecision F self target

/-- `make_adjustments`. -/
def makeAdjustments : PlannerProg Step :=
  if !self.lastMetrics.isValid then return (.ok (), self)
  else if self.config.noCorrection then adjustReplicas F forecasters self
  else do
    let (outcome, self) ← updateCorrectionFactors F self
    match outcome with
    | .error _ => return (.ok (), self)
    | .ok () => adjustReplicas F forecasters self

/-- One adjustment interval of `run`. -/
def cycle : PlannerProg Step := do
  let (outcome, self) ← observeMetrics F self
  match outcome with
  | .error e => return (.error e, self)
  | .ok () => makeAdjustments F forecasters self

end Adjustment

/-! ## Exact arithmetic -/

section Exact

variable (forecasters : Forecasters) (self : PlannerState)

theorem avgReading_exact : avgReading .exact = Planner.avgReading := by
  funext response
  cases response with
  | error e => rfl
  | ok result => simp only [avgReading, Planner.avgReading, FloatFormat.exact_sum,
      FloatFormat.exact_ieeeDiv]; rfl

theorem increaseReading_exact : increaseReading .exact = Planner.increaseReading := by
  funext response
  cases response with
  | error e => rfl
  | ok result => simp only [increaseReading, Planner.increaseReading, FloatFormat.exact_sum]

theorem readMetrics_exact : readMetrics .exact self = self.readMetrics := by
  simp only [PlannerState.readMetrics, PrometheusAdapter.getAvgIsl_eq,
    PrometheusAdapter.getAvgOsl_eq, readMetrics, execAvg, queryIncrease, avgReading_exact,
    increaseReading_exact, FloatFormat.exact_mul]
  rfl

theorem exportObservation_exact (numP numD : ℤ) (numReq : PyFloat) :
    exportObservation .exact self numP numD numReq =
      self.exportObservation numP numD numReq := by
  simp only [exportObservation, PlannerState.exportObservation, observationGauges, rate,
    PlannerState.exportRate, FloatFormat.exact_ofInt, FloatFormat.exact_div,
    FloatFormat.exact_intDiv, FloatFormat.exact_add, bind, Except.bind]
  split_ifs with hserver
  · cases numReq.div (.ofInt self.config.adjustmentInterval) with
    | error e => rfl
    | ok rate => rfl
  · rfl

theorem observeMetrics_exact : observeMetrics .exact self = self.observeMetrics := by
  simp only [observeMetrics, readMetrics_exact, exportObservation_exact]
  rfl

theorem expectedItl_exact (numD : ℤ) : expectedItl .exact self numD = self.expectedItl numD := by
  simp only [expectedItl, interpolateItl_exact, FloatFormat.exact_ofInt, FloatFormat.exact_div,
    FloatFormat.exact_mul, FloatFormat.exact_add]
  rfl

theorem correctedFactor_exact (actual : Option PyFloat) (expected factor : PyFloat) :
    correctedFactor .exact actual expected factor =
      PlannerState.correctedFactor actual expected factor := by
  simp only [correctedFactor, PlannerState.correctedFactor, FloatFormat.exact_div]

theorem updateCorrectionFactors_exact :
    updateCorrectionFactors .exact self = self.updateCorrectionFactors := by
  simp only [updateCorrectionFactors, applyCorrection, nextPCorrectionFactor,
    nextDCorrectionFactor, expectedItl_exact, correctedFactor_exact]
  rfl

theorem adjustReplicas_exact :
    adjustReplicas .exact forecasters self = self.adjustReplicas forecasters := by
  have hgauges : ∀ target : ℤ × ℤ, applyDecision .exact self target =
      if self.config.noOperation then return (.ok (), self)
      else do
        let result ← Prog.request (.setReplicas (self.config.targets target) false)
        return (result, self) := by
    intro target
    unfold applyDecision
    cases self.promMetrics <;> rfl
  simp only [adjustReplicas, PlannerState.adjustReplicas, hgauges, rate, PlannerState.exportRate,
    nextReplicas, computeReplicaRequirements_exact, FloatFormat.exact_ofInt, FloatFormat.exact_div]
  cases self.promMetrics with
  | false =>
      cases self.computeReplicaRequirements _ _ _ with
      | error e => rfl
      | ok target => rfl
  | true =>
      simp only [if_true, bind, Except.bind]
      cases PyFloat.div _ (.ofInt self.config.adjustmentInterval) with
      | error e => rfl
      | ok rate =>
          cases self.computeReplicaRequirements _ _ _ with
          | error e => rfl
          | ok target => rfl

/-- In exact arithmetic the cycle is the one of the other modules. -/
theorem cycle_exact : cycle .exact forecasters self = self.cycle forecasters := by
  simp only [cycle, observeMetrics_exact, makeAdjustments, updateCorrectionFactors_exact,
    adjustReplicas_exact]
  rfl

end Exact

end RbgPlanner.Planner.Rounded
