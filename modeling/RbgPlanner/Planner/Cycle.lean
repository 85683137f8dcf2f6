import RbgPlanner.Planner.Requirements

/-!
# The planning cycle

One adjustment interval of the planner: observe, update the correction
factors, predict, compute requirements, apply. A step that raises keeps what
it assigned before, so results are paired with the state they leave. The
arithmetic is exact, as in the requirements.
-/

namespace RbgPlanner.Planner

open Base Base.NumberText

/-- A result with the planner it leaves behind. -/
abbrev Step := Except PlannerExc Unit × PlannerState

/-- The targets of a decision. -/
def PlannerConfig.targets (config : PlannerConfig) (target : ℤ × ℤ) : List TargetReplica :=
  [{ roleName := config.prefillRoleName, desiredReplicas := target.1 },
   { roleName := config.decodeRoleName, desiredReplicas := target.2 }]

namespace PlannerState

variable (self : PlannerState)

/-! ## Observation -/

/-- `_get_num_workers`. -/
def getNumWorkers (roleName : String) : PlannerProg (Except PlannerExc ℤ) :=
  if self.config.noOperation then return .ok 1
  else Prog.request (PlannerOp.getRoleReadyReplicas roleName)

/-- The readings of one cycle. Latencies come in seconds and are kept in milliseconds. -/
def readMetrics : PlannerProg Metrics := do
  let interval := itoa self.config.adjustmentInterval ++ "s"
  let model := if self.config.modelName = "" then none else some self.config.modelName
  let ttft ← self.metricsClient.getAvgTtft interval model
  let itl ← self.metricsClient.getAvgItl interval model
  let numReq ← self.metricsClient.getRequestCount interval model
  let requestDuration ← self.metricsClient.getAvgRequestDuration interval model
  let isl ← self.metricsClient.getAvgIsl interval model
  let osl ← self.metricsClient.getAvgOsl interval model
  return {
    ttft := some (ttft * .fin 1000)
    itl := some (itl * .fin 1000)
    numReq := some numReq
    isl := some isl
    osl := some osl
    requestDuration := some requestDuration }

/-- Store the readings and feed the three predictors. -/
def recordMetrics (m : Metrics) : PlannerState :=
  { self with
    lastMetrics := m
    numReqPredictor := self.numReqPredictor.addDataPoint (m.numReq.getD .nan)
    islPredictor := self.islPredictor.addDataPoint (m.isl.getD .nan)
    oslPredictor := self.oslPredictor.addDataPoint (m.osl.getD .nan) }

/-- GPU hours of one interval with the given workers. -/
def intervalGpuHours (numP numD : ℤ) : ℚ :=
  (self.config.totalGpu numP numD * self.config.adjustmentInterval : ℤ) / 3600

/-- A rate over the interval, as exported. It raises when the interval is zero. -/
def exportRate (value : PyFloat) : Except PlannerExc Unit :=
  match value.div (.ofInt self.config.adjustmentInterval) with
  | .error e => .error (.builtin e)
  | .ok _ => .ok ()

/-- The exporting half of `observe_metrics`. -/
def exportObservation (numP numD : ℤ) (numReq : PyFloat) : Step :=
  if self.promMetrics then
    match self.exportRate numReq with
    | .error e => (.error e, self)
    | .ok () => (.ok (), { self with
        cumulativeGpuHours := self.cumulativeGpuHours + .fin (self.intervalGpuHours numP numD) })
  else (.ok (), self)

/-- `observe_metrics`. -/
def observeMetrics : PlannerProg Step := do
  match ← self.getNumWorkers self.config.prefillRoleName with
  | .error e => return (.error e, self)
  | .ok numP =>
      match ← self.getNumWorkers self.config.decodeRoleName with
      | .error e => return (.error e, self)
      | .ok numD =>
          let m ← self.readMetrics
          return (self.recordMetrics m).exportObservation numP numD (m.numReq.getD .nan)

/-! ## Correction factors -/

/-- Arithmetic on a reading that was never observed raises. -/
def reading : Option PyFloat → Except PyExc PyFloat
  | some x => .ok x
  | none => .error .typeError

theorem reading_eq_ok {x : Option PyFloat} {y : PyFloat} : reading x = .ok y ↔ x = some y := by
  cases x <;> simp [reading]

/-- The TTFT the profile promises for the observed ISL. -/
def expectedTtft : Except PyExc PyFloat := do
  let isl ← reading self.lastMetrics.isl
  return self.prefillInterpolator.interpolateTtft isl

/-- The ITL the profile promises for the observed concurrency and context length. -/
def expectedItl (numD : ℤ) : Except PyExc PyFloat := do
  let numReq ← reading self.lastMetrics.numReq
  let requestDuration ← reading self.lastMetrics.requestDuration
  let isl ← reading self.lastMetrics.isl
  let osl ← reading self.lastMetrics.osl
  let perWorker ← numReq.div (.ofInt numD)
  let concurrency ← (perWorker * requestDuration).div (.ofInt self.config.adjustmentInterval)
  let halfOsl ← osl.div (.fin 2)
  self.decodeInterpolator.interpolateItl concurrency (isl + halfOsl)

/-- Actual over expected, when something positive is expected. -/
def correctedFactor (actual : Option PyFloat) (expected factor : PyFloat) :
    Except PyExc PyFloat :=
  if (PyFloat.fin 0).lt expected then do
    let actual ← reading actual
    actual.div expected
  else .ok factor

def nextPCorrectionFactor : Except PyExc PyFloat := do
  let expectTtft ← self.expectedTtft
  correctedFactor self.lastMetrics.ttft expectTtft self.pCorrectionFactor

def nextDCorrectionFactor (numD : ℤ) : Except PyExc PyFloat := do
  let expectItl ← self.expectedItl numD
  correctedFactor self.lastMetrics.itl expectItl self.dCorrectionFactor

/-- The update with `numD` ready decode workers. The prefill factor is assigned
before the decode factor is computed. -/
def applyCorrection (numD : ℤ) : Step :=
  if numD = 0 then (.ok (), self)
  else match self.nextPCorrectionFactor with
    | .error e => (.error (.builtin e), self)
    | .ok p =>
        let self := { self with pCorrectionFactor := p }
        match self.nextDCorrectionFactor numD with
        | .error e => (.error (.builtin e), self)
        | .ok d => (.ok (), { self with dCorrectionFactor := d })

/-- `_update_correction_factors`. -/
def updateCorrectionFactors : PlannerProg Step := do
  match ← self.getNumWorkers self.config.decodeRoleName with
  | .error e => return (.error e, self)
  | .ok numD => return self.applyCorrection numD

/-! ## Adjustment -/

/-- `predict_load`. -/
def predictLoad (forecasters : Forecasters) : PyFloat × PyFloat × PyFloat :=
  (self.numReqPredictor.predictNext forecasters, self.islPredictor.predictNext forecasters,
    self.oslPredictor.predictNext forecasters)

/-- The decision for a forecast, `none` when the cycle ends without one. -/
def nextReplicas (forecast : PyFloat × PyFloat × PyFloat) : Option (ℤ × ℤ) :=
  match self.computeReplicaRequirements forecast.1 forecast.2.1 forecast.2.2 with
  | .error _ => none
  | .ok target => some target

/-- The half of `make_adjustments` after the correction factors. -/
def adjustReplicas (forecasters : Forecasters) : PlannerProg Step :=
  let forecast := self.predictLoad forecasters
  match (if self.promMetrics then self.exportRate forecast.1 else .ok ()) with
  | .error e => return (.error e, self)
  | .ok () =>
      match self.nextReplicas forecast with
      | none => return (.ok (), self)
      | some target =>
          if self.config.noOperation then return (.ok (), self)
          else do
            let result ← Prog.request (.setReplicas (self.config.targets target) false)
            return (result, self)

/-- `make_adjustments`. -/
def makeAdjustments (forecasters : Forecasters) : PlannerProg Step :=
  if !self.lastMetrics.isValid then return (.ok (), self)
  else if self.config.noCorrection then self.adjustReplicas forecasters
  else do
    let (outcome, self) ← self.updateCorrectionFactors
    match outcome with
    | .error _ => return (.ok (), self)
    | .ok () => self.adjustReplicas forecasters

/-- One adjustment interval of `run`. An exception that leaves it ends the planner. -/
def cycle (forecasters : Forecasters) : PlannerProg Step := do
  let (outcome, self) ← self.observeMetrics
  match outcome with
  | .error e => return (.error e, self)
  | .ok () => self.makeAdjustments forecasters

/-! ## Steps that return -/

/-- The second half of the adjustment leaves the planner as it is. -/
theorem adjustReplicas_state {σ : Type} (serve : (op : PlannerOp) → σ → PlannerResp op × σ)
    (forecasters : Forecasters) (s : PlannerState) (w : σ) :
    ((s.adjustReplicas forecasters).run serve w).1.2 = s := by
  unfold adjustReplicas
  dsimp only
  split
  · rfl
  · split
    · rfl
    · split_ifs <;> rfl

/-- On an observed reading the corrected factor is a number: only a positive
expectation divides. -/
theorem correctedFactor_returns {actual : Option PyFloat} {x : PyFloat} (hx : actual = some x)
    (expected factor : PyFloat) : ∃ y, correctedFactor actual expected factor = .ok y := by
  subst hx
  unfold correctedFactor
  split_ifs with hpos
  · have hne : expected ≠ .fin 0 := by
      rintro rfl
      simp at hpos
    exact ⟨x.ieeeDiv expected, by simp [reading, PyFloat.div, hne, bind, Except.bind]⟩
  · exact ⟨factor, rfl⟩

end PlannerState

end RbgPlanner.Planner
