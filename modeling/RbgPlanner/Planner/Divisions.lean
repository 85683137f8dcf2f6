import RbgPlanner.Planner.Cycle

/-!
# The divisions of a cycle

Where `observe_metrics`, `_update_correction_factors` and
`_compute_replica_requirements` divide by a number that they took from the
configuration or from the cluster, and when the division is evaluated. Their
other divisors come from the profile: the engine capacities, the KV tokens, and
the expected latencies, which are checked.
-/

namespace RbgPlanner.Planner

open Base

/-- The readings of one cycle, all of them finite. -/
structure Readings where
  ttft : ℚ
  itl : ℚ
  numReq : ℚ
  isl : ℚ
  osl : ℚ
  requestDuration : ℚ

def Readings.metrics (r : Readings) : Metrics where
  ttft := some (.fin r.ttft)
  itl := some (.fin r.itl)
  numReq := some (.fin r.numReq)
  isl := some (.fin r.isl)
  osl := some (.fin r.osl)
  requestDuration := some (.fin r.requestDuration)

namespace PlannerState

variable (self : PlannerState)

/-- The number of replicas of the two roles that the budget step is given. -/
def clamped (numP numD : ℤ) : ℤ × ℤ :=
  (clampReplicas self.config.minReplicas self.config.maxPrefillReplicas numP,
    clampReplicas self.config.minReplicas self.config.maxDecodeReplicas numD)

/-- The GPUs of the allocation that the budget step is given. -/
def clampedGpu (numP numD : ℤ) : ℤ :=
  self.config.totalGpu (self.clamped numP numD).1 (self.clamped numP numD).2

/-- The divisor of `observe_metrics`, in the exported request rate. -/
inductive ObserveDivides : PyFloat → Prop
  | requestRate (hexport : self.promMetrics = true) :
      ObserveDivides (.ofInt self.config.adjustmentInterval)

/-- The divisors of `_update_correction_factors`, both in the concurrency. -/
inductive UpdateDivides (numD : ℤ) : PyFloat → Prop
  | perWorker {p numReq} (hready : numD ≠ 0) (hprefill : self.nextPCorrectionFactor = .ok p)
      (hnumReq : self.lastMetrics.numReq = some numReq) : UpdateDivides numD (.ofInt numD)
  | concurrency {p numReq requestDuration} (hready : numD ≠ 0)
      (hprefill : self.nextPCorrectionFactor = .ok p)
      (hnumReq : self.lastMetrics.numReq = some numReq)
      (hduration : self.lastMetrics.requestDuration = some requestDuration) :
      UpdateDivides numD (.ofInt self.config.adjustmentInterval)

/-- The divisors of `_compute_replica_requirements`, in the order of the source. -/
inductive ComputeDivides (nextNumReq nextIsl nextOsl : PyFloat) : PyFloat → Prop
  | prefillRate : ComputeDivides nextNumReq nextIsl nextOsl (.ofInt self.config.adjustmentInterval)
  | correctedItl {numP} (hprefill : self.prefillDemand nextNumReq nextIsl = .ok numP)
      (hpositive : self.dCorrectionFactor.le (.fin 0) = false) :
      ComputeDivides nextNumReq nextIsl nextOsl self.dCorrectionFactor
  | decodeRate {numP thpt} (hprefill : self.prefillDemand nextNumReq nextIsl = .ok numP)
      (hthpt : self.decodeThptPerGpu nextIsl nextOsl = .ok thpt) :
      ComputeDivides nextNumReq nextIsl nextOsl (.ofInt self.config.adjustmentInterval)
  | scale {numP numD} (hprefill : self.prefillDemand nextNumReq nextIsl = .ok numP)
      (hdecode : self.decodeDemand nextNumReq nextIsl nextOsl = .ok numD)
      (hover : self.config.maxGpuBudget < self.clampedGpu numP numD) :
      ComputeDivides nextNumReq nextIsl nextOsl (.ofInt (self.clampedGpu numP numD))
  | budgetLeft {numP numD} (hprefill : self.prefillDemand nextNumReq nextIsl = .ok numP)
      (hdecode : self.decodeDemand nextNumReq nextIsl nextOsl = .ok numD)
      (hover : self.config.maxGpuBudget < self.clampedGpu numP numD) :
      ComputeDivides nextNumReq nextIsl nextOsl (.ofInt self.config.decodeEngineNumGpu)

/-! ## One cycle -/

/-- What a cycle finds outside of the planner: the ready workers when it
observes and when it corrects, its readings, and the forecasting libraries. -/
structure Surroundings where
  numP : ℤ
  numD : ℤ
  readyDecode : ℤ
  readings : Readings
  forecasters : Forecasters

/-- The planner after `observe_metrics`. -/
def observed (o : Surroundings) : Step :=
  (self.recordMetrics o.readings.metrics).exportObservation o.numP o.numD (.fin o.readings.numReq)

/-- The planner after the correction factors, when they are not disabled. -/
def corrected (readyDecode : ℤ) : Step :=
  if self.config.noCorrection then (.ok (), self) else self.applyCorrection readyDecode

/-- A divisor of one of the three functions in a cycle on valid readings. -/
inductive CycleDivides (o : Surroundings) : PyFloat → Prop
  | observe {x} (h : (self.recordMetrics o.readings.metrics).ObserveDivides x) : CycleDivides o x
  | update {s x} (hobserved : self.observed o = (.ok (), s))
      (hcorrection : s.config.noCorrection = false) (h : s.UpdateDivides o.readyDecode x) :
      CycleDivides o x
  | compute {s s' x} (hobserved : self.observed o = (.ok (), s))
      (hcorrected : s.corrected o.readyDecode = (.ok (), s'))
      (hexport : s'.promMetrics = true → s'.exportRate (s'.predictLoad o.forecasters).1 = .ok ())
      (h : s'.ComputeDivides (s'.predictLoad o.forecasters).1 (s'.predictLoad o.forecasters).2.1
        (s'.predictLoad o.forecasters).2.2 x) :
      CycleDivides o x

theorem observed_config (o : Surroundings) : (self.observed o).2.config = self.config := by
  unfold observed exportObservation
  split_ifs
  · split <;> rfl
  · rfl

theorem corrected_config (readyDecode : ℤ) :
    (self.corrected readyDecode).2.config = self.config := by
  unfold corrected applyCorrection
  split_ifs
  · rfl
  · rfl
  · split
    · rfl
    · dsimp only
      split <;> rfl

/-! ## No other division raises -/

variable {self} {numD : ℤ} {nextNumReq nextIsl nextOsl : PyFloat}

theorem observeDivides_of_raises {numP : ℤ} {numReq : PyFloat} {e : PlannerExc}
    (h : (self.exportObservation numP numD numReq).1 = .error e) :
    ∃ x, self.ObserveDivides x ∧ x = .fin 0 := by
  unfold exportObservation at h
  by_cases hexport : self.promMetrics = true
  · refine ⟨_, .requestRate hexport, ?_⟩
    rw [if_pos hexport] at h
    cases hrate : self.exportRate numReq with
    | ok _ => simp [hrate] at h
    | error _ =>
        unfold exportRate at hrate
        cases hdiv : numReq.div (.ofInt self.config.adjustmentInterval) with
        | ok _ => simp [hdiv] at hrate
        | error _ => exact PyFloat.div_eq_error hdiv
  · rw [if_neg hexport] at h
    cases h

/-- A grid index that is no number raises another exception. -/
theorem axisIndex_ne_zeroDivision (d : DecodeInterpolator) (x : PyFloat) (first second : ℚ) :
    d.axisIndex x first second ≠ .error .zeroDivisionError := by
  intro h
  rcases bind_eq_error.mp h with h | ⟨_, -, ⟨⟩⟩
  generalize ((x - .fin first).ieeeDiv (.fin (second - first))).npRound.npClip 0 _ = y at h
  cases y <;> cases h

theorem correctedFactor_ne_zeroDivision (actual : Option PyFloat) (expected factor : PyFloat) :
    correctedFactor actual expected factor ≠ .error .zeroDivisionError := by
  unfold correctedFactor
  split_ifs with hpositive
  · intro h
    rcases bind_eq_error.mp h with h | ⟨x, -, h⟩
    · cases actual <;> cases h
    · rw [PyFloat.div_eq_error h] at hpositive
      simp at hpositive
  · rintro ⟨⟩

theorem nextPCorrectionFactor_ne_zeroDivision :
    self.nextPCorrectionFactor ≠ .error .zeroDivisionError := by
  intro h
  rcases bind_eq_error.mp h with h | ⟨ttft, -, h⟩
  · rcases bind_eq_error.mp h with h | ⟨_, -, ⟨⟩⟩
    cases hisl : self.lastMetrics.isl <;> simp [hisl, reading] at h
  · exact correctedFactor_ne_zeroDivision _ _ _ h

theorem reading_ne_zeroDivision (x : Option PyFloat) : reading x ≠ .error .zeroDivisionError := by
  cases x <;> simp [reading]

theorem interpolateItl_zeroDivision {d : DecodeInterpolator} {concurrency contextLength : PyFloat}
    (h : d.interpolateItl concurrency contextLength = .error .zeroDivisionError) :
    d.maxKvTokens = 0 := by
  rcases bind_eq_error.mp h with h | ⟨_, -, ⟨⟩⟩
  rcases bind_eq_error.mp h with h | ⟨_, -, h⟩
  · exact PyFloat.ofInt_eq_zero.mp (PyFloat.div_eq_error h)
  rcases bind_eq_error.mp h with h | ⟨_, -, h⟩
  · exact (axisIndex_ne_zeroDivision _ _ _ _ h).elim
  rcases bind_eq_error.mp h with h | ⟨_, -, ⟨⟩⟩
  exact (axisIndex_ne_zeroDivision _ _ _ _ h).elim

theorem expectedItl_zeroDivision {p : PyFloat} (hready : numD ≠ 0)
    (hprefill : self.nextPCorrectionFactor = .ok p)
    (h : self.expectedItl numD = .error .zeroDivisionError) :
    (∃ x, self.UpdateDivides numD x ∧ x = .fin 0) ∨ self.decodeInterpolator.maxKvTokens = 0 := by
  rcases bind_eq_error.mp h with h | ⟨numReq, hnumReq, h⟩
  · exact (reading_ne_zeroDivision _ h).elim
  rcases bind_eq_error.mp h with h | ⟨requestDuration, hduration, h⟩
  · exact (reading_ne_zeroDivision _ h).elim
  rcases bind_eq_error.mp h with h | ⟨isl, -, h⟩
  · exact (reading_ne_zeroDivision _ h).elim
  rcases bind_eq_error.mp h with h | ⟨osl, -, h⟩
  · exact (reading_ne_zeroDivision _ h).elim
  have hnumReq := reading_eq_ok.mp hnumReq
  have hduration := reading_eq_ok.mp hduration
  rcases bind_eq_error.mp h with h | ⟨perWorker, -, h⟩
  · exact .inl ⟨_, .perWorker hready hprefill hnumReq, PyFloat.div_eq_error h⟩
  rcases bind_eq_error.mp h with h | ⟨concurrency, -, h⟩
  · exact .inl ⟨_, .concurrency hready hprefill hnumReq hduration, PyFloat.div_eq_error h⟩
  rcases bind_eq_error.mp h with h | ⟨halfOsl, -, h⟩
  · cases PyFloat.div_eq_error h
  · exact .inr (interpolateItl_zeroDivision h)

/-- The update divides by zero only where it divides by the ready workers or
the interval, or in a profile without KV tokens. -/
theorem updateDivides_of_zeroDivision
    (h : (self.applyCorrection numD).1 = .error (.builtin .zeroDivisionError)) :
    (∃ x, self.UpdateDivides numD x ∧ x = .fin 0) ∨ self.decodeInterpolator.maxKvTokens = 0 := by
  unfold applyCorrection at h
  by_cases hready : numD = 0
  · rw [if_pos hready] at h
    cases h
  rw [if_neg hready] at h
  cases hprefill : self.nextPCorrectionFactor with
  | error e =>
      rw [hprefill] at h
      obtain rfl : e = .zeroDivisionError := by simpa using h
      exact (nextPCorrectionFactor_ne_zeroDivision hprefill).elim
  | ok p =>
      simp only [hprefill] at h
      cases hdecode : nextDCorrectionFactor { self with pCorrectionFactor := p } numD with
      | ok d => simp [hdecode] at h
      | error e =>
          obtain rfl : e = .zeroDivisionError := by simpa [hdecode] using h
          rcases bind_eq_error.mp hdecode with hitl | ⟨_, -, hfactor⟩
          · exact expectedItl_zeroDivision hready hprefill hitl
          · exact (correctedFactor_ne_zeroDivision _ _ _ hfactor).elim

theorem decodeThptPerGpu_zeroDivision
    (h : self.decodeThptPerGpu nextIsl nextOsl = .error .zeroDivisionError) :
    self.dCorrectionFactor.le (.fin 0) = false ∧ self.dCorrectionFactor = .fin 0 := by
  rcases bind_eq_error.mp h with h | ⟨itl, -, h⟩
  · unfold correctedItl at h
    split_ifs at h with hpositive
    exact ⟨by simpa using hpositive, PyFloat.div_eq_error h⟩
  rcases bind_eq_error.mp h with h | ⟨halfOsl, -, h⟩
  · cases PyFloat.div_eq_error h
  rcases bind_eq_error.mp h with h | ⟨_, -, ⟨⟩⟩
  rcases bind_eq_error.mp h with h | ⟨_, -, ⟨⟩⟩
  exact (axisIndex_ne_zeroDivision _ _ _ _ h).elim

/-- `_compute_replica_requirements` divides by zero only at its divisors, or at
an engine capacity. -/
theorem computeDivides_of_zeroDivision
    (h : self.computeReplicaRequirements nextNumReq nextIsl nextOsl =
      .error .zeroDivisionError) :
    (∃ x, self.ComputeDivides nextNumReq nextIsl nextOsl x ∧ x = .fin 0) ∨
      self.prefillInterpolator.interpolateThptPerGpu nextIsl *
        .ofInt self.config.prefillEngineNumGpu = .fin 0 ∨
      ∃ thpt, self.decodeThptPerGpu nextIsl nextOsl = .ok thpt ∧
        thpt * .ofInt self.config.decodeEngineNumGpu = .fin 0 := by
  rcases bind_eq_error.mp h with h | ⟨numP, hprefill, h⟩
  · rcases bind_eq_error.mp h with h | ⟨rate, -, h⟩
    · exact .inl ⟨_, .prefillRate, PyFloat.div_eq_error h⟩
    rcases bind_eq_error.mp h with h | ⟨ratio, -, h⟩
    · exact .inr (.inl (PyFloat.div_eq_error h))
    · exact (PyFloat.ceil_ne_zeroDivision _ h).elim
  rcases bind_eq_error.mp h with h | ⟨numD, hdecode, h⟩
  · rcases bind_eq_error.mp h with h | ⟨thpt, hthpt, h⟩
    · obtain ⟨hpositive, hzero⟩ := decodeThptPerGpu_zeroDivision h
      exact .inl ⟨_, .correctedItl hprefill hpositive, hzero⟩
    rcases bind_eq_error.mp h with h | ⟨rate, -, h⟩
    · exact .inl ⟨_, .decodeRate hprefill hthpt, PyFloat.div_eq_error h⟩
    rcases bind_eq_error.mp h with h | ⟨ratio, -, h⟩
    · exact .inr (.inr ⟨thpt, hthpt, PyFloat.div_eq_error h⟩)
    · exact (PyFloat.ceil_ne_zeroDivision _ h).elim
  · unfold PlannerConfig.enforceGpuBudget at h
    dsimp only at h
    split_ifs at h with hover
    · have hover : self.config.maxGpuBudget < self.clampedGpu numP numD := hover
      rcases bind_eq_error.mp h with h | ⟨scale, -, h⟩
      · exact .inl ⟨_, .scale hprefill hdecode hover,
          PyFloat.ofInt_eq_zero.mpr (PyFloat.intDiv_eq_error h)⟩
      rcases bind_eq_error.mp h with h | ⟨_, -, ⟨⟩⟩
      exact .inl ⟨_, .budgetLeft hprefill hdecode hover,
        PyFloat.ofInt_eq_zero.mpr (PyFloat.intDiv_eq_error h)⟩
    · cases h

end PlannerState

end RbgPlanner.Planner
