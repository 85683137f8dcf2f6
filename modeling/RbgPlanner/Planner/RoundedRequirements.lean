import RbgPlanner.Base.FloatFormat
import RbgPlanner.Planner.Budget

/-!
# Replica requirements in floating point

`_compute_replica_requirements` operation by operation in a floating-point
format, with the integers that a float cannot hold. In exact arithmetic it is
the computation of the other modules.
-/

namespace RbgPlanner.Planner.Rounded

open Base Base.Rounding

variable (F : FloatFormat)

/-! ## The decode grid -/

section Grid

variable (d : DecodeInterpolator)

/-- The second node of `np.linspace(0, stop, resolution)`, whose step may vanish. -/
def secondNode (stop : ℚ) : PyFloat :=
  let div : ℚ := d.resolution - 1
  if F.round (stop / div) = .fin 0 then F.mul (F.round (1 / div)) (.fin stop)
  else F.round (stop / div)

/-- Index of the node nearest to `value` on an axis from zero. -/
def axisIndex (value second : PyFloat) : Except PyExc ℕ := do
  let steps := F.ieeeDiv (F.sub value (.fin 0)) (F.sub second (.fin 0))
  let index ← (steps.npRound.npClip 0 (d.resolution - 1)).toInt
  return index.toNat

def columnIndex (kvUsage : PyFloat) : Except PyExc ℕ := axisIndex F d kvUsage (secondNode F d 1)

def rowIndex (contextLength : PyFloat) : Except PyExc ℕ :=
  axisIndex F d contextLength (secondNode F d d.maxContextLength)

def computeIdx (concurrency contextLength : PyFloat) : Except PyExc (ℕ × ℕ) := do
  let maxKvTokens ← F.ofInt d.maxKvTokens
  let kvUsage ← F.div (F.mul concurrency contextLength) maxKvTokens
  let ix ← columnIndex F d kvUsage
  let iy ← rowIndex F d contextLength
  return (ix, iy)

def interpolateItl (concurrency contextLength : PyFloat) : Except PyExc PyFloat := do
  let (ix, iy) ← computeIdx F d concurrency contextLength
  return d.itlInterpolator iy ix

def findBestThroughputPerGpu (itl contextLength : PyFloat) :
    Except PyExc (PyFloat × PyFloat × ℚ) := do
  let iy ← rowIndex F d contextLength
  let iy := max 0 (min iy (d.resolution - 1))
  return d.scanRow itl iy d.resolution

end Grid

/-! ## The budget step -/

section Budget

variable (config : PlannerConfig)

/-- Prefill engines in proportion to the budget. -/
def proportionalPart (numP numD : ℤ) : Except PyExc PyFloat := do
  let scale ← F.intDiv config.maxGpuBudget (config.totalGpu numP numD)
  let numP ← F.ofInt numP
  return F.mul numP scale

/-- Decode engines that fit beside a number of prefill engines. -/
def decodeRoom (share : ℤ) : Except PyExc PyFloat :=
  F.intDiv (config.maxGpuBudget - share * config.prefillEngineNumGpu) config.decodeEngineNumGpu

/-- The GPU budget step. -/
def enforceGpuBudget (numP numD : ℤ) : Except PyExc (ℤ × ℤ) :=
  if config.maxGpuBudget < config.totalGpu numP numD then do
    let part ← proportionalPart F config numP numD
    let nextNumP ← part.round
    let nextNumP := max config.minReplicas nextNumP
    let room ← decodeRoom F config nextNumP
    let nextNumD ← room.round
    return (nextNumP, max config.minReplicas nextNumD)
  else return (numP, numD)

end Budget

/-! ## The two roles -/

section Roles

variable (self : PlannerState)

/-- Predicted prompt tokens per second, in prefill engines. -/
def prefillRatio (nextNumReq nextIsl : PyFloat) : Except PyExc PyFloat := do
  let interval ← F.ofInt self.config.adjustmentInterval
  let rate ← F.div (F.mul nextNumReq nextIsl) interval
  let predPrefillThroughput := F.mul rate self.pCorrectionFactor
  let numGpu ← F.ofInt self.config.prefillEngineNumGpu
  let prefillEngineCap := F.mul (self.prefillInterpolator.interpolateThptPerGpu nextIsl) numGpu
  F.div predPrefillThroughput prefillEngineCap

/-- The corrected ITL target. -/
def correctedItl : Except PyExc PyFloat :=
  if self.dCorrectionFactor.le (.fin 0) then .ok self.config.itlSla
  else F.div self.config.itlSla self.dCorrectionFactor

/-- Decode throughput per GPU that achieves it. -/
def decodeThptPerGpu (nextIsl nextOsl : PyFloat) : Except PyExc PyFloat := do
  let itl ← correctedItl F self
  let halfOsl ← F.div nextOsl (.fin 2)
  let (thpt, _, _) ← findBestThroughputPerGpu F self.decodeInterpolator itl (F.add nextIsl halfOsl)
  return thpt

/-- Predicted generated tokens per second, in decode engines. -/
def decodeRatio (nextNumReq nextIsl nextOsl : PyFloat) : Except PyExc PyFloat := do
  let predDecodeThptPerGpu ← decodeThptPerGpu F self nextIsl nextOsl
  let interval ← F.ofInt self.config.adjustmentInterval
  let predDecodeThroughput ← F.div (F.mul nextNumReq nextOsl) interval
  let numGpu ← F.ofInt self.config.decodeEngineNumGpu
  let decodeEngineCap := F.mul predDecodeThptPerGpu numGpu
  F.div predDecodeThroughput decodeEngineCap

/-- `_compute_replica_requirements`. -/
def computeReplicaRequirements (nextNumReq nextIsl nextOsl : PyFloat) :
    Except PyExc (ℤ × ℤ) := do
  let prefill ← prefillRatio F self nextNumReq nextIsl
  let nextNumP ← prefill.ceil
  let decode ← decodeRatio F self nextNumReq nextIsl nextOsl
  let nextNumD ← decode.ceil
  enforceGpuBudget F self.config
    (clampReplicas self.config.minReplicas self.config.maxPrefillReplicas nextNumP)
    (clampReplicas self.config.minReplicas self.config.maxDecodeReplicas nextNumD)

end Roles

/-! ## What a quotient takes -/

section Quotient

variable {F} {self : PlannerState} {nextNumReq nextIsl nextOsl : PyFloat} {q : ℚ}

/-- A finite quotient by a capacity has engines with GPUs and some throughput. -/
theorem capacity_of_div {x thpt numGpu : PyFloat} {gpus : ℤ} (hnumGpu : F.ofInt gpus = .ok numGpu)
    (h : F.div x (F.mul thpt numGpu) = .ok (.fin q)) :
    gpus ≠ 0 ∧ (F.round gpus).isFinite = true ∧ thpt ≠ .fin 0 ∧ thpt ≠ .nan := by
  have hrange := (FloatFormat.ofInt_eq_ok_iff.mp hnumGpu).1
  obtain ⟨hne, hquotient⟩ := FloatFormat.div_eq_ok.mp h
  obtain ⟨⟨g, rfl⟩, hround⟩ := FloatFormat.ofInt_eq_ok.mp hnumGpu
  have hnumber : F.mul thpt (.fin g) ≠ .nan := by
    intro hnan
    have hundefined : F.ieeeDiv x .nan = .nan := by
      rw [FloatFormat.ieeeDiv_eq_nan_iff]
      cases x.size <;> rfl
    rw [hnan, hundefined] at hquotient
    cases hquotient
  refine ⟨?_, hrange, ?_, ?_⟩
  · rintro rfl
    rw [Int.cast_zero, FloatFormat.round_zero, PyFloat.fin.injEq] at hround
    subst hround
    cases thpt with
    | fin a =>
        apply hne
        rw [FloatFormat.mul, PyFloat.fin_mul, mul_zero]
        exact FloatFormat.round_zero
    | _ => exact hnumber rfl
  · rintro rfl
    apply hne
    rw [FloatFormat.mul, PyFloat.fin_mul, zero_mul]
    exact FloatFormat.round_zero
  · rintro rfl
    exact hnumber rfl

/-- A finite quotient of tokens and an interval has an interval and a number of
tokens, so of requests and of their length. -/
theorem tokens_of_div {length interval rate : PyFloat} {seconds : ℤ}
    (hseconds : F.ofInt seconds = .ok interval)
    (h : F.div (F.mul nextNumReq length) interval = .ok rate) (hrate : rate.isFinite = true) :
    seconds ≠ 0 ∧ (F.round seconds).isFinite = true ∧ nextNumReq.isFinite = true ∧
      length.isFinite = true ∧ (F.mul nextNumReq length).isFinite = true := by
  have hrange := (FloatFormat.ofInt_eq_ok_iff.mp hseconds).1
  obtain ⟨r, rfl⟩ := PyFloat.isFinite_iff.mp hrate
  obtain ⟨hne, hquotient⟩ := FloatFormat.div_eq_ok.mp h
  obtain ⟨tokens, htokens⟩ := FloatFormat.ieeeDiv_eq_fin hquotient
  obtain ⟨a, b, rfl, rfl⟩ := FloatFormat.mul_eq_fin htokens
  refine ⟨?_, hrange, rfl, rfl, PyFloat.isFinite_iff.mpr ⟨tokens, htokens⟩⟩
  rintro rfl
  exact hne (Except.ok.inj (hseconds.symm.trans FloatFormat.ofInt_zero))

theorem of_prefillRatio (h : prefillRatio F self nextNumReq nextIsl = .ok (.fin q)) :
    (self.config.adjustmentInterval ≠ 0 ∧ (F.round self.config.adjustmentInterval).isFinite = true ∧
        nextNumReq.isFinite = true ∧ nextIsl.isFinite = true ∧
        (F.mul nextNumReq nextIsl).isFinite = true) ∧
      self.pCorrectionFactor.isFinite = true ∧ self.config.prefillEngineNumGpu ≠ 0 ∧
      (F.round self.config.prefillEngineNumGpu).isFinite = true ∧
      self.prefillInterpolator.interpolateThptPerGpu nextIsl ≠ .fin 0 ∧
      self.prefillInterpolator.interpolateThptPerGpu nextIsl ≠ .nan := by
  obtain ⟨interval, hseconds, h⟩ := bind_eq_ok.mp h
  obtain ⟨rate, hrate, h⟩ := bind_eq_ok.mp h
  obtain ⟨numGpu, hnumGpu, h⟩ := bind_eq_ok.mp h
  obtain ⟨demand, hdemand⟩ := FloatFormat.ieeeDiv_eq_fin (FloatFormat.div_eq_ok.mp h).2
  obtain ⟨r, p, rfl, hp⟩ := FloatFormat.mul_eq_fin hdemand
  exact ⟨tokens_of_div hseconds hrate rfl, PyFloat.isFinite_iff.mpr ⟨p, hp⟩,
    capacity_of_div hnumGpu h⟩

theorem of_decodeRatio (h : decodeRatio F self nextNumReq nextIsl nextOsl = .ok (.fin q)) :
    (nextOsl.isFinite = true ∧ (F.mul nextNumReq nextOsl).isFinite = true) ∧
      ∃ thpt, decodeThptPerGpu F self nextIsl nextOsl = .ok thpt ∧
      self.config.decodeEngineNumGpu ≠ 0 ∧
      (F.round self.config.decodeEngineNumGpu).isFinite = true ∧ thpt ≠ .fin 0 ∧ thpt ≠ .nan := by
  obtain ⟨thpt, hthpt, h⟩ := bind_eq_ok.mp h
  obtain ⟨interval, hseconds, h⟩ := bind_eq_ok.mp h
  obtain ⟨rate, hrate, h⟩ := bind_eq_ok.mp h
  obtain ⟨numGpu, hnumGpu, h⟩ := bind_eq_ok.mp h
  obtain ⟨r, rfl⟩ := FloatFormat.ieeeDiv_eq_fin (FloatFormat.div_eq_ok.mp h).2
  exact ⟨(tokens_of_div hseconds hrate rfl).2.2.2, thpt, hthpt, capacity_of_div hnumGpu h⟩

end Quotient

/-! ## The budget step -/

section Step

variable {F} {config : PlannerConfig} {numP numD p d : ℤ}

/-- An allocation within the budget is kept. -/
theorem enforceGpuBudget_of_le (h : config.totalGpu numP numD ≤ config.maxGpuBudget) :
    enforceGpuBudget F config numP numD = .ok (numP, numD) := by
  rw [enforceGpuBudget, if_neg (not_lt.mpr h)]
  rfl

/-- A pair is returned when it is the allocation and fits, or the allocation is
over the budget and scales to the pair. -/
theorem enforceGpuBudget_eq_ok_iff :
    enforceGpuBudget F config numP numD = .ok (p, d) ↔
      (config.totalGpu numP numD ≤ config.maxGpuBudget ∧ numP = p ∧ numD = d) ∨
        (config.maxGpuBudget < config.totalGpu numP numD ∧ ∃ part room : ℚ,
          proportionalPart F config numP numD = .ok (.fin part) ∧
            max config.minReplicas (roundHalfEven part) = p ∧
            decodeRoom F config p = .ok (.fin room) ∧
            max config.minReplicas (roundHalfEven room) = d) := by
  rcases le_or_gt (config.totalGpu numP numD) config.maxGpuBudget with hfits | hover
  · rw [enforceGpuBudget_of_le hfits, Except.ok.injEq, Prod.mk.injEq]
    simp only [hfits, not_lt.mpr hfits, true_and, false_and, or_false]
  · rw [enforceGpuBudget, if_pos hover]
    simp only [hover, not_le.mpr hover, true_and, false_and, false_or, bind_eq_ok, pure,
      Except.pure, Except.ok.injEq, Prod.mk.injEq]
    constructor
    · rintro ⟨part, hpart, share, hshare, room, hroom, left, hleft, rfl, rfl⟩
      obtain ⟨part, rfl, rfl⟩ := PyFloat.round_eq_ok hshare
      obtain ⟨room, rfl, rfl⟩ := PyFloat.round_eq_ok hleft
      exact ⟨part, room, hpart, rfl, hroom, rfl⟩
    · rintro ⟨part, room, hpart, rfl, hroom, rfl⟩
      exact ⟨_, hpart, _, rfl, _, hroom, _, rfl, rfl, rfl⟩

end Step

/-! ## Exact arithmetic -/

section Exact

variable (d : DecodeInterpolator) (config : PlannerConfig) (self : PlannerState)

theorem axisIndex_exact (value : PyFloat) (stop : ℚ) :
    axisIndex .exact d value (secondNode .exact d stop) =
      d.axisIndex value (linspace stop d.resolution 0) (linspace stop d.resolution 1) := by
  have hfirst : linspace stop d.resolution 0 = 0 := by simp [linspace]
  have hsecond : secondNode .exact d stop = .fin (linspace stop d.resolution 1) := by
    have hstep : linspace stop d.resolution 1 = stop / (d.resolution - 1) := by simp [linspace]
    unfold secondNode
    dsimp only
    split_ifs with hzero
    · have hzero : stop / (d.resolution - 1) = 0 := PyFloat.fin.inj hzero
      rw [FloatFormat.exact_mul, hstep, hzero, ← hzero]
      change PyFloat.fin (1 / ((d.resolution : ℚ) - 1) * stop) = _
      rw [one_div_mul_eq_div]
    · rw [hstep]
      rfl
  rw [axisIndex, DecodeInterpolator.axisIndex, hsecond, hfirst, FloatFormat.exact_sub,
    FloatFormat.exact_sub, FloatFormat.exact_ieeeDiv, PyFloat.sub_fin_zero, PyFloat.sub_fin_zero,
    sub_zero]

theorem interpolateItl_exact (concurrency contextLength : PyFloat) :
    interpolateItl .exact d concurrency contextLength =
      d.interpolateItl concurrency contextLength := by
  simp only [interpolateItl, computeIdx, columnIndex, rowIndex, axisIndex_exact,
    FloatFormat.exact_ofInt, FloatFormat.exact_mul, FloatFormat.exact_div]
  rfl

theorem findBestThroughputPerGpu_exact (itl contextLength : PyFloat) :
    findBestThroughputPerGpu .exact d itl contextLength =
      d.findBestThroughputPerGpu itl contextLength := by
  simp only [findBestThroughputPerGpu, rowIndex, axisIndex_exact]
  rfl

theorem enforceGpuBudget_exact (numP numD : ℤ) :
    enforceGpuBudget .exact config numP numD = config.enforceGpuBudget numP numD := by
  unfold enforceGpuBudget PlannerConfig.enforceGpuBudget proportionalPart decodeRoom
  simp only [FloatFormat.exact_intDiv, FloatFormat.exact_ofInt, FloatFormat.exact_mul]
  split_ifs with hover
  · cases hscale : PyFloat.intDiv config.maxGpuBudget (config.totalGpu numP numD) with
    | error e => rfl
    | ok scale =>
        have hround : ((PyFloat.ofInt numP * .fin scale).round) =
            .ok (roundHalfEven (numP * scale)) := rfl
        simp only [Except.map, bind, Except.bind, pure, Except.pure, hround,
          PlannerConfig.prefillShare]
        cases PyFloat.intDiv _ config.decodeEngineNumGpu with
        | error e => rfl
        | ok room => rfl
  · rfl

theorem decodeThptPerGpu_exact (nextIsl nextOsl : PyFloat) :
    decodeThptPerGpu .exact self nextIsl nextOsl = self.decodeThptPerGpu nextIsl nextOsl := by
  simp only [decodeThptPerGpu, correctedItl, findBestThroughputPerGpu_exact,
    FloatFormat.exact_div, FloatFormat.exact_add]
  rfl

theorem computeReplicaRequirements_exact (nextNumReq nextIsl nextOsl : PyFloat) :
    computeReplicaRequirements .exact self nextNumReq nextIsl nextOsl =
      self.computeReplicaRequirements nextNumReq nextIsl nextOsl := by
  have hprefill : (prefillRatio .exact self nextNumReq nextIsl >>= PyFloat.ceil) =
      self.prefillDemand nextNumReq nextIsl := by
    simp only [prefillRatio, PlannerState.prefillDemand, FloatFormat.exact_ofInt,
      FloatFormat.exact_mul, FloatFormat.exact_div, bind_assoc]
    rfl
  have hdecode : (decodeRatio .exact self nextNumReq nextIsl nextOsl >>= PyFloat.ceil) =
      self.decodeDemand nextNumReq nextIsl nextOsl := by
    simp only [decodeRatio, PlannerState.decodeDemand, decodeThptPerGpu_exact,
      FloatFormat.exact_ofInt, FloatFormat.exact_mul, FloatFormat.exact_div, bind_assoc]
    rfl
  rw [PlannerState.computeReplicaRequirements, ← hprefill, ← hdecode]
  simp only [computeReplicaRequirements, enforceGpuBudget_exact, bind_assoc]

end Exact

end RbgPlanner.Planner.Rounded
