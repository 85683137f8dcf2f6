import RbgPlanner.Planner.RoundedCycle

/-!
# One update of the correction factors

The update assigns the prefill factor before it computes the decode factor.
This module finds the readings on which the second computation raises, and
says which factors an update leaves.
-/

namespace RbgPlanner.Planner.Rounded

open Base PyFloat PlannerState

/-! ## The expected ITL -/

/-- The concurrency of one decode worker that was observed. -/
def concurrency (F : FloatFormat) (numReq requestDuration : PyFloat) (numD interval : ℤ) :
    PyFloat :=
  F.ieeeDiv (F.mul (F.ieeeDiv numReq (F.round numD)) requestDuration) (F.round interval)

/-- The context length that the observed requests have on average. -/
def contextLength (F : FloatFormat) (isl osl : PyFloat) : PyFloat :=
  F.add isl (F.ieeeDiv osl (.fin 2))

/-- The part of the KV cache that requests of this length occupy. -/
def kvUsage (F : FloatFormat) (concurrency contextLength : PyFloat) (maxKvTokens : ℤ) : PyFloat :=
  F.ieeeDiv (F.mul concurrency contextLength) (F.round maxKvTokens)

/-- A number and the second node of its axis are both zero, or both infinite. -/
def OffAxis (F : FloatFormat) (value second : PyFloat) : Prop :=
  Size.Coincide (F.deliver value).size (F.deliver second).size

/-- The readings, the number of workers and the profile do not give an expected ITL. -/
inductive NoExpectedItl (F : FloatFormat) (s : PlannerState) (numD : ℤ) : Prop
  | noCount (h : s.lastMetrics.numReq = none)
  | noDuration (h : s.lastMetrics.requestDuration = none)
  | noInterval (h : s.config.adjustmentInterval = 0)
  | noCapacity (h : s.decodeInterpolator.maxKvTokens = 0)
  | outOfRange {n : ℤ}
      (hn : n ∈ [numD, s.config.adjustmentInterval, s.decodeInterpolator.maxKvTokens])
      (h : (F.round n).isFinite = false)
  | usage {numReq requestDuration isl osl : PyFloat} (hnumReq : s.lastMetrics.numReq = some numReq)
      (hduration : s.lastMetrics.requestDuration = some requestDuration)
      (hisl : s.lastMetrics.isl = some isl) (hosl : s.lastMetrics.osl = some osl)
      (h : Size.Indeterminate [(F.ieeeDiv numReq (F.round numD)).size, requestDuration.size] ∨
        Size.Indeterminate
          [(concurrency F numReq requestDuration numD s.config.adjustmentInterval).size,
            (contextLength F isl osl).size] ∨
        OffAxis F (kvUsage F
            (concurrency F numReq requestDuration numD s.config.adjustmentInterval)
            (contextLength F isl osl) s.decodeInterpolator.maxKvTokens)
          (secondNode F s.decodeInterpolator 1))
  | row {isl osl : PyFloat} (hisl : s.lastMetrics.isl = some isl)
      (hosl : s.lastMetrics.osl = some osl)
      (h : OffAxis F (contextLength F isl osl)
        (secondNode F s.decodeInterpolator s.decodeInterpolator.maxContextLength))

variable {F : FloatFormat}

section Axis

variable {d : DecodeInterpolator}

/-- The second node is a number. -/
theorem secondNode_ne_nan (stop : ℚ) : secondNode F d stop ≠ .nan := by
  unfold secondNode
  dsimp only
  split_ifs with hvanishes
  · have hres : (2 : ℚ) ≤ d.resolution := by exact_mod_cast d.two_le_resolution
    have hstep : |1 / ((d.resolution : ℚ) - 1)| ≤ 1 := by
      rw [abs_of_nonneg (by apply div_nonneg <;> linarith)]
      exact (div_le_one (by linarith)).mpr (by linarith)
    obtain ⟨step, hstep⟩ :=
      isFinite_iff.mp (FloatFormat.isFinite_round_of_abs_le F.round_one hstep)
    rw [hstep]
    exact FloatFormat.round_ne_nan _
  · exact FloatFormat.round_ne_nan _

/-- A query selects a node unless it is NaN or off the axis. -/
theorem axisIndex_returns_iff {value second : PyFloat} (hsecond : second ≠ .nan) :
    (∃ i, axisIndex F d value second = .ok i) ↔ value ≠ .nan ∧ ¬ OffAxis F value second := by
  have hindex : (∃ i, axisIndex F d value second = .ok i) ↔
      F.ieeeDiv (F.deliver value) (F.deliver second) ≠ .nan := by
    unfold axisIndex FloatFormat.sub
    rw [sub_fin_zero, sub_fin_zero]
    generalize F.ieeeDiv (F.deliver value) (F.deliver second) = steps
    cases steps <;> simp [npRound, npClip, toInt, bind, Except.bind, pure, Except.pure]
  rw [hindex, Ne, FloatFormat.ieeeDiv_eq_nan_iff, Size.div_eq_undefined, size_eq_undefined,
    size_eq_undefined, FloatFormat.deliver_eq_nan, FloatFormat.deliver_eq_nan, OffAxis]
  simp [hsecond]

/-- A query selects a node of the grid exactly when its usage and its context
length are numbers on their axes. -/
theorem interpolateItl_returns_iff {concurrency context : PyFloat} :
    (∃ x, interpolateItl F d concurrency context = .ok x) ↔
      d.maxKvTokens ≠ 0 ∧ (F.round d.maxKvTokens).isFinite = true ∧
        F.mul concurrency context ≠ .nan ∧ context ≠ .nan ∧
        ¬ OffAxis F (kvUsage F concurrency context d.maxKvTokens) (secondNode F d 1) ∧
        ¬ OffAxis F context (secondNode F d d.maxContextLength) := by
  have hcolumn : ∀ usage, (∃ i, columnIndex F d usage = .ok i) ↔
      usage ≠ .nan ∧ ¬ OffAxis F usage (secondNode F d 1) :=
    fun usage => axisIndex_returns_iff (secondNode_ne_nan 1)
  have hrow : (∃ i, rowIndex F d context = .ok i) ↔
      context ≠ .nan ∧ ¬ OffAxis F context (secondNode F d d.maxContextLength) :=
    axisIndex_returns_iff (secondNode_ne_nan _)
  unfold interpolateItl computeIdx
  simp only [exists_bind_ok, FloatFormat.ofInt_eq_ok_iff, FloatFormat.div_eq_ok, pure, Except.pure,
    Except.ok.injEq, exists_eq', and_true, exists_and_right, hcolumn, hrow]
  constructor
  · rintro ⟨_, ⟨hfinite, rfl⟩, _, ⟨hne, rfl⟩, ⟨hnumber, hon⟩, hcontext, honRow⟩
    have hcapacity := FloatFormat.round_intCast_eq_zero.not.mp hne
    rw [Ne, FloatFormat.ieeeDiv_round_eq_nan hcapacity hfinite] at hnumber
    exact ⟨hcapacity, hfinite, hnumber, hcontext, hon, honRow⟩
  · rintro ⟨hcapacity, hfinite, hnumber, hcontext, hon, honRow⟩
    refine ⟨_, ⟨hfinite, rfl⟩, _, ⟨FloatFormat.round_intCast_eq_zero.not.mpr hcapacity, rfl⟩,
      ⟨?_, hon⟩, hcontext, honRow⟩
    rwa [Ne, FloatFormat.ieeeDiv_round_eq_nan hcapacity hfinite]

end Axis

/-! ## The expected ITL -/

section Readings

variable {s : PlannerState} {n : ℤ}

/-- The parts of an expected ITL, when input and output lengths are observed. -/
theorem expectedItl_returns_iff_parts {isl osl : PyFloat} (hisl : s.lastMetrics.isl = some isl)
    (hosl : s.lastMetrics.osl = some osl) (hn : n ≠ 0) :
    (∃ x, expectedItl F s n = .ok x) ↔ ∃ numReq requestDuration,
      s.lastMetrics.numReq = some numReq ∧ s.lastMetrics.requestDuration = some requestDuration ∧
        (F.round n).isFinite = true ∧ s.config.adjustmentInterval ≠ 0 ∧
        (F.round s.config.adjustmentInterval).isFinite = true ∧
        ∃ x, interpolateItl F s.decodeInterpolator
          (concurrency F numReq requestDuration n s.config.adjustmentInterval)
          (contextLength F isl osl) = .ok x := by
  have hworkers : F.round n ≠ .fin 0 := FloatFormat.round_intCast_eq_zero.not.mpr hn
  have htwo : (PyFloat.fin 2) ≠ .fin 0 := by decide
  unfold expectedItl
  simp only [hisl, hosl, exists_bind_ok, reading_eq_ok, Option.some.injEq, exists_eq_left',
    FloatFormat.ofInt_eq_ok_iff, FloatFormat.div_eq_ok, concurrency, contextLength]
  constructor
  · rintro ⟨numReq, hnumReq, duration, hduration, _, ⟨hrange, rfl⟩, _, ⟨-, rfl⟩, _,
      ⟨hrange', rfl⟩, _, ⟨hinterval, rfl⟩, _, ⟨-, rfl⟩, hitl⟩
    exact ⟨numReq, duration, hnumReq, hduration, hrange,
      FloatFormat.round_intCast_eq_zero.not.mp hinterval, hrange', hitl⟩
  · rintro ⟨numReq, duration, hnumReq, hduration, hrange, hinterval, hrange', hitl⟩
    exact ⟨numReq, hnumReq, duration, hduration, _, ⟨hrange, rfl⟩, _, ⟨hworkers, rfl⟩, _,
      ⟨hrange', rfl⟩, _, ⟨FloatFormat.round_intCast_eq_zero.not.mpr hinterval, rfl⟩, _,
      ⟨htwo, rfl⟩, hitl⟩

/-- An indeterminate product of workers' requests and their duration makes the
concurrency NaN. -/
theorem concurrency_indeterminate {numReq requestDuration : PyFloat} {interval : ℤ} {size : Size}
    (h : Size.Indeterminate [(F.ieeeDiv numReq (F.round n)).size, requestDuration.size]) :
    Size.Indeterminate [(concurrency F numReq requestDuration n interval).size, size] := by
  rw [concurrency, FloatFormat.mul_eq_nan_iff.mpr h]
  exact .inl (by simp [FloatFormat.ieeeDiv, PyFloat.ieeeDiv, FloatFormat.deliver, PyFloat.size])

/-- No ITL comes out where one of the listed things is the case. -/
theorem NoExpectedItl.not_returns (hvalid : s.lastMetrics.isValid = true) (hn : n ≠ 0)
    (h : NoExpectedItl F s n) : ¬ ∃ x, expectedItl F s n = .ok x := by
  obtain ⟨-, -, ⟨isl, hisl⟩, osl, hosl⟩ := readings_of_valid hvalid
  rw [expectedItl_returns_iff_parts hisl hosl hn]
  simp only [interpolateItl_returns_iff, Ne, FloatFormat.mul_eq_nan_iff]
  rintro ⟨numReq, duration, hnumReq, hduration, hrange, hinterval, hrange', hcapacity, hrange'',
    hdetermined, -, hcolumn, hrow⟩
  cases h with
  | noCount h => cases hnumReq.symm.trans h
  | noDuration h => cases hduration.symm.trans h
  | noInterval h => exact hinterval h
  | noCapacity h => exact hcapacity h
  | outOfRange hmem h =>
      simp only [List.mem_cons, List.not_mem_nil, or_false] at hmem
      rcases hmem with rfl | rfl | rfl
      · cases hrange.symm.trans h
      · cases hrange'.symm.trans h
      · cases hrange''.symm.trans h
  | usage hnumReq' hduration' hisl' hosl' h =>
      obtain rfl := Option.some.inj (hnumReq.symm.trans hnumReq')
      obtain rfl := Option.some.inj (hduration.symm.trans hduration')
      obtain rfl := Option.some.inj (hisl.symm.trans hisl')
      obtain rfl := Option.some.inj (hosl.symm.trans hosl')
      rcases h with h | h | h
      · exact hdetermined (concurrency_indeterminate h)
      · exact hdetermined h
      · exact hcolumn h
  | row hisl' hosl' h =>
      obtain rfl := Option.some.inj (hisl.symm.trans hisl')
      obtain rfl := Option.some.inj (hosl.symm.trans hosl')
      exact hrow h

/-- An ITL comes out where none of them is. -/
theorem exists_expectedItl (hvalid : s.lastMetrics.isValid = true) (hn : n ≠ 0)
    (h : ¬ NoExpectedItl F s n) : ∃ x, expectedItl F s n = .ok x := by
  obtain ⟨-, -, ⟨isl, hisl⟩, osl, hosl⟩ := readings_of_valid hvalid
  obtain ⟨numReq, hnumReq⟩ := Option.ne_none_iff_exists'.mp fun hnone => h (.noCount hnone)
  obtain ⟨duration, hduration⟩ := Option.ne_none_iff_exists'.mp fun hnone => h (.noDuration hnone)
  have hrange : ∀ m ∈ [n, s.config.adjustmentInterval, s.decodeInterpolator.maxKvTokens],
      (F.round m).isFinite = true := by
    intro m hm
    by_contra hinfinite
    exact h (.outOfRange hm (Bool.eq_false_iff.mpr hinfinite))
  simp only [List.forall_mem_cons] at hrange
  have husage := fun hmissing => h (.usage hnumReq hduration hisl hosl hmissing)
  rw [expectedItl_returns_iff_parts hisl hosl hn]
  refine ⟨numReq, duration, hnumReq, hduration, hrange.1, fun hzero => h (.noInterval hzero),
    hrange.2.1, interpolateItl_returns_iff.mpr ⟨fun hzero => h (.noCapacity hzero),
      hrange.2.2.1, ?_, ?_, fun hoff => husage (.inr (.inr hoff)),
      fun hoff => h (.row hisl hosl hoff)⟩⟩
  · rw [Ne, FloatFormat.mul_eq_nan_iff]
    exact fun hproduct => husage (.inr (.inl hproduct))
  · -- a context length that is NaN makes the usage NaN
    intro hnan
    refine husage (.inr (.inl (.inl ?_)))
    rw [size_eq_undefined.mpr hnan]
    simp

/-- The expected ITL is there unless one of the listed things is the case. -/
theorem expectedItl_returns_iff (hvalid : s.lastMetrics.isValid = true) (hn : n ≠ 0) :
    (∃ x, expectedItl F s n = .ok x) ↔ ¬ NoExpectedItl F s n :=
  ⟨fun hreturns hmissing => hmissing.not_returns hvalid hn hreturns, exists_expectedItl hvalid hn⟩

end Readings

/-! ## The update -/

/-- The two correction factors. -/
def factors (s : PlannerState) : PyFloat × PyFloat := (s.pCorrectionFactor, s.dCorrectionFactor)

/-- Nothing positive is expected, or the reading is in its present ratio to
what is expected. -/
def FactorKept (F : FloatFormat) (actual : Option PyFloat) (expected : Except PyExc PyFloat)
    (factor : PyFloat) : Prop :=
  ∀ e, expected = .ok e → (PyFloat.fin 0).lt e = true → ∀ x, actual = some x →
    F.div x e = .ok factor

/-- On an observed reading the corrected factor is a number: only a positive
expectation divides. -/
theorem correctedFactor_returns {actual : Option PyFloat} {x : PyFloat} (hx : actual = some x)
    (expected factor : PyFloat) :
    ∃ y, correctedFactor F actual expected factor = .ok y ∧
      (y = factor ↔ FactorKept F actual (.ok expected) factor) := by
  subst hx
  unfold correctedFactor FactorKept
  split_ifs with hpos
  · have hne : expected ≠ .fin 0 := by
      rintro rfl
      simp at hpos
    refine ⟨F.ieeeDiv x expected, by simp [reading, FloatFormat.div, hne, bind, Except.bind], ?_⟩
    simp [hpos, FloatFormat.div, hne]
  · exact ⟨factor, rfl, iff_of_true rfl fun e he hpos' => absurd (Except.ok.inj he ▸ hpos') hpos⟩

/-- What the update computes when there are decode workers. -/
theorem applyCorrection_eq {s : PlannerState} (hvalid : s.lastMetrics.isValid = true) {n : ℤ}
    (hn : n ≠ 0) :
    ∃ p, (p = s.pCorrectionFactor ↔
        FactorKept F s.lastMetrics.ttft s.expectedTtft s.pCorrectionFactor) ∧
      ((∃ e, expectedItl F s n = .error e ∧
          applyCorrection F s n = (.error (.builtin e), { s with pCorrectionFactor := p })) ∨
        ∃ expected d, expectedItl F s n = .ok expected ∧
          (d = s.dCorrectionFactor ↔
            FactorKept F s.lastMetrics.itl (expectedItl F s n) s.dCorrectionFactor) ∧
          applyCorrection F s n =
            (.ok (), { s with pCorrectionFactor := p, dCorrectionFactor := d })) := by
  obtain ⟨⟨ttft, httft⟩, ⟨itl, hitl⟩, ⟨isl, hisl⟩, -⟩ := readings_of_valid hvalid
  have hexpT : s.expectedTtft = .ok (s.prefillInterpolator.interpolateTtft isl) := by
    simp [expectedTtft, hisl, reading, bind, Except.bind, pure, Except.pure]
  obtain ⟨p, hp, hkept⟩ := correctedFactor_returns (F := F) httft
    (s.prefillInterpolator.interpolateTtft isl) s.pCorrectionFactor
  have hnextP : nextPCorrectionFactor F s = .ok p := by
    simp [nextPCorrectionFactor, hexpT, hp, bind, Except.bind]
  refine ⟨p, hexpT ▸ hkept, ?_⟩
  -- the prefill factor does not enter what the ITL is expected to be
  have hsame : expectedItl F { s with pCorrectionFactor := p } n = expectedItl F s n := rfl
  cases hexpI : expectedItl F s n with
  | error e =>
      refine .inl ⟨e, rfl, ?_⟩
      simp [applyCorrection, hn, hnextP, nextDCorrectionFactor, hsame, hexpI, bind, Except.bind]
  | ok expected =>
      obtain ⟨d, hd, hkeptD⟩ := correctedFactor_returns (F := F) hitl expected s.dCorrectionFactor
      refine .inr ⟨expected, d, rfl, hkeptD, ?_⟩
      simp [applyCorrection, hn, hnextP, nextDCorrectionFactor, hsame, hexpI, hd, bind, Except.bind]

/-- The planner after the correction, for an answer to the worker count. -/
def corrected (F : FloatFormat) (s : PlannerState) : Except PlannerExc ℤ → Step
  | .error e => (.error e, s)
  | .ok n => applyCorrection F s n

section Served

variable {σ : Type} (serve : (op : PlannerOp) → σ → PlannerResp op × σ)

/-- The answer to the worker count the correction asks for. -/
def decodeWorkers (s : PlannerState) (w : σ) : Except PlannerExc ℤ :=
  ((s.getNumWorkers s.config.decodeRoleName).run serve w).1

theorem updateCorrectionFactors_run (s : PlannerState) (w : σ) :
    (updateCorrectionFactors F s).run serve w =
      (corrected F s (decodeWorkers serve s w),
        ((s.getNumWorkers s.config.decodeRoleName).run serve w).2) := by
  simp only [updateCorrectionFactors, Prog.run_bind, decodeWorkers]
  split <;> simp_all [corrected]

end Served

end RbgPlanner.Planner.Rounded
