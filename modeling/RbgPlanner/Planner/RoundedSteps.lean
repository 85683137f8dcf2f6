import RbgPlanner.Planner.RoundedCycle

/-!
# What a cycle leaves

An observation fails before its first query, or records what six responses read
as. An adjustment changes the correction factors only. From these a cycle that
returns has one form.
-/

namespace RbgPlanner.Planner.Rounded

open Base

/-! ## Observation -/

/-- The responses to the six queries of an observation. -/
structure Responses where
  ttft : Except PyExc (List PyFloat)
  itl : Except PyExc (List PyFloat)
  numReq : Except PyExc (List PyFloat)
  requestDuration : Except PyExc (List PyFloat)
  isl : Except PyExc (List PyFloat)
  osl : Except PyExc (List PyFloat)

namespace Responses

variable (F : FloatFormat) (r : Responses)

def all : List (Except PyExc (List PyFloat)) :=
  [r.ttft, r.itl, r.numReq, r.requestDuration, r.isl, r.osl]

/-- What `observe_metrics` makes of them. -/
def metrics : Metrics where
  ttft := some (F.mul (avgReading F r.ttft) (.fin 1000))
  itl := some (F.mul (avgReading F r.itl) (.fin 1000))
  numReq := some (increaseReading F r.numReq)
  requestDuration := some (avgReading F r.requestDuration)
  isl := some (avgReading F r.isl)
  osl := some (avgReading F r.osl)

end Responses

variable {F : FloatFormat} {σ : Type} (serve : (op : PlannerOp) → σ → PlannerResp op × σ)

/-- The six queries of an observation. -/
def queryMetrics (s : PlannerState) : PlannerProg Responses := do
  let interval := NumberText.itoa s.config.adjustmentInterval ++ "s"
  let model := if s.config.modelName = "" then none else some s.config.modelName
  let adapter := s.metricsClient
  let query (text : String) : PlannerProg (Except PyExc (List PyFloat)) :=
    Prog.request (PlannerOp.customQuery text)
  let ttft ← query (adapter.avgMetricQuery adapter.metrics.ttft interval model)
  let itl ← query (adapter.avgMetricQuery adapter.metrics.itl interval model)
  let numReq ← query (adapter.increaseQuery adapter.metrics.requestsTotal interval model)
  let requestDuration ←
    query (adapter.avgMetricQuery adapter.metrics.requestDuration interval model)
  let isl ← query (adapter.tokensQuery interval model adapter.metrics.promptTokens)
  let osl ← query (adapter.tokensQuery interval model adapter.metrics.generationTokens)
  return { ttft, itl, numReq, requestDuration, isl, osl }

/-- The readings are those of the six responses. -/
theorem readMetrics_eq (s : PlannerState) :
    readMetrics F s = (do
      let r ← queryMetrics s
      return r.metrics F) := rfl

/-- The responses that an observation gets, once it has read the workers. -/
def Responds (s : PlannerState) (w : σ) (r : Responses) : Prop :=
  ∃ numP numD w₁ w₂,
    (s.getNumWorkers s.config.prefillRoleName).run serve w = (.ok numP, w₁) ∧
      (s.getNumWorkers s.config.decodeRoleName).run serve w₁ = (.ok numD, w₂) ∧
      ((queryMetrics s).run serve w₂).1 = r

variable {serve} in
theorem Responds.unique {s : PlannerState} {w : σ} {r r' : Responses}
    (h : Responds serve s w r) (h' : Responds serve s w r') : r = r' := by
  obtain ⟨numP, numD, w₁, w₂, hprefill, hdecode, rfl⟩ := h
  obtain ⟨numP', numD', w₁', w₂', hprefill', hdecode', rfl⟩ := h'
  obtain ⟨-, rfl⟩ := Prod.mk.inj (hprefill.symm.trans hprefill')
  obtain ⟨-, rfl⟩ := Prod.mk.inj (hdecode.symm.trans hdecode')
  rfl

theorem exportObservation_state (s : PlannerState) (numP numD : ℤ) (numReq : PyFloat) :
    ∃ hours, (exportObservation F s numP numD numReq).2 =
      { s with cumulativeGpuHours := hours } := by
  unfold exportObservation
  split_ifs
  · split <;> exact ⟨_, rfl⟩
  · exact ⟨_, rfl⟩

/-- An observation fails before its first query and leaves the planner as it
is, or records the readings of its six responses. -/
theorem observeMetrics_cases (s : PlannerState) (w : σ) :
    ((∃ e, ((observeMetrics F s).run serve w).1 = (.error e, s)) ∧ ∀ r, ¬ Responds serve s w r) ∨
      ∃ (r : Responses) (hours : PyFloat), Responds serve s w r ∧
        ((observeMetrics F s).run serve w).1.2 =
          { s.recordMetrics (r.metrics F) with cumulativeGpuHours := hours } := by
  simp only [observeMetrics, Prog.run_bind]
  cases hprefill : (s.getNumWorkers s.config.prefillRoleName).run serve w with
  | mk numP w₁ =>
  cases numP with
  | error e =>
      refine .inl ⟨⟨e, rfl⟩, ?_⟩
      rintro r ⟨numP, numD, w₁', w₂, hprefill', -⟩
      cases hprefill.symm.trans hprefill'
  | ok numP =>
      simp only [Prog.run_bind]
      cases hdecode : (s.getNumWorkers s.config.decodeRoleName).run serve w₁ with
      | mk numD w₂ =>
      cases numD with
      | error e =>
          refine .inl ⟨⟨e, rfl⟩, ?_⟩
          rintro r ⟨numP', numD, w₁', w₂', hprefill', hdecode', -⟩
          obtain ⟨-, rfl⟩ := Prod.mk.inj (hprefill.symm.trans hprefill')
          cases hdecode.symm.trans hdecode'
      | ok numD =>
          obtain ⟨hours, hstate⟩ := exportObservation_state (F := F)
            (s.recordMetrics (((queryMetrics s).run serve w₂).1.metrics F)) numP numD
            ((((queryMetrics s).run serve w₂).1.metrics F).numReq.getD .nan)
          refine .inr ⟨_, hours, ⟨numP, numD, w₁, w₂, hprefill, hdecode, rfl⟩, ?_⟩
          rw [readMetrics_eq]
          simp only [Prog.run_bind, Prog.pure_eq_ret, Prog.run_ret]
          exact hstate

/-- Observing leaves the configuration and the correction factors. -/
theorem observeMetrics_kept (s : PlannerState) (w : σ) :
    ((observeMetrics F s).run serve w).1.2.config = s.config ∧
      ((observeMetrics F s).run serve w).1.2.pCorrectionFactor = s.pCorrectionFactor ∧
      ((observeMetrics F s).run serve w).1.2.dCorrectionFactor = s.dCorrectionFactor := by
  rcases observeMetrics_cases (F := F) serve s w with ⟨⟨e, hraises⟩, -⟩ | ⟨r, hours, -, hs⟩
  · rw [hraises]
    exact ⟨rfl, rfl, rfl⟩
  · rw [hs]
    exact ⟨rfl, rfl, rfl⟩

/-! ## Adjustment -/

/-- Two planners that differ in the correction factors only. -/
def SameButFactors (s s' : PlannerState) : Prop :=
  ∃ p d, s' = { s with pCorrectionFactor := p, dCorrectionFactor := d }

theorem SameButFactors.refl (s : PlannerState) : SameButFactors s s := ⟨_, _, rfl⟩

theorem applyCorrection_state (s : PlannerState) (n : ℤ) :
    SameButFactors s (applyCorrection F s n).2 := by
  unfold applyCorrection
  split_ifs
  · exact .refl s
  · split
    · exact .refl s
    · dsimp only
      split <;> exact ⟨_, _, rfl⟩

theorem updateCorrectionFactors_state (s : PlannerState) (w : σ) :
    SameButFactors s ((updateCorrectionFactors F s).run serve w).1.2 := by
  unfold updateCorrectionFactors
  rw [Prog.run_bind]
  split
  · exact .refl s
  · exact applyCorrection_state s _

variable (forecasters : Forecasters)

/-- The second half of the adjustment leaves the planner as it is. -/
theorem adjustReplicas_state (s : PlannerState) (w : σ) :
    ((adjustReplicas F forecasters s).run serve w).1.2 = s := by
  unfold adjustReplicas applyDecision
  dsimp only
  split
  · rfl
  · split
    · rfl
    · split
      · rfl
      · split_ifs <;> rfl

theorem makeAdjustments_state (s : PlannerState) (w : σ) :
    SameButFactors s ((makeAdjustments F forecasters s).run serve w).1.2 := by
  unfold makeAdjustments
  split_ifs
  · exact .refl s
  · rw [adjustReplicas_state]
    exact .refl s
  · have hstate := updateCorrectionFactors_state (F := F) serve s w
    rw [Prog.run_bind]
    generalize (updateCorrectionFactors F s).run serve w = updated at hstate
    obtain ⟨⟨outcome, s'⟩, w'⟩ := updated
    cases outcome with
    | error e => exact hstate
    | ok _ =>
        dsimp only
        rw [adjustReplicas_state]
        exact hstate

/-! ## Cycles -/

/-- A planner in its surroundings. -/
abbrev Situation (σ : Type) := PlannerState × σ

/-- One cycle that returns leads from situation to situation. -/
def CycleStep (F : FloatFormat) (x y : Situation σ) : Prop :=
  (cycle F forecasters x.1).run serve x.2 = ((.ok (), y.1), y.2)

variable {serve forecasters}

/-- A cycle that returns has observed, and has adjusted what it observed. -/
theorem CycleStep.observed {x y : Situation σ} (h : CycleStep serve forecasters F x y) :
    ∃ s w, (observeMetrics F x.1).run serve x.2 = ((.ok (), s), w) ∧
      (makeAdjustments F forecasters s).run serve w = ((.ok (), y.1), y.2) := by
  rcases hobs : (observeMetrics F x.1).run serve x.2 with ⟨⟨outcome, s⟩, w⟩
  simp only [CycleStep, cycle, Prog.run_bind, hobs] at h
  cases outcome with
  | error e => simp at h
  | ok _ => exact ⟨s, w, rfl, h⟩

/-- What a cycle that returns makes of its planner. -/
theorem CycleStep.state {x y : Situation σ} (h : CycleStep serve forecasters F x y) :
    ∃ (r : Responses) (hours : PyFloat), Responds serve x.1 x.2 r ∧
      SameButFactors { x.1.recordMetrics (r.metrics F) with cumulativeGpuHours := hours } y.1 := by
  obtain ⟨s, w, hobs, hadjust⟩ := h.observed
  have hstate := makeAdjustments_state (F := F) serve forecasters s w
  rw [hadjust] at hstate
  rcases observeMetrics_cases (F := F) serve x.1 x.2 with ⟨⟨e, hraises⟩, -⟩ | ⟨r, hours, hr, hs⟩
  · rw [hobs] at hraises
    cases hraises
  · rw [hobs] at hs
    obtain rfl := hs
    exact ⟨r, hours, hr, hstate⟩

/-- The configuration is the same in a whole run. -/
theorem config_of_run {x y : Situation σ}
    (h : Relation.ReflTransGen (CycleStep serve forecasters F) x y) : y.1.config = x.1.config := by
  induction h with
  | refl => rfl
  | tail _ hstep ih =>
      obtain ⟨r, hours, -, p, d, hstate⟩ := hstep.state
      rw [hstate]
      exact ih

end RbgPlanner.Planner.Rounded
