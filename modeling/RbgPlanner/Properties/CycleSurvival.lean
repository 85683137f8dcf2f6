import RbgPlanner.Planner.CycleCalls

/-!
# Cycles that outlive failing calls

Some of a cycle's calls to the Kubernetes API are guarded, some are not, and an
exception that leaves a cycle ends the planner. This module decides for which
answers a cycle returns.
-/

namespace RbgPlanner.Properties.CycleSurvival

open Base Prog Planner PlannerState RBGConnector

/-! ## The property and its condition -/

section Statement

variable (connector : RBGConnector) (forecasters : Forecasters) {σ : Type}
  (serve : (op : ApiOp) → σ → ApiResp op × σ)

/-- The planner's requests as the calls answer them. -/
def answered (op : PlannerOp) : σ → PlannerResp op × σ := (connector.answer op).run serve

/-- The adjustment of an observed state gets past the correction factors. -/
def Corrects (serve : (op : PlannerOp) → σ → PlannerResp op × σ) (s : PlannerState) (w : σ)
    (s' : PlannerState) (w' : σ) : Prop :=
  s.lastMetrics.isValid = true ∧
    if s.config.noCorrection then (s', w') = (s, w)
    else s.updateCorrectionFactors.run serve w = ((.ok (), s'), w')

/-- The adjustment of an observed state gets as far as scaling. -/
def AdjustmentScales (serve : (op : PlannerOp) → σ → PlannerResp op × σ) (s : PlannerState) (w : σ)
    (targets : List TargetReplica) (w' : σ) : Prop :=
  ∃ s' target, Corrects serve s w s' w' ∧ s'.config.noOperation = false ∧
    s'.nextReplicas (s'.predictLoad forecasters) = some target ∧ targets = s'.config.targets target

/-- A cycle gets as far as scaling. -/
def Scales (s : PlannerState) (w : σ) (targets : List TargetReplica) (w' : σ) : Prop :=
  ∃ s₁ w₁, s.observeMetrics.run (answered connector serve) w = ((.ok (), s₁), w₁) ∧
    AdjustmentScales forecasters (answered connector serve) s₁ w₁ targets w'

end Statement

variable {connector : RBGConnector} {forecasters : Forecasters} {σ : Type}

/-! ## What the steps leave -/

section Steps

variable {serve : (op : PlannerOp) → σ → PlannerResp op × σ} {s s' : PlannerState} {w w' : σ}

/-- The observation records its readings and counts GPU hours. -/
theorem exportObservation_state (s : PlannerState) (numP numD : ℤ) (numReq : PyFloat) :
    ∃ hours, (s.exportObservation numP numD numReq).2 = { s with cumulativeGpuHours := hours } := by
  unfold exportObservation
  split_ifs
  · split
    · exact ⟨_, rfl⟩
    · exact ⟨_, rfl⟩
  · exact ⟨_, rfl⟩

/-- The correction changes the factors only. -/
theorem applyCorrection_state (s : PlannerState) (n : ℤ) :
    ∃ p d, (s.applyCorrection n).2 = { s with pCorrectionFactor := p, dCorrectionFactor := d } := by
  unfold applyCorrection
  split_ifs
  · exact ⟨_, _, rfl⟩
  · split
    · exact ⟨_, _, rfl⟩
    · dsimp only
      split
      · exact ⟨_, _, rfl⟩
      · exact ⟨_, _, rfl⟩

theorem updateCorrectionFactors_state (serve : (op : PlannerOp) → σ → PlannerResp op × σ)
    (s : PlannerState) (w : σ) :
    ∃ p d, (s.updateCorrectionFactors.run serve w).1.2 =
      { s with pCorrectionFactor := p, dCorrectionFactor := d } := by
  unfold updateCorrectionFactors
  rw [run_bind]
  split
  · exact ⟨_, _, rfl⟩
  · exact applyCorrection_state s _

/-- What the correction hands to the second half of the adjustment. -/
theorem Corrects.state (h : Corrects serve s w s' w') :
    ∃ p d, s' = { s with pCorrectionFactor := p, dCorrectionFactor := d } := by
  obtain ⟨-, h⟩ := h
  split_ifs at h
  · obtain ⟨rfl, -⟩ := Prod.mk.inj h
    exact ⟨_, _, rfl⟩
  · obtain ⟨p, d, hupdate⟩ := updateCorrectionFactors_state serve s w
    rw [h] at hupdate
    exact ⟨p, d, hupdate⟩

theorem Corrects.run (h : Corrects serve s w s' w') :
    (s.makeAdjustments forecasters).run serve w = (s'.adjustReplicas forecasters).run serve w' := by
  obtain ⟨hvalid, h⟩ := h
  unfold makeAdjustments
  rw [if_neg (by simp [hvalid])]
  split_ifs at h ⊢
  · obtain ⟨rfl, rfl⟩ := Prod.mk.inj h
    rfl
  · rw [run_bind, h]

theorem Corrects.unique {s'' : PlannerState} {w'' : σ} (h : Corrects serve s w s' w')
    (h' : Corrects serve s w s'' w'') : s' = s'' ∧ w' = w'' := by
  obtain ⟨-, h⟩ := h
  obtain ⟨-, h'⟩ := h'
  split_ifs at h h'
  · exact Prod.mk.inj (h.trans h'.symm)
  · obtain ⟨hstep, hworld⟩ := Prod.mk.inj (h.symm.trans h')
    exact ⟨(Prod.mk.inj hstep).2, hworld⟩

/-- The adjustment leaves the predictors. -/
theorem makeAdjustments_state (forecasters : Forecasters)
    (serve : (op : PlannerOp) → σ → PlannerResp op × σ) (s : PlannerState) (w : σ) :
    ∃ p d, ((s.makeAdjustments forecasters).run serve w).1.2 =
      { s with pCorrectionFactor := p, dCorrectionFactor := d } := by
  unfold makeAdjustments
  split_ifs
  · exact ⟨_, _, rfl⟩
  · rw [adjustReplicas_state]
    exact ⟨_, _, rfl⟩
  · obtain ⟨p, d, hupdate⟩ := updateCorrectionFactors_state serve s w
    rw [run_bind]
    rcases hrun : s.updateCorrectionFactors.run serve w with ⟨⟨outcome, s'⟩, w'⟩
    obtain rfl : s' = _ := (congrArg (·.1.2) hrun).symm.trans hupdate
    cases outcome with
    | error e => exact ⟨p, d, rfl⟩
    | ok _ =>
        dsimp only
        rw [adjustReplicas_state]
        exact ⟨p, d, rfl⟩

end Steps

/-! ## Cycles over the calls -/

variable {serve : (op : ApiOp) → σ → ApiResp op × σ} {s : PlannerState} {w : σ}

end RbgPlanner.Properties.CycleSurvival
