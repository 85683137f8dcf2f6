import RbgPlanner.Planner.Budget
import RbgPlanner.Planner.RowScan
import RbgPlanner.Properties.InertBudget

/-!
# Feedback of the SLA

Slower prefill than predicted raises the prefill correction factor, slower
decode the decode factor. This module compares two computations in exact
arithmetic that differ in a factor or in the ITL target, within the budget or
over it.
-/

namespace RbgPlanner.Properties.SlaFeedback

open Base Base.Sizing Planner InertBudget

variable (self : PlannerState) (numReq isl osl : ℚ)

/-- A planner with another prefill correction factor. -/
def withPCorrection (p : ℚ) : PlannerState := { self with pCorrectionFactor := .fin p }

/-- A planner with another decode correction factor and another ITL target. -/
def withItl (d itlSla : ℚ) : PlannerState :=
  { self with
    dCorrectionFactor := .fin d
    config := { self.config with itlSla := .fin itlSla } }

/-- The second prefill factor does not lower the returned prefill count. -/
def PrefillFollows (p p' : ℚ) : Prop :=
  ∀ counts counts' : ℤ × ℤ,
    (withPCorrection self p).computeReplicaRequirements (.fin numReq) (.fin isl) (.fin osl) =
        .ok counts →
      (withPCorrection self p').computeReplicaRequirements (.fin numReq) (.fin isl) (.fin osl) =
          .ok counts' →
        counts.1 ≤ counts'.1

/-- The second decode factor and target do not lower the returned decode count. -/
def DecodeFollows (d itlSla d' itlSla' : ℚ) : Prop :=
  ∀ counts counts' : ℤ × ℤ,
    (withItl self d itlSla).computeReplicaRequirements (.fin numReq) (.fin isl) (.fin osl) =
        .ok counts →
      (withItl self d' itlSla').computeReplicaRequirements (.fin numReq) (.fin isl) (.fin osl) =
          .ok counts' →
        counts.2 ≤ counts'.2

/-- A row whose throughput is positive and does not fall as the KV usage rises. -/
structure RisingRow (interpolator : DecodeInterpolator) (iy : ℕ) : Prop where
  positive : ∀ ix < interpolator.resolution,
    ∃ thpt, interpolator.thptInterpolator iy ix = .fin thpt ∧ 0 < thpt
  rising : ∀ ix jx, ix ≤ jx → jx < interpolator.resolution →
    (interpolator.thptInterpolator iy ix).le (interpolator.thptInterpolator iy jx)

variable {self numReq isl osl} {prefillThpt : ℚ} {iy : ℕ}

theorem withPCorrection_factor (p : ℚ) : (withPCorrection self p).pCorrectionFactor = .fin p := rfl

theorem withItl_factor (d itlSla : ℚ) :
    (withItl self d itlSla).pCorrectionFactor = self.pCorrectionFactor := rfl

theorem withItl_enforceGpuBudget (d itlSla : ℚ) :
    (withItl self d itlSla).config.enforceGpuBudget = self.config.enforceGpuBudget := rfl

theorem withItl_ordered (h : self.config.Ordered) (d itlSla : ℚ) :
    (withItl self d itlSla).config.Ordered :=
  ⟨h.prefillGpu, h.decodeGpu, h.prefillBounds, h.decodeBounds⟩

/-- The capacity of a planner with a positive factor is the throughput of the
best column for the corrected target. -/
theorem decodeThptPerGpu_withItl {d itlSla : ℚ} (hd : 0 < d)
    (hrow : self.decodeInterpolator.axisIndex (.fin (isl + osl / 2))
      (self.decodeInterpolator.yi 0) (self.decodeInterpolator.yi 1) = .ok iy) :
    (withItl self d itlSla).decodeThptPerGpu (.fin isl) (.fin osl) =
      .ok (self.decodeInterpolator.thptInterpolator iy
        (self.decodeInterpolator.bestColumn (.fin (itlSla / d)) iy)) := by
  have hcorrected : (withItl self d itlSla).correctedItl = .ok (.fin (itlSla / d)) := by
    have hpositive : (PyFloat.fin d).le (.fin 0) = false := by simpa using hd
    simp only [PlannerState.correctedItl, withItl, hpositive, Bool.false_eq_true, if_false]
    exact PyFloat.fin_div _ hd.ne'
  have hhalf : (PyFloat.fin osl).div (.fin 2) = .ok (.fin (osl / 2)) :=
    PyFloat.fin_div _ two_ne_zero
  have hsearch : (withItl self d itlSla).decodeInterpolator.findBestThroughputPerGpu
      (.fin (itlSla / d)) (.fin (isl + osl / 2)) = .ok _ :=
    DecodeInterpolator.findBestThroughputPerGpu_eq hrow
  simp only [PlannerState.decodeThptPerGpu, hcorrected, hhalf, PyFloat.fin_add, bind, Except.bind,
    hsearch]
  rfl

/-- A stricter target selects no more throughput on a rising row. -/
theorem RisingRow.thpt_anti (h : RisingRow self.decodeInterpolator iy) {t t' : ℚ} (hle : t' ≤ t) :
    ∃ thpt thpt' : ℚ, 0 < thpt' ∧ thpt' ≤ thpt ∧
      self.decodeInterpolator.thptInterpolator iy
        (self.decodeInterpolator.bestColumn (.fin t) iy) = .fin thpt ∧
      self.decodeInterpolator.thptInterpolator iy
        (self.decodeInterpolator.bestColumn (.fin t') iy) = .fin thpt' := by
  have htargets : (PyFloat.fin t').le (.fin t) := decide_eq_true hle
  have hcolumns : self.decodeInterpolator.bestColumn (.fin t') iy ≤
      self.decodeInterpolator.bestColumn (.fin t) iy :=
    DecodeInterpolator.bestColumn_mono (fun _ hmeets => PyFloat.le_trans hmeets htargets) iy
  have hlt := @DecodeInterpolator.bestColumn_lt self.decodeInterpolator (.fin t) iy
  obtain ⟨thpt, hthpt, -⟩ := h.positive _ hlt
  obtain ⟨thpt', hthpt', hpos⟩ := h.positive _ (hcolumns.trans_lt hlt)
  have hrising := h.rising _ _ hcolumns hlt
  rw [hthpt, hthpt'] at hrising
  exact ⟨thpt, thpt', hpos, of_decide_eq_true hrising, hthpt, hthpt'⟩

/-- A larger prefill factor asks for no fewer prefill engines and for the same
decode engines. -/
theorem sized_withPCorrection (hordered : self.config.Ordered)
    (hmin : 0 ≤ self.config.minReplicas) (hnumReq : 0 ≤ numReq) (hisl : 0 ≤ isl)
    {decodeThpt p p' : ℚ} (hcapP : 0 < prefillThpt * self.config.prefillEngineNumGpu)
    (hsign : 0 ≤ self.config.adjustmentInterval ∨ 0 ≤ p) (hle : p ≤ p')
    {numP numD numP' numD' : ℤ}
    (h : Sized (withPCorrection self p) (.fin numReq) (.fin isl) (.fin osl) prefillThpt decodeThpt
      numP numD)
    (h' : Sized (withPCorrection self p') (.fin numReq) (.fin isl) (.fin osl) prefillThpt
      decodeThpt numP' numD') :
    numP ≤ numP' ∧ numD = numD' := by
  obtain ⟨-, hnumP, hnumD⟩ := (sized_fin_iff (withPCorrection_factor p)).mp h
  obtain ⟨-, hnumP', hnumD'⟩ := (sized_fin_iff (withPCorrection_factor p')).mp h'
  refine ⟨?_, hnumD.unique hnumD'⟩
  have htokens : 0 ≤ numReq * isl := mul_nonneg hnumReq hisl
  rcases hsign with hinterval | hp
  · have hrate : 0 ≤ numReq * isl / self.config.adjustmentInterval :=
      div_nonneg htokens (by exact_mod_cast hinterval)
    exact hnumP.mono hnumP' hcapP hcapP
      (div_le_div_of_nonneg_right (mul_le_mul_of_nonneg_left hle hrate) hcapP.le)
  · rcases le_total 0 (numReq * isl / self.config.adjustmentInterval) with hrate | hrate
    · exact hnumP.mono hnumP' hcapP hcapP
        (div_le_div_of_nonneg_right (mul_le_mul_of_nonneg_left hle hrate) hcapP.le)
    · -- a negative interval leaves no demand
      have hfloor : numP = self.config.minReplicas :=
        hnumP.eq_lower hcapP hordered.prefillBounds hmin (mul_nonpos_of_nonpos_of_nonneg hrate hp)
      exact hfloor ▸ hnumP'.lower_le hcapP hordered.prefillBounds

/-- A stricter target asks for no fewer decode engines and for the same prefill engines. -/
theorem sized_withItl (hordered : self.config.Ordered) (hmin : 0 ≤ self.config.minReplicas)
    {p decodeThpt decodeThpt' d d' itlSla itlSla' : ℚ} (hp : self.pCorrectionFactor = .fin p)
    (hpos : 0 < decodeThpt') (hle : decodeThpt' ≤ decodeThpt) {numP numD numP' numD' : ℤ}
    (h : Sized (withItl self d itlSla) (.fin numReq) (.fin isl) (.fin osl) prefillThpt decodeThpt
      numP numD)
    (h' : Sized (withItl self d' itlSla') (.fin numReq) (.fin isl) (.fin osl) prefillThpt
      decodeThpt' numP' numD') :
    numP = numP' ∧ numD ≤ numD' := by
  have hgpu : (0 : ℚ) < self.config.decodeEngineNumGpu := by exact_mod_cast hordered.decodeGpu
  have hcap' : 0 < decodeThpt' * self.config.decodeEngineNumGpu := mul_pos hpos hgpu
  have hcaps : decodeThpt' * self.config.decodeEngineNumGpu ≤
      decodeThpt * self.config.decodeEngineNumGpu := mul_le_mul_of_nonneg_right hle hgpu.le
  obtain ⟨-, hnumP, hnumD⟩ := (sized_fin_iff ((withItl_factor d itlSla).trans hp)).mp h
  obtain ⟨-, hnumP', hnumD'⟩ := (sized_fin_iff ((withItl_factor d' itlSla').trans hp)).mp h'
  refine ⟨hnumP.unique hnumP', ?_⟩
  rcases le_total 0 (numReq * osl / self.config.adjustmentInterval) with hrate | hrate
  · exact hnumD.mono hnumD' (hcap'.trans_le hcaps) hcap'
      (div_le_div_of_nonneg_left hrate hcap' hcaps)
  · have hfloor : numD = self.config.minReplicas :=
      hnumD.eq_lower (hcap'.trans_le hcaps) hordered.decodeBounds hmin hrate
    exact hfloor ▸ hnumD'.lower_le hcap' hordered.decodeBounds

/-- A larger prefill factor lowers no returned prefill count. -/
theorem prefillFollows_of_le (hordered : self.config.Ordered)
    (hmin : 0 ≤ self.config.minReplicas) (hnumReq : 0 ≤ numReq) (hisl : 0 ≤ isl)
    (hprefill : self.prefillInterpolator.interpolateThptPerGpu (.fin isl) = .fin prefillThpt)
    (hprefillPos : 0 < prefillThpt) {decodeThpt : ℚ}
    (hdecode : self.decodeThptPerGpu (.fin isl) (.fin osl) = .ok (.fin decodeThpt))
    (hdecodePos : 0 < decodeThpt) {p p' : ℚ}
    (hsign : 0 ≤ self.config.adjustmentInterval ∨ 0 ≤ p) (hle : p ≤ p') :
    PrefillFollows self numReq isl osl p p' := by
  intro counts counts' h h'
  have hcapP : 0 < prefillThpt * self.config.prefillEngineNumGpu :=
    mul_pos hprefillPos (by exact_mod_cast hordered.prefillGpu)
  obtain ⟨numP, numD, hsized, hboundsP, hboundsD, hbudget⟩ :=
    @exists_sized_of_ok (withPCorrection self p) _ _ _ _ _ _ _ hordered hprefill hdecode
      hprefillPos hdecodePos h
  obtain ⟨numP', numD', hsized', -, -, hbudget'⟩ :=
    @exists_sized_of_ok (withPCorrection self p') _ _ _ _ _ _ _ hordered hprefill hdecode
      hprefillPos hdecodePos h'
  obtain ⟨hnumP, hnumD⟩ :=
    sized_withPCorrection hordered hmin hnumReq hisl hcapP hsign hle hsized hsized'
  rw [← hnumD] at hbudget'
  exact PlannerConfig.enforceGpuBudget_mono_prefill hordered hmin hboundsP.1 hboundsD.1 hnumP
    hbudget hbudget'

/-- A larger decode factor or a lower target lowers no returned decode count. -/
theorem decodeFollows_of_le (hordered : self.config.Ordered)
    (hmin : 0 ≤ self.config.minReplicas)
    (hprefill : self.prefillInterpolator.interpolateThptPerGpu (.fin isl) = .fin prefillThpt)
    (hprefillPos : 0 < prefillThpt)
    (hrow : self.decodeInterpolator.axisIndex (.fin (isl + osl / 2))
      (self.decodeInterpolator.yi 0) (self.decodeInterpolator.yi 1) = .ok iy)
    (hrising : RisingRow self.decodeInterpolator iy) {d d' itlSla itlSla' : ℚ} (hd : 0 < d)
    (hdd : d ≤ d') (hitl : 0 < itlSla') (hle : itlSla' ≤ itlSla) :
    DecodeFollows self numReq isl osl d itlSla d' itlSla' := by
  intro counts counts' h h'
  have hd' : 0 < d' := hd.trans_le hdd
  have htarget : itlSla' / d' ≤ itlSla / d :=
    div_le_div₀ (hitl.le.trans hle) hle hd hdd
  obtain ⟨thpt, thpt', hpos', hle', hthpt, hthpt'⟩ := hrising.thpt_anti htarget
  have hdecode := @decodeThptPerGpu_withItl self isl osl iy d itlSla hd hrow
  have hdecode' := @decodeThptPerGpu_withItl self isl osl iy d' itlSla' hd' hrow
  rw [hthpt] at hdecode
  rw [hthpt'] at hdecode'
  obtain ⟨numP, numD, hsized, hboundsP, hboundsD, hbudget⟩ :=
    @exists_sized_of_ok (withItl self d itlSla) _ _ _ _ _ _ _ (withItl_ordered hordered _ _)
      hprefill hdecode hprefillPos (hpos'.trans_le hle') h
  obtain ⟨numP', numD', hsized', -, -, hbudget'⟩ :=
    @exists_sized_of_ok (withItl self d' itlSla') _ _ _ _ _ _ _ (withItl_ordered hordered _ _)
      hprefill hdecode' hprefillPos hpos' h'
  obtain ⟨-, _, _, _, p, -, -, -, hp, -, -⟩ := id hsized
  obtain ⟨hnumP, hnumD⟩ := sized_withItl hordered hmin hp hpos' hle' hsized hsized'
  rw [withItl_enforceGpuBudget] at hbudget hbudget'
  rw [← hnumP] at hbudget'
  exact PlannerConfig.enforceGpuBudget_mono_decode hordered hmin hboundsP.1 hboundsD.1 hnumD
    hbudget hbudget'

/-- With bounds, request counts and input lengths that are not negative, a larger prefill factor
never lowers the prefill count, and a larger decode factor or a lower target
never the decode count on a rising row. -/
theorem counts_follow_feedback (hordered : self.config.Ordered)
    (hmin : 0 ≤ self.config.minReplicas) (hnumReq : 0 ≤ numReq) (hisl : 0 ≤ isl)
    (hprefill : self.prefillInterpolator.interpolateThptPerGpu (.fin isl) = .fin prefillThpt)
    (hprefillPos : 0 < prefillThpt) :
    (∀ decodeThpt : ℚ, self.decodeThptPerGpu (.fin isl) (.fin osl) = .ok (.fin decodeThpt) →
      0 < decodeThpt → ∀ p p' : ℚ, 0 ≤ self.config.adjustmentInterval ∨ 0 ≤ p → p ≤ p' →
        PrefillFollows self numReq isl osl p p') ∧
    ∀ iy, self.decodeInterpolator.axisIndex (.fin (isl + osl / 2))
        (self.decodeInterpolator.yi 0) (self.decodeInterpolator.yi 1) = .ok iy →
      RisingRow self.decodeInterpolator iy → ∀ d d' itlSla itlSla' : ℚ, 0 < d → d ≤ d' →
        0 < itlSla' → itlSla' ≤ itlSla → DecodeFollows self numReq isl osl d itlSla d' itlSla' := by
  constructor
  · intro decodeThpt hdecode hdecodePos p p' hsign hle
    exact prefillFollows_of_le hordered hmin hnumReq hisl hprefill hprefillPos hdecode hdecodePos
      hsign hle
  · intro iy hrow hrising d d' itlSla itlSla' hd hdd hitl hle
    exact decodeFollows_of_le hordered hmin hprefill hprefillPos hrow hrising hd hdd hitl hle

/-- A planner whose decode throughput rises with the KV usage, as its ITL does. -/
private def risingPlanner : PlannerState :=
  { PlannerState.flat .default (.constant []) 100 1000 40 500 with
    decodeInterpolator :=
      { DecodeInterpolator.flat 40 500 with
        resolution := 3
        two_le_resolution := by decide
        itlInterpolator := fun _ ix => .fin (20 * (ix + 1))
        thptInterpolator := fun _ ix => .fin (200 * (ix + 1)) } }

private theorem risingPlanner_row : RisingRow risingPlanner.decodeInterpolator 0 where
  positive := fun ix _ => ⟨200 * (ix + 1), rfl, by positivity⟩
  rising := by
    intro ix jx hle _
    have hcast : (ix : ℚ) ≤ jx := by exact_mod_cast hle
    exact decide_eq_true (by linarith)

/-- Twice the prefill time, and half the ITL target, in a budget of eight GPUs. -/
theorem counts_follow_feedback_rising :
    PrefillFollows risingPlanner 900 1200 400 1 2 ∧
      DecodeFollows risingPlanner 900 1200 400 1 60 1 30 := by
  obtain ⟨hprefill, hdecode⟩ := @counts_follow_feedback risingPlanner 900 1200 400 1000
    (by decide) (by decide) (by norm_num) (by norm_num) (by decide +kernel) (by norm_num)
  exact ⟨hprefill 400 (by decide +kernel) (by norm_num) 1 2 (by decide) (by norm_num),
    hdecode 0 (by decide +kernel) risingPlanner_row 1 1 60 30 (by norm_num) (by norm_num)
      (by norm_num) (by norm_num)⟩

/-- With a negative interval a demand turns negative as a negative factor is
raised to a positive one. With a negative minimum and budget the share of one
prefill engine rounds to fewer engines than the share of none. In doubles the
half of a share of one engine and a half is lost on the way from 46 engines to 47. -/
theorem prefill_count_lowered :
    (∃ self : PlannerState, self.config.Ordered ∧ 0 ≤ self.config.minReplicas ∧
      self.config.adjustmentInterval < 0 ∧
      self.prefillInterpolator.interpolateThptPerGpu (.fin 1200) = .fin 1000 ∧
      self.decodeThptPerGpu (.fin 1200) (.fin 100) = .ok (.fin 500) ∧
      ¬ PrefillFollows self 900 1200 100 (-1) 1) ∧
    (∃ self : PlannerState, self.config.Ordered ∧ 0 < self.config.adjustmentInterval ∧
      self.config.minReplicas < 0 ∧
      self.prefillInterpolator.interpolateThptPerGpu (.fin 1200) = .fin 1000 ∧
      self.decodeThptPerGpu (.fin 1200) (.fin 100) = .ok (.fin 500) ∧
      ¬ PrefillFollows self 900 1200 100 0 1) ∧
    ∃ self : PlannerState, self.config.Ordered ∧ 0 < self.config.adjustmentInterval ∧
      0 ≤ self.config.minReplicas ∧
      self.prefillInterpolator.interpolateThptPerGpu (.fin 2000) = .fin 1000 ∧
      self.decodeThptPerGpu (.fin 2000) (.fin 0) = .ok (.fin 500) ∧
      Rounded.computeReplicaRequirements .binary64 (withPCorrection self (73 / 8)) (.fin 900)
        (.fin 2000) (.fin 0) = .ok (2, 0) ∧
      Rounded.computeReplicaRequirements .binary64 (withPCorrection self (37 / 4)) (.fin 900)
        (.fin 2000) (.fin 0) = .ok (1, 1) := by
  refine ⟨?_, ?_, ?_⟩
  · refine ⟨.flat { PlannerConfig.default with adjustmentInterval := -180 }
      (.constant []) 100 1000 40 500, by decide, by decide, by decide, by decide +kernel,
      by decide +kernel, ?_⟩
    intro hfollows
    exact absurd (hfollows (6, 1) (1, 1) (by decide +kernel) (by decide +kernel)) (by decide)
  · refine ⟨.flat { PlannerConfig.default with
        maxGpuBudget := -8, minReplicas := -3, maxPrefillReplicas := 1 }
      (.constant []) 100 1000 40 500, by decide, by decide, by decide, by decide +kernel,
      by decide +kernel, ?_⟩
    intro hfollows
    exact absurd (hfollows (0, -3) (-3, -3) (by decide +kernel) (by decide +kernel)) (by decide)
  · exact ⟨.flat { PlannerConfig.default with
        maxGpuBudget := 3, minReplicas := 0, prefillEngineNumGpu := 2 }
      (.constant []) 100 1000 40 500, by decide, by decide, by decide, by decide +kernel,
      by decide +kernel, by decide +kernel, by decide +kernel⟩

end RbgPlanner.Properties.SlaFeedback
