import RbgPlanner.Base.BinaryFormat
import RbgPlanner.Planner.RoundedCorrection
import RbgPlanner.Planner.RoundedSteps

/-!
# Cycles with a failed observation

A query that fails reads as zero, a number like any other. This module gives
conditions on a planner and its readings under which a cycle leaves the
replicas and the correction factors alone, and lifts them to runs.
-/

namespace RbgPlanner.Properties.FailedObservation

open Base Planner Planner.Rounded

variable (F : FloatFormat) (forecasters : Forecasters) {σ : Type}
  (serve : (op : PlannerOp) → σ → PlannerResp op × σ)

/-! ## Conditions on the observed state -/

/-- The reading is the factor times what is promised, and the format has the factor. -/
def InRatio (reading expected factor : PyFloat) : Prop :=
  ∃ promised ratio : ℚ, expected = .fin promised ∧ reading = .fin (ratio * promised) ∧
    factor = .fin ratio ∧ F.round ratio = .fin ratio

/-- The profile promises nothing positive, or what the factor says already. -/
def Settled (actual : Option PyFloat) (expected : Except PyExc PyFloat) (factor : PyFloat) :
    Prop :=
  ∀ e, expected = .ok e → (PyFloat.fin 0).lt e = true → ∀ x, actual = some x →
    InRatio F x e factor

/-- Corrections are off, no decode worker answers for the readings, or both
factors are settled. -/
def FactorsSettled (s : PlannerState) (workers : Except PlannerExc ℤ) : Prop :=
  s.config.noCorrection = true ∨ ∀ n, workers = .ok n → n ≠ 0 →
    Settled F s.lastMetrics.ttft s.expectedTtft s.pCorrectionFactor ∧
      Settled F s.lastMetrics.itl (expectedItl F s n) s.dCorrectionFactor

/-- The correction gives up: the worker count is not available, or the readings
and the profile do not give an ITL for it. -/
def CorrectionFails (s : PlannerState) (workers : Except PlannerExc ℤ) : Prop :=
  s.config.noCorrection = false ∧ ∀ n, workers = .ok n → n ≠ 0 ∧ NoExpectedItl F s n

/-- Nothing can come of a forecast. -/
inductive NothingToApply (s : PlannerState) (numReq isl osl : PyFloat) : Prop
  | dryRun (h : s.config.noOperation = true)
  | noInterval (h : s.config.adjustmentInterval = 0)
  | notANumber {x : PyFloat} (hx : x ∈ [numReq, isl, osl, s.pCorrectionFactor])
      (h : x.isFinite = false)
  | overflow {length : PyFloat} (hlength : length ∈ [isl, osl])
      (h : (F.mul numReq length).isFinite = false)
  | noPrefillGpus (h : s.config.prefillEngineNumGpu = 0)
  | noDecodeGpus (h : s.config.decodeEngineNumGpu = 0)
  | outOfRange {n : ℤ} (hn : n ∈ [s.config.adjustmentInterval, s.config.prefillEngineNumGpu,
      s.config.decodeEngineNumGpu]) (h : (F.round n).isFinite = false)
  | noPrefillThroughput (h : s.prefillInterpolator.interpolateThptPerGpu isl = .fin 0 ∨
      s.prefillInterpolator.interpolateThptPerGpu isl = .nan)
  | noDecodeThroughput (h : ∀ thpt, decodeThptPerGpu F s isl osl = .ok thpt →
      thpt = .fin 0 ∨ thpt = .nan)

/-- The forecast that a planner makes has no target. -/
def ForecastUnused (s : PlannerState) : Prop :=
  NothingToApply F s (s.predictLoad forecasters).1 (s.predictLoad forecasters).2.1
    (s.predictLoad forecasters).2.2

/-- What an observed state has to be for the adjustment to be skipped: a reading
that is checked is NaN, or the factors are settled and nothing is applied. -/
def Skippable (s : PlannerState) (workers : Except PlannerExc ℤ) : Prop :=
  s.lastMetrics.isValid = false ∨
    FactorsSettled F s workers ∧
      (CorrectionFails F s workers ∨ ForecastUnused F forecasters s)

variable {F forecasters}

theorem Settled.kept {actual : Option PyFloat} {expected : Except PyExc PyFloat}
    {factor : PyFloat} (h : Settled F actual expected factor) :
    FactorKept F actual expected factor := by
  intro e he hpos x hx
  obtain ⟨promised, ratio, rfl, rfl, rfl, hround⟩ := h e he hpos x hx
  have hne : promised ≠ 0 := (of_decide_eq_true hpos).ne'
  rw [FloatFormat.div_eq_ok]
  refine ⟨by simpa using hne, ?_⟩
  rw [FloatFormat.ieeeDiv, PyFloat.ieeeDiv, if_neg hne, mul_div_cancel_right₀ _ hne]
  exact hround

/-- No replica counts come out of a forecast with which nothing can be done. -/
theorem NothingToApply.requirements {s : PlannerState} {numReq isl osl : PyFloat}
    (h : NothingToApply F s numReq isl osl) (hoperation : s.config.noOperation = false)
    (target : ℤ × ℤ) : computeReplicaRequirements F s numReq isl osl ≠ .ok target := by
  intro htarget
  simp only [computeReplicaRequirements, bind_eq_ok] at htarget
  obtain ⟨prefill, hprefill, numP, hnumP, decode, hdecode, numD, hnumD, -⟩ := htarget
  obtain ⟨_, rfl, -⟩ := PyFloat.ceil_eq_ok hnumP
  obtain ⟨_, rfl, -⟩ := PyFloat.ceil_eq_ok hnumD
  obtain ⟨⟨hinterval, hrange, hnumReq, hisl, htokens⟩, hfactor, hgpuP, hrangeP, hzero, hnan⟩ :=
    of_prefillRatio hprefill
  obtain ⟨⟨hosl, htokensD⟩, thpt, hthpt, hgpuD, hrangeD, hzeroD, hnanD⟩ := of_decodeRatio hdecode
  cases h with
  | dryRun h => cases h.symm.trans hoperation
  | noInterval h => exact hinterval h
  | notANumber hx h =>
      simp only [List.mem_cons, List.not_mem_nil, or_false] at hx
      rcases hx with rfl | rfl | rfl | rfl
      · cases h.symm.trans hnumReq
      · cases h.symm.trans hisl
      · cases h.symm.trans hosl
      · cases h.symm.trans hfactor
  | overflow hlength h =>
      simp only [List.mem_cons, List.not_mem_nil, or_false] at hlength
      rcases hlength with rfl | rfl
      · cases h.symm.trans htokens
      · cases h.symm.trans htokensD
  | noPrefillGpus h => exact hgpuP h
  | noDecodeGpus h => exact hgpuD h
  | outOfRange hn h =>
      simp only [List.mem_cons, List.not_mem_nil, or_false] at hn
      rcases hn with rfl | rfl | rfl
      · cases h.symm.trans hrange
      · cases h.symm.trans hrangeP
      · cases h.symm.trans hrangeD
  | noPrefillThroughput h => exact h.elim hzero hnan
  | noDecodeThroughput h => exact (h thpt hthpt).elim hzeroD hnanD

/-! ## Adjustment -/

/-- No request of a trace sets replicas. -/
def NoSetReplicas (tr : List PlannerEvent) : Prop :=
  ∀ targets blocking r, (⟨.setReplicas targets blocking, r⟩ : PlannerEvent) ∉ tr

@[simp] theorem noSetReplicas_nil : NoSetReplicas [] := by simp [NoSetReplicas]

theorem noSetReplicas_append {tr₁ tr₂ : List PlannerEvent}
    (h : NoSetReplicas tr₁) : NoSetReplicas (tr₁ ++ tr₂) ↔ NoSetReplicas tr₂ := by
  simp only [NoSetReplicas, List.mem_append, not_or]
  exact ⟨fun h₂ t b r => (h₂ t b r).2, fun h₂ t b r => ⟨h t b r, h₂ t b r⟩⟩

theorem getNumWorkers_noSetReplicas (s : PlannerState) (roleName : String) (w : σ) :
    NoSetReplicas ((s.getNumWorkers roleName).trace serve w) := by
  unfold PlannerState.getNumWorkers
  split_ifs <;> simp [NoSetReplicas]

theorem updateCorrectionFactors_noSetReplicas (s : PlannerState) (w : σ) :
    NoSetReplicas ((updateCorrectionFactors F s).trace serve w) := by
  simp only [updateCorrectionFactors, Prog.trace_bind]
  rw [noSetReplicas_append (getNumWorkers_noSetReplicas serve s _ w)]
  split <;> simp

/-- A forecast with which nothing can be done sets no replicas. -/
theorem adjustReplicas_noSetReplicas {s : PlannerState} (h : ForecastUnused F forecasters s)
    (w : σ) : NoSetReplicas ((adjustReplicas F forecasters s).trace serve w) := by
  unfold adjustReplicas
  dsimp only
  split
  · exact noSetReplicas_nil
  · split
    · exact noSetReplicas_nil
    · next target htarget =>
        have hoperation : s.config.noOperation = true := by
          by_contra hoperation
          exact h.requirements (Bool.eq_false_iff.mpr hoperation) target htarget
        unfold applyDecision
        dsimp only
        rw [if_pos hoperation]
        split <;> exact noSetReplicas_nil

/-! ## The decision -/

variable (F forecasters) in
/-- The adjustment sets no replicas and leaves the factors. -/
def Skips (s : PlannerState) (w : σ) : Prop :=
  NoSetReplicas ((makeAdjustments F forecasters s).trace serve w) ∧
    factors ((makeAdjustments F forecasters s).run serve w).1.2 = factors s

section Corrected

variable {serve} {s : PlannerState} {w : σ} (hvalid : s.lastMetrics.isValid = true)
  (hcorr : s.config.noCorrection = false)
include hvalid hcorr

/-- A correction that gives up ends the adjustment. -/
theorem skips_of_corrected_error {e : PlannerExc} {s' : PlannerState}
    (h : corrected F s (decodeWorkers serve s w) = (.error e, s'))
    (hkept : factors s' = factors s) : Skips F forecasters serve s w := by
  have htr := updateCorrectionFactors_noSetReplicas (F := F) serve s w
  simp [Skips, makeAdjustments, hvalid, hcorr, updateCorrectionFactors_run, h, htr, hkept]

/-- A correction that returns hands its planner to the second half. -/
theorem skips_of_corrected_ok (h : corrected F s (decodeWorkers serve s w) = (.ok (), s))
    (hunused : ForecastUnused F forecasters s) : Skips F forecasters serve s w := by
  have htr := updateCorrectionFactors_noSetReplicas (F := F) serve s w
  simp [Skips, makeAdjustments, hvalid, hcorr, updateCorrectionFactors_run, h,
    noSetReplicas_append htr, adjustReplicas_noSetReplicas serve hunused, adjustReplicas_state]

end Corrected

/-- The adjustment of a skippable state is skipped. -/
theorem Skippable.skips {s : PlannerState} {w : σ}
    (h : Skippable F forecasters s (decodeWorkers serve s w)) :
    Skips F forecasters serve s w := by
  cases hvalid : s.lastMetrics.isValid with
  | false => simp [Skips, makeAdjustments, hvalid]
  | true =>
      obtain ⟨hsettled, hends⟩ := h.resolve_left (by simp [hvalid])
      cases hcorr : s.config.noCorrection with
      | true =>
          have hunused := hends.resolve_left fun hfails => by
            cases hcorr.symm.trans hfails.1
          simp [Skips, makeAdjustments, hvalid, hcorr, adjustReplicas_state,
            adjustReplicas_noSetReplicas serve hunused]
      | false =>
          have hsettled := hsettled.resolve_left (by simp [hcorr])
          cases hworkers : decodeWorkers serve s w with
          | error e =>
              have hgivesUp : corrected F s (decodeWorkers serve s w) = (.error e, s) := by
                rw [hworkers]
                rfl
              exact skips_of_corrected_error hvalid hcorr hgivesUp rfl
          | ok n =>
              by_cases hn : n = 0
              · have hunused := hends.resolve_left fun hfails => (hfails.2 n hworkers).1 hn
                refine skips_of_corrected_ok hvalid hcorr ?_ hunused
                simp [hworkers, corrected, applyCorrection, hn]
              · obtain ⟨hsettledP, hsettledD⟩ := hsettled n hworkers hn
                obtain ⟨p, hp, ⟨e, hraises, happly⟩ | ⟨expected, d, hexpected, hd, happly⟩⟩ :=
                  applyCorrection_eq (F := F) hvalid hn
                · obtain rfl := hp.mpr hsettledP.kept
                  exact skips_of_corrected_error hvalid hcorr
                    ((congrArg (corrected F s) hworkers).trans happly) rfl
                · obtain rfl := hp.mpr hsettledP.kept
                  obtain rfl := hd.mpr hsettledD.kept
                  have hunused := hends.resolve_left fun hfails =>
                    (expectedItl_returns_iff hvalid hn).mp ⟨expected, hexpected⟩
                      (hfails.2 n hworkers).2
                  exact skips_of_corrected_ok hvalid hcorr
                    ((congrArg (corrected F s) hworkers).trans happly) hunused

/-! ## Cycles and runs -/

/-- One of the observation's queries fails. -/
def QueryFails (x : Situation σ) : Prop :=
  ∃ r, Responds serve x.1 x.2 r ∧ ∃ response ∈ r.all, failedResponse response = true

variable (F forecasters)

/-- The adjustment after the observation sets no replicas and leaves the
factors as they were before the cycle. -/
def CycleSkipped (x : Situation σ) : Prop :=
  ∀ s w, (observeMetrics F x.1).run serve x.2 = ((.ok (), s), w) →
    NoSetReplicas ((makeAdjustments F forecasters s).trace serve w) ∧
      factors ((makeAdjustments F forecasters s).run serve w).1.2 = factors x.1

/-- The observed state is skippable. -/
def CycleSkippable (x : Situation σ) : Prop :=
  ∀ s w, (observeMetrics F x.1).run serve x.2 = ((.ok (), s), w) →
    Skippable F forecasters s (decodeWorkers serve s w)

variable {F forecasters serve}

theorem CycleSkippable.skipped {x : Situation σ} (h : CycleSkippable F forecasters serve x) :
    CycleSkipped F forecasters serve x := by
  intro s w hobs
  obtain ⟨-, hp, hd⟩ := observeMetrics_kept (F := F) serve x.1 x.2
  rw [hobs] at hp hd
  have hfactors : factors s = factors x.1 := Prod.ext hp hd
  rw [← hfactors]
  exact (h s w hobs).skips

/-- A skipped cycle keeps the factors. -/
theorem CycleSkipped.factors_eq {x y : Situation σ} (h : CycleSkipped F forecasters serve x)
    (hcycle : CycleStep serve forecasters F x y) : factors y.1 = factors x.1 := by
  obtain ⟨s, w, hobs, hadjust⟩ := hcycle.observed
  have hkept := (h s w hobs).2
  rwa [hadjust] at hkept

/-- In a run of the planner, from any state and in any surroundings, whose
cycles with a failed query all observe a skippable state, these cycles are all
skipped, and the factors stay what they were through every outage. -/
theorem failed_cycles_skipped {x₀ : Situation σ}
    (h : ∀ x, Relation.ReflTransGen (CycleStep serve forecasters F) x₀ x →
      QueryFails serve x → CycleSkippable F forecasters serve x) :
    (∀ x, Relation.ReflTransGen (CycleStep serve forecasters F) x₀ x → QueryFails serve x →
        CycleSkipped F forecasters serve x) ∧
      ∀ x y, Relation.ReflTransGen (CycleStep serve forecasters F) x₀ x →
        Relation.ReflTransGen (fun x y => CycleStep serve forecasters F x y ∧
          QueryFails serve x) x y → factors y.1 = factors x.1 := by
  have hskipped : ∀ x, Relation.ReflTransGen (CycleStep serve forecasters F) x₀ x →
      QueryFails serve x → CycleSkipped F forecasters serve x :=
    fun x hx hfails => (h x hx hfails).skipped
  refine ⟨hskipped, fun x y hx houtage => ?_⟩
  induction houtage with
  | refl => rfl
  | @tail y z houtage hstep ih =>
      -- every situation of the outage is one of the run
      have hrun : Relation.ReflTransGen (CycleStep serve forecasters F) x₀ y :=
        hx.trans (Relation.ReflTransGen.mono (fun _ _ h => h.1) _ _ houtage)
      exact ((hskipped y hrun hstep.2).factors_eq hstep.1).trans ih

/-! ## Two servers -/

/-- Queries that all raise. -/
private def allQueriesFail : (op : PlannerOp) → Unit → PlannerResp op × Unit
  | .getRoleReadyReplicas _, w => (.ok 3, w)
  | .setReplicas _ _, w => (.ok (), w)
  | .customQuery _, w => (.error .runtimeError, w)

/-- A planner that neither corrects nor scales. -/
private def watchingPlanner : PlannerState :=
  .flat { PlannerConfig.default with noCorrection := true, noOperation := true }
    (.constant []) 100 1000 40 500

theorem failed_cycles_skipped_watching :
    CycleSkipped .binary64 .failing allQueriesFail (watchingPlanner, ()) := by
  refine (@failed_cycles_skipped .binary64 .failing Unit allQueriesFail (watchingPlanner, ())
    ?_).1 _ .refl ?_
  · intro x hx _ s w hobs
    obtain ⟨hconfig, -⟩ := observeMetrics_kept (F := .binary64) allQueriesFail x.1 x.2
    rw [hobs, config_of_run hx] at hconfig
    refine .inr ⟨.inl ?_, .inr (.dryRun ?_)⟩
    · rw [hconfig]
      rfl
    · rw [hconfig]
      rfl
  · exact ⟨_, ⟨1, 1, (), (), rfl, rfl, rfl⟩, .error .runtimeError, by decide +kernel, rfl⟩

/-- Answers by their number: one cycle under load, then one in which the query
of the request count raises. -/
private def countQueryFails (op : PlannerOp) (n : ℕ) : PlannerResp op × ℕ :=
  (match op with
    | .getRoleReadyReplicas _ => .ok 3
    | .setReplicas _ _ => .ok ()
    | .customQuery _ =>
        if n = 14 then .error .runtimeError
        else .ok [.fin ([0, 0, 1 / 10, 1 / 25, 900, 1, 2000, 500, 0, 0].getD (n % 10) 0)],
    n + 1)

/-- A planner on a flat profile that needs ten prefill and five decode engines
under the load of the first cycle. -/
private def loadedPlanner : PlannerState :=
  .flat { PlannerConfig.default with maxGpuBudget := 16, loadPredictor := "constant" }
    (.constant []) 100 1000 40 500

/-- The situation after the loaded cycle. -/
private def afterLoad : Situation ℕ :=
  (((cycle .binary64 .failing loadedPlanner).run countQueryFails 0).1.2,
    ((cycle .binary64 .failing loadedPlanner).run countQueryFails 0).2)

/-- What the observation of the failing cycle leaves. -/
private def afterFailure : Step × ℕ :=
  (observeMetrics .binary64 afterLoad.1).run countQueryFails afterLoad.2

/-- After a loaded cycle one failed query brings both roles to their minimum. -/
theorem failed_query_scales_down :
    ∃ x : Situation ℕ,
      CycleStep countQueryFails .failing .binary64 (loadedPlanner, 0) x ∧
      (⟨.setReplicas [⟨"prefill", 10⟩, ⟨"decode", 5⟩] false, .ok ()⟩ : PlannerEvent) ∈
        (cycle .binary64 .failing loadedPlanner).trace countQueryFails 0 ∧
      QueryFails countQueryFails x ∧
      (⟨.setReplicas [⟨"prefill", 1⟩, ⟨"decode", 1⟩] false, .ok ()⟩ : PlannerEvent) ∈
        (cycle .binary64 .failing x.1).trace countQueryFails x.2 ∧
      ¬ CycleSkipped .binary64 .failing countQueryFails x := by
  have hcycle : ((cycle .binary64 .failing loadedPlanner).run countQueryFails 0).1.1 = .ok () := by
    decide +kernel
  have hobs : afterFailure.1.1 = .ok () := by decide +kernel
  have hcall : (⟨.setReplicas [⟨"prefill", 1⟩, ⟨"decode", 1⟩] false, .ok ()⟩ : PlannerEvent) ∈
      (makeAdjustments .binary64 .failing afterFailure.1.2).trace countQueryFails
        afterFailure.2 := by
    decide +kernel
  refine ⟨afterLoad, Prod.ext (Prod.ext hcycle rfl) rfl, by decide +kernel, ?_,
    by decide +kernel, ?_⟩
  · exact ⟨_, ⟨3, 3, 11, 12, by decide +kernel, by decide +kernel, rfl⟩, .error .runtimeError,
      by decide +kernel, rfl⟩
  · intro hskip
    exact (hskip afterFailure.1.2 afterFailure.2 (Prod.ext (Prod.ext hobs rfl) rfl)).1 _ _ _ hcall

end RbgPlanner.Properties.FailedObservation
