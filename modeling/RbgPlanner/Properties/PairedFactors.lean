import RbgPlanner.Base.BinaryFormat
import RbgPlanner.Planner.RoundedCorrection

/-!
# The two correction factors

`_update_correction_factors` assigns the prefill factor before it computes the
decode factor. This module decides when an update that raises has changed
nothing.
-/

namespace RbgPlanner.Properties.PairedFactors

open Base Planner Planner.Rounded

variable (F : FloatFormat) {σ : Type} (serve : (op : PlannerOp) → σ → PlannerResp op × σ)

/-- An update of the correction factors that raises leaves both of them. -/
def Together (s : PlannerState) (w : σ) : Prop :=
  ∀ e s' w', (updateCorrectionFactors F s).run serve w = ((.error e, s'), w') →
    factors s' = factors s

/-- An update that raises leaves both factors exactly when the prefill factor is
in its place already wherever no ITL is expected. -/
theorem together_iff (s : PlannerState) (w : σ) (hvalid : s.lastMetrics.isValid = true) :
    Together F serve s w ↔ ∀ n, decodeWorkers serve s w = .ok n → n ≠ 0 → NoExpectedItl F s n →
      FactorKept F s.lastMetrics.ttft s.expectedTtft s.pCorrectionFactor := by
  unfold Together
  rw [updateCorrectionFactors_run]
  cases hworkers : decodeWorkers serve s w with
  | error e => simp [corrected]
  | ok n =>
      by_cases hn : n = 0
      · simp [corrected, applyCorrection, hn]
      · have hreturns := expectedItl_returns_iff (F := F) hvalid hn
        obtain ⟨p, hp, ⟨e, hraises, happly⟩ | ⟨expected, d, hexpected, -, happly⟩⟩ :=
          applyCorrection_eq (F := F) hvalid hn
        · have hmissing : NoExpectedItl F s n := by
            by_contra h
            obtain ⟨x, hx⟩ := hreturns.mpr h
            cases hraises.symm.trans hx
          simp [corrected, happly, hn, hmissing, factors, ← hp]
        · have hthere : ¬ NoExpectedItl F s n := hreturns.mp ⟨expected, hexpected⟩
          simp [corrected, happly, hthere]

/-- Three ready workers of each role. -/
private def threeReady : (op : PlannerOp) → Unit → PlannerResp op × Unit
  | .getRoleReadyReplicas _, w => (.ok 3, w)
  | .setReplicas _ _, w => (.ok (), w)
  | .customQuery _, w => (.ok [], w)

/-- A planner whose profile promises 100 ms, after an interval without a
finished request whose duration reads as infinite. -/
private def unfinished (ttft : ℚ) : PlannerState :=
  { PlannerState.flat PlannerConfig.default (.constant []) 100 1000 40 500 with
    lastMetrics :=
      { ttft := some (.fin ttft), itl := some (.fin 20), numReq := some (.fin 0),
        isl := some (.fin 1000), osl := some (.fin 100), requestDuration := some .posInf } }

/-- Where the observed TTFT is the promised one the update changes nothing. -/
theorem together_iff_promised : Together .binary64 threeReady (unfinished 100) () := by
  apply (together_iff .binary64 threeReady (unfinished 100) () rfl).mpr
  intro n _ _ _ e he _ x hx
  obtain rfl := Except.ok.inj he
  obtain rfl := Option.some.inj hx
  decide +kernel

/-- The prefill factor goes to two, and then the update raises. -/
theorem prefill_factor_only :
    (unfinished 200).lastMetrics.isValid = true ∧
      ((updateCorrectionFactors .binary64 (unfinished 200)).run threeReady ()).1.1 =
        .error (.builtin .valueError) ∧
      factors (unfinished 200) = (.fin 1, .fin 1) ∧
      factors ((updateCorrectionFactors .binary64 (unfinished 200)).run threeReady ()).1.2 =
        (.fin 2, .fin 1) ∧
      ¬ Together .binary64 threeReady (unfinished 200) () := by
  have hraises : ((updateCorrectionFactors .binary64 (unfinished 200)).run threeReady ()).1.1 =
      .error (.builtin .valueError) := by decide +kernel
  have hfactors :
      factors ((updateCorrectionFactors .binary64 (unfinished 200)).run threeReady ()).1.2 =
        (.fin 2, .fin 1) := by decide +kernel
  refine ⟨rfl, hraises, rfl, hfactors, fun htogether => ?_⟩
  have hkept := htogether _ _ _ (Prod.ext (Prod.ext hraises rfl) rfl)
  rw [hfactors] at hkept
  exact absurd hkept (by decide +kernel)

end RbgPlanner.Properties.PairedFactors
