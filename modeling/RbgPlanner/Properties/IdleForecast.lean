import RbgPlanner.Planner.Cycle
import RbgPlanner.Properties.BudgetScaling

/-!
# A forecast of no traffic

The three series of a forecast are forecast apart from each other, and a model
may continue any of them below zero. A request count and a length that are both
negative multiply to a demand. This module decides when a computation in
floating point returns the minimum for both roles.
-/

namespace RbgPlanner.Properties.IdleForecast

open Base Base.Sizing Planner InertBudget BudgetScaling

/-- The minimum is not below a role's quotient of demand and capacity, or the
bounds of the role leave nothing else. -/
def Covered (config : PlannerConfig) (maxReplicas : ℤ) (ratio : Except PyExc PyFloat) : Prop :=
  ∃ q : ℚ, ratio = .ok (.fin q) ∧ (q ≤ config.minReplicas ∨ maxReplicas = config.minReplicas)

variable {F : FloatFormat} {self : PlannerState} {nextNumReq nextIsl nextOsl : PyFloat}

/-- The minimum is what a quotient asks for exactly when it covers it. -/
theorem covered_iff {maxReplicas : ℤ} (hbounds : self.config.minReplicas ≤ maxReplicas)
    {ratio : Except PyExc PyFloat} :
    Covered self.config maxReplicas ratio ↔ ∃ q : ℚ, ratio = .ok (.fin q) ∧
      LeastSufficient self.config.minReplicas maxReplicas q 1 self.config.minReplicas := by
  simp only [Covered, leastSufficient_lower_iff one_pos hbounds, mul_one]

/-! ## Quotients of no requests -/

section Idle

variable {numReq : ℚ} (hidle : numReq ≤ 0) (hinterval : 0 ≤ self.config.adjustmentInterval)
include hidle hinterval

/-- No requests are no tokens per second. -/
theorem tokens_nonpos {length m : ℚ} (hlength : 0 ≤ length) {interval : PyFloat}
    (hseconds : F.ofInt self.config.adjustmentInterval = .ok interval)
    (h : F.div (F.mul (.fin numReq) (.fin length)) interval = .ok (.fin m)) : m ≤ 0 := by
  obtain ⟨c, rfl, hc⟩ := FloatFormat.ofInt_nonneg hinterval hseconds
  obtain ⟨-, hquotient⟩ := FloatFormat.div_eq_ok.mp h
  obtain ⟨tokens, htokens⟩ := FloatFormat.ieeeDiv_eq_fin hquotient
  rw [htokens] at hquotient
  have hdivisor : (PyFloat.fin 0).le (.fin c) = true := decide_eq_true hc
  exact FloatFormat.nonpos_of_ieeeDiv (FloatFormat.nonpos_of_mul hidle hlength htokens)
    hdivisor hquotient

theorem prefillRatio_nonpos {isl correction thpt q : ℚ} (hisl : 0 ≤ isl)
    (hcorrection : self.pCorrectionFactor = .fin correction) (hfactor : 0 ≤ correction)
    (hprefill : self.prefillInterpolator.interpolateThptPerGpu (.fin isl) = .fin thpt)
    (hthpt : 0 ≤ thpt) (hgpu : 0 ≤ self.config.prefillEngineNumGpu)
    (h : Rounded.prefillRatio F self (.fin numReq) (.fin isl) = .ok (.fin q)) : q ≤ 0 := by
  obtain ⟨interval, hseconds, h⟩ := bind_eq_ok.mp h
  obtain ⟨rate, hrate, h⟩ := bind_eq_ok.mp h
  obtain ⟨numGpu, hnumGpu, h⟩ := bind_eq_ok.mp h
  obtain ⟨gpus, rfl, hgpus⟩ := FloatFormat.ofInt_nonneg hgpu hnumGpu
  rw [hcorrection, hprefill] at h
  obtain ⟨-, hquotient⟩ := FloatFormat.div_eq_ok.mp h
  obtain ⟨demand, hdemand⟩ := FloatFormat.ieeeDiv_eq_fin hquotient
  obtain ⟨m, -, rfl, -⟩ := FloatFormat.mul_eq_fin hdemand
  have hm := tokens_nonpos hidle hinterval hisl hseconds hrate
  rw [hdemand] at hquotient
  exact FloatFormat.nonpos_of_ieeeDiv (FloatFormat.nonpos_of_mul hm hfactor hdemand)
    (FloatFormat.mul_nonneg hthpt hgpus) hquotient

theorem decodeRatio_nonpos {isl : PyFloat} {osl thpt q : ℚ} (hosl : 0 ≤ osl)
    (hdecode : Rounded.decodeThptPerGpu F self isl (.fin osl) = .ok (.fin thpt))
    (hthpt : 0 ≤ thpt) (hgpu : 0 ≤ self.config.decodeEngineNumGpu)
    (h : Rounded.decodeRatio F self (.fin numReq) isl (.fin osl) = .ok (.fin q)) : q ≤ 0 := by
  obtain ⟨_, hcapacity, h⟩ := bind_eq_ok.mp h
  obtain ⟨interval, hseconds, h⟩ := bind_eq_ok.mp h
  obtain ⟨rate, hrate, h⟩ := bind_eq_ok.mp h
  obtain ⟨numGpu, hnumGpu, h⟩ := bind_eq_ok.mp h
  obtain rfl := Except.ok.inj (hdecode.symm.trans hcapacity)
  obtain ⟨gpus, rfl, hgpus⟩ := FloatFormat.ofInt_nonneg hgpu hnumGpu
  obtain ⟨-, hquotient⟩ := FloatFormat.div_eq_ok.mp h
  obtain ⟨m, rfl⟩ := FloatFormat.ieeeDiv_eq_fin hquotient
  exact FloatFormat.nonpos_of_ieeeDiv (tokens_nonpos hidle hinterval hosl hseconds hrate)
    (FloatFormat.mul_nonneg hthpt hgpus) hquotient

end Idle

/-! ## The returned pair -/

section Pair

variable (hboundsP : self.config.minReplicas ≤ self.config.maxPrefillReplicas)
  (hboundsD : self.config.minReplicas ≤ self.config.maxDecodeReplicas)
include hboundsP hboundsD

/-- The minimum is what the quotients ask for exactly when it covers them. -/
theorem sized_minimum_iff :
    RoundedSized F self nextNumReq nextIsl nextOsl self.config.minReplicas
        self.config.minReplicas ↔
      Covered self.config self.config.maxPrefillReplicas
          (Rounded.prefillRatio F self nextNumReq nextIsl) ∧
        Covered self.config self.config.maxDecodeReplicas
          (Rounded.decodeRatio F self nextNumReq nextIsl nextOsl) := by
  rw [covered_iff hboundsP, covered_iff hboundsD]
  exact ⟨fun h => ⟨h.prefill, h.decode⟩, fun h => ⟨h.1, h.2⟩⟩

variable (hfloor : self.config.totalGpu self.config.minReplicas self.config.minReplicas ≤
    self.config.maxGpuBudget)
include hfloor

/-- No requests of lengths that are not negative are answered with the minimum,
when both quotients are numbers. -/
theorem minimum_of_nonneg_lengths {numReq isl osl correction prefillThpt decodeThpt q r : ℚ}
    (hmin : 0 ≤ self.config.minReplicas) (hinterval : 0 ≤ self.config.adjustmentInterval)
    (hgpuP : 0 ≤ self.config.prefillEngineNumGpu) (hgpuD : 0 ≤ self.config.decodeEngineNumGpu)
    (hidle : numReq ≤ 0) (hisl : 0 ≤ isl) (hosl : 0 ≤ osl)
    (hcorrection : self.pCorrectionFactor = .fin correction) (hfactor : 0 ≤ correction)
    (hprefill : self.prefillInterpolator.interpolateThptPerGpu (.fin isl) = .fin prefillThpt)
    (hdecode : Rounded.decodeThptPerGpu F self (.fin isl) (.fin osl) = .ok (.fin decodeThpt))
    (hprefillThpt : 0 ≤ prefillThpt) (hdecodeThpt : 0 ≤ decodeThpt)
    (hratioP : Rounded.prefillRatio F self (.fin numReq) (.fin isl) = .ok (.fin q))
    (hratioD : Rounded.decodeRatio F self (.fin numReq) (.fin isl) (.fin osl) = .ok (.fin r)) :
    Rounded.computeReplicaRequirements F self (.fin numReq) (.fin isl) (.fin osl) =
      .ok (self.config.minReplicas, self.config.minReplicas) := by
  have hminq : (0 : ℚ) ≤ self.config.minReplicas := by exact_mod_cast hmin
  have hq := prefillRatio_nonpos hidle hinterval hisl hcorrection hfactor hprefill hprefillThpt
    hgpuP hratioP
  have hr := decodeRatio_nonpos hidle hinterval hosl hdecode hdecodeThpt hgpuD hratioD
  have hsized := (sized_minimum_iff hboundsP hboundsD).mpr
    ⟨⟨q, hratioP, .inl (hq.trans hminq)⟩, ⟨r, hratioD, .inl (hr.trans hminq)⟩⟩
  exact rounded_iff_budgeted.mpr ⟨_, _, hsized, Rounded.enforceGpuBudget_of_le hfloor⟩

end Pair

end RbgPlanner.Properties.IdleForecast
