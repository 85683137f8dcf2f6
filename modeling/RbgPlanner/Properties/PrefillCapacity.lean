import RbgPlanner.Base.CubicSpline
import RbgPlanner.Planner.Requirements

/-!
# Interpolated prefill capacity

A profile with positive measurements does not make the cubic between them
positive. This module decides when it is, and what a planner computes where it
is not.
-/

namespace RbgPlanner.Properties.PrefillCapacity

open Base Base.CubicPositivity Base.CubicSpline Planner

/-- SciPy interpolates the data with the not-a-knot cubic spline through them. -/
def SplineOn (scipy : SciPy) (x y : List ℚ) : Prop :=
  ∀ f, scipy.interp1dCubic x (y.map .fin) = .ok f →
    ∃ (slope : ℚ → ℚ) (points : List (ℚ × ℚ)), points.Perm (x.zip y) ∧ NotAKnot slope points ∧
      ∀ q, (∃ a ∈ x, a ≤ q) → (∃ b ∈ x, q ≤ b) → f (.fin q) = .fin (splineValue slope points q)

/-- The pieces of the not-a-knot cubic spline through the data are positive. -/
def PositiveSpline (x y : List ℚ) : Prop :=
  ∃ (slope : ℚ → ℚ) (points : List (ℚ × ℚ)), points.Perm (x.zip y) ∧ NotAKnot slope points ∧
    PositivePieces slope points

/-- A profile of four points or more with positive measurements. -/
structure Measured (data : PrefillRawData) (ttfts thpts : List ℚ) : Prop where
  four : 4 ≤ data.prefillIsl.length
  distinct : data.prefillIsl.Nodup
  ttft : data.prefillTtft = ttfts.map .fin
  thpt : data.prefillThptPerGpu = thpts.map .fin
  ttft_length : data.prefillIsl.length = ttfts.length
  thpt_length : data.prefillIsl.length = thpts.length
  ttft_pos : ∀ t ∈ ttfts, 0 < t
  thpt_pos : ∀ t ∈ thpts, 0 < t

/-- Interpolated numbers are positive, and with them the capacity of an engine
and the count that covers a positive demand. -/
structure PositiveCapacity (p : PrefillInterpolator) : Prop where
  ttft : ∀ isl, ∃ ttft, p.interpolateTtft isl = .fin ttft ∧ 0 < ttft
  thpt : ∀ isl, ∃ thpt, p.interpolateThptPerGpu isl = .fin thpt ∧ 0 < thpt
  engine : ∀ gpus : ℤ, 1 ≤ gpus → ∀ isl,
    ∃ cap, p.interpolateThptPerGpu isl * .ofInt gpus = .fin cap ∧ 0 < cap
  demand : ∀ self : PlannerState, self.prefillInterpolator = p →
    1 ≤ self.config.prefillEngineNumGpu → ∀ (numReq isl correction : ℚ) (n : ℤ),
      self.pCorrectionFactor = .fin correction →
        0 < numReq * isl / self.config.adjustmentInterval * correction →
          self.prefillDemand (.fin numReq) (.fin isl) = .ok n → 1 ≤ n

variable {p : PrefillInterpolator}

/-- Positive numbers carry over to the capacity and the count. -/
theorem PositiveCapacity.of_positive
    (httft : ∀ isl, ∃ ttft, p.interpolateTtft isl = .fin ttft ∧ 0 < ttft)
    (hthpt : ∀ isl, ∃ thpt, p.interpolateThptPerGpu isl = .fin thpt ∧ 0 < thpt) :
    PositiveCapacity p where
  ttft := httft
  thpt := hthpt
  engine := by
    intro gpus hgpus isl
    obtain ⟨thpt, heq, hpos⟩ := hthpt isl
    refine ⟨thpt * gpus, ?_, mul_pos hpos (by exact_mod_cast hgpus)⟩
    rw [heq]
    rfl
  demand := by
    rintro self rfl hgpus numReq isl correction n hcorrection hdemand hn
    obtain ⟨thpt, heq, hpos⟩ := hthpt (.fin isl)
    obtain ⟨-, -, rfl⟩ := (PlannerState.prefillDemand_fin hcorrection heq).mp hn
    have hcap : 0 < thpt * self.config.prefillEngineNumGpu :=
      mul_pos hpos (by exact_mod_cast hgpus)
    exact Int.one_le_ceil_iff.mpr (div_pos hdemand hcap)

/-- Every query is brought to a number within the profiled range, and the
numbers within it are kept. -/
theorem forall_clampIsl_iff (hrange : p.minIsl ≤ p.maxIsl) (motive : PyFloat → Prop) :
    (∀ isl, motive (p.clampIsl isl)) ↔
      ∀ q, p.minIsl ≤ q → q ≤ p.maxIsl → motive (.fin q) := by
  constructor
  · intro hall q hq₀ hq₁
    have hkept : p.clampIsl (.fin q) = .fin q := by
      rw [PrefillInterpolator.clampIsl, PyFloat.fin_min, PyFloat.fin_max, min_eq_left hq₁,
        max_eq_right hq₀]
    exact hkept ▸ hall (.fin q)
  · intro hall isl
    cases isl with
    | fin q =>
        rw [PrefillInterpolator.clampIsl, PyFloat.fin_min, PyFloat.fin_max]
        exact hall _ (le_max_left _ _) (max_le hrange (min_le_right _ _))
    | posInf =>
        have hmax : p.clampIsl .posInf = .fin (max p.minIsl p.maxIsl) := by
          rw [← PyFloat.fin_max]
          rfl
        rw [hmax, max_eq_right hrange]
        exact hall _ hrange le_rfl
    | negInf => exact hall _ le_rfl hrange
    | nan => exact hall _ le_rfl hrange

section Series

variable {scipy : SciPy} {x y : List ℚ} {lo hi : ℚ} {f : PyFloat → PyFloat}
  {slope : ℚ → ℚ} {points : List (ℚ × ℚ)} {a : ℚ × ℚ} {rest : List (ℚ × ℚ)}

/-- The points of the spline have the abscissae of the data. -/
theorem mem_abscissae (hperm : points.Perm (x.zip y)) (hlength : x.length = y.length) (q : ℚ) :
    q ∈ x ↔ ∃ point ∈ points, point.1 = q := by
  rw [← List.map_fst_zip hlength.le, ← (hperm.map Prod.fst).mem_iff, List.mem_map]

/-- The first point is at the lower end of the data. -/
theorem head_eq_listMin (hperm : (a :: rest).Perm (x.zip y)) (hlength : x.length = y.length)
    (hascending : Ascending (a :: rest)) (hlo : listMin x = .ok lo) : a.1 = lo := by
  obtain ⟨point, hpoint, heq⟩ := (mem_abscissae hperm hlength lo).mp (listMin_mem hlo)
  apply le_antisymm
  · exact heq ▸ hascending.head_le point hpoint
  · exact listMin_le hlo _
      ((mem_abscissae hperm hlength a.1).mpr ⟨a, List.mem_cons_self, rfl⟩)

/-- What does not exceed the upper end of the data does not exceed some point. -/
theorem le_listMax_iff (hperm : points.Perm (x.zip y)) (hlength : x.length = y.length)
    (hhi : listMax x = .ok hi) (q : ℚ) : q ≤ hi ↔ ∃ point ∈ points, q ≤ point.1 := by
  constructor
  · intro hq
    obtain ⟨point, hpoint, heq⟩ := (mem_abscissae hperm hlength hi).mp (listMax_mem hhi)
    exact ⟨point, hpoint, hq.trans_eq heq.symm⟩
  · rintro ⟨point, hpoint, hq⟩
    exact hq.trans
      (le_listMax hhi _ ((mem_abscissae hperm hlength point.1).mpr ⟨point, hpoint, rfl⟩))

/-- The data determine the pieces, so that any slopes and points of the spline decide. -/
theorem positiveSpline_iff (hpoints : 4 ≤ points.length) (hperm : points.Perm (x.zip y))
    (hknots : NotAKnot slope points) : PositiveSpline x y ↔ PositivePieces slope points := by
  constructor
  · rintro ⟨slope', points', hperm', hknots', h⟩
    have hsame : points' = points :=
      hknots'.ascending.eq_of_perm hknots.ascending (hperm'.trans hperm.symm)
    rw [hsame] at hknots' h
    exact h.congr (hknots'.slopes_eq hknots hpoints)
  · intro h
    exact ⟨slope, points, hperm, hknots, h⟩

/-- One interpolant of positive measurements is positive on the profiled range
exactly when the pieces of the spline are. -/
theorem interpolant_pos_iff (hfour : 4 ≤ x.length) (hlength : x.length = y.length)
    (hpos : ∀ v ∈ y, 0 < v) (hspline : SplineOn scipy x y)
    (hf : scipy.interp1dCubic x (y.map .fin) = .ok f) (hlo : listMin x = .ok lo)
    (hhi : listMax x = .ok hi) :
    (∀ q, lo ≤ q → q ≤ hi → ∃ v, f (.fin q) = .fin v ∧ 0 < v) ↔ PositiveSpline x y := by
  obtain ⟨slope, points, hperm, hknots, hvalue⟩ := hspline f hf
  have hpoints : 4 ≤ points.length := by
    rw [hperm.length_eq, List.length_zip, ← hlength, min_self]
    exact hfour
  have hpositive : ∀ point ∈ points, 0 < point.2 := by
    intro point hpoint
    exact hpos _ (List.of_mem_zip (hperm.mem_iff.mp hpoint)).2
  obtain ⟨a, rest, rfl⟩ : ∃ a rest, points = a :: rest := by
    cases points with
    | nil => exact absurd hpoints (by decide)
    | cons a rest => exact ⟨a, rest, rfl⟩
  rw [positiveSpline_iff hpoints hperm hknots, ← splineValue_pos_iff hknots.ascending hpositive,
    head_eq_listMin hperm hlength hknots.ascending hlo]
  refine forall_congr' fun q => forall_congr' fun hq₀ => ?_
  rw [← le_listMax_iff hperm hlength hhi]
  refine forall_congr' fun hq₁ => ?_
  rw [hvalue q ⟨lo, listMin_mem hlo, hq₀⟩ ⟨hi, listMax_mem hhi, hq₁⟩]
  constructor
  · rintro ⟨v, heq, hv⟩
    exact PyFloat.fin.inj heq ▸ hv
  · intro hv
    exact ⟨_, rfl, hv⟩

end Series

/-- Interpolated prefill numbers are positive for every query exactly when the
pieces of both splines are. -/
theorem positiveCapacity_iff {scipy : SciPy} {data : PrefillRawData} {ttfts thpts : List ℚ}
    (hdata : Measured data ttfts thpts) (httft : SplineOn scipy data.prefillIsl ttfts)
    (hthpt : SplineOn scipy data.prefillIsl thpts)
    (hp : PrefillInterpolator.init scipy data = .ok p) :
    PositiveCapacity p ↔
      PositiveSpline data.prefillIsl ttfts ∧ PositiveSpline data.prefillIsl thpts := by
  obtain ⟨minIsl, hmin, hp⟩ := bind_eq_ok.mp hp
  obtain ⟨maxIsl, hmax, hp⟩ := bind_eq_ok.mp hp
  obtain ⟨f, hf, hp⟩ := bind_eq_ok.mp hp
  obtain ⟨g, hg, hp⟩ := bind_eq_ok.mp hp
  obtain rfl := Except.ok.inj hp
  rw [hdata.ttft] at hf
  rw [hdata.thpt] at hg
  have hrange : minIsl ≤ maxIsl := le_listMax hmax _ (listMin_mem hmin)
  have hqueries := fun interpolant : PyFloat → PyFloat =>
    forall_clampIsl_iff (p := ⟨minIsl, maxIsl, f, g⟩) hrange
      fun isl => ∃ v, interpolant isl = .fin v ∧ 0 < v
  rw [← interpolant_pos_iff hdata.four hdata.ttft_length hdata.ttft_pos httft hf hmin hmax,
    ← interpolant_pos_iff hdata.four hdata.thpt_length hdata.thpt_pos hthpt hg hmin hmax,
    ← hqueries f, ← hqueries g]
  constructor
  · intro h
    exact ⟨h.ttft, h.thpt⟩
  · rintro ⟨httfts, hthpts⟩
    exact .of_positive httfts hthpts

/-- Four profiled input lengths. -/
private def measuredIsl : List ℚ := [1000, 2000, 3000, 4000]

/-- A profile whose measurements lie on two cubics. -/
private def cubicProfile (ttft thpt : Cubic ℚ) : PrefillRawData where
  prefillIsl := measuredIsl
  prefillTtft := (measuredIsl.map (value ttft)).map .fin
  prefillThptPerGpu := (measuredIsl.map (value thpt)).map .fin

/-- The polynomial through four points of a cubic is the cubic. -/
private theorem polynomial_measuredIsl (P : Cubic ℚ) (q : ℚ) :
    SciPy.polynomial measuredIsl ((measuredIsl.map (value P)).map .fin) (.fin q) =
      .fin (value P q) := by
  simp only [SciPy.polynomial, measuredIsl, List.map_cons, List.map_nil, List.zipWith_cons_cons,
    List.zipWith_nil_right, List.filter_cons, List.filter_nil, PyFloat.sum]
  norm_num
  simp only [value]
  ring

private theorem measuredIsl_buildable : 4 ≤ measuredIsl.length ∧ measuredIsl.Nodup := by
  decide +kernel

private theorem small_interp1dCubic (y : List PyFloat) :
    SciPy.small.interp1dCubic measuredIsl y = .ok (SciPy.polynomial measuredIsl y) := by
  simp only [SciPy.small]
  exact if_pos measuredIsl_buildable

/-- The four points on a cubic. -/
private def pointsOn (P : Cubic ℚ) : List (ℚ × ℚ) := measuredIsl.map fun x => (x, value P x)

private theorem pointsOn_ascending (P : Cubic ℚ) : Ascending (pointsOn P) := by
  rw [Ascending, pointsOn, List.isChain_map]
  change measuredIsl.IsChain (· < ·)
  decide +kernel

private theorem pointsOn_eq (P : Cubic ℚ) : ∀ point ∈ pointsOn P, point.2 = value P point.1 := by
  intro point hpoint
  obtain ⟨x, -, rfl⟩ := List.mem_map.mp hpoint
  rfl

private theorem small_splineOn (P : Cubic ℚ) :
    SplineOn .small measuredIsl (measuredIsl.map (value P)) := by
  intro f hf
  rw [small_interp1dCubic] at hf
  obtain rfl := Except.ok.inj hf
  refine ⟨derivative P, pointsOn P, List.Perm.refl _,
    notAKnot_of_cubic (pointsOn_ascending P) (pointsOn_eq P), ?_⟩
  rintro q ⟨a, ha, hle⟩ ⟨b, hb, hge⟩
  rw [polynomial_measuredIsl, splineValue_of_cubic (pointsOn_ascending P) (pointsOn_eq P)]
  · exact ⟨(a, value P a), List.mem_map_of_mem ha, hle⟩
  · exact ⟨(b, value P b), List.mem_map_of_mem hb, hge⟩

private theorem positiveSpline_of_cubic {P : Cubic ℚ}
    (h : PositivePieces (derivative P) (pointsOn P)) :
    PositiveSpline measuredIsl (measuredIsl.map (value P)) :=
  ⟨derivative P, pointsOn P, List.Perm.refl _,
    notAKnot_of_cubic (pointsOn_ascending P) (pointsOn_eq P), h⟩

/-- The interpolator of a profile whose measurements lie on two cubics. -/
private def cubicInterpolator (ttft thpt : Cubic ℚ) : PrefillInterpolator where
  minIsl := 1000
  maxIsl := 4000
  ttftInterpolator := SciPy.polynomial measuredIsl ((measuredIsl.map (value ttft)).map .fin)
  thptInterpolator := SciPy.polynomial measuredIsl ((measuredIsl.map (value thpt)).map .fin)

private theorem init_cubicProfile (ttft thpt : Cubic ℚ) :
    PrefillInterpolator.init .small (cubicProfile ttft thpt) =
      .ok (cubicInterpolator ttft thpt) := by
  have hmin : listMin measuredIsl = .ok 1000 := by decide +kernel
  have hmax : listMax measuredIsl = .ok 4000 := by decide +kernel
  simp only [PrefillInterpolator.init, cubicProfile, hmin, hmax, small_interp1dCubic, bind,
    Except.bind]
  rfl

/-- TTFT 100, 200, 300 and 400 ms. -/
private def risingTtft : Cubic ℚ := ⟨0, 0, 1 / 10, 0⟩

/-- Throughput 4000, 3000, 2000 and 1000 tokens per second and GPU. -/
private def fallingThpt : Cubic ℚ := ⟨0, 0, -1, 5000⟩

/-- Throughput 1000, 100, 100 and 1000 tokens per second and GPU. -/
private def dippingThpt : Cubic ℚ := ⟨0, 9 / 20000, -9 / 4, 2800⟩

private theorem measured_cubicProfile {thpt : Cubic ℚ}
    (hpos : ∀ t ∈ measuredIsl.map (value thpt), 0 < t) :
    Measured (cubicProfile risingTtft thpt) (measuredIsl.map (value risingTtft))
      (measuredIsl.map (value thpt)) where
  four := measuredIsl_buildable.1
  distinct := measuredIsl_buildable.2
  ttft := rfl
  thpt := rfl
  ttft_length := rfl
  thpt_length := rfl
  ttft_pos := by decide +kernel
  thpt_pos := hpos

/-- The pieces of a profile on lines are lines between positive values. -/
theorem positiveCapacity_iff_falling :
    ∃ (data : PrefillRawData) (p : PrefillInterpolator),
      PrefillInterpolator.init .small data = .ok p ∧ PositiveCapacity p := by
  refine ⟨_, _, init_cubicProfile risingTtft fallingThpt, ?_⟩
  apply (positiveCapacity_iff (measured_cubicProfile (by decide +kernel)) (small_splineOn _)
    (small_splineOn _) (init_cubicProfile risingTtft fallingThpt)).mpr
  constructor
  · exact positiveSpline_of_cubic (by rw [PositivePieces]; decide +kernel)
  · exact positiveSpline_of_cubic (by rw [PositivePieces]; decide +kernel)

/-- Between its second and third point the cubic through a dip is negative, and
a demand of 12500 tokens per second asks for -1000 engines, which the minimum
hides. -/
theorem capacity_negative :
    ∃ (data : PrefillRawData) (ttfts thpts : List ℚ) (p : PrefillInterpolator),
      Measured data ttfts thpts ∧ SplineOn .small data.prefillIsl ttfts ∧
        SplineOn .small data.prefillIsl thpts ∧
        PrefillInterpolator.init .small data = .ok p ∧
        p.interpolateThptPerGpu (.fin 2500) = .fin (-25 / 2) ∧
        ∃ self : PlannerState, self.prefillInterpolator = p ∧
          self.prefillDemand (.fin 900) (.fin 2500) = .ok (-1000) ∧
          self.computeReplicaRequirements (.fin 900) (.fin 2500) (.fin 10) =
            .ok (self.config.minReplicas, self.config.minReplicas) := by
  refine ⟨cubicProfile risingTtft dippingThpt, _, _, cubicInterpolator risingTtft dippingThpt,
    measured_cubicProfile (by decide +kernel), small_splineOn _, small_splineOn _,
    init_cubicProfile _ _, by decide +kernel,
    { PlannerState.flat .default (.constant []) 100 1000 40 500 with
      prefillInterpolator := cubicInterpolator risingTtft dippingThpt }, rfl, ?_, ?_⟩
  · decide +kernel
  · decide +kernel

end RbgPlanner.Properties.PrefillCapacity
