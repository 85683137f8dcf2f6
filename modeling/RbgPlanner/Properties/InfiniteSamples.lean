import RbgPlanner.Base.BinaryFormat
import RbgPlanner.Planner.RoundedSteps

/-!
# Infinite samples

NaN is filtered out in three places before it reaches the planner's state, an
infinite number in none, be it a sample or a sum of samples out of range. This
module decides which responses leave the last metrics and the buffers of the
predictors finite, over runs of the planner.
-/

namespace RbgPlanner.Properties.InfiniteSamples

open Base Planner Planner.Rounded

/-! ## The state -/

/-- The fields of `Metrics`. -/
def fields (m : Metrics) : List (Option PyFloat) :=
  [m.ttft, m.itl, m.numReq, m.requestDuration, m.isl, m.osl]

/-- The values in the buffers of the three predictors. -/
def buffered (s : PlannerState) : List PyFloat :=
  s.numReqPredictor.values ++ s.islPredictor.values ++ s.oslPredictor.values

/-- The buffers hold finite numbers only. -/
def FiniteBuffers (s : PlannerState) : Prop := ∀ v ∈ buffered s, v.isFinite = true

/-- Every metric is there and finite, and so is every buffered value. -/
structure FiniteState (s : PlannerState) : Prop where
  metrics : ∀ field ∈ fields s.lastMetrics, ∃ q, field = some (.fin q)
  buffers : FiniteBuffers s

variable {F : FloatFormat}

/-! ## Responses -/

/-- The samples of a response that are not NaN are finite, and so are the totals
as they are added up. -/
def InRange (F : FloatFormat) : Except PyExc (List PyFloat) → Prop
  | .error _ => True
  | .ok result => F.AddsUp 0 (result.filter fun v => !v.isNan)

theorem avgReading_isFinite_iff {response : Except PyExc (List PyFloat)} :
    (avgReading F response).isFinite = true ↔ InRange F response := by
  cases response with
  | error e => exact iff_of_true rfl trivial
  | ok result =>
      simp only [Rounded.avgReading, InRange]
      split_ifs with hempty
      · rw [List.isEmpty_iff.mp hempty]
        exact iff_of_true rfl trivial
      · exact FloatFormat.isFinite_mean_iff (by simpa using hempty)

theorem increaseReading_isFinite_iff {response : Except PyExc (List PyFloat)} :
    (increaseReading F response).isFinite = true ↔ InRange F response := by
  cases response with
  | error e => exact iff_of_true rfl trivial
  | ok result => exact FloatFormat.isFinite_sum_iff

/-- The six responses add up, and the two latencies are in range in milliseconds. -/
structure Fits (F : FloatFormat) (r : Responses) : Prop where
  samples : ∀ response ∈ r.all, InRange F response
  latencies : ∀ response ∈ [r.ttft, r.itl], ∀ seconds, avgReading F response = .fin seconds →
    (F.round (seconds * 1000)).isFinite = true

theorem milliseconds_isFinite_iff {response : Except PyExc (List PyFloat)} :
    (F.mul (avgReading F response) (.fin 1000)).isFinite = true ↔
      InRange F response ∧ ∀ seconds, avgReading F response = .fin seconds →
        (F.round (seconds * 1000)).isFinite = true := by
  rw [← avgReading_isFinite_iff]
  constructor
  · intro h
    obtain ⟨q, hq⟩ := PyFloat.isFinite_iff.mp h
    obtain ⟨seconds, -, hseconds, -⟩ := FloatFormat.mul_eq_fin hq
    refine ⟨by rw [hseconds]; rfl, fun seconds' hseconds' => ?_⟩
    rw [hseconds'] at h
    exact h
  · rintro ⟨hfinite, hrange⟩
    obtain ⟨seconds, hseconds⟩ := PyFloat.isFinite_iff.mp hfinite
    rw [hseconds]
    exact hrange seconds hseconds

/-- The metrics are finite exactly when the responses fit. -/
theorem metrics_finite_iff {r : Responses} :
    (∀ field ∈ fields (r.metrics F), ∃ q, field = some (.fin q)) ↔ Fits F r := by
  simp only [fields, Responses.metrics, List.forall_mem_cons, Option.some.injEq,
    ← PyFloat.isFinite_iff, milliseconds_isFinite_iff, avgReading_isFinite_iff,
    increaseReading_isFinite_iff]
  constructor
  · rintro ⟨⟨httft, hmsTtft⟩, ⟨hitl, hmsItl⟩, hnumReq, hduration, hisl, hosl, -⟩
    constructor
    · simp only [Responses.all, List.forall_mem_cons]
      exact ⟨httft, hitl, hnumReq, hduration, hisl, hosl, nofun⟩
    · simp only [List.forall_mem_cons]
      exact ⟨hmsTtft, hmsItl, nofun⟩
  · rintro ⟨hsamples, hlatencies⟩
    simp only [Responses.all, List.forall_mem_cons] at hsamples hlatencies
    obtain ⟨httft, hitl, hnumReq, hduration, hisl, hosl, hnone⟩ := hsamples
    exact ⟨⟨httft, hlatencies.1⟩, ⟨hitl, hlatencies.2.1⟩, hnumReq, hduration, hisl, hosl, nofun⟩

/-! ## A reading in a buffer -/

theorem mem_trimWindow {α : Type} {window : ℤ} {buffer : List α} {v : α}
    (h : v ∈ trimWindow window buffer) : v ∈ buffer := by
  unfold trimWindow sliceFrom at h
  split_ifs at h
  · exact List.mem_of_mem_drop h
  · exact List.mem_of_mem_drop h
  · exact h

theorem mem_appendValue {buffer : List PyFloat} {value v : PyFloat}
    (h : v ∈ LoadPredictor.appendValue buffer value) :
    v ∈ buffer ∨ v = LoadPredictor.cleanValue value := by
  unfold LoadPredictor.appendValue at h
  dsimp only at h
  split_ifs at h
  · exact .inl h
  · simpa using h

/-- A predictor's buffer grows by the cleaned value at most. -/
theorem mem_addDataPoint {p : LoadPredictor} {value v : PyFloat}
    (h : v ∈ (p.addDataPoint value).values) :
    v ∈ p.values ∨ v = LoadPredictor.cleanValue value := by
  cases p with
  | constant buffer => exact mem_appendValue h
  | arima windowSize buffer => exact mem_appendValue (mem_trimWindow h)
  | prophet windowSize buffer currStep =>
      simp only [LoadPredictor.addDataPoint] at h
      split_ifs at h
      · exact .inl h
      · obtain ⟨entry, hentry, rfl⟩ := List.mem_map.mp h
        rcases List.mem_append.mp (mem_trimWindow hentry) with hold | hnew
        · exact .inl (List.mem_map_of_mem hold)
        · exact .inr (by rw [List.mem_singleton.mp hnew])

theorem isFinite_cleanValue {value : PyFloat} (h : value.isFinite = true) :
    (LoadPredictor.cleanValue value).isFinite = true := by
  unfold LoadPredictor.cleanValue
  split_ifs
  · rfl
  · exact h

/-- Recording readings that fit keeps the buffers finite. -/
theorem finiteBuffers_recordMetrics {s : PlannerState} {r : Responses}
    (h : FiniteBuffers s) (hr : Fits F r) : FiniteBuffers (s.recordMetrics (r.metrics F)) := by
  have hsamples := hr.samples
  simp only [Responses.all, List.forall_mem_cons] at hsamples
  obtain ⟨-, -, hnumReq, -, hisl, hosl, -⟩ := hsamples
  have hbuffer : ∀ (p : LoadPredictor) (value : PyFloat),
      (∀ v ∈ p.values, v.isFinite = true) → value.isFinite = true →
        ∀ v ∈ (p.addDataPoint value).values, v.isFinite = true := by
    intro p value hp hvalue v hv
    rcases mem_addDataPoint hv with hold | rfl
    · exact hp v hold
    · exact isFinite_cleanValue hvalue
  simp only [FiniteBuffers, buffered, List.forall_mem_append] at h ⊢
  exact ⟨⟨hbuffer _ _ h.1.1 (increaseReading_isFinite_iff.mpr hnumReq),
    hbuffer _ _ h.1.2 (avgReading_isFinite_iff.mpr hisl)⟩,
    hbuffer _ _ h.2 (avgReading_isFinite_iff.mpr hosl)⟩

/-! ## Runs -/

section Run

variable {σ : Type} {serve : (op : PlannerOp) → σ → PlannerResp op × σ}
  {forecasters : Forecasters}

/-- What an observation makes of finite buffers. -/
theorem observation_finite_iff {s : PlannerState} {w : σ} {r : Responses}
    (hr : Responds serve s w r) (hbuffers : FiniteBuffers s) :
    FiniteState ((observeMetrics F s).run serve w).1.2 ↔ Fits F r := by
  rcases observeMetrics_cases (F := F) serve s w with ⟨-, hnone⟩ | ⟨r', hours, hr', hs⟩
  · exact absurd hr (hnone r)
  · obtain rfl := hr.unique hr'
    rw [hs]
    constructor
    · intro h
      exact metrics_finite_iff.mp h.metrics
    · intro h
      exact ⟨metrics_finite_iff.mpr h, finiteBuffers_recordMetrics hbuffers h⟩

/-- A cycle whose responses fit keeps the buffers finite. -/
theorem cycle_finiteBuffers {x y : Situation σ} (h : CycleStep serve forecasters F x y)
    (hfits : ∀ r, Responds serve x.1 x.2 r → Fits F r) (hbuffers : FiniteBuffers x.1) :
    FiniteBuffers y.1 := by
  obtain ⟨r, hours, hr, p, d, hstate⟩ := h.state
  rw [hstate]
  exact finiteBuffers_recordMetrics hbuffers (hfits r hr)

theorem run_finiteBuffers {x₀ x : Situation σ} (h₀ : FiniteBuffers x₀.1)
    (hfits : ∀ y r, Relation.ReflTransGen (CycleStep serve forecasters F) x₀ y →
      Responds serve y.1 y.2 r → Fits F r)
    (h : Relation.ReflTransGen (CycleStep serve forecasters F) x₀ x) : FiniteBuffers x.1 := by
  induction h with
  | refl => exact h₀
  | @tail y z hrun hstep ih => exact cycle_finiteBuffers hstep (fun r => hfits y r hrun) ih

variable (serve forecasters) in
/-- In a run from finite buffers every observation leaves finite numbers only
exactly when all responses fit. -/
theorem observations_finite_iff {x₀ : Situation σ} (h₀ : FiniteBuffers x₀.1) :
    (∀ x r, Relation.ReflTransGen (CycleStep serve forecasters F) x₀ x →
        Responds serve x.1 x.2 r → FiniteState ((observeMetrics F x.1).run serve x.2).1.2) ↔
      ∀ x r, Relation.ReflTransGen (CycleStep serve forecasters F) x₀ x →
        Responds serve x.1 x.2 r → Fits F r := by
  constructor
  · intro hfinite x r hx hr
    have hmetrics := (hfinite x r hx hr).metrics
    rcases observeMetrics_cases (F := F) serve x.1 x.2 with ⟨-, hnone⟩ | ⟨r', hours, hr', hs⟩
    · exact absurd hr (hnone r)
    · obtain rfl := hr.unique hr'
      rw [hs] at hmetrics
      exact metrics_finite_iff.mp hmetrics
  · intro hfits x r hx hr
    exact (observation_finite_iff hr (run_finiteBuffers h₀ hfits hx)).mpr (hfits x r hx hr)

end Run

/-! ## Two metrics servers -/

/-- One sample is a number, one is NaN. -/
private def numbersAndNan : (op : PlannerOp) → Unit → PlannerResp op × Unit
  | .getRoleReadyReplicas _, _ => (.ok 1, ())
  | .setReplicas _ _, _ => (.ok (), ())
  | .customQuery _, _ => (.ok [.fin 3, .nan], ())

/-- Prompt tokens were counted in an interval in which no request was. -/
private def tokensWithoutRequests : (op : PlannerOp) → Unit → PlannerResp op × Unit
  | .getRoleReadyReplicas _, _ => (.ok 1, ())
  | .setReplicas _ _, _ => (.ok (), ())
  | .customQuery query, _ =>
      if query = "increase(sglang_prompt_tokens_total[180s])/" ++
          "increase(sglang_num_requests_total[180s])" then (.ok [.posInf], ())
      else (.ok [.fin 1], ())

private def monitoredPlanner : PlannerState :=
  .flat .default (.arima 50 []) 100 1000 40 500

/-- The numbers of the samples fit, whichever queries they answer. -/
private theorem numbersAndNan_fits {s : PlannerState} {r : Responses}
    (h : Responds numbersAndNan s () r) : Fits .binary64 r := by
  obtain ⟨numP, numD, _, _, -, -, rfl⟩ := h
  have hall : ((queryMetrics s).run numbersAndNan ()).1 =
      ⟨.ok [.fin 3, .nan], .ok [.fin 3, .nan], .ok [.fin 3, .nan], .ok [.fin 3, .nan],
        .ok [.fin 3, .nan], .ok [.fin 3, .nan]⟩ := rfl
  have hrange : InRange .binary64 (.ok [.fin 3, .nan]) :=
    avgReading_isFinite_iff.mp (by decide +kernel)
  have hmilliseconds := (@milliseconds_isFinite_iff .binary64 (.ok [.fin 3, .nan])).mp
    (by decide +kernel)
  rw [hall]
  constructor
  · simpa [Responses.all] using hrange
  · simpa using hmilliseconds.2

theorem observations_finite_nan :
    FiniteState ((observeMetrics .binary64 monitoredPlanner).run numbersAndNan ()).1.2 := by
  have hbuffers : FiniteBuffers monitoredPlanner := nofun
  exact (observations_finite_iff numbersAndNan .failing hbuffers).mpr
    (fun _ _ _ hr => numbersAndNan_fits hr) (monitoredPlanner, ()) _ .refl
    ⟨1, 1, (), (), rfl, rfl, rfl⟩

/-- A ratio over no requests is infinite. It becomes the observed input length
and enters the history of the predictor. -/
theorem infinite_ratio_recorded :
    ((observeMetrics .binary64 monitoredPlanner).run tokensWithoutRequests ()).1.1 = .ok () ∧
      ((observeMetrics .binary64 monitoredPlanner).run tokensWithoutRequests
          ()).1.2.lastMetrics.isl = some .posInf ∧
      .posInf ∈ buffered
        ((observeMetrics .binary64 monitoredPlanner).run tokensWithoutRequests ()).1.2 ∧
      ¬ FiniteState
        ((observeMetrics .binary64 monitoredPlanner).run tokensWithoutRequests ()).1.2 := by
  have hrecorded : .posInf ∈ buffered
      ((observeMetrics .binary64 monitoredPlanner).run tokensWithoutRequests ()).1.2 := by
    decide +kernel
  refine ⟨by decide +kernel, by decide +kernel, hrecorded, fun hfinite => ?_⟩
  cases hfinite.buffers _ hrecorded

end RbgPlanner.Properties.InfiniteSamples
