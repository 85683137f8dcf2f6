import RbgPlanner.Base.Statistics
import RbgPlanner.Planner.Prometheus

/-!
# Observed token demand

The planner multiplies the requests of all engine series by the mean length of
a request. A counter-based adapter takes that mean over the series, whatever
the share of the requests each one has.
-/

namespace RbgPlanner.Properties.TokenDemand

open Base Base.Statistics Planner

/-- The increases of one engine's counters over an interval with traffic. -/
structure Series where
  requests : ℚ
  promptTokens : ℚ
  generationTokens : ℚ
  requests_pos : 0 < requests

namespace Series

variable (e : Series)

/-- Prompt tokens of a request, on average over the engine's own requests. -/
def promptLength : ℚ := e.promptTokens / e.requests

def generationLength : ℚ := e.generationTokens / e.requests

theorem requests_mul_promptLength : e.requests * e.promptLength = e.promptTokens :=
  mul_div_cancel₀ _ e.requests_pos.ne'

theorem requests_mul_generationLength : e.requests * e.generationLength = e.generationTokens :=
  mul_div_cancel₀ _ e.requests_pos.ne'

end Series

/-- A query that returns one sample for each series, in some order. -/
def Samples (series : List Series) (f : Series → ℚ) (response : Except PyExc (List PyFloat)) :
    Prop :=
  ∃ values : List ℚ, response = .ok (values.map .fin) ∧ values.Perm (series.map f)

/-- How the three queries of a counter-based adapter are evaluated on the
series: an increase for each one, and a quotient for each pair with equal labels. -/
structure Evaluates (adapter : PrometheusAdapter) (interval : String) (modelName : Option String)
    (series : List Series) (answer : String → Except PyExc (List PyFloat)) : Prop where
  requests : Samples series Series.requests (answer (PrometheusAdapter.increaseOf
    adapter.metrics.requestsTotal (adapter.buildLabelFilter modelName none) interval))
  promptRatio : Samples series Series.promptLength (answer
    (PrometheusAdapter.increaseOf adapter.metrics.promptTokens
        (adapter.buildLabelFilter modelName none) interval ++ "/" ++
      PrometheusAdapter.increaseOf adapter.metrics.requestsTotal
        (adapter.buildLabelFilter modelName none) interval))
  generationRatio : Samples series Series.generationLength (answer
    (PrometheusAdapter.increaseOf adapter.metrics.generationTokens
        (adapter.buildLabelFilter modelName none) interval ++ "/" ++
      PrometheusAdapter.increaseOf adapter.metrics.requestsTotal
        (adapter.buildLabelFilter modelName none) interval))

/-- A metrics server in front of a query engine. Requests to the connector are refused. -/
def metricsServer (answer : String → Except PyExc (List PyFloat)) :
    (op : PlannerOp) → Unit → PlannerResp op × Unit
  | .getRoleReadyReplicas _, s => (.error (.apiException 404), s)
  | .setReplicas _ _, s => (.error (.apiException 404), s)
  | .customQuery query, s => (answer query, s)

/-- What a getter reads from the server. -/
def reading (answer : String → Except PyExc (List PyFloat)) (getter : PlannerProg PyFloat) :
    PyFloat :=
  (getter.run (metricsServer answer) ()).1

/-- The products the planner sizes the two roles with are the totals over the series. -/
def Conserved (adapter : PrometheusAdapter) (interval : String) (modelName : Option String)
    (series : List Series) (answer : String → Except PyExc (List PyFloat)) : Prop :=
  let count := reading answer (adapter.getRequestCount interval modelName)
  count * reading answer (adapter.getAvgIsl interval modelName) =
      .fin (series.map Series.promptTokens).sum ∧
    count * reading answer (adapter.getAvgOsl interval modelName) =
      .fin (series.map Series.generationTokens).sum

/-! ## The readings -/

/-- The sum of finite floats. -/
theorem sum_map_fin (values : List ℚ) : PyFloat.sum (values.map .fin) = .fin values.sum := by
  have fold : ∀ (values : List ℚ) (a : ℚ),
      (values.map PyFloat.fin).foldl (· + ·) (.fin a) = .fin (a + values.sum) := by
    intro values
    induction values with
    | nil => simp
    | cons v values ih =>
        intro a
        simp only [List.map_cons, List.foldl_cons, PyFloat.fin_add, ih, List.sum_cons, add_assoc]
  rw [PyFloat.sum, fold, zero_add]

theorem filter_map_fin (values : List ℚ) :
    ((values.map PyFloat.fin).filter fun v => !v.isNan) = values.map .fin := by
  rw [List.filter_eq_self]
  intro v hv
  obtain ⟨q, -, rfl⟩ := List.mem_map.mp hv
  rfl

variable {series : List Series} {f : Series → ℚ} {response : Except PyExc (List PyFloat)}

theorem increaseReading_of_samples (h : Samples series f response) :
    increaseReading response = .fin (series.map f).sum := by
  obtain ⟨values, rfl, hperm⟩ := h
  simp only [increaseReading, filter_map_fin, sum_map_fin, hperm.sum_eq]

theorem avgReading_of_samples (h : Samples series f response) :
    avgReading response = .fin (mean series f) := by
  obtain ⟨values, rfl, hperm⟩ := h
  have hlength : values.length = series.length := by simpa using hperm.length_eq
  simp only [avgReading, filter_map_fin, sum_map_fin, List.isEmpty_map, List.length_map,
    List.isEmpty_iff, hperm.sum_eq, hlength, mean]
  split_ifs with hempty
  · have hseries : series.length = 0 := by simpa [hempty] using hlength.symm
    simp [hseries]
  · have hpos : (series.length : ℚ) ≠ 0 := by
      rw [← hlength]
      simpa using hempty
    simp [PyFloat.ofInt, PyFloat.ieeeDiv, hpos]

/-! ## Conservation -/

section Counter

variable {adapter : PrometheusAdapter} {interval : String} {modelName : Option String}
  {answer : String → Except PyExc (List PyFloat)}

theorem reading_getRequestCount (h : Evaluates adapter interval modelName series answer) :
    reading answer (adapter.getRequestCount interval modelName) =
      .fin (series.map Series.requests).sum :=
  increaseReading_of_samples h.requests

variable (hcounter : adapter.histogramTokens = false)
include hcounter

theorem reading_getAvgIsl (h : Evaluates adapter interval modelName series answer) :
    reading answer (adapter.getAvgIsl interval modelName) =
      .fin (mean series Series.promptLength) := by
  simp only [PrometheusAdapter.getAvgIsl, hcounter, Bool.false_eq_true, if_false]
  exact avgReading_of_samples h.promptRatio

theorem reading_getAvgOsl (h : Evaluates adapter interval modelName series answer) :
    reading answer (adapter.getAvgOsl interval modelName) =
      .fin (mean series Series.generationLength) := by
  simp only [PrometheusAdapter.getAvgOsl, hcounter, Bool.false_eq_true, if_false]
  exact avgReading_of_samples h.generationRatio

/-- Tokens are conserved exactly when no engine's share of the requests is
correlated with the length of its requests. -/
theorem conserved_iff (h : Evaluates adapter interval modelName series answer) :
    Conserved adapter interval modelName series answer ↔
      covariation series Series.requests Series.promptLength = 0 ∧
        covariation series Series.requests Series.generationLength = 0 := by
  simp only [Conserved, reading_getRequestCount h, reading_getAvgIsl hcounter h,
    reading_getAvgOsl hcounter h, PyFloat.fin_mul, sum_mul_mean, PyFloat.fin.injEq,
    Series.requests_mul_promptLength, Series.requests_mul_generationLength, sub_eq_self]

end Counter

/-! ## Two engines -/

/-- The evaluation of an adapter's three queries over three minutes. -/
private def evaluated (adapter : PrometheusAdapter) (series : List Series) (query : String) :
    Except PyExc (List PyFloat) :=
  let requests := PrometheusAdapter.increaseOf adapter.metrics.requestsTotal "" "180s"
  if query = requests then .ok (series.map fun e => .fin e.requests)
  else if query =
      PrometheusAdapter.increaseOf adapter.metrics.promptTokens "" "180s" ++ "/" ++ requests then
    .ok (series.map fun e => .fin e.promptLength)
  else .ok (series.map fun e => .fin e.generationLength)

private def engine (requests promptTokens : ℚ) (h : 0 < requests) : Series :=
  ⟨requests, promptTokens, 20 * requests, h⟩

/-- Two engines with equal loads and prompts of unequal length. -/
private def evenly : List Series :=
  [engine 200 20000 (by norm_num), engine 200 200000 (by norm_num)]

/-- Two engines of which the busier one has the shorter prompts. -/
private def unevenly : List Series :=
  [engine 300 30000 (by norm_num), engine 100 100000 (by norm_num)]

private theorem evaluates_evenly :
    Evaluates sglangAdapter "180s" none evenly (evaluated sglangAdapter evenly) where
  requests := ⟨[200, 200], by decide +kernel, by decide +kernel⟩
  promptRatio := ⟨[100, 1000], by decide +kernel, by decide +kernel⟩
  generationRatio := ⟨[20, 20], by decide +kernel, by decide +kernel⟩

private theorem evaluates_unevenly :
    Evaluates sglangAdapter "180s" none unevenly (evaluated sglangAdapter unevenly) where
  requests := ⟨[300, 100], by decide +kernel, by decide +kernel⟩
  promptRatio := ⟨[100, 1000], by decide +kernel, by decide +kernel⟩
  generationRatio := ⟨[20, 20], by decide +kernel, by decide +kernel⟩

/-- Equal loads conserve tokens. -/
theorem conserved_evenly :
    Conserved sglangAdapter "180s" none evenly (evaluated sglangAdapter evenly) :=
  (conserved_iff rfl evaluates_evenly).mpr ⟨by decide +kernel, by decide +kernel⟩

/-- With unequal loads 130000 prompt tokens are taken for 220000. -/
theorem prompt_tokens_not_conserved :
    Evaluates sglangAdapter "180s" none unevenly (evaluated sglangAdapter unevenly) ∧
      (unevenly.map Series.promptTokens).sum = 130000 ∧
      reading (evaluated sglangAdapter unevenly) (sglangAdapter.getRequestCount "180s" none) *
          reading (evaluated sglangAdapter unevenly) (sglangAdapter.getAvgIsl "180s" none) =
        .fin 220000 ∧
      ¬ Conserved sglangAdapter "180s" none unevenly (evaluated sglangAdapter unevenly) := by
  have hproduct : reading (evaluated sglangAdapter unevenly)
        (sglangAdapter.getRequestCount "180s" none) *
      reading (evaluated sglangAdapter unevenly) (sglangAdapter.getAvgIsl "180s" none) =
        .fin 220000 := by decide +kernel
  have htotal : (unevenly.map Series.promptTokens).sum = 130000 := by decide +kernel
  refine ⟨evaluates_unevenly, htotal, hproduct, ?_⟩
  rintro ⟨hprompt, -⟩
  rw [hproduct, htotal] at hprompt
  exact absurd hprompt (by decide +kernel)

end RbgPlanner.Properties.TokenDemand
