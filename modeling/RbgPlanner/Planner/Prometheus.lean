import RbgPlanner.Planner.Connector

/-!
# Prometheus metrics adapter

An adapter maps each reading of the planner to a PromQL query. A reading is a
number whatever the query does: a query that raises, returns no series or
returns only NaN reads as zero. Sums and means are exact here.
-/

namespace RbgPlanner.Planner

open Base

/-- `MetricNames`, the names of one inference engine's metrics. -/
structure MetricNames where
  ttft : String
  itl : String
  requestDuration : String
  requestsTotal : String
  promptTokens : String
  generationTokens : String
  modelLabel : String
  deriving DecidableEq, Repr

/-- A `PrometheusAdapter`. The flag tells the adapter that reads the sequence
lengths from histograms. -/
structure PrometheusAdapter where
  metrics : MetricNames
  histogramTokens : Bool := false
  deriving DecidableEq, Repr

def sglangAdapter : PrometheusAdapter where
  metrics :=
    { ttft := "sglang_time_to_first_token_seconds"
      itl := "sglang_inter_token_latency_seconds"
      requestDuration := "sglang_e2e_request_latency_seconds"
      requestsTotal := "sglang_num_requests_total"
      promptTokens := "sglang_prompt_tokens_total"
      generationTokens := "sglang_generation_tokens_total"
      modelLabel := "model_name" }

def vllmAdapter : PrometheusAdapter where
  metrics :=
    { ttft := "vllm:time_to_first_token_seconds"
      itl := "vllm:time_per_output_token_seconds"
      requestDuration := "vllm:e2e_request_latency_seconds"
      requestsTotal := "vllm:num_requests_total"
      promptTokens := "vllm:prompt_tokens_total"
      generationTokens := "vllm:generation_tokens_total"
      modelLabel := "model_name" }

def patioAdapter : PrometheusAdapter where
  metrics :=
    { ttft := "patio:time_to_first_token_seconds"
      itl := "patio:inter_token_latency_seconds"
      requestDuration := "patio:request_duration_seconds"
      requestsTotal := "patio:requests_total"
      promptTokens := "patio:prompt_tokens_total"
      generationTokens := "patio:generation_tokens_total"
      modelLabel := "model_name" }

def dynamoAdapter : PrometheusAdapter where
  metrics :=
    { ttft := "dynamo_frontend_time_to_first_token_seconds"
      itl := "dynamo_frontend_inter_token_latency_seconds"
      requestDuration := "dynamo_frontend_request_duration_seconds"
      requestsTotal := "dynamo_frontend_requests_total"
      promptTokens := "dynamo_frontend_input_sequence_tokens"
      generationTokens := "dynamo_frontend_output_sequence_tokens"
      modelLabel := "model" }
  histogramTokens := true

/-- `create_metrics_adapter`. -/
def createMetricsAdapter (source : String) : Except PyExc PrometheusAdapter :=
  if source = "sglang" then .ok sglangAdapter
  else if source = "vllm" then .ok vllmAdapter
  else if source = "dynamo" then .ok dynamoAdapter
  else if source = "patio" then .ok patioAdapter
  else .error .valueError

/-! ## What a response reads as -/

/-- The value `_exec_avg` returns for a response: the mean of the series that are not NaN. -/
def avgReading : Except PyExc (List PyFloat) → PyFloat
  | .error _ => .fin 0
  | .ok result =>
      let values := result.filter fun v => !v.isNan
      if values.isEmpty then .fin 0
      else (PyFloat.sum values).ieeeDiv (.ofInt values.length)

/-- The value `_query_increase` returns for a response: the sum of the series that are not NaN. -/
def increaseReading : Except PyExc (List PyFloat) → PyFloat
  | .error _ => .fin 0
  | .ok result => PyFloat.sum (result.filter fun v => !v.isNan)

/-- A response that observes nothing: the query raised, or no series has a
value other than NaN. The empty list is included. -/
def failedResponse : Except PyExc (List PyFloat) → Bool
  | .error _ => true
  | .ok result => result.all PyFloat.isNan

/-! ## Queries -/

namespace PrometheusAdapter

variable (self : PrometheusAdapter)

/-- `_build_label_filter`. -/
def buildLabelFilter (modelName role : Option String) : String :=
  let matcher := fun (label : String) (value : Option String) =>
    match value with
    | some v => if v = "" then [] else [label ++ "=\"" ++ v ++ "\""]
    | none => []
  let filters := matcher self.metrics.modelLabel modelName ++ matcher "role" role
  if filters.isEmpty then "" else "\x7b" ++ ",".intercalate filters ++ "\x7d"

/-- `increase(metric[interval])` on the series of a label filter. -/
def increaseOf (metric labelFilter interval : String) : String :=
  "increase(" ++ metric ++ labelFilter ++ "[" ++ interval ++ "])"

/-- `_exec_avg`. -/
def execAvg (query : String) : PlannerProg PyFloat := do
  let response ← Prog.request (.customQuery query)
  return avgReading response

/-- The query of `_query_avg_metric`: the mean of a histogram. -/
def avgMetricQuery (metricName interval : String) (modelName : Option String) : String :=
  let lf := self.buildLabelFilter modelName none
  increaseOf (metricName ++ "_sum") lf interval ++ "/" ++
    increaseOf (metricName ++ "_count") lf interval

/-- The query of `_query_increase`: the increase of a counter. -/
def increaseQuery (metricName interval : String) (modelName : Option String) : String :=
  increaseOf metricName (self.buildLabelFilter modelName none) interval

/-- The query of `_query_counter_ratio`: the ratio of two counter increases. -/
def counterRatioQuery (numerator denominator interval : String) (modelName : Option String) :
    String :=
  let lf := self.buildLabelFilter modelName none
  increaseOf numerator lf interval ++ "/" ++ increaseOf denominator lf interval

def queryAvgMetric (metricName interval : String) (modelName : Option String) :
    PlannerProg PyFloat :=
  execAvg (self.avgMetricQuery metricName interval modelName)

/-- `_query_increase`, over all series. -/
def queryIncrease (metricName interval : String) (modelName : Option String) :
    PlannerProg PyFloat := do
  let response ← Prog.request (.customQuery (self.increaseQuery metricName interval modelName))
  return increaseReading response

def queryCounterRatio (numerator denominator interval : String) (modelName : Option String) :
    PlannerProg PyFloat :=
  execAvg (self.counterRatioQuery numerator denominator interval modelName)

variable (interval : String) (modelName : Option String)

def getAvgTtft : PlannerProg PyFloat :=
  self.queryAvgMetric self.metrics.ttft interval modelName

def getAvgItl : PlannerProg PyFloat :=
  self.queryAvgMetric self.metrics.itl interval modelName

def getAvgRequestDuration : PlannerProg PyFloat :=
  self.queryAvgMetric self.metrics.requestDuration interval modelName

def getRequestCount : PlannerProg PyFloat :=
  self.queryIncrease self.metrics.requestsTotal interval modelName

def getAvgIsl : PlannerProg PyFloat :=
  if self.histogramTokens then
    self.queryAvgMetric self.metrics.promptTokens interval modelName
  else
    self.queryCounterRatio self.metrics.promptTokens self.metrics.requestsTotal interval modelName

def getAvgOsl : PlannerProg PyFloat :=
  if self.histogramTokens then
    self.queryAvgMetric self.metrics.generationTokens interval modelName
  else
    self.queryCounterRatio self.metrics.generationTokens self.metrics.requestsTotal interval
      modelName

/-- The query of a sequence length. -/
def tokensQuery (tokens : String) : String :=
  if self.histogramTokens then self.avgMetricQuery tokens interval modelName
  else self.counterRatioQuery tokens self.metrics.requestsTotal interval modelName

theorem getAvgIsl_eq : self.getAvgIsl interval modelName =
    execAvg (self.tokensQuery interval modelName self.metrics.promptTokens) := by
  unfold getAvgIsl tokensQuery
  split_ifs <;> rfl

theorem getAvgOsl_eq : self.getAvgOsl interval modelName =
    execAvg (self.tokensQuery interval modelName self.metrics.generationTokens) := by
  unfold getAvgOsl tokensQuery
  split_ifs <;> rfl

end PrometheusAdapter

end RbgPlanner.Planner
