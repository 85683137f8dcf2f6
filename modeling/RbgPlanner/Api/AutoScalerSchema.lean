import RbgPlanner.Base.StructuralSchema

/-!
# The AutoScaler schema

The spec part of the CustomResourceDefinition, with its defaults, enumerations
and bounds.
-/

namespace RbgPlanner.Api

open Base

/-- A role's scaling configuration. Both roles of a PDDisaggregated pattern have it. -/
def roleScalingConfig : Schema :=
  .object
    [("maxReplicas", none, .integer true (some 1)),
     ("minReplicas", some (.int 1), .integer true (some 1)),
     ("roleName", some (.str "prefill"), .string [])]
    ["maxReplicas", "minReplicas", "roleName"]

def pdDisaggregatedPattern : Schema :=
  .object [("decode", none, roleScalingConfig), ("prefill", none, roleScalingConfig)]
    ["decode", "prefill"]

def unifiedPattern : Schema :=
  .object
    [("maxReplicas", none, .integer true (some 1)),
     ("minReplicas", some (.int 1), .integer true (some 1)),
     ("roleName", none, .string [])]
    ["maxReplicas", "minReplicas", "roleName"]

def pattern : Schema :=
  .object [("PDDisaggregated", none, pdDisaggregatedPattern), ("Unified", none, unifiedPattern)] []

def metricsEndpointConfig : Schema :=
  .object
    [("metricSource", some (.str "sglang"), .string ["sglang", "vllm", "patio"]),
     ("port", some (.int 9091), .integer false none)]
    []

def profilingConfig : Schema := .object [("image", none, .string [])] []

def dynamoPlannerConfig : Schema :=
  .object
    [("dryRun", none, .boolean),
     ("itl", some (.int 50), .number),
     ("loadPredictor", some (.str "arima"), .string ["arima", "constant", "prophet"]),
     ("metricsEndpoint", none, metricsEndpointConfig),
     ("modelName", none, .string []),
     ("noCorrection", none, .boolean),
     ("predictionWindow", some (.int 50), .integer false none),
     ("profiling", none, profilingConfig),
     ("ttft", some (.int 500), .number)]
    []

def implementation : Schema := .object [("DynamoPlanner", none, dynamoPlannerConfig)] []

def autoScalerSpec : Schema :=
  .object
    [("implementation", none, implementation),
     ("pattern", none, pattern),
     ("scalingInterval", some (.int 180), .integer false none)]
    ["implementation", "pattern"]

/-- Every default passes the validation of its field. -/
theorem autoScalerSpec_defaultsValid : autoScalerSpec.defaultsValid = true := by decide

end RbgPlanner.Api
