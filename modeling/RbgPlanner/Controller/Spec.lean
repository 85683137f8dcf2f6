import Mathlib.Data.Rat.Floor
import RbgPlanner.Base.Json

/-!
# Parsing an AutoScaler

`parseRASSpec` reads the spec of an unstructured object through helpers that
fall back to a default when a field is absent or of another type.
-/

namespace RbgPlanner.Controller

open Base Json

/-! ## Go conversions -/

/-- `int32(n)`. -/
def toInt32 (n : ℤ) : ℤ := n.bmod (2 ^ 32)

/-- `int(n)` of an arithmetic result on a 64-bit machine. -/
def toInt64 (n : ℤ) : ℤ := n.bmod (2 ^ 64)

/-- `int(v)` of a float: the integer part; out of range, what amd64 gives. -/
def intOfFloat (q : ℚ) : ℤ :=
  let n := if 0 ≤ q then ⌊q⌋ else ⌈q⌉
  if -2 ^ 63 ≤ n ∧ n < 2 ^ 63 then n else -2 ^ 63

/-! ## Field helpers -/

def getStrField (m : Option Fields) (key defaultVal : String) : String :=
  match lookup m key with
  | some (.str v) => v
  | _ => defaultVal

def getIntField (m : Option Fields) (key : String) (defaultVal : ℤ) : ℤ :=
  match lookup m key with
  | some (.int v) => v
  | some (.float v) => intOfFloat v
  | _ => defaultVal

def getFloatField (m : Option Fields) (key : String) (defaultVal : ℚ) : ℚ :=
  match lookup m key with
  | some (.float v) => v
  | some (.int v) => v
  | _ => defaultVal

def getBoolField (m : Option Fields) (key : String) : Bool :=
  match lookup m key with
  | some (.bool v) => v
  | _ => false

/-! ## The parsed spec -/

/-- `AutoScalerReconciler`, the operator's settings. -/
structure AutoScalerReconciler where
  plannerImage : String
  profilerImage : String
  prometheusEndpoint : String
  deriving DecidableEq, Repr

def defaultPlannerImage : String := "ghcr.io/rolebasedgroup/rbg-planner:latest"

def defaultProfilerImage : String := "ghcr.io/rolebasedgroup/rbg-profiler:latest"

def defaultPrometheusEndpoint : String :=
  "http://prometheus-kube-prometheus-prometheus.monitoring.svc.cluster.local:9090"

/-- `parsedSpec`. -/
structure ParsedSpec where
  scalingInterval : ℤ
  prefillRoleName : String
  decodeRoleName : String
  prefillMinReplicas : ℤ
  prefillMaxReplicas : ℤ
  decodeMinReplicas : ℤ
  decodeMaxReplicas : ℤ
  plannerImage : String
  modelName : String
  ttft : ℚ
  itl : ℚ
  loadPredictor : String
  predictionWindow : ℤ
  noCorrection : Bool
  dryRun : Bool
  profilingImage : String
  metricSource : String
  metricsPort : ℤ
  prometheusEndpoint : String
  deriving DecidableEq, Repr

/-- A configured value, or the hardcoded one when it is empty. -/
def orDefault (configured default : String) : String :=
  if configured = "" then default else configured

/-- The maps `parseRASSpec` insists on: the spec, `pattern.PDDisaggregated` and
`implementation.DynamoPlanner`. -/
def requiredMaps (spec : Option Json) : Except String (Fields × Fields × Fields) :=
  match asMap spec with
  | none => .error "missing spec"
  | some spec =>
      match asMap (lookup (asMap (lookup spec "pattern")) "PDDisaggregated") with
      | none => .error "pattern.PDDisaggregated is required"
      | some pd =>
          match asMap (lookup (asMap (lookup spec "implementation")) "DynamoPlanner") with
          | none => .error "implementation.DynamoPlanner is required"
          | some dp => .ok (spec, pd, dp)

/-- `parseRASSpec` on the value under the key `spec`. -/
def AutoScalerReconciler.parseRASSpec (r : AutoScalerReconciler) (spec : Option Json) :
    Except String ParsedSpec := do
  let (spec, pd, dp) ← requiredMaps spec
  let prefill := asMap (lookup pd "prefill")
  let decode := asMap (lookup pd "decode")
  let prof := asMap (lookup dp "profiling")
  let me := asMap (lookup dp "metricsEndpoint")
  return {
    scalingInterval := getIntField spec "scalingInterval" 180
    prefillRoleName := getStrField prefill "roleName" "prefill"
    prefillMinReplicas := toInt32 (getIntField prefill "minReplicas" 1)
    prefillMaxReplicas := toInt32 (getIntField prefill "maxReplicas" 1)
    decodeRoleName := getStrField decode "roleName" "decode"
    decodeMinReplicas := toInt32 (getIntField decode "minReplicas" 1)
    decodeMaxReplicas := toInt32 (getIntField decode "maxReplicas" 1)
    plannerImage := orDefault r.plannerImage defaultPlannerImage
    modelName := getStrField dp "modelName" ""
    ttft := getFloatField dp "ttft" 500
    itl := getFloatField dp "itl" 50
    loadPredictor := getStrField dp "loadPredictor" "arima"
    predictionWindow := getIntField dp "predictionWindow" 50
    noCorrection := getBoolField dp "noCorrection"
    dryRun := getBoolField dp "dryRun"
    profilingImage := getStrField prof "image" (orDefault r.profilerImage defaultProfilerImage)
    metricSource := getStrField me "metricSource" "sglang"
    metricsPort := getIntField me "port" 9091
    prometheusEndpoint := orDefault r.prometheusEndpoint defaultPrometheusEndpoint }

/-- The parsed spec of which every field is a fallback. -/
def ParsedSpec.fallback : ParsedSpec where
  scalingInterval := 180
  prefillRoleName := "prefill"
  decodeRoleName := "decode"
  prefillMinReplicas := 1
  prefillMaxReplicas := 1
  decodeMinReplicas := 1
  decodeMaxReplicas := 1
  plannerImage := defaultPlannerImage
  modelName := ""
  ttft := 500
  itl := 50
  loadPredictor := "arima"
  predictionWindow := 50
  noCorrection := false
  dryRun := false
  profilingImage := defaultProfilerImage
  metricSource := "sglang"
  metricsPort := 9091
  prometheusEndpoint := defaultPrometheusEndpoint

/-- An operator without settings parses the required maps, left empty, to the fallbacks. -/
theorem parseRASSpec_empty :
    (⟨"", "", ""⟩ : AutoScalerReconciler).parseRASSpec
        (some (.obj [("pattern", .obj [("PDDisaggregated", .obj [])]),
          ("implementation", .obj [("DynamoPlanner", .obj [])])])) = .ok .fallback := rfl

variable (r : AutoScalerReconciler) {spec : Option Json}

/-- Whether a spec parses depends on the three required maps only. -/
theorem parseRASSpec_eq_ok_iff :
    (∃ s, r.parseRASSpec spec = .ok s) ↔
      ∃ fields, spec = some (.obj fields) ∧
        (∃ pd, asMap (lookup (asMap (lookup fields "pattern")) "PDDisaggregated") = some pd) ∧
        ∃ dp, asMap (lookup (asMap (lookup fields "implementation")) "DynamoPlanner") =
          some dp := by
  unfold AutoScalerReconciler.parseRASSpec requiredMaps
  cases hspec : asMap spec with
  | none =>
      have hno : ∀ fields, spec ≠ some (.obj fields) := fun fields h => by simp [h] at hspec
      simp [bind, Except.bind, hno]
  | some fields =>
      obtain rfl := asMap_eq_some.mp hspec
      cases hpd : asMap (lookup (asMap (lookup fields "pattern")) "PDDisaggregated") with
      | none => simp [hpd, bind, Except.bind]
      | some pd =>
          cases hdp : asMap (lookup (asMap (lookup fields "implementation")) "DynamoPlanner") with
          | none => simp [hpd, hdp, bind, Except.bind]
          | some dp => simp [hpd, hdp, bind, Except.bind, pure, Except.pure]

end RbgPlanner.Controller
