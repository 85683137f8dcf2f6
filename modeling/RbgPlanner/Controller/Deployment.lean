import RbgPlanner.Controller.Rbac
import RbgPlanner.Controller.Spec

/-!
# The planner Deployment

The GPUs of one engine come from the pod templates of the RoleBasedGroup, the
budget from the maxima of the spec, and both reach the planner through its
environment.
-/

namespace RbgPlanner.Controller

open Base Base.NumberText Planner

/-! ## GPUs of an engine -/

/-- The request of one container, as a string or as an integer. -/
def containerGPURequest (container : Json) : Option ℤ :=
  match (container.nestedString ["resources", "requests", "nvidia.com/gpu"]).bind atoi with
  | some v => some v
  | none => container.nestedInt ["resources", "requests", "nvidia.com/gpu"]

/-- `extractGPURequest`: the first container that names a number decides. -/
def extractGPURequest (role : Json) : ℤ :=
  match role.nestedSlice ["template", "spec", "containers"] with
  | none => 0
  | some containers => (containers.findSome? containerGPURequest).getD 0

/-- One role of the loop in `getGPUsFromRBG`. -/
def assignGPUs (prefillRole decodeRole : String) (gpus : ℤ × ℤ) (role : Json) : ℤ × ℤ :=
  match role with
  | .obj _ =>
      let roleName := (role.nestedString ["name"]).getD ""
      let n := extractGPURequest role
      if 0 < n then
        if roleName = prefillRole then (n, gpus.2)
        else if roleName = decodeRole then (gpus.1, n)
        else gpus
      else gpus
  | _ => gpus

/-- `getGPUsFromRBG`. -/
def getGPUsFromRBG (rbg : RoleBasedGroup) (prefillRole decodeRole : String) : ℤ × ℤ :=
  match rbg.object.nestedSlice ["spec", "roles"] with
  | none => (1, 1)
  | some roles => roles.foldl (assignGPUs prefillRole decodeRole) (1, 1)

/-! ## Environment -/

/-- The GPU budget: both maxima in GPUs, in 64-bit arithmetic. -/
def maxGPUBudget (spec : ParsedSpec) (prefillGPUs decodeGPUs : ℤ) : ℤ :=
  toInt64 (spec.prefillMaxReplicas * prefillGPUs + spec.decodeMaxReplicas * decodeGPUs)

def buildPlannerEnv (rbgName : String) (spec : ParsedSpec) (namespaceName : String)
    (maxGPUBudget prefillGPUs decodeGPUs : ℤ) : List EnvVar :=
  [⟨"RBG_NAME", rbgName⟩,
   ⟨"RBG_NAMESPACE", namespaceName⟩,
   ⟨"PREFILL_ROLE_NAME", spec.prefillRoleName⟩,
   ⟨"DECODE_ROLE_NAME", spec.decodeRoleName⟩,
   ⟨"PROMETHEUS_ENDPOINT", spec.prometheusEndpoint⟩,
   ⟨"METRIC_SOURCE", spec.metricSource⟩,
   ⟨"MODEL_NAME", spec.modelName⟩,
   ⟨"ADJUSTMENT_INTERVAL", itoa spec.scalingInterval⟩,
   ⟨"MAX_GPU_BUDGET", itoa maxGPUBudget⟩,
   ⟨"MIN_REPLICAS", itoa spec.prefillMinReplicas⟩,
   ⟨"MAX_PREFILL_REPLICAS", itoa spec.prefillMaxReplicas⟩,
   ⟨"MAX_DECODE_REPLICAS", itoa spec.decodeMaxReplicas⟩,
   ⟨"PREFILL_ENGINE_NUM_GPU", itoa prefillGPUs⟩,
   ⟨"DECODE_ENGINE_NUM_GPU", itoa decodeGPUs⟩,
   ⟨"TTFT_SLA", fixedOne spec.ttft⟩,
   ⟨"ITL_SLA", fixedOne spec.itl⟩,
   ⟨"LOAD_PREDICTOR", spec.loadPredictor⟩,
   ⟨"LOAD_PREDICTION_WINDOW_SIZE", itoa spec.predictionWindow⟩,
   ⟨"NO_CORRECTION", formatBool spec.noCorrection⟩,
   ⟨"NO_OPERATION", formatBool spec.dryRun⟩,
   ⟨"PROFILE_RESULTS_DIR", "/etc/rbg-planner/profiling"⟩,
   ⟨"PLANNER_PROMETHEUS_PORT", itoa spec.metricsPort⟩]

/-! ## The Deployment -/

def plannerLabels (name : String) : List (String × String) :=
  [("app.kubernetes.io/name", "rbg-planner"), ("app.kubernetes.io/instance", name)]

def plannerPodSpec (ras : AutoScaler) (spec : ParsedSpec) (profilingCM : String)
    (prefillGPUs decodeGPUs : ℤ) : PodSpec where
  serviceAccountName := ras.plannerName
  containers :=
    [{ name := "planner"
       image := spec.plannerImage
       env := buildPlannerEnv ras.name spec ras.namespaceName
         (maxGPUBudget spec prefillGPUs decodeGPUs) prefillGPUs decodeGPUs
       ports := [{ name := "metrics", containerPort := toInt32 spec.metricsPort,
                   protocol := "TCP" }]
       volumeMounts := [{ name := "profiling", mountPath := "/etc/rbg-planner/profiling",
                          readOnly := true }] }]
  volumes := [{ name := "profiling", configMap := profilingCM }]

def plannerDeployment (ras : AutoScaler) (spec : ParsedSpec) (profilingCM : String)
    (prefillGPUs decodeGPUs : ℤ) : Deployment where
  metadata := { key := ras.sibling ras.plannerName, ownerReferences := [ras.ownerRef] }
  replicas := 1
  matchLabels := plannerLabels ras.name
  templateLabels := plannerLabels ras.name
  template := plannerPodSpec ras spec profilingCM prefillGPUs decodeGPUs

/-- `ensurePlannerDeployment`: create it, or update it when the pod spec differs. -/
def ensurePlannerDeployment (ras : AutoScaler) (spec : ParsedSpec) (profilingCM : String)
    (prefillGPUs decodeGPUs : ℤ) : Kube Unit := do
  let desired := plannerDeployment ras spec profilingCM prefillGPUs decodeGPUs
  match ← Kube.attempt (Kube.get .deployment (ras.sibling ras.plannerName)) with
  | .error e =>
      if e.reason = .notFound then
        let _ ← Kube.create .deployment desired
        return ()
      else throw e
  | .ok existing =>
      if existing.template ≠ desired.template then
        let _ ← Kube.update .deployment { desired with metadata := existing.metadata }
        return ()
      else return ()

end RbgPlanner.Controller
