import RbgPlanner.Controller.Deployment
import RbgPlanner.Controller.Profiling

/-!
# Reconciling an AutoScaler

One pass of the operator: parse the spec, finish a deletion, hold the
finalizer, and bring access control, profile, Deployment and status in line.
-/

namespace RbgPlanner.Controller

open Base Json

def finalizerName : String := "inference-extension.rolebasedgroup.io/finalizer"

/-- `time.Second`, in nanoseconds. -/
def second : ℤ := 10 ^ 9

/-- `ctrl.Result`, the nanoseconds until the next pass. -/
structure ReconcileResult where
  requeueAfter : ℤ := 0
  deriving DecidableEq, Repr

/-! ## Status -/

def boolToConditionStatus (b : Bool) : String := if b then "True" else "False"

/-- `m[key] = value`. -/
def setField (fields : Fields) (key : String) (value : Json) : Fields :=
  (key, value) :: fields.filter fun field => field.1 != key

/-- The single condition of a status. -/
def readyCondition (status now reason message : String) : Json :=
  .obj [("type", .str "Ready"), ("status", .str status), ("lastTransitionTime", .str now),
    ("reason", .str reason), ("message", .str message)]

/-- The status `setPhase` writes. The other fields of the old one stay. -/
def phaseStatus (now : String) (old : Option Json) (phase reason message : String) : Json :=
  let status := setField ((asMap old).getD []) "phase" (.str phase)
  .obj (setField status "conditions"
    (.arr [readyCondition (boolToConditionStatus (phase == "Ready")) now reason message]))

/-- `setPhase`. -/
def setPhase (now : String) (ras : AutoScaler) (phase reason message : String) : Kube Unit := do
  let _ ← Kube.updateStatus
    { ras with status := some (phaseStatus now ras.status phase reason message) }
  return ()

/-- `getRoleReadyReplicas`: the first status of that name decides. -/
def getRoleReadyReplicas (rbg : RoleBasedGroup) (roleName : String) : ℤ :=
  match rbg.object.nestedSlice ["status", "roleStatuses"] with
  | none => 0
  | some statuses =>
      match statuses.find? fun status =>
        (asMap (some status)).isSome && (status.nestedString ["name"]).getD "" == roleName with
      | none => 0
      | some status => toInt32 ((status.nestedInt ["readyReplicas"]).getD 0)

/-- The status of a running planner. -/
def readyStatus (now : String) (ras : AutoScaler) (rbg : RoleBasedGroup) (spec : ParsedSpec)
    (profilingCM : String) : Json :=
  .obj
    [("phase", .str "Ready"),
     ("prefillReplicas", .int (getRoleReadyReplicas rbg spec.prefillRoleName)),
     ("decodeReplicas", .int (getRoleReadyReplicas rbg spec.decodeRoleName)),
     ("profilingConfigMap", .str profilingCM),
     ("plannerDeployment", .str ras.plannerName),
     ("lastTransitionTime", .str now),
     ("conditions", .arr
       [readyCondition "True" now "PlannerRunning" "Planner deployment is running"])]

/-- `updateReadyStatus`. -/
def updateReadyStatus (now : String) (ras : AutoScaler) (rbg : RoleBasedGroup)
    (spec : ParsedSpec) (profilingCM : String) : Kube Unit := do
  let _ ← Kube.updateStatus
    { ras with status := some (readyStatus now ras rbg spec profilingCM) }
  return ()

/-! ## Finalizer -/

namespace AutoScaler

variable (ras : AutoScaler)

/-- `controllerutil.ContainsFinalizer`. -/
def containsFinalizer : Bool := ras.metadata.finalizers.contains finalizerName

/-- `controllerutil.AddFinalizer`. -/
def addFinalizer : AutoScaler :=
  { ras with metadata := { ras.metadata with
      finalizers := ras.metadata.finalizers ++ [finalizerName] } }

/-- `controllerutil.RemoveFinalizer`. -/
def removeFinalizer : AutoScaler :=
  { ras with metadata := { ras.metadata with
      finalizers := ras.metadata.finalizers.filter (· != finalizerName) } }

end AutoScaler

/-! ## The pass -/

/-- The deletion branch: clean up and let the object go. -/
def finishDeletion (ras : AutoScaler) : Kube ReconcileResult := do
  if ras.containsFinalizer then
    cleanupClusterResources ras
    let _ ← Kube.update .autoScaler ras.removeFinalizer
    return {}
  else return {}

/-- The object with the finalizer, as the API server returns it. -/
def holdFinalizer (ras : AutoScaler) : Kube AutoScaler :=
  if ras.containsFinalizer then pure ras else Kube.update .autoScaler ras.addFinalizer

/-- Profile, Deployment and status, once access control is in place. -/
def reconcileWorkload (now : String) (ras : AutoScaler) (spec : ParsedSpec)
    (rbg : RoleBasedGroup) (prefillGPUs decodeGPUs : ℤ) : Kube ReconcileResult := do
  match ← Kube.attempt (handleProfiling ras spec) with
  | .error e =>
      let _ ← Kube.attempt (setPhase now ras "Failed" "ProfilingFailed" e.message)
      throw e
  | .ok (_, false) =>
      let _ ← Kube.attempt
        (setPhase now ras "Initializing" "ProfilingInProgress" "Profiling Job is running")
      return { requeueAfter := 30 * second }
  | .ok (profilingCM, true) =>
      ensurePlannerDeployment ras spec profilingCM prefillGPUs decodeGPUs
      updateReadyStatus now ras rbg spec profilingCM
      return { requeueAfter := toInt64 (spec.scalingInterval * second) }

/-- Everything after the target was found. -/
def reconcileTarget (now : String) (ras : AutoScaler) (spec : ParsedSpec)
    (rbg : RoleBasedGroup) : Kube ReconcileResult := do
  let (prefillGPUs, decodeGPUs) := getGPUsFromRBG rbg spec.prefillRoleName spec.decodeRoleName
  ensureRBAC ras
  reconcileWorkload now ras spec rbg prefillGPUs decodeGPUs

/-- The target could not be read. -/
def targetMissing (now : String) (ras : AutoScaler) (e : ApiError) : Kube ReconcileResult := do
  if e.reason = .notFound then
    Kube.event "Warning" "RBGNotFound"
      ("RoleBasedGroup " ++ ras.namespaceName ++ "/" ++ ras.name ++ " not found")
    let _ ← Kube.attempt (setPhase now ras "Pending" "RBGNotFound"
      ("Waiting for RoleBasedGroup " ++ ras.name ++ " to exist"))
    return { requeueAfter := 30 * second }
  else throw e

/-- The pass of an AutoScaler that is not being deleted. The target has its name. -/
def reconcileLive (now : String) (ras : AutoScaler) (spec : ParsedSpec) :
    Kube ReconcileResult := do
  let ras ← holdFinalizer ras
  match ← Kube.attempt (Kube.get .roleBasedGroup (ras.sibling ras.name)) with
  | .error e => targetMissing now ras e
  | .ok rbg => reconcileTarget now ras spec rbg

/-- `Reconcile`. The spec is parsed before anything else is looked at. -/
def AutoScalerReconciler.reconcile (r : AutoScalerReconciler) (now : String)
    (req : NamespacedName) : Kube ReconcileResult := do
  match ← Kube.attempt (Kube.get .autoScaler req) with
  | .error e => if e.reason = .notFound then return {} else throw e
  | .ok ras =>
      match r.parseRASSpec ras.spec with
      | .error message =>
          setPhase now ras "Failed" "InvalidSpec" message
          return {}
      | .ok spec =>
          if ras.metadata.deletionTimestamp.isSome then finishDeletion ras
          else reconcileLive now ras spec

end RbgPlanner.Controller
