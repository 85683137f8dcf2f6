import RbgPlanner.Controller.Rbac
import RbgPlanner.Controller.Spec

/-!
# Profiling

A profile is a ConfigMap next to the AutoScaler. While it is missing the
operator runs a Job that measures and publishes it.
-/

namespace RbgPlanner.Controller

open Base Base.NumberText

/-- The argument vector of the profiling Job. -/
def profilingArgs (spec : ParsedSpec) (rbgName namespaceName cmName : String) : List String :=
  ["--model-name", spec.modelName,
   "--engine", spec.metricSource,
   "--ttft-sla", fixedOne spec.ttft,
   "--itl-sla", fixedOne spec.itl,
   "--rbg-name", rbgName,
   "--namespace", namespaceName,
   "--output-configmap", cmName]

def profilingJob (ras : AutoScaler) (spec : ParsedSpec) (jobName cmName : String) : Job where
  metadata := { key := ras.sibling jobName, ownerReferences := [ras.ownerRef] }
  backoffLimit := 1
  template :=
    { serviceAccountName := ras.plannerName
      restartPolicy := "Never"
      containers :=
        [{ name := "profiler"
           image := spec.profilingImage
           args := profilingArgs spec ras.name ras.namespaceName cmName }] }

/-- The arguments of the Job that `handleProfiling` creates. -/
def jobArgs (ras : AutoScaler) (spec : ParsedSpec) : List String :=
  (profilingJob ras spec ras.profilingName ras.profilingName).template.containers.flatMap
    Container.args

def createProfilingJob (ras : AutoScaler) (spec : ParsedSpec) (jobName cmName : String) :
    Kube Unit := do
  let _ ← Kube.create .job (profilingJob ras spec jobName cmName)
  return ()

/-- `handleProfiling`: the name of the profile and whether it is there. -/
def handleProfiling (ras : AutoScaler) (spec : ParsedSpec) : Kube (String × Bool) := do
  let cmName := ras.profilingName
  let jobName := ras.profilingName
  match ← Kube.attempt (Kube.get .configMap (ras.sibling cmName)) with
  | .ok _ => return (cmName, true)
  | .error _ =>
      match ← Kube.attempt (Kube.get .job (ras.sibling jobName)) with
      | .error e =>
          if e.reason = .notFound then
            Kube.wrap "create profiling job" (createProfilingJob ras spec jobName cmName)
            return ("", false)
          else throw e
      | .ok job =>
          if 0 < job.succeeded then
            match ← Kube.attempt (Kube.get .configMap (ras.sibling cmName)) with
            | .error _ => throw ⟨.other,
                "profiling job succeeded but ConfigMap " ++ cmName ++ " not found"⟩
            | .ok _ => return (cmName, true)
          else if 0 < job.failed then
            throw ⟨.other, "profiling job " ++ jobName ++ " failed"⟩
          else return ("", false)

end RbgPlanner.Controller
