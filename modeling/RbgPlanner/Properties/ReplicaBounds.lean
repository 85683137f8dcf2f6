import RbgPlanner.Controller.Admission
import RbgPlanner.Controller.Environment
import RbgPlanner.Planner.Requirements

/-!
# Declared replica bounds

The operator sends one minimum, prefill's, and the planner applies it to both
roles. This module follows the bounds of a spec through the environment to the
decode target and decides when the declared decode bounds hold.
-/

namespace RbgPlanner.Properties.ReplicaBounds

open Base Base.Rounding Controller Planner

/-- Bounds as the schema admits them, in order. -/
structure DeclaredBounds (spec : ParsedSpec) : Prop where
  prefillMin : 1 ≤ spec.prefillMinReplicas
  prefill : spec.prefillMinReplicas ≤ spec.prefillMaxReplicas
  decodeMin : 1 ≤ spec.decodeMinReplicas
  decode : spec.decodeMinReplicas ≤ spec.decodeMaxReplicas

/-- What a spec and a RoleBasedGroup are deployed as. -/
structure Deployed where
  rbgName : String
  namespaceName : String
  prefillGPUs : ℤ
  decodeGPUs : ℤ
  prefillGPUs_pos : 1 ≤ prefillGPUs
  decodeGPUs_pos : 1 ≤ decodeGPUs

namespace Deployed

variable (target : Deployed) (spec : ParsedSpec)

/-- The environment of the planner's container. -/
def env : List EnvVar :=
  buildPlannerEnv target.rbgName spec target.namespaceName
    (maxGPUBudget spec target.prefillGPUs target.decodeGPUs) target.prefillGPUs target.decodeGPUs

/-- The configuration in it. -/
def config : PlannerConfig :=
  deployedConfig target.rbgName spec target.namespaceName
    (maxGPUBudget spec target.prefillGPUs target.decodeGPUs) target.prefillGPUs target.decodeGPUs

end Deployed

variable {target : Deployed} {spec : ParsedSpec}

/-- An admitted spec whose minima are below its maxima declares such bounds. -/
theorem declaredBounds_of_admitted {v stored : Json} {r : AutoScalerReconciler}
    (hadmitted : Api.autoScalerSpec.admitted v = some stored)
    (hparse : r.parseRASSpec (some stored) = .ok spec)
    (hp : spec.prefillMinReplicas ≤ spec.prefillMaxReplicas)
    (hd : spec.decodeMinReplicas ≤ spec.decodeMaxReplicas) : DeclaredBounds spec :=
  ⟨(replicas_of_admitted hadmitted hparse).1.1, hp,
    (replicas_of_admitted hadmitted hparse).2.1, hd⟩

/-! ## The budget step -/

end RbgPlanner.Properties.ReplicaBounds
