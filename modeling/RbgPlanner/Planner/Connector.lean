import RbgPlanner.Base.Interaction
import RbgPlanner.Base.PyFloat

/-!
# The connector interface of the planner

What the planner asks of the connector that applies its decisions, and the
exceptions that can come back.
-/

namespace RbgPlanner.Planner

open Base

/-- `TargetReplica`. -/
structure TargetReplica where
  roleName : String
  desiredReplicas : ℤ
  deriving DecidableEq, Repr

/-- Exceptions of the planner process: its own classes, the Kubernetes
client's, and the built-in ones. -/
inductive PlannerExc
  | rbgNotFound (rbgName namespaceName : String)
  | roleNotFound (roleName rbgName : String)
  | deploymentNotReady (rbgName : String)
  | emptyTargetReplicas
  | profilingDataNotFound (path : String)
  | apiException (status : ℕ)
  | builtin (e : PyExc)
  deriving DecidableEq, Repr

/-- The message each of the planner's exception classes carries. -/
def PlannerExc.message : PlannerExc → String
  | rbgNotFound name ns => "RoleBasedGroup '" ++ name ++ "' not found in namespace '" ++ ns ++ "'"
  | roleNotFound role rbg => "Role '" ++ role ++ "' not found in RoleBasedGroup '" ++ rbg ++ "'"
  | deploymentNotReady rbg => "RoleBasedGroup '" ++ rbg ++ "' is not ready"
  | emptyTargetReplicas => "Target replicas list cannot be empty"
  | profilingDataNotFound path =>
      "Profiling data not found at '" ++ path ++ "'. Please generate profiling data using " ++
        "inference-ext-cli generate-profiling and mount it as a ConfigMap."
  | apiException status => "(" ++ toString status ++ ")"
  | builtin _ => ""

/-- The requests a planning cycle issues: the connector's methods, and the
query of the metrics client. -/
inductive PlannerOp
  | getRoleReadyReplicas (roleName : String)
  | setReplicas (targets : List TargetReplica) (blocking : Bool)
  | customQuery (query : String)
  deriving DecidableEq, Repr

/-- A query returns the sample values of its series. -/
abbrev PlannerResp : PlannerOp → Type
  | .getRoleReadyReplicas _ => Except PlannerExc ℤ
  | .setReplicas _ _ => Except PlannerExc Unit
  | .customQuery _ => Except PyExc (List PyFloat)

instance : (op : PlannerOp) → DecidableEq (PlannerResp op)
  | .getRoleReadyReplicas _ => inferInstanceAs (DecidableEq (Except PlannerExc ℤ))
  | .setReplicas _ _ => inferInstanceAs (DecidableEq (Except PlannerExc Unit))
  | .customQuery _ => inferInstanceAs (DecidableEq (Except PyExc (List PyFloat)))

abbrev PlannerProg := Prog PlannerOp PlannerResp

abbrev PlannerEvent := Prog.Event PlannerOp PlannerResp

end RbgPlanner.Planner
