import RbgPlanner.Base.Handlers
import RbgPlanner.Planner.Cycle
import RbgPlanner.Planner.ScalingApi

/-!
# The API calls of a cycle

The planning cycle over the calls that its connector makes, which calls fail,
and on which answers a method of the connector does not raise.
-/

namespace RbgPlanner.Planner

open Base Prog

/-! ## The calls -/

/-- The calls of the planner process: to the Kubernetes API, and queries of metrics. -/
inductive ApiOp
  | rbg (op : RbgOp)
  | query (query : String)
  deriving DecidableEq, Repr

abbrev ApiResp : ApiOp → Type
  | .rbg op => RbgResp op
  | .query _ => Except PyExc (List PyFloat)

def ApiOp.call (op : ApiOp) : Prog ApiOp ApiResp (ApiResp op) := Prog.request op

/-- A program of the connector among the calls of the planner. -/
def connectorCalls {α : Type} (p : RbgProg α) : Prog ApiOp ApiResp α :=
  p.interp fun op => (ApiOp.rbg op).call

namespace RBGConnector

/-- The planner's requests as calls. -/
def answer (connector : RBGConnector) : (op : PlannerOp) → Prog ApiOp ApiResp (PlannerResp op)
  | .getRoleReadyReplicas roleName =>
      connectorCalls (ExceptT.run (connector.getRoleReadyReplicas roleName))
  | .setReplicas targets blocking =>
      connectorCalls (ExceptT.run (connector.setReplicas targets blocking))
  | .customQuery query => (ApiOp.query query).call

end RBGConnector

namespace RBGConnector

variable {connector : RBGConnector} {rbg : Rbg} {roleName : String} {n : ℤ}

/-! ## Methods end at a failing call -/

section Success

variable {connector : RBGConnector} {rbg : Rbg} {roleName : String} {n : ℤ} {σ α : Type}
  {serve : (op : RbgOp) → σ → RbgResp op × σ} {w : σ}

end Success
end RBGConnector

/-! ## A cycle ends at a failing call -/

namespace PlannerState

open PrometheusAdapter

variable {s : PlannerState} {forecasters : Forecasters}

end PlannerState

end RbgPlanner.Planner
