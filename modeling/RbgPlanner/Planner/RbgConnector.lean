import RbgPlanner.Planner.Config
import RbgPlanner.Planner.Connector

/-!
# The RoleBasedGroup connector

`RBGConnector` applies decisions to a RoleBasedGroup: each role through its
scaling adapter when there is one, else by a patch of the role itself.
-/

namespace RbgPlanner.Planner

open Base

/-- A role of a RoleBasedGroup as the client returns it. -/
structure RbgRole where
  name : String
  replicas : Option ℤ
  deriving DecidableEq, Repr

structure RbgRoleStatus where
  name : String
  readyReplicas : Option ℤ
  deriving DecidableEq, Repr

structure RbgCondition where
  type : String
  status : String
  deriving DecidableEq, Repr

/-- A RoleBasedGroup as the client returns it. -/
structure Rbg where
  roles : List RbgRole
  roleStatuses : List RbgRoleStatus
  conditions : List RbgCondition
  deriving DecidableEq, Repr

/-- The calls of the connector. A patch of a role goes by the position of the
role in the list. -/
inductive RbgOp
  | getRbg
  | patchScale (adapterName : String) (replicas : ℤ)
  | patchRole (index : ℕ) (replicas : ℤ)
  | sleep (seconds : ℕ)
  deriving DecidableEq, Repr

/-- A failed call answers with its status code. -/
abbrev RbgResp : RbgOp → Type
  | .getRbg => Except ℕ Rbg
  | .patchScale _ _ => Except ℕ Unit
  | .patchRole _ _ => Except ℕ Unit
  | .sleep _ => Unit

abbrev RbgProg := Prog RbgOp RbgResp

/-- A program of the connector that an exception ends. -/
abbrev RbgCall := ExceptT PlannerExc RbgProg

abbrev RbgEvent := Prog.Event RbgOp RbgResp

namespace RbgCall

def getRbg : RbgCall (Except ℕ Rbg) := ExceptT.lift (Prog.request RbgOp.getRbg)

def patchScale (adapterName : String) (replicas : ℤ) : RbgCall (Except ℕ Unit) :=
  ExceptT.lift (Prog.request (RbgOp.patchScale adapterName replicas))

def patchRole (index : ℕ) (replicas : ℤ) : RbgCall (Except ℕ Unit) :=
  ExceptT.lift (Prog.request (RbgOp.patchRole index replicas))

/-- `asyncio.sleep`. -/
def sleep (seconds : ℕ) : RbgCall Unit := ExceptT.lift (Prog.request (RbgOp.sleep seconds))

end RbgCall

/-! ## Reading a RoleBasedGroup -/

namespace Rbg

variable (rbg : Rbg) (roleName : String)

/-- The condition `Ready` is there and true. -/
def isReady : Bool :=
  match rbg.conditions.find? fun c => c.type == "Ready" with
  | some ready => ready.status == "True"
  | none => false

/-- The first role of that name. -/
def role? : Option RbgRole := rbg.roles.find? fun role => role.name == roleName

/-- `role.get("replicas", 0)` of the first role of that name. -/
def replicas : ℤ :=
  match rbg.role? roleName with
  | some role => role.replicas.getD 0
  | none => 0

end Rbg

/-! ## The connector -/

/-- `RBGConnector`: the object it scales and the roles it validates. -/
structure RBGConnector where
  rbgName : String
  namespaceName : String
  prefillRoleName : String
  decodeRoleName : String
  deriving DecidableEq, Repr

namespace RBGConnector

/-- The connector that `Planner.__init__` builds. Without a namespace it takes
the one of its pod. -/
def ofConfig (config : PlannerConfig) (currentNamespace : String) : RBGConnector where
  rbgName := config.rbgName
  namespaceName := if config.rbgNamespace = "" then currentNamespace else config.rbgNamespace
  prefillRoleName := config.prefillRoleName
  decodeRoleName := config.decodeRoleName

variable (self : RBGConnector)

/-- `_get_rbg`. -/
def getRbg : RbgCall Rbg := do
  match ← RbgCall.getRbg with
  | .ok rbg => return rbg
  | .error 404 => throw (.rbgNotFound self.rbgName self.namespaceName)
  | .error status => throw (.apiException status)

/-- `_get_role_from_rbg`. -/
def getRoleFromRbg (rbg : Rbg) (roleName : String) : RbgCall RbgRole :=
  match rbg.role? roleName with
  | some role => return role
  | none => throw (.roleNotFound roleName self.rbgName)

/-- `_get_role_status`. -/
def getRoleStatus (rbg : Rbg) (roleName : String) : Option RbgRoleStatus :=
  rbg.roleStatuses.find? fun status => status.name == roleName

/-- Adapters are named after the group and the role. -/
def adapterName (roleName : String) : String := self.rbgName ++ "-" ++ roleName

/-- `_try_scale_via_rbgsa`. False when there is no adapter. -/
def tryScaleViaRbgsa (roleName : String) (replicas : ℤ) : RbgCall Bool := do
  match ← RbgCall.patchScale (self.adapterName roleName) replicas with
  | .ok _ => return true
  | .error 404 => return false
  | .error status => throw (.apiException status)

/-- `_patch_rbg_role_replicas`. The position of the role comes from a new read. -/
def patchRbgRoleReplicas (roleName : String) (replicas : ℤ) : RbgCall Unit := do
  let rbg ← self.getRbg
  match rbg.roles.findIdx? fun role => role.name == roleName with
  | none => throw (.roleNotFound roleName self.rbgName)
  | some index =>
      match ← RbgCall.patchRole index replicas with
      | .ok _ => return ()
      | .error status => throw (.apiException status)

/-- `_scale_role`. -/
def scaleRole (roleName : String) (replicas : ℤ) : RbgCall Unit := do
  if ← self.tryScaleViaRbgsa roleName replicas then return ()
  else self.patchRbgRoleReplicas roleName replicas

/-- One target, against the replicas of the first read. -/
def scaleTarget (rbg : Rbg) (target : TargetReplica) : RbgCall Unit := do
  let role ← self.getRoleFromRbg rbg target.roleName
  if role.replicas.getD 0 ≠ target.desiredReplicas then
    self.scaleRole target.roleName target.desiredReplicas
  else return ()

/-- The loop over the targets. All of them look at the same read. -/
def scaleTargets (rbg : Rbg) : List TargetReplica → RbgCall Unit
  | [] => return ()
  | target :: targets => do
      self.scaleTarget rbg target
      scaleTargets rbg targets

/-- `wait_for_ready` with the attempts that are left. -/
def waitForReady (delaySeconds : ℕ) : ℕ → RbgCall Unit
  | 0 => throw (.deploymentNotReady self.rbgName)
  | attempts + 1 => do
      RbgCall.sleep delaySeconds
      let rbg ← self.getRbg
      if rbg.isReady then return () else waitForReady delaySeconds attempts

/-- `is_ready`, on the cached object when there is one. -/
def isReady (cachedRbg : Option Rbg) : RbgCall Bool := do
  let rbg ← match cachedRbg with
    | some rbg => pure rbg
    | none => self.getRbg
  return rbg.isReady

/-- `set_replicas`. The read caches the object that `is_ready` looks at. -/
def setReplicas (targetReplicas : List TargetReplica) (blocking : Bool) : RbgCall Unit := do
  if targetReplicas.isEmpty then throw .emptyTargetReplicas
  else
    let rbg ← self.getRbg
    if !(← self.isReady (some rbg)) then return ()
    else
      self.scaleTargets rbg targetReplicas
      if blocking then self.waitForReady 10 180 else return ()

/-- `validate_deployment`. -/
def validateDeployment : RbgCall Unit := do
  let rbg ← self.getRbg
  let _ ← self.getRoleFromRbg rbg self.prefillRoleName
  let _ ← self.getRoleFromRbg rbg self.decodeRoleName
  return ()

/-- `get_role_ready_replicas`. -/
def getRoleReadyReplicas (roleName : String) : RbgCall ℤ := do
  let rbg ← self.getRbg
  match getRoleStatus rbg roleName with
  | none => return 0
  | some status => return status.readyReplicas.getD 0

end RBGConnector

end RbgPlanner.Planner
