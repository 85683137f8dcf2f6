import RbgPlanner.Controller.Kube

/-!
# Access control of a planner

The service account of an AutoScaler, the ClusterRole all planners share, and
the ClusterRoleBinding between them. The binding is cluster-scoped and named
after the AutoScaler alone; the finalizer's cleanup deletes it.
-/

namespace RbgPlanner.Controller

open Base

def plannerClusterRoleName : String := "rbg-planner-role"

def autoScalerApiVersion : String := "inference-extension.rolebasedgroup.io/v1alpha1"

/-- A key in the cluster scope. -/
def clusterKey (name : String) : NamespacedName := ⟨"", name⟩

namespace AutoScaler

variable (ras : AutoScaler)

def name : String := ras.metadata.key.name

def namespaceName : String := ras.metadata.key.namespaceName

/-- The key of an object in the AutoScaler's namespace. -/
def sibling (name : String) : NamespacedName := ⟨ras.namespaceName, name⟩

/-- Name of the planner's service account, and of its Deployment. -/
def plannerName : String := ras.name ++ "-planner"

/-- Name of the binding of an AutoScaler. -/
def bindingName : String := ras.name ++ "-planner-binding"

/-- Name of the profiling Job, and of the ConfigMap it writes. -/
def profilingName : String := ras.name ++ "-profiling"

/-- `ownerRef`. -/
def ownerRef : OwnerReference where
  apiVersion := autoScalerApiVersion
  kind := "AutoScaler"
  name := ras.name
  uid := ras.metadata.uid
  blockOwnerDeletion := true
  controller := true

/-- The planner's service account as a subject. -/
def plannerSubject : Subject where
  kind := "ServiceAccount"
  name := ras.plannerName
  namespaceName := ras.namespaceName

end AutoScaler

/-- Create an object, or find that there is one. -/
def createIfNotExists (k : Kind) (obj : Resource k) : Kube Unit := do
  match ← Kube.attempt (Kube.create k obj) with
  | .ok _ => return ()
  | .error e => if e.reason = .alreadyExists then return () else throw e

/-- `createOrUpdate`. An object that is found stays as it is: the mutation
changes the desired object in memory, and no update is sent. -/
def createOrUpdate (k : Kind) (obj : Resource k) : Kube Unit := do
  match ← Kube.attempt (Kube.get k (ApiServer.keyOf obj)) with
  | .ok _ => return ()
  | .error e =>
      if e.reason = .notFound then
        let _ ← Kube.create k obj
        return ()
      else throw e

def plannerServiceAccount (ras : AutoScaler) : ServiceAccount where
  metadata := { key := ras.sibling ras.plannerName, ownerReferences := [ras.ownerRef] }

def plannerClusterRole : ClusterRole where
  metadata := { key := clusterKey plannerClusterRoleName }
  rules :=
    [{ apiGroups := ["workloads.x-k8s.io"]
       resources := ["rolebasedgroups"]
       verbs := ["get", "list", "patch"] },
     { apiGroups := ["workloads.x-k8s.io"]
       resources := ["rolebasedgroupscalingadapters/scale"]
       verbs := ["patch"] },
     { apiGroups := [""]
       resources := ["configmaps"]
       verbs := ["get", "list", "create", "update"] }]

def plannerRoleRef : RoleRef where
  apiGroup := "rbac.authorization.k8s.io"
  kind := "ClusterRole"
  name := plannerClusterRoleName

def plannerBinding (ras : AutoScaler) : ClusterRoleBinding where
  metadata :=
    { key := clusterKey ras.bindingName
      labels :=
        [("app.kubernetes.io/managed-by", "rbg-planner-operator"),
         ("inference-extension.rolebasedgroup.io/as-name", ras.name),
         ("inference-extension.rolebasedgroup.io/as-namespace", ras.namespaceName)] }
  roleRef := plannerRoleRef
  subjects := [ras.plannerSubject]

def ensureRBAC (ras : AutoScaler) : Kube Unit := do
  Kube.wrap "ensure ServiceAccount" (createOrUpdate .serviceAccount (plannerServiceAccount ras))
  Kube.wrap "ensure ClusterRole" (createIfNotExists .clusterRole plannerClusterRole)
  Kube.wrap "ensure ClusterRoleBinding" (createOrUpdate .clusterRoleBinding (plannerBinding ras))

def cleanupClusterResources (ras : AutoScaler) : Kube Unit := do
  match ← Kube.attempt (Kube.get .clusterRoleBinding (clusterKey ras.bindingName)) with
  | .error e => if e.reason = .notFound then return () else throw e
  | .ok crb => Kube.delete .clusterRoleBinding crb.metadata.key

end RbgPlanner.Controller
