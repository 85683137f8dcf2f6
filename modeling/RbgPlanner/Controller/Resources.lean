import RbgPlanner.Base.ApiServer
import RbgPlanner.Base.Json
import RbgPlanner.Planner.Config

/-!
# The objects the operator reads and writes

Each kind keeps the fields the operator sets or reads, and of the fields the
API server fills in those of a pod template.
-/

namespace RbgPlanner.Controller

open Base Planner

/-! ## Custom resources -/

/-- An AutoScaler as an unstructured object. -/
structure AutoScaler where
  metadata : ObjectMeta
  spec : Option Json
  status : Option Json

/-- A RoleBasedGroup as an unstructured object: everything but its metadata. -/
structure RoleBasedGroup where
  metadata : ObjectMeta
  object : Json

/-! ## Access control -/

structure ServiceAccount where
  metadata : ObjectMeta
  deriving DecidableEq, Repr

structure PolicyRule where
  apiGroups : List String
  resources : List String
  verbs : List String
  deriving DecidableEq, Repr

structure ClusterRole where
  metadata : ObjectMeta
  rules : List PolicyRule
  deriving DecidableEq, Repr

structure RoleRef where
  apiGroup : String
  kind : String
  name : String
  deriving DecidableEq, Repr

structure Subject where
  kind : String
  name : String
  namespaceName : String
  deriving DecidableEq, Repr

structure ClusterRoleBinding where
  metadata : ObjectMeta
  roleRef : RoleRef
  subjects : List Subject
  deriving DecidableEq, Repr

/-! ## Workloads -/

structure ConfigMap where
  metadata : ObjectMeta
  data : List (String × String)
  deriving DecidableEq, Repr

structure ContainerPort where
  name : String
  containerPort : ℤ
  protocol : String
  deriving DecidableEq, Repr

structure VolumeMount where
  name : String
  mountPath : String
  readOnly : Bool
  deriving DecidableEq, Repr

/-- A volume filled from a ConfigMap. -/
structure Volume where
  name : String
  configMap : String
  defaultMode : Option ℤ := none
  deriving DecidableEq, Repr

structure Container where
  name : String
  image : String
  args : List String := []
  env : List EnvVar := []
  ports : List ContainerPort := []
  volumeMounts : List VolumeMount := []
  imagePullPolicy : String := ""
  terminationMessagePath : String := ""
  terminationMessagePolicy : String := ""
  deriving DecidableEq, Repr

structure PodSpec where
  serviceAccountName : String
  containers : List Container
  volumes : List Volume := []
  restartPolicy : String := ""
  dnsPolicy : String := ""
  schedulerName : String := ""
  terminationGracePeriodSeconds : Option ℤ := none
  deriving DecidableEq, Repr

structure Job where
  metadata : ObjectMeta
  backoffLimit : ℤ
  template : PodSpec
  succeeded : ℤ := 0
  failed : ℤ := 0
  deriving DecidableEq, Repr

structure Deployment where
  metadata : ObjectMeta
  replicas : ℤ
  matchLabels : List (String × String)
  templateLabels : List (String × String)
  template : PodSpec
  deriving DecidableEq, Repr

/-! ## Defaults of a stored pod template -/

/-- The value, or the default when it is unset. -/
def orElse (value default : String) : String := if value = "" then default else value

/-- Whether an image names the tag `latest`, or no tag. -/
def hasLatestTag (image : String) : Bool :=
  match (image.splitOn "/").getLastD "" |>.splitOn ":" with
  | [_, tag] => tag = "latest"
  | _ => true

def Container.complete (c : Container) : Container :=
  { c with
    imagePullPolicy := orElse c.imagePullPolicy
      (if hasLatestTag c.image then "Always" else "IfNotPresent")
    terminationMessagePath := orElse c.terminationMessagePath "/dev/termination-log"
    terminationMessagePolicy := orElse c.terminationMessagePolicy "File" }

def PodSpec.complete (p : PodSpec) : PodSpec :=
  { p with
    containers := p.containers.map Container.complete
    volumes := p.volumes.map fun v => { v with defaultMode := v.defaultMode.or (some 420) }
    restartPolicy := orElse p.restartPolicy "Always"
    dnsPolicy := orElse p.dnsPolicy "ClusterFirst"
    schedulerName := orElse p.schedulerName "default-scheduler"
    terminationGracePeriodSeconds := p.terminationGracePeriodSeconds.or (some 30) }

@[simp] theorem orElse_orElse (value default : String) :
    orElse (orElse value default) default = orElse value default := by
  unfold orElse
  split_ifs <;> rfl

theorem orElse_ne_empty {value default : String} (h : default ≠ "") :
    orElse value default ≠ "" := by
  unfold orElse
  split_ifs with hunset
  · exact h
  · exact hunset

theorem Container.complete_complete (c : Container) : c.complete.complete = c.complete := by
  have hpolicy : c.complete.complete.imagePullPolicy = c.complete.imagePullPolicy :=
    orElse_orElse _ _
  simp only [Container.complete, Container.mk.injEq, orElse_orElse, true_and, and_true] at hpolicy ⊢
  exact hpolicy

/-- A completed pod template has all its defaults. -/
theorem PodSpec.complete_complete (p : PodSpec) : p.complete.complete = p.complete := by
  have hcontainers : Container.complete ∘ Container.complete = Container.complete :=
    funext Container.complete_complete
  simp [PodSpec.complete, hcontainers, Function.comp_def]

/-- A template that sets no DNS policy is not complete. -/
theorem PodSpec.complete_ne {p : PodSpec} (h : p.dnsPolicy = "") (q : PodSpec) :
    q.complete ≠ p := by
  rintro rfl
  exact orElse_ne_empty (by decide) h

/-! ## Kinds -/

inductive Kind
  | autoScaler
  | roleBasedGroup
  | serviceAccount
  | clusterRole
  | clusterRoleBinding
  | configMap
  | job
  | deployment
  deriving DecidableEq, Repr

abbrev Resource : Kind → Type
  | .autoScaler => AutoScaler
  | .roleBasedGroup => RoleBasedGroup
  | .serviceAccount => ServiceAccount
  | .clusterRole => ClusterRole
  | .clusterRoleBinding => ClusterRoleBinding
  | .configMap => ConfigMap
  | .job => Job
  | .deployment => Deployment

/-- An update of an AutoScaler through the main endpoint keeps the stored status. -/
instance : ApiObject AutoScaler where
  metadata := AutoScaler.metadata
  withMetadata := fun o m => { o with metadata := m }
  metadata_withMetadata := fun _ _ => rfl
  merge := fun stored submitted => { submitted with status := stored.status }

instance : ApiObject RoleBasedGroup where
  metadata := RoleBasedGroup.metadata
  withMetadata := fun o m => { o with metadata := m }
  metadata_withMetadata := fun _ _ => rfl

instance : ApiObject ServiceAccount where
  metadata := ServiceAccount.metadata
  withMetadata := fun o m => { o with metadata := m }
  metadata_withMetadata := fun _ _ => rfl

instance : ApiObject ClusterRole where
  metadata := ClusterRole.metadata
  withMetadata := fun o m => { o with metadata := m }
  metadata_withMetadata := fun _ _ => rfl

instance : ApiObject ClusterRoleBinding where
  metadata := ClusterRoleBinding.metadata
  withMetadata := fun o m => { o with metadata := m }
  metadata_withMetadata := fun _ _ => rfl

instance : ApiObject ConfigMap where
  metadata := ConfigMap.metadata
  withMetadata := fun o m => { o with metadata := m }
  metadata_withMetadata := fun _ _ => rfl

instance : ApiObject Job where
  metadata := Job.metadata
  withMetadata := fun o m => { o with metadata := m }
  metadata_withMetadata := fun _ _ => rfl

instance : ApiObject Deployment where
  metadata := Deployment.metadata
  withMetadata := fun o m => { o with metadata := m }
  metadata_withMetadata := fun _ _ => rfl
  complete := fun o => { o with template := o.template.complete }

instance instApiObjectResource : (k : Kind) → ApiObject (Resource k)
  | .autoScaler => inferInstanceAs (ApiObject AutoScaler)
  | .roleBasedGroup => inferInstanceAs (ApiObject RoleBasedGroup)
  | .serviceAccount => inferInstanceAs (ApiObject ServiceAccount)
  | .clusterRole => inferInstanceAs (ApiObject ClusterRole)
  | .clusterRoleBinding => inferInstanceAs (ApiObject ClusterRoleBinding)
  | .configMap => inferInstanceAs (ApiObject ConfigMap)
  | .job => inferInstanceAs (ApiObject Job)
  | .deployment => inferInstanceAs (ApiObject Deployment)

/-- The state of the API server. -/
abbrev Cluster := ApiServer Resource

end RbgPlanner.Controller
