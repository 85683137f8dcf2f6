import RbgPlanner.Controller.Authorization
import RbgPlanner.Controller.Outcomes
import RbgPlanner.Properties.Isolation
import RbgPlanner.Properties.StableTemplate

/-!
# Self-stabilisation

Whatever the operator's objects look like, one pass brings them in line with
what users and other components provide, and no later step of the fleet undoes it.
-/

namespace RbgPlanner.Properties.Stabilisation

open Base Controller StableTemplate

/-! ## What is provided and what runs -/

/-- A ClusterRole of the planners' name has their rules. -/
def RoleIntact (s : Cluster) : Prop :=
  ∀ role : ClusterRole, s.objects .clusterRole (clusterKey plannerClusterRoleName) = some role →
    role.rules = plannerClusterRole.rules

/-- A Deployment with defaults, that is not being deleted. -/
def Sound (stored : Deployment) : Prop :=
  stored.template.complete = stored.template ∧ stored.metadata.deletionTimestamp = none

/-- What users and other components provide: an AutoScaler that is not marked, its
group and its profile. Of the operator's own objects any may be missing. A role
and a binding that are there are for the planner; a Deployment that is there has
the API server's defaults and is not marked, and may differ in all else. -/
structure Provided (setting : Setting) (s : Cluster) : Prop where
  autoScaler : ∃ ras : AutoScaler, s.objects .autoScaler setting.key = some ras ∧
    setting.operator.parseRASSpec ras.spec = .ok setting.spec ∧
      ras.metadata.deletionTimestamp = none
  group : ∃ rbg : RoleBasedGroup, s.objects .roleBasedGroup setting.key = some rbg ∧
    templates rbg = templates setting.rbg
  profile : (s.objects .configMap (profileKey setting.key)).isSome = true
  role : RoleIntact s
  binding : ∀ crb : ClusterRoleBinding,
    s.objects .clusterRoleBinding (bindingKey setting.key) = some crb → Grants crb setting.key
  deployment : ∀ stored : Deployment,
    s.objects .deployment (plannerKey setting.key) = some stored → Sound stored

/-- The Deployment of the planner as the API server stores it. -/
def deployed (setting : Setting) (metadata : ObjectMeta) : Deployment where
  metadata
  replicas := 1
  matchLabels := plannerLabels setting.key.name
  templateLabels := plannerLabels setting.key.name
  template := setting.template.complete

/-- The AutoScaler is Ready, and the planner has its access and is deployed from
the current spec and group. -/
structure Running (setting : Setting) (s : Cluster) : Prop where
  status : ∃ ras : AutoScaler, s.objects .autoScaler setting.key = some ras ∧
    phaseOf ras.status = some (.str "Ready") ∧ ras.containsFinalizer = true
  access : AccessPresent s setting.key
  deployment : ∃ metadata, s.objects .deployment (plannerKey setting.key) =
    some (deployed setting metadata)

/-! ## Steps next to a pass -/

/-- A change that leaves the AutoScaler, its binding and the planner's Deployment,
the names and templates of the group, and what else is there for the planner. -/
structure Leaves (setting : Setting) (s s' : Cluster) : Prop where
  autoScaler : s'.objects .autoScaler setting.key = s.objects .autoScaler setting.key
  group : ∀ rbg : RoleBasedGroup, s.objects .roleBasedGroup setting.key = some rbg →
    ∃ rbg' : RoleBasedGroup, s'.objects .roleBasedGroup setting.key = some rbg' ∧
      templates rbg' = templates rbg
  profile : (s.objects .configMap (profileKey setting.key)).isSome = true →
    (s'.objects .configMap (profileKey setting.key)).isSome = true
  account : (s.objects .serviceAccount (plannerKey setting.key)).isSome = true →
    (s'.objects .serviceAccount (plannerKey setting.key)).isSome = true
  role : (s.objects .clusterRole (clusterKey plannerClusterRoleName)).isSome = true →
    (s'.objects .clusterRole (clusterKey plannerClusterRoleName)).isSome = true
  intact : RoleIntact s → RoleIntact s'
  binding : s'.objects .clusterRoleBinding (bindingKey setting.key) =
    s.objects .clusterRoleBinding (bindingKey setting.key)
  deployment : s'.objects .deployment (plannerKey setting.key) =
    s.objects .deployment (plannerKey setting.key)

/-- Actions of a fleet that do not edit or delete the AutoScaler or what it needs,
and in which no other AutoScaler has its name. -/
def Undisturbed (setting : Setting) (f : Fleet) : FleetAction → Prop
  | .submit _ => True
  | .edit ras => ras.metadata.key ≠ setting.key
  | .requestDeletion _ key => key ≠ setting.key
  | .pass _ key => key.name = setting.key.name → key = setting.key
  | .elsewhere next => Leaves setting f.cluster next

variable {setting : Setting} {s s' : Cluster} {now : String} {key : NamespacedName}

theorem Provided.leaves (hs : Provided setting s) (h : Leaves setting s s') :
    Provided setting s' := by
  obtain ⟨ras, hras, hspec⟩ := hs.autoScaler
  obtain ⟨rbg, hrbg, htemplates⟩ := hs.group
  obtain ⟨rbg', hrbg', hsame⟩ := h.group rbg hrbg
  constructor
  · exact ⟨ras, h.autoScaler.trans hras, hspec⟩
  · exact ⟨rbg', hrbg', hsame.trans htemplates⟩
  · exact h.profile hs.profile
  · exact h.intact hs.role
  · rw [h.binding]
    exact hs.binding
  · rw [h.deployment]
    exact hs.deployment

theorem Running.leaves (hs : Running setting s) (h : Leaves setting s s') :
    Running setting s' := by
  obtain ⟨ras, hras, hstatus⟩ := hs.status
  obtain ⟨metadata, hdeployed⟩ := hs.deployment
  refine ⟨⟨ras, h.autoScaler.trans hras, hstatus⟩, ⟨?_, ?_, ?_⟩, metadata, ?_⟩
  · exact h.account hs.access.account
  · exact h.role hs.access.role
  · rw [h.binding]
    exact hs.access.binding
  · rw [h.deployment, hdeployed]

/-! ## Passes on other AutoScalers -/

/-- The planner's own scaling is no disturbance. -/
theorem undisturbed_of_changes {f : Fleet} {rbg rbg' : RoleBasedGroup}
    (hrbg : f.cluster.objects .roleBasedGroup setting.key = some rbg)
    (hkey : rbg'.metadata.key = setting.key)
    (hchanges : Relation.ReflTransGen ReplicaChange rbg.object rbg'.object) :
    Undisturbed setting f (.elsewhere (f.cluster.put .roleBasedGroup rbg')) := by
  have hframe : ∀ {k : Kind} {place : NamespacedName}, k ≠ .roleBasedGroup →
      (f.cluster.put .roleBasedGroup rbg').objects k place = f.cluster.objects k place :=
    fun hk => ApiServer.put_of_ne fun h => hk h.1
  constructor
  · exact hframe (by decide)
  · intro before hbefore
    obtain rfl := Option.some.inj (hrbg.symm.trans hbefore)
    have hput := @ApiServer.put_same _ Resource _ _ f.cluster .roleBasedGroup rbg'
    exact ⟨rbg', hkey ▸ hput, templates_of_changes hchanges⟩
  · rw [hframe (by decide)]
    exact id
  · rw [hframe (by decide)]
    exact id
  · rw [hframe (by decide)]
    exact id
  · unfold RoleIntact
    rw [hframe (by decide)]
    exact id
  · exact hframe (by decide)
  · exact hframe (by decide)

private def gemma : NamespacedName := ⟨"serving", "gemma"⟩

end RbgPlanner.Properties.Stabilisation
