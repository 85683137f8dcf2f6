import RbgPlanner.Base.Runs
import RbgPlanner.Controller.Bindings

/-!
# The AutoScalers of a cluster

Users submit, edit and delete AutoScalers in any namespace, and the operator
makes one pass at a time. Other components change objects of other kinds.
-/

namespace RbgPlanner.Controller

open Base

/-! ## Access of a planner -/

/-- The service account of the AutoScaler at `key`, as a subject. -/
def subjectOf (key : NamespacedName) : Subject :=
  ⟨"ServiceAccount", key.name ++ "-planner", key.namespaceName⟩

theorem subjectOf_injective : Function.Injective subjectOf := by
  intro a b h
  obtain ⟨-, hname, hspace⟩ := Subject.mk.inj h
  rw [String.append_left_inj] at hname
  cases a
  cases b
  cases hname
  cases hspace
  rfl

theorem bindingKey_eq_iff {a b : NamespacedName} :
    bindingKey a = bindingKey b ↔ a.name = b.name := by
  simp [bindingKey, clusterKey]

/-- The binding gives the planner ClusterRole to the AutoScaler's service account. -/
def Grants (crb : ClusterRoleBinding) (key : NamespacedName) : Prop :=
  crb.roleRef = plannerRoleRef ∧ subjectOf key ∈ crb.subjects

/-- Some binding grants the AutoScaler's service account the planner ClusterRole. -/
def Bound (s : Cluster) (key : NamespacedName) : Prop :=
  ∃ (place : NamespacedName) (crb : ClusterRoleBinding),
    s.objects .clusterRoleBinding place = some crb ∧ Grants crb key

/-- Every binding to the planner ClusterRole is one the operator makes. -/
def Managed (s : Cluster) : Prop :=
  ∀ (place : NamespacedName) (crb : ClusterRoleBinding),
    s.objects .clusterRoleBinding place = some crb → crb.roleRef = plannerRoleRef →
      crb.metadata.finalizers = [] ∧
        ∃ owner, place = bindingKey owner ∧ crb.subjects = [subjectOf owner]

variable {s s' : Cluster} {key : NamespacedName}

theorem bound_congr (h : s'.objects .clusterRoleBinding = s.objects .clusterRoleBinding) :
    Bound s' key ↔ Bound s key := by
  simp only [Bound, h]

theorem managed_congr (h : s'.objects .clusterRoleBinding = s.objects .clusterRoleBinding) :
    Managed s' ↔ Managed s := by
  simp only [Managed, h]

/-- In a managed cluster access comes from the binding of the AutoScaler's own name. -/
theorem Managed.eq_bindingKey (hs : Managed s) {place : NamespacedName} {crb : ClusterRoleBinding}
    (hcrb : s.objects .clusterRoleBinding place = some crb) (hgrants : Grants crb key) :
    place = bindingKey key := by
  obtain ⟨-, owner, hplace, hsubjects⟩ := hs place crb hcrb hgrants.1
  have howner : subjectOf key = subjectOf owner := by
    have hmem := hgrants.2
    rwa [hsubjects, List.mem_singleton] at hmem
  rw [hplace, subjectOf_injective howner]

/-! ## Actions -/

/-- The cluster, and which AutoScalers a pass has given their access. -/
structure Fleet where
  cluster : Cluster
  established : NamespacedName → Prop

inductive FleetAction
  | submit (ras : AutoScaler)
  | edit (ras : AutoScaler)
  | requestDeletion (now : String) (key : NamespacedName)
  | pass (now : String) (key : NamespacedName)
  | elsewhere (next : Cluster)

namespace Fleet

/-- A cluster in which the operator has made no pass yet. -/
def initial (s : Cluster) : Fleet := ⟨s, fun _ => False⟩

/-- A submitted AutoScaler has no deletion mark, and other components write
neither AutoScalers nor bindings. -/
def Possible (f : Fleet) : FleetAction → Prop
  | .submit ras => ras.metadata.deletionTimestamp = none
  | .elsewhere next => next.objects .autoScaler = f.cluster.objects .autoScaler ∧
      next.objects .clusterRoleBinding = f.cluster.objects .clusterRoleBinding
  | _ => True

/-- One action. An AutoScaler counts as established from its first pass that
gets to access control until its deletion is requested. -/
def step (r : AutoScalerReconciler) (f : Fleet) : FleetAction → Fleet
  | .submit ras => { f with cluster := (f.cluster.create .autoScaler ras).2 }
  | .edit ras => { f with cluster := (f.cluster.update .autoScaler ras).2 }
  | .requestDeletion now key =>
      { cluster := (f.cluster.delete now .autoScaler key).2
        established := fun other => f.established other ∧ other ≠ key }
  | .pass now key =>
      { cluster := (Kube.exec (serve now) (r.reconcile now key) f.cluster).2
        established := fun other =>
          f.established other ∨ (other = key ∧ Establishes r f.cluster key) }
  | .elsewhere next => { f with cluster := next }

end Fleet

/-! ## What a pass does to access -/

variable {r : AutoScalerReconciler} {now : String}

theorem subjectOf_key {ras : AutoScaler} (hkey : ras.metadata.key = key) :
    ras.plannerSubject = subjectOf key := by
  subst hkey
  rfl

/-- A binding that an establishing pass finds stays, and one it makes grants access. -/
theorem binding_of_establishes (now : String) (h : Establishes r s key) :
    ∃ crb : ClusterRoleBinding,
      (Kube.exec (serve now) (r.reconcile now key) s).2.objects .clusterRoleBinding
          (bindingKey key) = some crb ∧
        (s.objects .clusterRoleBinding (bindingKey key) = some crb ∨
          s.objects .clusterRoleBinding (bindingKey key) = none ∧
            crb.metadata.finalizers = [] ∧ crb.roleRef = plannerRoleRef ∧
              crb.subjects = [subjectOf key]) := by
  obtain ⟨ras, s₁, hkey, hs₁, hafter⟩ := bindings_of_establishes now h
  have hname : @ApiServer.keyOf _ Resource _ .clusterRoleBinding (plannerBinding ras) =
      bindingKey key := by
    subst hkey
    rfl
  rw [hafter, ← hs₁]
  unfold ensured
  rw [hname]
  cases hfound : s₁.objects .clusterRoleBinding (bindingKey key) with
  | some crb => exact ⟨crb, hfound, .inl rfl⟩
  | none =>
      refine ⟨@ApiServer.created _ Resource _ .clusterRoleBinding s₁.version (plannerBinding ras),
        ?_, .inr ⟨rfl, rfl, rfl, ?_⟩⟩
      · rw [← hname]
        exact ApiServer.put_same
      · exact congrArg (fun subject => [subject]) (subjectOf_key hkey)

/-- Bindings of other names are none of its business. -/
theorem bindings_frame {place : NamespacedName} (h : place ≠ bindingKey key) :
    (Kube.exec (serve now) (r.reconcile now key) s).2.objects .clusterRoleBinding place =
      s.objects .clusterRoleBinding place :=
  exec_frame (asks_reconcile r now key) fun hfoot => h (Option.some.inj hfoot).symm

end RbgPlanner.Controller
