import RbgPlanner.Base.WeakestPre
import RbgPlanner.Controller.Bindings
import RbgPlanner.Controller.Faults

/-!
# Access that a planner gets

What is in the cluster after access control was established, whatever was there
before. The objects that are found are taken as they are.
-/

namespace RbgPlanner.Properties.EstablishedAccess

open Base Controller Prog

variable {s : Cluster} {ras : AutoScaler} {k : Kind}

/-! ## What access control names -/

/-- The service account is there, the role has the rules of the code, and the
binding has the service account as its subjects. -/
structure Established (s : Cluster) (ras : AutoScaler) : Prop where
  account : (s.objects .serviceAccount (ras.sibling ras.plannerName)).isSome = true
  role : ∃ role : ClusterRole,
    s.objects .clusterRole (clusterKey plannerClusterRoleName) = some role ∧
      role.rules = plannerClusterRole.rules
  binding : ∃ crb : ClusterRoleBinding,
    s.objects .clusterRoleBinding (clusterKey ras.bindingName) = some crb ∧
      crb.subjects = [ras.plannerSubject]

/-- Whenever `ensureRBAC` returns, with failing requests but nobody else at work,
it has established what it names. -/
def EnsuresAccess (s : Cluster) (ras : AutoScaler) : Prop :=
  ∀ tr s', (ExceptT.run (ensureRBAC ras)).Exec Faulty Still s tr (.done (.ok ())) s' →
    Established s' ras

/-- A role that is there has the rules, and a binding that is there the subjects. -/
structure Undrifted (s : Cluster) (ras : AutoScaler) : Prop where
  role : ∀ role : ClusterRole,
    s.objects .clusterRole (clusterKey plannerClusterRoleName) = some role →
      role.rules = plannerClusterRole.rules
  binding : ∀ crb : ClusterRoleBinding,
    s.objects .clusterRoleBinding (clusterKey ras.bindingName) = some crb →
      crb.subjects = [ras.plannerSubject]

/-! ## Preconditions of the requests -/

section Requests

variable {α : Type} {x : Kube α} {R : ApiError → Cluster → Prop}

theorem pre_attempt {Q : Except ApiError α → Cluster → Prop} :
    wpRaise Faulty Q R (Kube.attempt x) s ↔
      wpRaise Faulty (fun a => Q (.ok a)) (fun e => Q (.error e)) x s := by
  refine wp_bind.trans (iff_of_eq (congrArg (fun q => wp Faulty q (ExceptT.run x) s) ?_))
  funext r
  cases r <;> rfl

theorem pre_wrap {Q : α → Cluster → Prop} {context : String} :
    wpRaise Faulty Q R (Kube.wrap context x) s ↔
      wpRaise Faulty Q (fun e => R (e.wrap context)) x s := by
  refine wp_bind.trans (iff_of_eq (congrArg (fun q => wp Faulty q (ExceptT.run x) s) ?_))
  funext r
  cases r <;> rfl

/-- A read shows what is there, or fails. -/
theorem pre_get {key : NamespacedName} {Q : Resource k → Cluster → Prop} :
    wpRaise Faulty Q R (Kube.get k key) s ↔
      Ends Q R (s.get k key) s ∧ ∀ e : ApiError, e.reason = .other → R e s := by
  constructor
  · intro h
    refine ⟨h _ _ (.served ""), fun e he => ?_⟩
    exact h (.error e) s (.failed he rfl)
  · rintro ⟨hserved, hfailed⟩ r s' hanswer
    cases hanswer with
    | served now => exact hserved
    | failed he hr =>
        cases hr
        exact hfailed _ he
    | unreported now he hr =>
        cases hr
        exact hfailed _ he

/-- A creation that fails may have had its effect. -/
theorem pre_create {obj : Resource k} {Q : Resource k → Cluster → Prop} :
    wpRaise Faulty Q R (Kube.create k obj) s ↔
      Ends Q R (s.create k obj).1 (s.create k obj).2 ∧
        ∀ e : ApiError, e.reason = .other → R e s ∧ R e (s.create k obj).2 := by
  constructor
  · intro h
    refine ⟨h _ _ (.served ""), fun e he => ⟨?_, ?_⟩⟩
    · exact h (.error e) s (.failed he rfl)
    · exact h (.error e) _ (.unreported "" he rfl)
  · rintro ⟨hserved, hfailed⟩ r s' hanswer
    cases hanswer with
    | served now => exact hserved
    | failed he hr =>
        cases hr
        exact (hfailed _ he).1
    | unreported now he hr =>
        cases hr
        exact (hfailed _ he).2

end Requests

/-! ## Postconditions of the helpers -/

variable {Q : Unit → Cluster → Prop}

/-- If it returns, the object was there or is created. -/
theorem post_createIfNotExists {obj : Resource k} :
    wpRaise Faulty Q (fun _ _ => True) (createIfNotExists k obj) s ↔ Q () (ensured s k obj) := by
  refine wpRaise_bind.trans (pre_attempt.trans (pre_create.trans ?_))
  unfold ensured
  cases h : s.objects k (ApiServer.keyOf obj) with
  | none =>
      rw [ApiServer.create_of_none h]
      refine and_iff_left fun e he => ?_
      simp [he]
  | some stored =>
      rw [ApiServer.create_of_some h]
      refine and_iff_left fun e he => ?_
      simp [he]

theorem post_createOrUpdate {obj : Resource k} :
    wpRaise Faulty Q (fun _ _ => True) (createOrUpdate k obj) s ↔ Q () (ensured s k obj) := by
  refine wpRaise_bind.trans (pre_attempt.trans (pre_get.trans ?_))
  unfold ensured
  refine (and_iff_left fun e he => by simp [he]).trans ?_
  cases h : s.objects k (ApiServer.keyOf obj) with
  | some stored =>
      rw [ApiServer.get_of_some h]
      exact Iff.rfl
  | none =>
      rw [ApiServer.get_of_none h]
      refine wpRaise_bind.trans (pre_create.trans ?_)
      rw [ApiServer.create_of_none h]
      exact and_iff_left fun e _ => ⟨trivial, trivial⟩

/-- If it returns, every object was there or is created. -/
theorem post_ensureRBAC :
    wpRaise Faulty Q (fun _ _ => True) (ensureRBAC ras) s ↔ Q () (secured s ras) := by
  unfold ensureRBAC
  simp only [wpRaise_bind, pre_wrap, post_createOrUpdate, post_createIfNotExists]
  rfl

/-! ## What is established -/

theorem ensuresAccess_iff_secured : EnsuresAccess s ras ↔ Established (secured s ras) ras := by
  have hpost : wpRaise Faulty (fun _ s' => Established s' ras) (fun _ _ => True)
      (ensureRBAC ras) s ↔ Established (secured s ras) ras := post_ensureRBAC
  rw [← hpost, wpRaise_ok_iff_exec]
  exact ⟨fun h tr _ s' => h tr s', fun h tr s' => h tr () s'⟩

/-- What was ensured has a property that the new object has when it was not there
without it. -/
theorem exists_ensured_iff {obj : Resource k} {key : NamespacedName} {P : Resource k → Prop}
    (hkey : ApiServer.keyOf obj = key) (hcreated : ∀ version, P (ApiServer.created version obj)) :
    (∃ o, (ensured s k obj).objects k key = some o ∧ P o) ↔
      ∀ o, s.objects k key = some o → P o := by
  subst hkey
  unfold ensured
  cases h : s.objects k (ApiServer.keyOf obj) with
  | some stored => simp [h]
  | none =>
      have hput := @ApiServer.put_same _ _ _ _ s k (ApiServer.created s.version obj)
      rw [ApiServer.keyOf_created] at hput
      refine iff_of_true ⟨_, hput, hcreated _⟩ ?_
      intro o ho
      cases ho

theorem secured_role_iff :
    (∃ role : ClusterRole,
      (secured s ras).objects .clusterRole (clusterKey plannerClusterRoleName) = some role ∧
        role.rules = plannerClusterRole.rules) ↔
      ∀ role : ClusterRole,
        s.objects .clusterRole (clusterKey plannerClusterRoleName) = some role →
          role.rules = plannerClusterRole.rules := by
  have hfound : (ensured s .serviceAccount (plannerServiceAccount ras)).objects .clusterRole =
      s.objects .clusterRole := ensured_frame (by decide)
  rw [secured, ensured_frame (by decide), ← hfound]
  exact exists_ensured_iff (k := .clusterRole) rfl fun _ => rfl

theorem secured_binding_iff :
    (∃ crb : ClusterRoleBinding,
      (secured s ras).objects .clusterRoleBinding (clusterKey ras.bindingName) = some crb ∧
        crb.subjects = [ras.plannerSubject]) ↔
      ∀ crb : ClusterRoleBinding,
        s.objects .clusterRoleBinding (clusterKey ras.bindingName) = some crb →
          crb.subjects = [ras.plannerSubject] := by
  have hfound : (ensured (ensured s .serviceAccount (plannerServiceAccount ras)) .clusterRole
      plannerClusterRole).objects .clusterRoleBinding = s.objects .clusterRoleBinding := by
    rw [ensured_frame (by decide), ensured_frame (by decide)]
  rw [secured, ← hfound]
  exact exists_ensured_iff (k := .clusterRoleBinding) rfl fun _ => rfl

/-- Access control establishes what it names exactly when nothing that it names
is there with other rules or other subjects. -/
theorem ensuresAccess_iff (s : Cluster) (ras : AutoScaler) :
    EnsuresAccess s ras ↔ Undrifted s ras := by
  rw [ensuresAccess_iff_secured]
  constructor
  · intro h
    exact ⟨secured_role_iff.mp h.role, secured_binding_iff.mp h.binding⟩
  · intro h
    have haccount := (@accessPresent_secured _ s ras rfl).account
    exact ⟨haccount, secured_role_iff.mpr h.role, secured_binding_iff.mpr h.binding⟩

/-! ## Two AutoScalers of one name -/

private def named (namespaceName : String) : AutoScaler where
  metadata := { key := ⟨namespaceName, "qwen"⟩ }
  spec := none
  status := none

/-- The access of the AutoScaler in `blue` was established first, and the binding
stays with it. -/
theorem other_subject_stays : ¬ EnsuresAccess (secured ApiServer.empty (named "blue"))
    (named "green") := by
  intro h
  obtain ⟨crb, hcrb, hsubjects⟩ := (ensuresAccess_iff_secured.mp h).binding
  have hfirst : ∃ first : ClusterRoleBinding, (secured (secured ApiServer.empty (named "blue"))
      (named "green")).objects .clusterRoleBinding (clusterKey "qwen-planner-binding") =
        some first ∧ first.subjects = [(named "blue").plannerSubject] := ⟨_, rfl, rfl⟩
  obtain ⟨first, hfound, hblue⟩ := hfirst
  obtain rfl := Option.some.inj (hfound.symm.trans hcrb)
  exact absurd (hblue.symm.trans hsubjects) (by decide)

end RbgPlanner.Properties.EstablishedAccess
