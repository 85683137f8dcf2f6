import RbgPlanner.Controller.Footprint

/-!
# What a pass does to bindings

A pass creates the binding of its AutoScaler when there is none of that name,
deletes whatever has that name when it completes a deletion, and otherwise
leaves all bindings.
-/

namespace RbgPlanner.Controller

open Base

variable {r : AutoScalerReconciler} {now : String} {key : NamespacedName} {s : Cluster}
  {ras : AutoScaler}

/-! ## Establishing -/

/-- The API server after an object was created unless there was one. -/
def ensured (s : Cluster) (k : Kind) (obj : Resource k) : Cluster :=
  match s.objects k (ApiServer.keyOf obj) with
  | some _ => s
  | none => s.put k (ApiServer.created s.version obj)

theorem exec_createOrUpdate (k : Kind) (obj : Resource k) :
    Kube.exec (serve now) (createOrUpdate k obj) s = (.ok (), ensured s k obj) := by
  unfold createOrUpdate ensured
  cases h : s.objects k (ApiServer.keyOf obj) with
  | some _ => simp [serve, ApiServer.get_of_some h]
  | none => simp [serve, ApiServer.get_of_none h, ApiServer.notFound, ApiServer.create_of_none h]

theorem exec_createIfNotExists (k : Kind) (obj : Resource k) :
    Kube.exec (serve now) (createIfNotExists k obj) s = (.ok (), ensured s k obj) := by
  unfold createIfNotExists ensured
  cases h : s.objects k (ApiServer.keyOf obj) with
  | some _ => simp [serve, ApiServer.create_of_some h, ApiServer.alreadyExists]
  | none => simp [serve, ApiServer.create_of_none h]

theorem ensured_frame {k k' : Kind} {obj : Resource k} (hk : k' ≠ k) :
    (ensured s k obj).objects k' = s.objects k' := by
  funext key'
  unfold ensured
  split
  · rfl
  · exact ApiServer.put_of_ne fun h => hk h.1

theorem ensured_of_isSome {k : Kind} {obj : Resource k}
    (h : (s.objects k (ApiServer.keyOf obj)).isSome = true) : ensured s k obj = s := by
  obtain ⟨stored, hstored⟩ := Option.isSome_iff_exists.mp h
  simp only [ensured, hstored]

theorem isSome_ensured {k : Kind} {obj : Resource k} :
    ((ensured s k obj).objects k (ApiServer.keyOf obj)).isSome = true := by
  unfold ensured
  split
  · next stored hstored => rw [hstored, Option.isSome_some]
  · rw [← ApiServer.keyOf_created s.version obj, ApiServer.put_same, Option.isSome_some]

/-- The API server after access control was established. -/
def secured (s : Cluster) (ras : AutoScaler) : Cluster :=
  ensured (ensured (ensured s .serviceAccount (plannerServiceAccount ras))
    .clusterRole plannerClusterRole) .clusterRoleBinding (plannerBinding ras)

theorem secured_frame {k : Kind} (haccount : k ≠ .serviceAccount) (hrole : k ≠ .clusterRole)
    (hbinding : k ≠ .clusterRoleBinding) : (secured s ras).objects k = s.objects k := by
  rw [secured, ensured_frame hbinding, ensured_frame hrole, ensured_frame haccount]

/-- The objects of access control are all there. -/
structure AccessPresent (s : Cluster) (key : NamespacedName) : Prop where
  account : (s.objects .serviceAccount ⟨key.namespaceName, key.name ++ "-planner"⟩).isSome = true
  role : (s.objects .clusterRole (clusterKey plannerClusterRoleName)).isSome = true
  binding : (s.objects .clusterRoleBinding (bindingKey key)).isSome = true

theorem AccessPresent.secured_eq (h : AccessPresent s key) (hkey : ras.metadata.key = key) :
    secured s ras = s := by
  subst hkey
  have haccount : ensured s .serviceAccount (plannerServiceAccount ras) = s :=
    ensured_of_isSome h.account
  have hrole : ensured s .clusterRole plannerClusterRole = s := ensured_of_isSome h.role
  have hbinding : ensured s .clusterRoleBinding (plannerBinding ras) = s :=
    ensured_of_isSome h.binding
  rw [secured, haccount, hrole, hbinding]

theorem accessPresent_secured (hkey : ras.metadata.key = key) :
    AccessPresent (secured s ras) key := by
  subst hkey
  constructor
  · unfold secured
    rw [ensured_frame (by decide), ensured_frame (by decide)]
    exact isSome_ensured
  · unfold secured
    rw [ensured_frame (by decide)]
    exact isSome_ensured
  · exact isSome_ensured

theorem AccessPresent.congr {s' : Cluster} (h : AccessPresent s key)
    (haccount : s'.objects .serviceAccount = s.objects .serviceAccount)
    (hrole : s'.objects .clusterRole = s.objects .clusterRole)
    (hbinding : s'.objects .clusterRoleBinding = s.objects .clusterRoleBinding) :
    AccessPresent s' key := by
  constructor
  · rw [haccount]
    exact h.account
  · rw [hrole]
    exact h.role
  · rw [hbinding]
    exact h.binding

/-- Access control succeeds. -/
theorem exec_ensureRBAC (now : String) (s : Cluster) (ras : AutoScaler) :
    Kube.exec (serve now) (ensureRBAC ras) s = (.ok (), secured s ras) := by
  simp [ensureRBAC, secured, exec_createOrUpdate, exec_createIfNotExists, Except.mapError]

/-! ## Cleaning up -/

/-- The API server after the cleanup. -/
def cleaned (now : String) (s : Cluster) (key : NamespacedName) : Cluster :=
  (s.delete now .clusterRoleBinding (bindingKey key)).2

theorem cleaned_autoScaler : (cleaned now s key).objects .autoScaler = s.objects .autoScaler := by
  funext key'
  exact ApiServer.delete_frame (by simp)

/-- After the cleanup the binding is gone or marked. -/
theorem cleaned_binding (crb : ClusterRoleBinding)
    (h : (cleaned now s key).objects .clusterRoleBinding (bindingKey key) = some crb) :
    crb.metadata.deletionTimestamp.isSome :=
  (ApiServer.delete_same h).1

theorem exec_cleanup (hkey : ras.metadata.key = key) :
    Kube.exec (serve now) (cleanupClusterResources ras) s = (.ok (), cleaned now s key) := by
  have hname : clusterKey ras.bindingName = bindingKey key := by rw [← hkey]; rfl
  unfold cleanupClusterResources cleaned
  cases hcrb : s.objects .clusterRoleBinding (bindingKey key) with
  | none =>
      simp [hname, serve, ApiServer.get_of_none hcrb, ApiServer.notFound, ApiServer.delete, hcrb]
  | some crb =>
      have hcrbKey : (ClusterRoleBinding.metadata crb).key = bindingKey key :=
        ApiServer.keyOf_stored hcrb
      simp only [hname, serve, Kube.exec_bind, Kube.exec_attempt, Kube.exec_get,
        ApiServer.get_of_some hcrb, hcrbKey, Kube.exec_delete, ApiServer.delete, hcrb]
      split_ifs <;> rfl

/-- An AutoScaler without the finalizer, otherwise as it was. -/
structure Released (ras ras' : AutoScaler) : Prop where
  finalizer : ras'.containsFinalizer = false
  spec : ras'.spec = ras.spec
  mark : ras'.metadata.deletionTimestamp = ras.metadata.deletionTimestamp

/-- Releasing the finalizer of a stored object leaves none of it. -/
theorem update_released (hras : s.objects .autoScaler key = some ras) :
    ∃ next s', s.update .autoScaler ras.removeFinalizer = (.ok next, s') ∧
      ∀ ras' : AutoScaler, s'.objects .autoScaler key = some ras' → Released ras ras' := by
  have hstored : ras.metadata.key = key := ApiServer.keyOf_stored hras
  have hkey : @ApiServer.keyOf _ Resource _ .autoScaler ras.removeFinalizer =
      key := hstored
  rw [← hkey] at hras ⊢
  have hupdate : s.update .autoScaler ras.removeFinalizer = _ :=
    ApiServer.update_of_current hras rfl
  refine ⟨_, _, hupdate, fun ras' hras' => ?_⟩
  obtain rfl := ApiServer.update_of_current_same hras rfl (by rw [hupdate]; exact hras')
  refine ⟨?_, rfl, rfl⟩
  change (ras.metadata.finalizers.filter (· != finalizerName)).contains finalizerName = false
  simp

/-- The cleanup leaves the AutoScaler current, so the release is accepted. -/
theorem release_after_cleanup (now : String) (hras : s.objects .autoScaler key = some ras) :
    ∃ next s', (cleaned now s key).update .autoScaler ras.removeFinalizer = (.ok next, s') ∧
      s'.objects .clusterRoleBinding = (cleaned now s key).objects .clusterRoleBinding ∧
      ∀ ras' : AutoScaler, s'.objects .autoScaler key = some ras' → Released ras ras' := by
  have hcleaned : (cleaned now s key).objects .autoScaler key = some ras := by
    rw [cleaned_autoScaler, hras]
  obtain ⟨next, s', hupdate, hreleased⟩ := update_released hcleaned
  refine ⟨next, s', hupdate, ?_, hreleased⟩
  funext key'
  have hs' : ((cleaned now s key).update .autoScaler ras.removeFinalizer).2 = s' :=
    congrArg Prod.snd hupdate
  rw [← hs']
  exact ApiServer.update_frame (by simp)

theorem exec_finishDeletion (hkey : ras.metadata.key = key) (hfin : ras.containsFinalizer = true)
    {next : Resource .autoScaler} {s' : Cluster}
    (hupdate : (cleaned now s key).update .autoScaler ras.removeFinalizer = (.ok next, s')) :
    Kube.exec (serve now) (finishDeletion ras) s = (.ok {}, s') := by
  simp [finishDeletion, hfin, exec_cleanup hkey, serve, hupdate]

/-! ## The whole pass -/

/-- A pass on a stored AutoScaler parses first, then looks at the deletion mark. -/
theorem exec_reconcile (hras : s.objects .autoScaler key = some ras) :
    Kube.exec (serve now) (r.reconcile now key) s =
      match r.parseRASSpec ras.spec with
      | .error message =>
          Kube.exec (serve now)
            (setPhase now ras "Failed" "InvalidSpec" message >>= fun _ => pure {}) s
      | .ok spec =>
          if ras.metadata.deletionTimestamp.isSome then
            Kube.exec (serve now) (finishDeletion ras) s
          else Kube.exec (serve now) (reconcileLive now ras spec) s := by
  have hget : Kube.exec (serve now) (Kube.attempt (Kube.get .autoScaler key)) s =
      (.ok (.ok ras), s) := by
    simp [serve, ApiServer.get_of_some hras]
  unfold AutoScalerReconciler.reconcile
  rw [Kube.exec_bind, hget]
  cases hparse : r.parseRASSpec ras.spec with
  | error message => simp only [hparse]
  | ok spec =>
      simp only [hparse]
      split_ifs <;> rfl

/-- A program that spares bindings leaves them. -/
theorem bindings_of_spares {α : Type} {Q : α → Prop} {x : Kube α} (now : String)
    (hx : Kube.Asks (SparesBinding key) Q x) :
    (Kube.exec (serve now) x s).2.objects .clusterRoleBinding = s.objects .clusterRoleBinding := by
  refine Prog.Asks.preserves (serve_keyed now) hx
    (I := fun s' => s'.objects .clusterRoleBinding = s.objects .clusterRoleBinding)
    (fun op s' hop hs' => ?_) rfl
  rw [← hs']
  funext key'
  refine serve_frame fun ht => hop.2 ?_
  rw [ht]
  rfl

/-- A pass that gets to access control: the spec parses, the AutoScaler is not
marked, and its target exists. -/
def Establishes (r : AutoScalerReconciler) (s : Cluster) (key : NamespacedName) : Prop :=
  ∃ (ras : AutoScaler) (spec : ParsedSpec) (rbg : RoleBasedGroup),
    s.objects .autoScaler key = some ras ∧ r.parseRASSpec ras.spec = .ok spec ∧
      ras.metadata.deletionTimestamp = none ∧ s.objects .roleBasedGroup key = some rbg

/-- A pass that cleans up: the spec parses, the AutoScaler is marked and held. -/
def CleansUp (r : AutoScalerReconciler) (s : Cluster) (key : NamespacedName) : Prop :=
  ∃ (ras : AutoScaler) (spec : ParsedSpec),
    s.objects .autoScaler key = some ras ∧ r.parseRASSpec ras.spec = .ok spec ∧
      ras.metadata.deletionTimestamp.isSome = true ∧ ras.containsFinalizer = true

/-- A cluster and its AutoScaler once the finalizer is in place. -/
structure Held (s : Cluster) (key : NamespacedName) (ras : AutoScaler) (s' : Cluster)
    (held : AutoScaler) : Prop where
  stored : s'.objects .autoScaler key = some held
  finalizer : held.containsFinalizer = true
  spec : held.spec = ras.spec
  status : held.status = ras.status
  mark : held.metadata.deletionTimestamp = ras.metadata.deletionTimestamp
  others : ∀ k ≠ .autoScaler, s'.objects k = s.objects k
  same : ras.containsFinalizer = true → held = ras ∧ s' = s

theorem Held.keyed {s' : Cluster} {held : AutoScaler} (h : Held s key ras s' held) :
    held.metadata.key = key :=
  ApiServer.keyOf_stored h.stored

/-- Access control leaves the held AutoScaler alone. -/
theorem Held.stored_secured {s' : Cluster} {held : AutoScaler} (h : Held s key ras s' held) :
    (secured s' held).objects .autoScaler key = some held := by
  rw [secured_frame (by decide) (by decide) (by decide), h.stored]

theorem Held.frame_secured {s' : Cluster} {held : AutoScaler} (h : Held s key ras s' held)
    {k : Kind} (hk : k ∉ [.autoScaler, .serviceAccount, .clusterRole, .clusterRoleBinding]) :
    (secured s' held).objects k = s.objects k := by
  simp only [List.mem_cons, List.not_mem_nil, or_false, not_or] at hk
  obtain ⟨hscaler, haccount, hrole, hbinding⟩ := hk
  rw [secured_frame haccount hrole hbinding, h.others k hscaler]

theorem containsFinalizer_addFinalizer (ras : AutoScaler) :
    ras.addFinalizer.containsFinalizer = true := by
  simp [AutoScaler.addFinalizer, AutoScaler.containsFinalizer]

/-- The finalizer is in place after at most one accepted update. -/
theorem exec_holdFinalizer (now : String) (hras : s.objects .autoScaler key = some ras) :
    ∃ held s', Kube.exec (serve now) (holdFinalizer ras) s = (.ok held, s') ∧
      Held s key ras s' held := by
  have hkey : ras.metadata.key = key := ApiServer.keyOf_stored hras
  unfold holdFinalizer
  split_ifs with hfin
  · exact ⟨ras, s, rfl, hras, hfin, rfl, rfl, rfl, fun _ _ => rfl, fun _ => ⟨rfl, rfl⟩⟩
  · have hadded : @ApiServer.keyOf _ Resource _ .autoScaler ras.addFinalizer = key := hkey
    rw [← hadded] at hras
    have hupdate : s.update .autoScaler ras.addFinalizer = _ :=
      ApiServer.update_of_current hras rfl
    have hempty : ras.addFinalizer.metadata.finalizers.isEmpty = false := by
      simp [AutoScaler.addFinalizer]
    refine ⟨_, _, hupdate, ?_, containsFinalizer_addFinalizer ras, rfl, rfl, rfl, ?_,
      fun h => absurd h hfin⟩
    · have hkept :
          ¬ ((ApiObject.metadata (R := Resource .autoScaler) ras).deletionTimestamp.isSome &&
            (ApiObject.metadata (R := Resource .autoScaler) ras.addFinalizer).finalizers.isEmpty) :=
        fun h => by cases hempty.symm.trans (Bool.and_eq_true_iff.mp h).2
      rw [if_neg hkept, ← hadded]
      exact ApiServer.put_same
    · intro k hk
      funext key'
      have hafter := congrArg (fun result => result.2.objects k key') hupdate
      exact hafter.symm.trans (ApiServer.update_frame fun h => hk h.1)

/-- What an establishing pass does to bindings. -/
theorem bindings_of_establishes (now : String) (h : Establishes r s key) :
    ∃ (ras' : AutoScaler) (s' : Cluster), ras'.metadata.key = key ∧
      s'.objects .clusterRoleBinding = s.objects .clusterRoleBinding ∧
      (Kube.exec (serve now) (r.reconcile now key) s).2.objects .clusterRoleBinding =
        (ensured s' .clusterRoleBinding (plannerBinding ras')).objects .clusterRoleBinding := by
  obtain ⟨ras, spec, rbg, hras, hparse, hlive, hrbg⟩ := h
  obtain ⟨ras', s₁, hhold, hheld⟩ := exec_holdFinalizer now hras
  have hkey := hheld.keyed
  have hframe := hheld.others
  have htarget : s₁.get .roleBasedGroup (ras'.sibling ras'.name) = .ok rbg := by
    apply ApiServer.get_of_some
    rw [hframe _ (by decide), ← hrbg, ← hkey]
    rfl
  let s₂ := ensured (ensured s₁ .serviceAccount (plannerServiceAccount ras')) .clusterRole
    plannerClusterRole
  have hs₂ : s₂.objects .clusterRoleBinding = s₁.objects .clusterRoleBinding := by
    rw [ensured_frame (by decide), ensured_frame (by decide)]
  have hrbac : Kube.exec (serve now) (ensureRBAC ras') s₁ =
      (.ok (), ensured s₂ .clusterRoleBinding (plannerBinding ras')) :=
    exec_ensureRBAC now s₁ ras'
  refine ⟨ras', s₂, hkey, hs₂.trans (hframe _ (by decide)), ?_⟩
  have hworkload := bindings_of_spares now
    (s := ensured s₂ .clusterRoleBinding (plannerBinding ras'))
    (spares_of_within (asks_reconcileWorkload hkey now spec rbg
      (getGPUsFromRBG rbg spec.prefillRoleName spec.decodeRoleName).1
      (getGPUsFromRBG rbg spec.prefillRoleName spec.decodeRoleName).2) (by decide))
  rw [← hworkload, exec_reconcile hras, hparse]
  simp [hlive, reconcileLive, hhold, serve, htarget, reconcileTarget, hrbac]

/-- A pass that cleans up does nothing else to bindings. -/
theorem bindings_of_cleansUp (now : String) (h : CleansUp r s key) :
    (Kube.exec (serve now) (r.reconcile now key) s).2.objects .clusterRoleBinding =
      (cleaned now s key).objects .clusterRoleBinding := by
  obtain ⟨ras, spec, hras, hparse, hmarked, hheld⟩ := h
  obtain ⟨next, s', hupdate, hbindings, -⟩ := release_after_cleanup now hras
  rw [exec_reconcile hras, hparse, ← hbindings]
  simp [hmarked, exec_finishDeletion (ApiServer.keyOf_stored hras) hheld hupdate]

/-- Any other pass leaves all bindings. -/
theorem bindings_of_neither (now : String) (he : ¬ Establishes r s key) (hc : ¬ CleansUp r s key) :
    (Kube.exec (serve now) (r.reconcile now key) s).2.objects .clusterRoleBinding =
      s.objects .clusterRoleBinding := by
  cases hras : s.objects .autoScaler key with
  | none => simp [AutoScalerReconciler.reconcile, serve, ApiServer.get_of_none hras,
      ApiServer.notFound]
  | some ras =>
      have hkey : ras.metadata.key = key := ApiServer.keyOf_stored hras
      rw [exec_reconcile hras]
      cases hparse : r.parseRASSpec ras.spec with
      | error message =>
          have hphase := spares_of_within (asks_setPhase hkey now "Failed" "InvalidSpec" message)
            (by decide)
          exact bindings_of_spares (Q := fun _ => True) now (.bind hphase fun _ _ => .pure trivial)
      | ok spec =>
          dsimp only
          split_ifs with hmarked
          · have hheld : ras.containsFinalizer = false := by
              by_contra hheld
              exact hc ⟨ras, spec, hras, hparse, hmarked, by simpa using hheld⟩
            simp [finishDeletion, hheld]
          · have hlive : ras.metadata.deletionTimestamp = none := by simpa using hmarked
            have hrbg : s.objects .roleBasedGroup key = none := by
              by_contra hrbg
              obtain ⟨rbg, hrbg⟩ := Option.ne_none_iff_exists'.mp hrbg
              exact he ⟨ras, spec, rbg, hras, hparse, hlive, hrbg⟩
            obtain ⟨ras', s₁, hhold, hheld⟩ := exec_holdFinalizer now hras
            have hkey' := hheld.keyed
            have hframe := hheld.others
            have htarget : s₁.get .roleBasedGroup (ras'.sibling ras'.name) =
                .error (ApiServer.notFound (ras'.sibling ras'.name)) := by
              apply ApiServer.get_of_none
              rw [hframe _ (by decide), ← hrbg, ← hkey']
              rfl
            rw [← hframe .clusterRoleBinding (by decide)]
            simpa [reconcileLive, hhold, serve, htarget] using
              bindings_of_spares now
                (spares_of_within (asks_targetMissing hkey' now _) (by decide))

end RbgPlanner.Controller
