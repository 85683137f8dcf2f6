import RbgPlanner.Controller.Reconcile

/-!
# The footprint of a pass

A pass on one AutoScaler writes few objects: the AutoScaler, three objects
named after it in its namespace, the shared ClusterRole, and its binding.
-/

namespace RbgPlanner.Controller

open Base

/-- The key of the binding of the AutoScaler at `key`. -/
def bindingKey (key : NamespacedName) : NamespacedName :=
  clusterKey (key.name ++ "-planner-binding")

/-- The key of the profiling Job and of the profile. -/
def profileKey (key : NamespacedName) : NamespacedName :=
  ⟨key.namespaceName, key.name ++ "-profiling"⟩

/-- The object of a kind that a pass on the AutoScaler at `key` may write. -/
def footprint (key : NamespacedName) : Kind → Option NamespacedName
  | .autoScaler => some key
  | .serviceAccount => some ⟨key.namespaceName, key.name ++ "-planner"⟩
  | .clusterRole => some (clusterKey plannerClusterRoleName)
  | .clusterRoleBinding => some (bindingKey key)
  | .job => some ⟨key.namespaceName, key.name ++ "-profiling"⟩
  | .deployment => some ⟨key.namespaceName, key.name ++ "-planner"⟩
  | .configMap => none
  | .roleBasedGroup => none

/-- The requests of a pass on the AutoScaler at `key`. -/
def Permitted (key : NamespacedName) : KubeOp → Prop
  | .get _ _ => True
  | .event _ _ _ => True
  | .create k obj => k ≠ .autoScaler ∧ footprint key k = some (ApiServer.keyOf obj)
  | .update k obj => (k = .autoScaler ∨ k = .deployment) ∧
      footprint key k = some (ApiServer.keyOf obj)
  | .updateStatus obj => obj.metadata.key = key
  | .delete k key' => k = .clusterRoleBinding ∧ key' = bindingKey key

/-- A permitted request that does not write a binding. -/
def SparesBinding (key : NamespacedName) (op : KubeOp) : Prop :=
  Permitted key op ∧ op.target.map Prod.fst ≠ some .clusterRoleBinding

/-- What a request does, and to objects of which kind. -/
inductive Access
  | read (k : Kind)
  | write (k : Kind)
  | status
  | event
  deriving DecidableEq, Repr

def KubeOp.access : KubeOp → Access
  | .get k _ => .read k
  | .create k _ => .write k
  | .update k _ => .write k
  | .delete k _ => .write k
  | .updateStatus _ => .status
  | .event _ _ _ => .event

/-- A permitted request of one of these accesses. -/
def Within (key : NamespacedName) (accesses : List Access) (op : KubeOp) : Prop :=
  Permitted key op ∧ op.access ∈ accesses

open Kube (Asks)

variable {key : NamespacedName} {accesses : List Access}

section Access

variable {α : Type} {Q : α → Prop} {x : Kube α}

theorem asks_of_within {accesses' : List Access} (h : Asks (Within key accesses) Q x)
    (hsub : accesses ⊆ accesses') : Asks (Within key accesses') Q x :=
  h.mono (fun _ hop => ⟨hop.1, hsub hop.2⟩) fun _ hQ => hQ

theorem permitted_of_within (h : Asks (Within key accesses) Q x) : Asks (Permitted key) Q x :=
  h.mono (fun _ hop => hop.1) fun _ hQ => hQ

/-- Only the accesses that write bindings can target one. -/
theorem spares_of_within (h : Asks (Within key accesses) Q x)
    (hbinding : .write .clusterRoleBinding ∉ accesses) : Asks (SparesBinding key) Q x := by
  refine h.mono (fun op hop => ⟨hop.1, ?_⟩) fun _ hQ => hQ
  cases op with
  | get _ _ => exact nofun
  | event _ _ _ => exact nofun
  | updateStatus _ => exact nofun
  | create k _ =>
      rintro ⟨⟩
      exact hbinding hop.2
  | update k _ =>
      rintro ⟨⟩
      exact hbinding hop.2
  | delete k _ =>
      rintro ⟨⟩
      exact hbinding hop.2

end Access

/-! ## One lemma for each function -/

theorem asks_get {k : Kind} {place : NamespacedName} :
    Asks (Within key [.read k]) (fun o : Resource k => ApiServer.keyOf o = place)
      (Kube.get k place) :=
  .get ⟨trivial, .head _⟩

theorem asks_createIfNotExists {k : Kind} {obj : Resource k} (h : Permitted key (.create k obj)) :
    Asks (Within key [.write k]) (fun _ => True) (createIfNotExists k obj) := by
  refine .bind (.attempt (.create ⟨h, List.mem_singleton_self _⟩)) fun r _ => ?_
  cases r with
  | ok _ => exact .pure trivial
  | error e =>
      dsimp only
      split_ifs
      · exact .pure trivial
      · exact .throw

theorem asks_createOrUpdate {k : Kind} {obj : Resource k} (h : Permitted key (.create k obj)) :
    Asks (Within key [.read k, .write k]) (fun _ => True) (createOrUpdate k obj) := by
  refine .bind (.attempt (.get ⟨trivial, .head _⟩)) fun r _ => ?_
  cases r with
  | ok _ => exact .pure trivial
  | error e =>
      dsimp only
      split_ifs
      · exact .bind (.create ⟨h, .tail _ (.head _)⟩) fun _ _ => .pure trivial
      · exact .throw

section Functions

variable {ras : AutoScaler} (hkey : ras.metadata.key = key)
include hkey

theorem asks_ensureRBAC :
    Asks (Within key [.read .serviceAccount, .write .serviceAccount, .write .clusterRole,
      .read .clusterRoleBinding, .write .clusterRoleBinding]) (fun _ => True)
      (ensureRBAC ras) := by
  subst hkey
  refine .bind (.wrap (asks_of_within (asks_createOrUpdate ⟨by decide, rfl⟩) (by decide))) ?_
  intro _ _
  refine .bind (.wrap (asks_of_within (asks_createIfNotExists ⟨by decide, rfl⟩) (by decide))) ?_
  intro _ _
  exact .wrap (asks_of_within (asks_createOrUpdate ⟨by decide, rfl⟩) (by decide))

theorem asks_cleanupClusterResources :
    Asks (Within key [.read .clusterRoleBinding, .write .clusterRoleBinding]) (fun _ => True)
      (cleanupClusterResources ras) := by
  subst hkey
  refine .bind (.attempt (.get ⟨trivial, .head _⟩)) fun r hr => ?_
  cases r with
  | ok crb => exact .delete ⟨⟨rfl, hr crb rfl⟩, .tail _ (.head _)⟩
  | error e =>
      dsimp only
      split_ifs
      · exact .pure trivial
      · exact .throw

theorem asks_createProfilingJob (spec : ParsedSpec) :
    Asks (Within key [.write .job]) (fun _ => True)
      (createProfilingJob ras spec ras.profilingName ras.profilingName) := by
  subst hkey
  exact .bind (.create ⟨⟨by decide, rfl⟩, .head _⟩) fun _ _ => .pure trivial

/-- A profile that is there has the name of the profile. -/
theorem asks_handleProfiling (spec : ParsedSpec) :
    Asks (Within key [.read .configMap, .read .job, .write .job])
      (fun result => result.2 = true → result.1 = ras.profilingName)
      (handleProfiling ras spec) := by
  subst hkey
  refine .bind (.attempt (.get ⟨trivial, .head _⟩)) fun cm _ => ?_
  cases cm with
  | ok _ => exact .pure fun _ => rfl
  | error _ =>
      refine .bind (.attempt (.get ⟨trivial, .tail _ (.head _)⟩)) fun job _ => ?_
      cases job with
      | error e =>
          dsimp only
          split_ifs
          · refine .bind (Q := fun _ => True) (.wrap ?_) fun _ _ => .pure nofun
            exact asks_of_within (asks_createProfilingJob rfl spec) (by decide)
          · exact .throw
      | ok job =>
          dsimp only
          split_ifs
          · refine .bind (.attempt (.get ⟨trivial, .head _⟩)) fun cm _ => ?_
            cases cm with
            | ok _ => exact .pure fun _ => rfl
            | error _ => exact .throw
          · exact .throw
          · exact .pure nofun

theorem asks_ensurePlannerDeployment (spec : ParsedSpec) (profilingCM : String)
    (prefillGPUs decodeGPUs : ℤ) :
    Asks (Within key [.read .deployment, .write .deployment]) (fun _ => True)
      (ensurePlannerDeployment ras spec profilingCM prefillGPUs decodeGPUs) := by
  subst hkey
  refine .bind (.attempt (.get ⟨trivial, .head _⟩)) fun r hr => ?_
  cases r with
  | error e =>
      dsimp only
      split_ifs
      · exact .bind (.create ⟨⟨by decide, rfl⟩, .tail _ (.head _)⟩) fun _ _ => .pure trivial
      · exact .throw
  | ok existing =>
      have hexisting := hr existing rfl
      dsimp only
      split_ifs
      · exact .bind (.update ⟨⟨.inr rfl, congrArg some hexisting.symm⟩, .tail _ (.head _)⟩)
          fun _ _ => .pure trivial
      · exact .pure trivial

theorem asks_setPhase (now phase reason message : String) :
    Asks (Within key [.status]) (fun _ => True) (setPhase now ras phase reason message) :=
  .bind (.updateStatus ⟨hkey, .head _⟩) fun _ _ => .pure trivial

theorem asks_updateReadyStatus (now : String) (rbg : RoleBasedGroup) (spec : ParsedSpec)
    (profilingCM : String) :
    Asks (Within key [.status]) (fun _ => True)
      (updateReadyStatus now ras rbg spec profilingCM) :=
  .bind (.updateStatus ⟨hkey, .head _⟩) fun _ _ => .pure trivial

theorem asks_finishDeletion :
    Asks (Within key [.read .clusterRoleBinding, .write .clusterRoleBinding, .write .autoScaler])
      (fun _ => True) (finishDeletion ras) := by
  unfold finishDeletion
  split_ifs
  · refine .bind (asks_of_within (asks_cleanupClusterResources hkey) (by decide)) fun _ _ => ?_
    exact .bind (.update ⟨⟨.inl rfl, congrArg some hkey.symm⟩, .tail _ (.tail _ (.head _))⟩)
      fun _ _ => .pure trivial
  · exact .pure trivial

/-- The object that holds the finalizer is the same object. -/
theorem asks_holdFinalizer :
    Asks (Within key [.write .autoScaler]) (fun o => o.metadata.key = key)
      (holdFinalizer ras) := by
  unfold holdFinalizer
  split_ifs
  · exact .pure hkey
  · exact (Asks.update ⟨⟨.inl rfl, congrArg some hkey.symm⟩, .head _⟩).mono
      (fun _ h => h) fun _ h => h.trans hkey

theorem asks_reconcileWorkload (now : String) (spec : ParsedSpec) (rbg : RoleBasedGroup)
    (prefillGPUs decodeGPUs : ℤ) :
    Asks (Within key [.read .configMap, .read .job, .write .job, .read .deployment,
      .write .deployment, .status]) (fun _ => True)
      (reconcileWorkload now ras spec rbg prefillGPUs decodeGPUs) := by
  have hphase : ∀ phase reason message, Asks (Within key [.read .configMap, .read .job,
      .write .job, .read .deployment, .write .deployment, .status]) (fun _ => True)
      (setPhase now ras phase reason message) :=
    fun _ _ _ => asks_of_within (asks_setPhase hkey _ _ _ _) (by decide)
  refine .bind (.attempt (asks_of_within (asks_handleProfiling hkey spec) (by decide))) ?_
  intro r _
  match r with
  | .error e => exact .bind (.attempt (hphase _ _ _)) fun _ _ => .throw
  | .ok (_, false) => exact .bind (.attempt (hphase _ _ _)) fun _ _ => .pure trivial
  | .ok (cm, true) =>
      refine .bind (asks_of_within (asks_ensurePlannerDeployment hkey spec cm _ _) (by decide)) ?_
      intro _ _
      refine .bind (asks_of_within (asks_updateReadyStatus hkey now rbg spec cm) (by decide)) ?_
      exact fun _ _ => .pure trivial

theorem asks_reconcileTarget (now : String) (spec : ParsedSpec) (rbg : RoleBasedGroup) :
    Asks (Permitted key) (fun _ => True) (reconcileTarget now ras spec rbg) :=
  .bind (permitted_of_within (asks_ensureRBAC hkey)) fun _ _ =>
    permitted_of_within (asks_reconcileWorkload hkey now spec rbg _ _)

end Functions

/-- The branch of a missing target. -/
theorem asks_targetMissing {ras : AutoScaler} (hkey : ras.metadata.key = key) (now : String)
    (e : ApiError) :
    Asks (Within key [.event, .status]) (fun _ => True) (targetMissing now ras e) := by
  unfold targetMissing
  split_ifs
  · refine .bind (.event ⟨trivial, .head _⟩) fun _ _ => ?_
    exact .bind (.attempt (asks_of_within (asks_setPhase hkey _ _ _ _) (by decide)))
      fun _ _ => .pure trivial
  · exact .throw

theorem asks_reconcileLive {ras : AutoScaler} (hkey : ras.metadata.key = key) (now : String)
    (spec : ParsedSpec) : Asks (Permitted key) (fun _ => True) (reconcileLive now ras spec) := by
  refine .bind (permitted_of_within (asks_holdFinalizer hkey)) fun ras' hkey' => ?_
  refine .bind (.attempt (.get trivial)) fun r _ => ?_
  cases r with
  | ok rbg => exact asks_reconcileTarget hkey' now spec rbg
  | error e => exact permitted_of_within (asks_targetMissing hkey' now e)

/-- A pass issues permitted requests only. -/
theorem asks_reconcile (r : AutoScalerReconciler) (now : String) (key : NamespacedName) :
    Asks (Permitted key) (fun _ => True) (r.reconcile now key) := by
  refine .bind (.attempt (.get trivial)) fun found hfound => ?_
  cases found with
  | error e =>
      dsimp only
      split_ifs
      · exact .pure trivial
      · exact .throw
  | ok ras =>
      have hkey : ras.metadata.key = key := hfound ras rfl
      dsimp only
      split
      · exact .bind (permitted_of_within (asks_setPhase hkey _ _ _ _)) fun _ _ => .pure trivial
      · split_ifs
        · exact permitted_of_within (asks_finishDeletion hkey)
        · exact asks_reconcileLive hkey now _

/-! ## Consequences for the API server -/

variable {now : String} {s : Cluster}

/-- A permitted request writes inside the footprint. -/
theorem target_of_permitted {op : KubeOp} (h : Permitted key op) {k : Kind}
    {key' : NamespacedName} (ht : op.target = some (k, key')) : footprint key k = some key' := by
  cases op with
  | get _ _ => cases ht
  | event _ _ _ => cases ht
  | create _ _ => cases ht; exact h.2
  | update _ _ => cases ht; exact h.2
  | updateStatus _ => cases ht; exact congrArg some h.symm
  | delete _ _ =>
      cases ht
      obtain ⟨rfl, rfl⟩ := h
      rfl

/-- A program of permitted requests leaves what is outside the footprint. -/
theorem exec_frame {α : Type} {Q : α → Prop} {x : Kube α} (hx : Asks (Permitted key) Q x)
    {k : Kind} {key' : NamespacedName} (h : footprint key k ≠ some key') :
    (Kube.exec (serve now) x s).2.objects k key' = s.objects k key' := by
  refine Prog.Asks.preserves (serve_keyed now) hx
    (I := fun s' => s'.objects k key' = s.objects k key') (fun op s' hop hs' => ?_) rfl
  rw [← hs']
  exact serve_frame fun ht => h (target_of_permitted hop ht)

/-- A program writes the kinds its accesses name, and AutoScalers by their status too. -/
theorem objects_of_within {α : Type} {Q : α → Prop} {x : Kube α}
    (hx : Asks (Within key accesses) Q x) {k : Kind} (hwrite : .write k ∉ accesses)
    (hstatus : k = .autoScaler → .status ∉ accesses) :
    (Kube.exec (serve now) x s).2.objects k = s.objects k := by
  refine Prog.Asks.preserves (serve_keyed now) hx
    (I := fun s' => s'.objects k = s.objects k) (fun op s' hop hs' => ?_) rfl
  rw [← hs']
  funext key'
  refine serve_frame fun ht => ?_
  cases op with
  | get _ _ => cases ht
  | event _ _ _ => cases ht
  | create k' _ =>
      cases ht
      exact hwrite hop.2
  | update k' _ =>
      cases ht
      exact hwrite hop.2
  | updateStatus _ =>
      cases ht
      exact hstatus rfl hop.2
  | delete k' _ =>
      cases ht
      exact hwrite hop.2

/-- An AutoScaler that is not marked for deletion. -/
def LiveIn (s : Cluster) (key : NamespacedName) : Prop :=
  ∃ ras : AutoScaler, s.objects .autoScaler key = some ras ∧
    ras.metadata.deletionTimestamp = none

theorem liveIn_congr {s' : Cluster} {key' : NamespacedName}
    (h : s'.objects .autoScaler key' = s.objects .autoScaler key') :
    LiveIn s' key' ↔ LiveIn s key' := by
  simp only [LiveIn, h]

/-- Storing an AutoScaler with the deletion mark of the one it replaces. -/
theorem liveIn_put {stored next : AutoScaler} (hs : s.objects .autoScaler key = some stored)
    (hkey : next.metadata.key = key)
    (hmark : next.metadata.deletionTimestamp = stored.metadata.deletionTimestamp) :
    LiveIn (s.put .autoScaler next) key ↔ LiveIn s key := by
  have hput : (s.put .autoScaler next).objects .autoScaler key = some next := by
    rw [← hkey]
    exact ApiServer.put_same
  simp only [LiveIn, hput, hs, Option.some.injEq, exists_eq_left', hmark]

theorem liveIn_updateStatus (obj : AutoScaler) :
    LiveIn (updateStatus s obj).2 obj.metadata.key ↔ LiveIn s obj.metadata.key := by
  unfold updateStatus
  split
  · rfl
  · next stored hs =>
      split_ifs
      · rfl
      · exact liveIn_put hs (ApiServer.keyOf_stored hs) rfl

theorem liveIn_update (obj : AutoScaler) :
    LiveIn (s.update .autoScaler obj).2 obj.metadata.key ↔ LiveIn s obj.metadata.key := by
  unfold ApiServer.update
  split
  · rfl
  · next stored hs =>
      have hs' : s.objects .autoScaler obj.metadata.key = some stored := hs
      split_ifs with _ hgone
      · rfl
      · have herase : (s.erase .autoScaler obj.metadata.key).objects .autoScaler
            obj.metadata.key = none := ApiServer.erase_same
        have hmarked : (AutoScaler.metadata stored).deletionTimestamp.isSome = true := by
          rw [Bool.and_eq_true] at hgone
          exact hgone.1
        apply iff_of_false
        · rintro ⟨ras, hras, -⟩
          cases herase.symm.trans hras
        · rintro ⟨ras, hras, hunmarked⟩
          obtain rfl := Option.some.inj (hs'.symm.trans hras)
          rw [hunmarked] at hmarked
          cases hmarked
      · exact liveIn_put hs' rfl rfl

/-- A permitted request neither marks an AutoScaler nor brings one back. -/
theorem liveIn_serve (now : String) {op : KubeOp} (h : Permitted key op) {key' : NamespacedName} :
    LiveIn (serve now op s).2 key' ↔ LiveIn s key' := by
  by_cases htarget : op.target = some (.autoScaler, key')
  · cases op with
    | get _ _ => rfl
    | event _ _ _ => rfl
    | create k obj =>
        cases htarget
        exact absurd rfl h.1
    | delete k _ =>
        cases htarget
        cases h.1
    | updateStatus obj =>
        cases htarget
        exact liveIn_updateStatus obj
    | update k obj =>
        cases htarget
        exact liveIn_update obj
  · exact liveIn_congr (serve_frame htarget)

/-- A pass leaves the set of live AutoScalers. -/
theorem liveIn_exec {α : Type} {Q : α → Prop} {x : Kube α} (hx : Asks (Permitted key) Q x)
    {key' : NamespacedName} : LiveIn (Kube.exec (serve now) x s).2 key' ↔ LiveIn s key' :=
  Prog.Asks.preserves (serve_keyed now) hx (I := fun s' => LiveIn s' key' ↔ LiveIn s key')
    (fun _ _ hop hs' => (liveIn_serve now hop).trans hs') Iff.rfl

end RbgPlanner.Controller
