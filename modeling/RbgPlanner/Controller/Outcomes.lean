import RbgPlanner.Controller.Bindings

/-!
# How a pass ends

Which passes store a status, and which status, when every request is served
from the cluster the pass starts on.
-/

namespace RbgPlanner.Controller

open Base

variable {r : AutoScalerReconciler} {now : String} {key : NamespacedName} {s : Cluster}
  {ras : AutoScaler}

/-- A pass that stores a status: the spec does not parse, or the AutoScaler is
not marked. -/
def StoresStatus (r : AutoScalerReconciler) (s : Cluster) (key : NamespacedName) : Prop :=
  ∃ ras : AutoScaler, s.objects .autoScaler key = some ras ∧
    ((∃ message, r.parseRASSpec ras.spec = .error message) ∨
      ras.metadata.deletionTimestamp = none)

/-- A pass that finds all it needs to run the planner. -/
def FindsAll (r : AutoScalerReconciler) (s : Cluster) (key : NamespacedName) : Prop :=
  Establishes r s key ∧ ∃ cm : ConfigMap, s.objects .configMap (profileKey key) = some cm

theorem FindsAll.storesStatus (h : FindsAll r s key) : StoresStatus r s key := by
  obtain ⟨⟨ras, _, _, hras, -, hlive, -⟩, -⟩ := h
  exact ⟨ras, hras, .inr hlive⟩

/-- The cluster after a status was stored. -/
def withStatus (s : Cluster) (ras : AutoScaler) (status : Json) : Cluster :=
  s.put .autoScaler (ras.statusUpdated s.version { ras with status := some status })

theorem exec_setPhase (hras : s.objects .autoScaler key = some ras)
    (phase reason message : String) :
    Kube.exec (serve now) (setPhase now ras phase reason message) s =
      (.ok (), withStatus s ras (phaseStatus now ras.status phase reason message)) := by
  simp [setPhase, serve, updateStatus_of_stored hras, withStatus]

theorem exec_updateReadyStatus (hras : s.objects .autoScaler key = some ras)
    (rbg : RoleBasedGroup) (spec : ParsedSpec) (profilingCM : String) :
    Kube.exec (serve now) (updateReadyStatus now ras rbg spec profilingCM) s =
      (.ok (), withStatus s ras (readyStatus now ras rbg spec profilingCM)) := by
  simp [updateReadyStatus, serve, updateStatus_of_stored hras, withStatus]

/-- A spec that does not parse ends the pass with a status. -/
theorem exec_of_unparsed (hras : s.objects .autoScaler key = some ras) {message : String}
    (hparse : r.parseRASSpec ras.spec = .error message) :
    Kube.exec (serve now) (r.reconcile now key) s =
      (.ok {}, withStatus s ras
        (phaseStatus now ras.status "Failed" "InvalidSpec" message)) := by
  rw [exec_reconcile hras, hparse]
  simp [exec_setPhase hras]

/-! ## A missing target -/

/-- The message of a missing target. -/
def waitingMessage (key : NamespacedName) : String :=
  "Waiting for RoleBasedGroup " ++ key.name ++ " to exist"

theorem get_target {s' : Cluster} {held : AutoScaler} (h : Held s key ras s' held) :
    s'.get .roleBasedGroup (held.sibling held.name) = s.get .roleBasedGroup key := by
  have hplace : held.sibling held.name = key := by
    rw [← h.keyed]
    rfl
  rw [hplace, ApiServer.get, ApiServer.get, h.others _ (by decide)]

theorem exec_targetMissing (now : String) (hras : s.objects .autoScaler key = some ras)
    {e : ApiError} (he : e.reason = .notFound) :
    Kube.exec (serve now) (targetMissing now ras e) s =
      (.ok { requeueAfter := 30 * second }, withStatus s ras
        (phaseStatus now ras.status "Pending" "RBGNotFound" (waitingMessage key))) := by
  have hname : ras.name = key.name := congrArg NamespacedName.name (ApiServer.keyOf_stored hras)
  unfold waitingMessage
  simp only [targetMissing, he, if_true, Kube.exec_bind, Kube.exec_event, serve,
    Kube.exec_attempt, exec_setPhase hras, Kube.exec_pure, hname]

theorem exec_of_missing (now : String) (hras : s.objects .autoScaler key = some ras)
    {spec : ParsedSpec} (hparse : r.parseRASSpec ras.spec = .ok spec)
    (hlive : ras.metadata.deletionTimestamp = none) (hrbg : s.objects .roleBasedGroup key = none) :
    ∃ held s', Held s key ras s' held ∧ Kube.exec (serve now) (r.reconcile now key) s =
      (.ok { requeueAfter := 30 * second }, withStatus s' held
        (phaseStatus now held.status "Pending" "RBGNotFound" (waitingMessage key))) := by
  obtain ⟨held, s', hhold, hheld⟩ := exec_holdFinalizer now hras
  have htarget := (get_target hheld).trans (ApiServer.get_of_none hrbg)
  have hmissing := exec_targetMissing now hheld.stored (e := ApiServer.notFound key) rfl
  refine ⟨held, s', hheld, ?_⟩
  rw [exec_reconcile hras, hparse]
  simp only [hlive, Option.isSome_none, Bool.false_eq_true, if_false, reconcileLive,
    Kube.exec_bind, hhold, Kube.exec_attempt, Kube.exec_get, serve, htarget, hmissing]

/-! ## Profiling -/

/-- The Job is there and has neither succeeded nor failed so far. -/
def Running (s : Cluster) (key : NamespacedName) : Prop :=
  ∃ job : Job, s.objects .job (profileKey key) = some job ∧ ¬ 0 < job.succeeded ∧ ¬ 0 < job.failed

theorem Running.congr {s' : Cluster} (h : Running s key)
    (hjob : s'.objects .job = s.objects .job) : Running s' key := by
  unfold Running
  rw [hjob]
  exact h

/-- How profiling ends on a cluster: with the profile, without a hope for one,
or with a Job that is running. -/
inductive Profiled (now : String) (spec : ParsedSpec) (ras : AutoScaler) (key : NamespacedName)
    (s : Cluster) : Prop
  | found {cm : ConfigMap} (hcm : s.objects .configMap (profileKey key) = some cm)
      (hexec : Kube.exec (serve now) (handleProfiling ras spec) s =
        (.ok (key.name ++ "-profiling", true), s))
  | failed {e : ApiError} (hcm : s.objects .configMap (profileKey key) = none)
      (hstopped : ¬ Running s key)
      (hexec : Kube.exec (serve now) (handleProfiling ras spec) s = (.error e, s))
  | running {s' : Cluster} (hcm : s.objects .configMap (profileKey key) = none)
      (hexec : Kube.exec (serve now) (handleProfiling ras spec) s = (.ok ("", false), s'))
      (hrunning : Running s' key) (hothers : ∀ k ≠ .job, s'.objects k = s.objects k)
      (hsame : Running s key → s' = s)

section Profiling

variable {spec : ParsedSpec} (hkey : ras.metadata.key = key)
include hkey

theorem profilingName_of_keyed : ras.profilingName = key.name ++ "-profiling" := by
  subst hkey
  rfl

theorem sibling_of_keyed : ras.sibling (key.name ++ "-profiling") = profileKey key := by
  subst hkey
  rfl

/-- A Job that was there decides. -/
theorem profiled_of_job (now : String) (hcm : s.objects .configMap (profileKey key) = none)
    {job : Job} (hjob : s.objects .job (profileKey key) = some job) :
    Profiled now spec ras key s := by
  have hname := profilingName_of_keyed hkey
  have hplace := sibling_of_keyed hkey
  have hget := ApiServer.get_of_none hcm
  by_cases hsucceeded : 0 < Job.succeeded job
  · have hstopped : ¬ Running s key := by
      rintro ⟨job', hjob', hnone, -⟩
      obtain rfl := Option.some.inj (hjob.symm.trans hjob')
      exact hnone hsucceeded
    refine .failed hcm hstopped (e := ⟨.other, "profiling job succeeded but ConfigMap " ++
      (key.name ++ "-profiling") ++ " not found"⟩) ?_
    simp [handleProfiling, hname, hplace, serve, hget, ApiServer.get_of_some hjob, hsucceeded]
  · by_cases hfailed : 0 < Job.failed job
    · have hstopped : ¬ Running s key := by
        rintro ⟨job', hjob', -, hnone⟩
        obtain rfl := Option.some.inj (hjob.symm.trans hjob')
        exact hnone hfailed
      refine .failed hcm hstopped (e := ⟨.other, "profiling job " ++
        (key.name ++ "-profiling") ++ " failed"⟩) ?_
      simp [handleProfiling, hname, hplace, serve, hget, ApiServer.get_of_some hjob,
        hsucceeded, hfailed]
    · refine .running hcm ?_ ⟨job, hjob, hsucceeded, hfailed⟩ (fun _ _ => rfl) fun _ => rfl
      simp [handleProfiling, hname, hplace, serve, hget, ApiServer.get_of_some hjob,
        hsucceeded, hfailed]

/-- Without a Job one is created, and it is running. -/
theorem profiled_of_none (now : String) (hcm : s.objects .configMap (profileKey key) = none)
    (hjob : s.objects .job (profileKey key) = none) : Profiled now spec ras key s := by
  have hname := profilingName_of_keyed hkey
  have hplace := sibling_of_keyed hkey
  let job : Resource .job :=
    profilingJob ras spec (key.name ++ "-profiling") (key.name ++ "-profiling")
  have hjobKey : ApiServer.keyOf job = profileKey key := hplace
  have hcreate : s.create .job job = (.ok (ApiServer.created s.version job),
      s.put .job (ApiServer.created s.version job)) :=
    ApiServer.create_of_none (hjobKey.symm ▸ hjob)
  have hstored : (s.put .job (ApiServer.created s.version job)).objects .job (profileKey key) =
      some (ApiServer.created s.version job) := by
    rw [← hjobKey, ← ApiServer.keyOf_created s.version job]
    exact ApiServer.put_same
  have hexec : Kube.exec (serve now) (handleProfiling ras spec) s =
      (.ok ("", false), s.put .job (ApiServer.created s.version job)) := by
    simp only [handleProfiling, hname, hplace, Kube.exec_bind, Kube.exec_attempt,
      Kube.exec_get, serve, ApiServer.get_of_none hcm, ApiServer.get_of_none hjob]
    simp [ApiServer.notFound, createProfilingJob, serve, hcreate, job, Except.mapError]
  refine .running hcm hexec ⟨_, hstored, lt_irrefl 0, lt_irrefl 0⟩ (fun k hk => ?_) ?_
  · funext place
    exact ApiServer.put_of_ne fun h => hk h.1
  · rintro ⟨job', hjob', -⟩
    cases hjob.symm.trans hjob'

theorem profiled (now : String) (spec : ParsedSpec) (s : Cluster) :
    Profiled now spec ras key s := by
  cases hcm : s.objects .configMap (profileKey key) with
  | some cm =>
      refine .found hcm ?_
      simp [handleProfiling, profilingName_of_keyed hkey, sibling_of_keyed hkey, serve,
        ApiServer.get_of_some hcm]
  | none =>
      cases hjob : s.objects .job (profileKey key) with
      | some job => exact profiled_of_job hkey now hcm hjob
      | none => exact profiled_of_none hkey now hcm hjob

end Profiling

/-! ## The Deployment -/

/-- The Deployment is created when there is none. -/
theorem exec_ensurePlannerDeployment_of_none (now : String) {spec : ParsedSpec}
    {profilingCM : String} {prefillGPUs decodeGPUs : ℤ}
    (hnone : s.objects .deployment (ras.sibling ras.plannerName) = none) :
    Kube.exec (serve now)
        (ensurePlannerDeployment ras spec profilingCM prefillGPUs decodeGPUs) s =
      (.ok (), s.put .deployment (ApiServer.created s.version (plannerDeployment ras spec
        profilingCM prefillGPUs decodeGPUs : Resource .deployment))) := by
  let desired : Resource .deployment :=
    plannerDeployment ras spec profilingCM prefillGPUs decodeGPUs
  have hdesired : s.objects .deployment (ApiServer.keyOf desired) = none := hnone
  simp [ensurePlannerDeployment, serve, ApiServer.get_of_none hnone, ApiServer.notFound, desired,
    ApiServer.create_of_none hdesired]

/-- The Deployment can always be brought in line. -/
theorem exec_ensurePlannerDeployment (now : String) (s : Cluster) (ras : AutoScaler)
    (spec : ParsedSpec) (profilingCM : String) (prefillGPUs decodeGPUs : ℤ) :
    ∃ s', Kube.exec (serve now)
        (ensurePlannerDeployment ras spec profilingCM prefillGPUs decodeGPUs) s = (.ok (), s') ∧
      ∀ k ≠ .deployment, s'.objects k = s.objects k := by
  have hok : (Kube.exec (serve now)
      (ensurePlannerDeployment ras spec profilingCM prefillGPUs decodeGPUs) s).1 = .ok () := by
    let desired : Resource .deployment :=
      plannerDeployment ras spec profilingCM prefillGPUs decodeGPUs
    cases hstored : s.objects .deployment (ras.sibling ras.plannerName) with
    | none => rw [exec_ensurePlannerDeployment_of_none now hstored]
    | some existing =>
        let next : Resource .deployment := { desired with metadata := existing.metadata }
        have hexisting : ApiServer.keyOf existing = ras.sibling ras.plannerName :=
          ApiServer.keyOf_stored hstored
        have hcurrent : s.objects .deployment (ApiServer.keyOf next) = some existing := by
          rw [← hexisting] at hstored
          exact hstored
        have hupdate : s.update .deployment next = _ := ApiServer.update_of_current hcurrent rfl
        simp only [ensurePlannerDeployment, Kube.exec_bind, Kube.exec_attempt, Kube.exec_get,
          serve, ApiServer.get_of_some hstored]
        split_ifs
        · simp only [Kube.exec_bind, Kube.exec_update, serve]
          rw [hupdate]
          rfl
        · rfl
  have hwithin : Kube.Asks (Within ras.metadata.key _) _ _ :=
    asks_ensurePlannerDeployment rfl spec profilingCM prefillGPUs decodeGPUs
  exact ⟨_, Prod.ext hok rfl, fun k hk => objects_of_within hwithin (by simpa using hk) (by simp)⟩

/-! ## Profile, Deployment and status -/

section Workload

variable {spec : ParsedSpec} {rbg : RoleBasedGroup} {prefillGPUs decodeGPUs : ℤ}

theorem exec_of_deployed {s' : Cluster} {profilingCM : String}
    (hras : s'.objects .autoScaler key = some ras)
    (hprofile : Kube.exec (serve now) (handleProfiling ras spec) s = (.ok (profilingCM, true), s))
    (hdeployed : Kube.exec (serve now)
      (ensurePlannerDeployment ras spec profilingCM prefillGPUs decodeGPUs) s = (.ok (), s')) :
    Kube.exec (serve now) (reconcileWorkload now ras spec rbg prefillGPUs decodeGPUs) s =
      (.ok { requeueAfter := toInt64 (spec.scalingInterval * second) },
        withStatus s' ras (readyStatus now ras rbg spec profilingCM)) := by
  simp only [reconcileWorkload, Kube.exec_bind, Kube.exec_attempt, hprofile, hdeployed,
    exec_updateReadyStatus hras, Kube.exec_pure]

theorem exec_of_found (now : String) (hras : s.objects .autoScaler key = some ras)
    {profilingCM : String} (hprofile : Kube.exec (serve now) (handleProfiling ras spec) s =
      (.ok (profilingCM, true), s)) :
    ∃ s', (∀ k ≠ .deployment, s'.objects k = s.objects k) ∧
      Kube.exec (serve now) (reconcileWorkload now ras spec rbg prefillGPUs decodeGPUs) s =
        (.ok { requeueAfter := toInt64 (spec.scalingInterval * second) },
          withStatus s' ras (readyStatus now ras rbg spec profilingCM)) := by
  obtain ⟨s', hdeployed, hframe⟩ :=
    exec_ensurePlannerDeployment now s ras spec profilingCM prefillGPUs decodeGPUs
  have hstored : s'.objects .autoScaler key = some ras := by rw [hframe _ (by decide), hras]
  exact ⟨s', hframe, exec_of_deployed hstored hprofile hdeployed⟩

theorem exec_of_failed (hras : s.objects .autoScaler key = some ras) {e : ApiError}
    (hprofile : Kube.exec (serve now) (handleProfiling ras spec) s = (.error e, s)) :
    Kube.exec (serve now) (reconcileWorkload now ras spec rbg prefillGPUs decodeGPUs) s =
      (.error e, withStatus s ras
        (phaseStatus now ras.status "Failed" "ProfilingFailed" e.message)) := by
  simp only [reconcileWorkload, Kube.exec_bind, Kube.exec_attempt, hprofile, exec_setPhase hras,
    Kube.exec_throw]

theorem exec_of_running {s' : Cluster} (hras : s'.objects .autoScaler key = some ras)
    {profilingCM : String} (hprofile : Kube.exec (serve now) (handleProfiling ras spec) s =
      (.ok (profilingCM, false), s')) :
    Kube.exec (serve now) (reconcileWorkload now ras spec rbg prefillGPUs decodeGPUs) s =
      (.ok { requeueAfter := 30 * second }, withStatus s' ras (phaseStatus now ras.status
        "Initializing" "ProfilingInProgress" "Profiling Job is running")) := by
  simp only [reconcileWorkload, Kube.exec_bind, Kube.exec_attempt, hprofile, exec_setPhase hras,
    Kube.exec_pure]

/-- The requests a program issues have its accesses. -/
theorem access_of_within {α : Type} {Q : α → Prop} {x : Kube α} {accesses : List Access}
    (hx : Kube.Asks (Within key accesses) Q x) :
    ∀ e ∈ Kube.requests (serve now) x s, e.1.access ∈ accesses :=
  fun e he => (Prog.Asks.trace (serve_keyed now) hx s e he).2

theorem access_ne_of_within {α : Type} {Q : α → Prop} {x : Kube α} {accesses : List Access}
    {access : Access} (hx : Kube.Asks (Within key accesses) Q x) (h : access ∉ accesses) :
    ∀ e ∈ Kube.requests (serve now) x s, e.1.access ≠ access := by
  rintro e he rfl
  exact h (access_of_within hx e he)

/-- The requests of a pass on a stored AutoScaler that is not marked. -/
theorem requests_of_live (hras : s.objects .autoScaler key = some ras)
    (hparse : r.parseRASSpec ras.spec = .ok spec)
    (hlive : ras.metadata.deletionTimestamp = none) :
    Kube.requests (serve now) (r.reconcile now key) s =
      ⟨.get .autoScaler key, .ok ras⟩ ::
        Kube.requests (serve now) (reconcileLive now ras spec) s := by
  simp only [AutoScalerReconciler.reconcile, Kube.requests_bind, Kube.requests_attempt,
    Kube.requests_get, Kube.exec_attempt, Kube.exec_get, serve, ApiServer.get_of_some hras, hparse,
    hlive, Option.isSome_none, Bool.false_eq_true, if_false, List.singleton_append]

/-- A pass that finds its target goes on with access control in place. -/
theorem exec_of_target (now : String) (hras : s.objects .autoScaler key = some ras)
    (hparse : r.parseRASSpec ras.spec = .ok spec)
    (hlive : ras.metadata.deletionTimestamp = none)
    (hrbg : s.objects .roleBasedGroup key = some rbg) :
    ∃ held s', Held s key ras s' held ∧
      Kube.exec (serve now) (r.reconcile now key) s =
        Kube.exec (serve now) (reconcileWorkload now held spec rbg
          (getGPUsFromRBG rbg spec.prefillRoleName spec.decodeRoleName).1
          (getGPUsFromRBG rbg spec.prefillRoleName spec.decodeRoleName).2) (secured s' held) ∧
      ∃ before, Kube.requests (serve now) (r.reconcile now key) s = before ++
          Kube.requests (serve now) (reconcileWorkload now held spec rbg
            (getGPUsFromRBG rbg spec.prefillRoleName spec.decodeRoleName).1
            (getGPUsFromRBG rbg spec.prefillRoleName spec.decodeRoleName).2) (secured s' held) ∧
        ∀ e ∈ before, e.1.access ≠ .write .deployment := by
  obtain ⟨held, s', hhold, hheld⟩ := exec_holdFinalizer now hras
  have htarget := (get_target hheld).trans (ApiServer.get_of_some hrbg)
  refine ⟨held, s', hheld, ?_, ?_⟩
  · rw [exec_reconcile hras, hparse]
    simp only [hlive, Option.isSome_none, Bool.false_eq_true, if_false, reconcileLive,
      Kube.exec_bind, hhold, Kube.exec_attempt, Kube.exec_get, serve, htarget, reconcileTarget,
      exec_ensureRBAC]
  · refine ⟨⟨.get .autoScaler key, .ok ras⟩ :: (Kube.requests (serve now) (holdFinalizer ras) s ++
      (⟨.get .roleBasedGroup (held.sibling held.name), .ok rbg⟩ ::
        Kube.requests (serve now) (ensureRBAC held) s')), ?_, ?_⟩
    · rw [requests_of_live hras hparse hlive]
      simp only [reconcileLive, Kube.requests_bind, hhold, Kube.requests_attempt,
        Kube.requests_get, Kube.exec_attempt, Kube.exec_get, serve, htarget, reconcileTarget,
        exec_ensureRBAC, List.cons_append, List.nil_append, List.append_assoc]
    · intro e he
      rcases List.mem_cons.mp he with rfl | he
      · rintro ⟨⟩
      rcases List.mem_append.mp he with he | he
      · exact access_ne_of_within (asks_holdFinalizer (ApiServer.keyOf_stored hras))
          (by decide) e he
      rcases List.mem_cons.mp he with rfl | he
      · rintro ⟨⟩
      · exact access_ne_of_within (asks_ensureRBAC hheld.keyed) (by decide) e he

end Workload

/-! ## The status a pass stores -/

theorem withStatus_same (hras : s.objects .autoScaler key = some ras) (status : Json) :
    (withStatus s ras status).objects .autoScaler key =
      some (ras.statusUpdated s.version { ras with status := some status }) := by
  have hkey : ras.metadata.key = key := ApiServer.keyOf_stored hras
  subst hkey
  exact ApiServer.put_same

theorem withStatus_frame {k : Kind} (hk : k ≠ .autoScaler) (status : Json) :
    (withStatus s ras status).objects k = s.objects k := by
  funext place
  exact ApiServer.put_of_ne fun h => hk h.1

/-- The AutoScaler after a pass: the same but for its version, finalizer and status. -/
structure Stored (ras after : AutoScaler) : Prop where
  spec : after.spec = ras.spec
  mark : after.metadata.deletionTimestamp = ras.metadata.deletionTimestamp

theorem Held.alike {s' : Cluster} {held : AutoScaler} (h : Held s key ras s' held) :
    Stored ras held :=
  ⟨h.spec, h.mark⟩

/-- A pass returns `result` after it has stored the status `status` in place of
that of `held`, in the cluster `s'` it has got to by then. -/
structure EndsWith (r : AutoScalerReconciler) (now : String) (s : Cluster) (key : NamespacedName)
    (ras : AutoScaler) (s' : Cluster) (held : AutoScaler)
    (result : Except ApiError ReconcileResult) (status : Json) : Prop where
  stored : s'.objects .autoScaler key = some held
  alike : Stored ras held
  exec : Kube.exec (serve now) (r.reconcile now key) s = (result, withStatus s' held status)

/-- How a pass ends that stores a status on the AutoScaler at `key`. -/
inductive Ends (r : AutoScalerReconciler) (now : String) (s : Cluster) (key : NamespacedName)
    (ras : AutoScaler) : Prop
  | invalid (hfinds : ¬ FindsAll r s key) {message : String}
      (hparse : r.parseRASSpec ras.spec = .error message)
      (hends : EndsWith r now s key ras s ras (.ok {})
        (phaseStatus now ras.status "Failed" "InvalidSpec" message))
  | waiting (hfinds : ¬ FindsAll r s key) {spec : ParsedSpec} {s' : Cluster} {held : AutoScaler}
      (hparse : r.parseRASSpec held.spec = .ok spec)
      (hlive : held.metadata.deletionTimestamp = none) (hfin : held.containsFinalizer = true)
      (hrbg : s'.objects .roleBasedGroup key = none)
      (hends : EndsWith r now s key ras s' held (.ok { requeueAfter := 30 * second })
        (phaseStatus now ras.status "Pending" "RBGNotFound" (waitingMessage key)))
  | ready (hfinds : FindsAll r s key) {spec : ParsedSpec} {rbg : RoleBasedGroup}
      {profilingCM : String} {s' : Cluster} {held : AutoScaler} {result : ReconcileResult}
      (hends : EndsWith r now s key ras s' held (.ok result)
        (readyStatus now held rbg spec profilingCM))
  | failed (hfinds : ¬ FindsAll r s key) {e : ApiError} {s' : Cluster} {held : AutoScaler}
      (hends : EndsWith r now s key ras s' held (.error e)
        (phaseStatus now ras.status "Failed" "ProfilingFailed" e.message))
  | profiling (hfinds : ¬ FindsAll r s key) {spec : ParsedSpec} {rbg : RoleBasedGroup}
      {s' : Cluster} {held : AutoScaler} (hparse : r.parseRASSpec held.spec = .ok spec)
      (hlive : held.metadata.deletionTimestamp = none) (hfin : held.containsFinalizer = true)
      (hrbg : s'.objects .roleBasedGroup key = some rbg) (haccess : AccessPresent s' key)
      (hcm : s'.objects .configMap (profileKey key) = none) (hrunning : Running s' key)
      (hends : EndsWith r now s key ras s' held (.ok { requeueAfter := 30 * second })
        (phaseStatus now ras.status "Initializing" "ProfilingInProgress"
          "Profiling Job is running"))

theorem ends_of_target (now : String) (hras : s.objects .autoScaler key = some ras)
    {spec : ParsedSpec} (hparse : r.parseRASSpec ras.spec = .ok spec)
    (hlive : ras.metadata.deletionTimestamp = none) {rbg : RoleBasedGroup}
    (hrbg : s.objects .roleBasedGroup key = some rbg) : Ends r now s key ras := by
  obtain ⟨held, s', hheld, hexec, -⟩ := exec_of_target now hras hparse hlive hrbg
  have hstored := hheld.stored_secured
  have hfinds : FindsAll r s key ↔
      ∃ cm, (secured s' held).objects .configMap (profileKey key) = some cm := by
    rw [hheld.frame_secured (by decide)]
    exact and_iff_right ⟨ras, spec, rbg, hras, hparse, hlive, hrbg⟩
  have hmissing : (secured s' held).objects .configMap (profileKey key) = none →
      ¬ FindsAll r s key := by
    intro hcm hall
    obtain ⟨cm, hcm'⟩ := hfinds.mp hall
    cases hcm.symm.trans hcm'
  cases profiled hheld.keyed now spec (secured s' held) with
  | found hcm hhandled =>
      obtain ⟨s₂, hframe, hworkload⟩ := exec_of_found now hstored hhandled
      have hstored₂ := (congrFun (hframe .autoScaler (by decide)) key).trans hstored
      exact .ready (hfinds.mpr ⟨_, hcm⟩) ⟨hstored₂, hheld.alike, hexec.trans hworkload⟩
  | failed hcm _ hhandled =>
      have hworkload := hexec.trans (exec_of_failed hstored hhandled)
      rw [hheld.status] at hworkload
      exact .failed (hmissing hcm) ⟨hstored, hheld.alike, hworkload⟩
  | running hcm hhandled hrunning hothers _ =>
      have hstored₂ := (congrFun (hothers .autoScaler (by decide)) key).trans hstored
      have hworkload := hexec.trans (exec_of_running hstored₂ hhandled)
      rw [hheld.status] at hworkload
      have hrbg₂ := congrFun ((hothers .roleBasedGroup (by decide)).trans
        (hheld.frame_secured (by decide))) key
      refine .profiling (hmissing hcm) (hheld.spec.symm ▸ hparse) (hheld.mark.trans hlive)
        hheld.finalizer (hrbg₂.trans hrbg) ?_ ?_ hrunning ⟨hstored₂, hheld.alike, hworkload⟩
      · exact (accessPresent_secured hheld.keyed).congr (hothers _ (by decide))
          (hothers _ (by decide)) (hothers _ (by decide))
      · rw [hothers _ (by decide), hcm]

/-- Every pass that stores a status ends in one of these ways. -/
theorem ends_of_storesStatus (now : String) (hras : s.objects .autoScaler key = some ras)
    (h : StoresStatus r s key) : Ends r now s key ras := by
  obtain ⟨_, hras', hstores⟩ := h
  obtain rfl := Option.some.inj (hras.symm.trans hras')
  cases hparse : r.parseRASSpec ras.spec with
  | error message =>
      refine .invalid ?_ hparse ⟨hras, ⟨rfl, rfl⟩, exec_of_unparsed hras hparse⟩
      rintro ⟨⟨_, spec, -, hras', hparse', -⟩, -⟩
      obtain rfl := Option.some.inj (hras.symm.trans hras')
      cases hparse.symm.trans hparse'
  | ok spec =>
      have hlive : ras.metadata.deletionTimestamp = none := by
        rcases hstores with ⟨message, hmessage⟩ | hlive
        · cases hparse.symm.trans hmessage
        · exact hlive
      cases hrbg : s.objects .roleBasedGroup key with
      | none =>
          obtain ⟨held, s', hheld, hexec⟩ := exec_of_missing now hras hparse hlive hrbg
          rw [hheld.status] at hexec
          refine .waiting ?_ (hheld.spec.symm ▸ hparse) (hheld.mark.trans hlive) hheld.finalizer
            ?_ ⟨hheld.stored, hheld.alike, hexec⟩
          · rintro ⟨⟨_, _, _, -, -, -, hrbg'⟩, -⟩
            cases hrbg.symm.trans hrbg'
          · rw [hheld.others _ (by decide), hrbg]
      | some rbg => exact ends_of_target now hras hparse hlive hrbg

/-- The status a pass leaves on the AutoScaler at `key`, which had the status `old`. -/
inductive Leaves (r : AutoScalerReconciler) (now : String) (s : Cluster) (key : NamespacedName)
    (old : Option Json) : Option Json → Prop
  | ready (hfinds : FindsAll r s key) (held : AutoScaler) (rbg : RoleBasedGroup)
      (spec : ParsedSpec) (profilingCM : String) :
      Leaves r now s key old (some (readyStatus now held rbg spec profilingCM))
  | phase (hfinds : ¬ FindsAll r s key) {phase : String} (hphase : phase ≠ "Ready")
      (reason message : String) :
      Leaves r now s key old (some (phaseStatus now old phase reason message))

theorem EndsWith.leaves {s' : Cluster} {held : AutoScaler}
    {result : Except ApiError ReconcileResult} {status : Json}
    (h : EndsWith r now s key ras s' held result status)
    (hleaves : Leaves r now s key ras.status (some status)) :
    ∃ after : AutoScaler,
      (Kube.exec (serve now) (r.reconcile now key) s).2.objects .autoScaler key = some after ∧
        Stored ras after ∧ Leaves r now s key ras.status after.status := by
  refine ⟨held.statusUpdated s'.version { held with status := some status }, ?_,
    ⟨h.alike.spec, h.alike.mark⟩, hleaves⟩
  rw [h.exec]
  exact withStatus_same h.stored status

/-- What a pass that stores a status leaves. -/
theorem leaves_of_storesStatus (now : String) (hras : s.objects .autoScaler key = some ras)
    (h : StoresStatus r s key) :
    ∃ after : AutoScaler,
      (Kube.exec (serve now) (r.reconcile now key) s).2.objects .autoScaler key = some after ∧
        Stored ras after ∧ Leaves r now s key ras.status after.status := by
  cases ends_of_storesStatus now hras h with
  | invalid hfinds _ hends => exact hends.leaves (.phase hfinds (by decide) _ _)
  | waiting hfinds _ _ _ _ hends => exact hends.leaves (.phase hfinds (by decide) _ _)
  | ready hfinds hends => exact hends.leaves (.ready hfinds _ _ _ _)
  | failed hfinds hends => exact hends.leaves (.phase hfinds (by decide) _ _)
  | profiling hfinds _ _ _ _ _ _ _ hends => exact hends.leaves (.phase hfinds (by decide) _ _)

/-! ## A pass that stores no status -/

/-- Only the status endpoint changes a status. -/
theorem status_serve {op : KubeOp} (hop : Permitted key op) (haccess : op.access ≠ .status)
    {place : NamespacedName} {after : AutoScaler}
    (h : (serve now op s).2.objects .autoScaler place = some after) :
    ∃ ras : AutoScaler, s.objects .autoScaler place = some ras ∧ after.status = ras.status := by
  by_cases htarget : op.target = some (.autoScaler, place)
  · cases op with
    | get _ _ => cases htarget
    | event _ _ _ => cases htarget
    | updateStatus _ => exact absurd rfl haccess
    | create k _ =>
        cases htarget
        exact absurd rfl hop.1
    | update k obj =>
        cases htarget
        obtain ⟨stored, hstored, rfl | rfl⟩ := ApiServer.update_same h
        · exact ⟨_, hstored, rfl⟩
        · exact ⟨stored, hstored, rfl⟩
    | delete k _ =>
        cases htarget
        obtain ⟨-, stored, hstored, -, rfl | rfl⟩ := ApiServer.delete_same h
        · exact ⟨_, hstored, rfl⟩
        · exact ⟨stored, hstored, rfl⟩
  · rw [serve_frame htarget] at h
    exact ⟨after, h, rfl⟩

/-- A pass that stores no status finds no AutoScaler or finishes a deletion. -/
theorem exec_of_not_storesStatus (now : String) (h : ¬ StoresStatus r s key) :
    (s.objects .autoScaler key = none ∧
      Kube.exec (serve now) (r.reconcile now key) s = (.ok {}, s)) ∨
    ∃ ras : AutoScaler, s.objects .autoScaler key = some ras ∧
      Kube.exec (serve now) (r.reconcile now key) s =
        Kube.exec (serve now) (finishDeletion ras) s := by
  cases hras : s.objects .autoScaler key with
  | none =>
      refine .inl ⟨rfl, ?_⟩
      simp [AutoScalerReconciler.reconcile, serve, ApiServer.get_of_none hras, ApiServer.notFound]
  | some ras =>
      refine .inr ⟨ras, rfl, ?_⟩
      rw [exec_reconcile hras]
      cases hparse : r.parseRASSpec ras.spec with
      | error message => exact absurd ⟨ras, hras, .inl ⟨message, hparse⟩⟩ h
      | ok spec =>
          cases hmark : ras.metadata.deletionTimestamp with
          | none => exact absurd ⟨ras, hras, .inr hmark⟩ h
          | some mark => simp only [Option.isSome_some, if_true]

/-- What it leaves has the status it had. -/
theorem status_of_not_storesStatus (h : ¬ StoresStatus r s key) {after : AutoScaler}
    (hafter : (Kube.exec (serve now) (r.reconcile now key) s).2.objects .autoScaler key =
      some after) :
    ∃ ras : AutoScaler, s.objects .autoScaler key = some ras ∧ after.status = ras.status := by
  rcases exec_of_not_storesStatus now h with ⟨-, hexec⟩ | ⟨ras, hras, hexec⟩
  · rw [hexec] at hafter
    exact ⟨after, hafter, rfl⟩
  · rw [hexec] at hafter
    have hkeeps := Prog.Asks.preserves (serve_keyed now)
      (asks_finishDeletion (ApiServer.keyOf_stored hras))
      (I := fun s' => ∀ place (after : AutoScaler), s'.objects .autoScaler place = some after →
        ∃ ras : AutoScaler, s.objects .autoScaler place = some ras ∧ after.status = ras.status)
      (fun op s' hop hs' place after hafter => ?_) (s := s) fun _ after hs => ⟨after, hs, rfl⟩
    · exact hkeeps key after hafter
    · have haccess : op.access ≠ .status := fun hstatus => by
        have hmem := hop.2
        rw [hstatus] at hmem
        simp at hmem
      obtain ⟨mid, hmid, hsame⟩ := status_serve hop.1 haccess hafter
      obtain ⟨ras', hras', hsame'⟩ := hs' place mid hmid
      exact ⟨ras', hras', hsame.trans hsame'⟩

end RbgPlanner.Controller
