import RbgPlanner.Controller.Outcomes
import RbgPlanner.Controller.Status

/-!
# A second pass

What a pass does on the cluster that a pass before it left, when nothing else
has happened. Every status write gets the time of its pass, and the pod spec of
the Deployment is compared with the stored one after the API server completed it.
-/

namespace RbgPlanner.Properties.Quiescence

open Base Controller

/-- An object without its version. -/
def unversioned {k : Kind} (o : Resource k) : Resource k :=
  ApiObject.withMetadata o { ApiObject.metadata o with resourceVersion := 0 }

/-- The same objects, up to their versions. -/
def SameObjects (s s' : Cluster) : Prop :=
  ∀ k place, (s'.objects k place).map unversioned = (s.objects k place).map unversioned

/-- A pass that sends no update of a Deployment and changes no object. -/
structure Quiescent (r : AutoScalerReconciler) (now : String) (key : NamespacedName)
    (s : Cluster) : Prop where
  updates : ∀ (obj : Deployment) (answer : Except ApiError Deployment),
    (⟨.update .deployment obj, answer⟩ : KubeEvent) ∉
      Kube.requests (serve now) (r.reconcile now key) s
  unchanged : SameObjects s (Kube.exec (serve now) (r.reconcile now key) s).2

/-- The stored Deployments have the defaults of the API server. -/
def Defaulted (s : Cluster) : Prop :=
  ∀ (place : NamespacedName) (stored : Deployment),
    s.objects .deployment place = some stored → stored.template.complete = stored.template

variable {r : AutoScalerReconciler} {key : NamespacedName} {now now₁ now₂ : String}
  {s s' : Cluster} {ras : AutoScaler} {status : Json} {old : Option Json}

/-! ## Passes that change nothing -/

theorem sameObjects_refl (s : Cluster) : SameObjects s s := fun _ _ => rfl

/-- Storing the status an AutoScaler has. -/
theorem sameObjects_withStatus (hras : s.objects .autoScaler key = some ras)
    (hstatus : ras.status = some status) : SameObjects s (withStatus s ras status) := by
  intro k place
  by_cases hk : k = .autoScaler
  · subst hk
    by_cases hplace : place = key
    · subst hplace
      rw [withStatus_same hras, hras]
      obtain ⟨metadata, spec, _⟩ := ras
      obtain rfl := hstatus
      rfl
    · have hkey : ras.metadata.key = key := ApiServer.keyOf_stored hras
      have hframe : (withStatus s ras status).objects .autoScaler place =
          s.objects .autoScaler place :=
        ApiServer.put_of_ne fun h => hplace (h.2.trans hkey)
      rw [hframe]
  · rw [withStatus_frame hk]

/-- A pass that stores the status the AutoScaler has and writes no Deployment. -/
theorem quiescent_of_withStatus {result : Except ApiError ReconcileResult}
    (hras : s.objects .autoScaler key = some ras) (hstatus : ras.status = some status)
    (hexec : Kube.exec (serve now) (r.reconcile now key) s = (result, withStatus s ras status))
    (hrequests : ∀ e ∈ Kube.requests (serve now) (r.reconcile now key) s,
      e.1.access ≠ .write .deployment) : Quiescent r now key s := by
  constructor
  · intro obj answer hmem
    exact hrequests _ hmem rfl
  · rw [hexec]
    exact sameObjects_withStatus hras hstatus

/-! ## No status to store -/

theorem quiescent_of_absent (hnone : s.objects .autoScaler key = none) :
    Quiescent r now key s := by
  constructor
  · intro obj answer hmem
    have hrequests : Kube.requests (serve now) (r.reconcile now key) s =
        [⟨.get .autoScaler key, .error (ApiServer.notFound key)⟩] := by
      simp [AutoScalerReconciler.reconcile, serve, ApiServer.get_of_none hnone, ApiServer.notFound]
    rw [hrequests] at hmem
    cases List.mem_singleton.mp hmem
  · have hexec : Kube.exec (serve now) (r.reconcile now key) s = (.ok {}, s) := by
      simp [AutoScalerReconciler.reconcile, serve, ApiServer.get_of_none hnone, ApiServer.notFound]
    rw [hexec]
    exact sameObjects_refl s

/-- An AutoScaler that nothing holds any more. -/
theorem quiescent_of_released (hras : s.objects .autoScaler key = some ras) {spec : ParsedSpec}
    (hparse : r.parseRASSpec ras.spec = .ok spec) {mark : String}
    (hmark : ras.metadata.deletionTimestamp = some mark)
    (hfin : ras.containsFinalizer = false) : Quiescent r now key s := by
  constructor
  · intro obj answer hmem
    have hrequests : Kube.requests (serve now) (r.reconcile now key) s =
        [⟨.get .autoScaler key, .ok ras⟩] := by
      simp [AutoScalerReconciler.reconcile, serve, ApiServer.get_of_some hras, hparse, hmark,
        finishDeletion, hfin]
    rw [hrequests] at hmem
    cases List.mem_singleton.mp hmem
  · have hexec : Kube.exec (serve now) (r.reconcile now key) s = (.ok {}, s) := by
      rw [exec_reconcile hras, hparse]
      simp [hmark, finishDeletion, hfin]
    rw [hexec]
    exact sameObjects_refl s

/-- After a pass that stored no status there is nothing left to do. -/
theorem quiescent_of_not_storesStatus (h : ¬ StoresStatus r s key) :
    Quiescent r now₂ key (Kube.exec (serve now₁) (r.reconcile now₁ key) s).2 := by
  rcases exec_of_not_storesStatus now₁ h with ⟨hnone, hexec⟩ | ⟨ras, hras, hexec⟩
  · rw [hexec]
    exact quiescent_of_absent hnone
  · have hparse : ∃ spec, r.parseRASSpec ras.spec = .ok spec := by
      cases hparse : r.parseRASSpec ras.spec with
      | error message => exact absurd ⟨ras, hras, .inl ⟨message, hparse⟩⟩ h
      | ok spec => exact ⟨spec, rfl⟩
    have hmark : ∃ mark, ras.metadata.deletionTimestamp = some mark := by
      cases hmark : ras.metadata.deletionTimestamp with
      | none => exact absurd ⟨ras, hras, .inr hmark⟩ h
      | some mark => exact ⟨mark, rfl⟩
    obtain ⟨spec, hparse⟩ := hparse
    obtain ⟨mark, hmark⟩ := hmark
    cases hfin : ras.containsFinalizer with
    | false =>
        have hdone : Kube.exec (serve now₁) (finishDeletion ras) s = (.ok {}, s) := by
          simp [finishDeletion, hfin]
        rw [hexec, hdone]
        exact quiescent_of_released hras hparse hmark hfin
    | true =>
        obtain ⟨next, s', hupdate, -, hreleased⟩ := release_after_cleanup now₁ hras
        rw [hexec, exec_finishDeletion (ApiServer.keyOf_stored hras) hfin hupdate]
        cases hras' : s'.objects .autoScaler key with
        | none => exact quiescent_of_absent hras'
        | some ras' =>
            obtain ⟨hfin', hspec, hmark'⟩ := hreleased ras' hras'
            exact quiescent_of_released hras' (hspec.symm ▸ hparse) (hmark'.trans hmark) hfin'

/-! ## A status to store again -/

/-- A spec that does not parse. -/
theorem quiescent_of_invalid (hras : s.objects .autoScaler key = some ras) {message : String}
    (hstatus : ras.status = some (phaseStatus now old "Failed" "InvalidSpec" message))
    (hparse : r.parseRASSpec ras.spec = .error message) : Quiescent r now key s := by
  have hexec : Kube.exec (serve now) (r.reconcile now key) s = _ := exec_of_unparsed hras hparse
  rw [hstatus, phaseStatus_phaseStatus] at hexec
  refine quiescent_of_withStatus hras hstatus hexec fun e he => ?_
  have hrequests : Kube.requests (serve now) (r.reconcile now key) s =
      ⟨.get .autoScaler key, .ok ras⟩ ::
        Kube.requests (serve now) (setPhase now ras "Failed" "InvalidSpec" message) s := by
    simp [AutoScalerReconciler.reconcile, serve, ApiServer.get_of_some hras, hparse,
      exec_setPhase hras]
  rw [hrequests] at he
  rcases List.mem_cons.mp he with rfl | he
  · rintro ⟨⟩
  · exact access_ne_of_within
      (asks_setPhase (ApiServer.keyOf_stored hras) now "Failed" "InvalidSpec" message)
      (by decide) e he

/-- A pass that finds no target writes no Deployment. -/
theorem requests_of_missing (now : String) (hras : s.objects .autoScaler key = some ras)
    {spec : ParsedSpec} (hparse : r.parseRASSpec ras.spec = .ok spec)
    (hlive : ras.metadata.deletionTimestamp = none)
    (hrbg : s.objects .roleBasedGroup key = none) :
    ∀ e ∈ Kube.requests (serve now) (r.reconcile now key) s, e.1.access ≠ .write .deployment := by
  obtain ⟨held, s', hhold, hheld⟩ := exec_holdFinalizer now hras
  have htarget := (get_target hheld).trans (ApiServer.get_of_none hrbg)
  intro e he
  rw [requests_of_live hras hparse hlive] at he
  simp only [reconcileLive, Kube.requests_bind, hhold, Kube.requests_attempt, Kube.requests_get,
    Kube.exec_attempt, Kube.exec_get, serve, htarget, List.mem_cons, List.mem_append,
    List.not_mem_nil, or_false] at he
  rcases he with rfl | he | rfl | he
  · rintro ⟨⟩
  · exact access_ne_of_within (asks_holdFinalizer (ApiServer.keyOf_stored hras)) (by decide) e he
  · rintro ⟨⟩
  · exact access_ne_of_within (asks_targetMissing hheld.keyed now _) (by decide) e he

/-- Waiting for the target, with the finalizer in place. -/
theorem quiescent_of_waiting (hras : s.objects .autoScaler key = some ras)
    (hstatus : ras.status =
      some (phaseStatus now old "Pending" "RBGNotFound" (waitingMessage key)))
    {spec : ParsedSpec} (hparse : r.parseRASSpec ras.spec = .ok spec)
    (hlive : ras.metadata.deletionTimestamp = none) (hfin : ras.containsFinalizer = true)
    (hrbg : s.objects .roleBasedGroup key = none) : Quiescent r now key s := by
  obtain ⟨held, s', hheld, hexec⟩ := exec_of_missing now hras hparse hlive hrbg
  obtain ⟨rfl, rfl⟩ := hheld.same hfin
  rw [hstatus, phaseStatus_phaseStatus] at hexec
  exact quiescent_of_withStatus hras hstatus hexec (requests_of_missing now hras hparse hlive hrbg)

/-- A workload whose profiling Job runs writes no Deployment. -/
theorem requests_of_running {spec : ParsedSpec} {rbg : RoleBasedGroup}
    {prefillGPUs decodeGPUs : ℤ} {profilingCM : String} (hkey : ras.metadata.key = key)
    (hprofile : Kube.exec (serve now) (handleProfiling ras spec) s =
      (.ok (profilingCM, false), s')) :
    ∀ e ∈ Kube.requests (serve now) (reconcileWorkload now ras spec rbg prefillGPUs decodeGPUs) s,
      e.1.access ≠ .write .deployment := by
  intro e he
  simp only [reconcileWorkload, Kube.requests_bind, Kube.requests_attempt, Kube.exec_attempt,
    hprofile, Kube.requests_pure, List.append_nil, List.mem_append] at he
  rcases he with he | he
  · exact access_ne_of_within (asks_handleProfiling hkey spec) (by decide) e he
  · exact access_ne_of_within (asks_setPhase hkey now "Initializing" "ProfilingInProgress"
      "Profiling Job is running") (by decide) e he

/-- Waiting for the profile, with access control in place. -/
theorem quiescent_of_profiling (hras : s.objects .autoScaler key = some ras)
    (hstatus : ras.status = some (phaseStatus now old "Initializing" "ProfilingInProgress"
      "Profiling Job is running"))
    {spec : ParsedSpec} (hparse : r.parseRASSpec ras.spec = .ok spec)
    (hlive : ras.metadata.deletionTimestamp = none) (hfin : ras.containsFinalizer = true)
    {rbg : RoleBasedGroup} (hrbg : s.objects .roleBasedGroup key = some rbg)
    (haccess : AccessPresent s key) (hcm : s.objects .configMap (profileKey key) = none)
    (hrunning : Running s key) : Quiescent r now key s := by
  have hkey : ras.metadata.key = key := ApiServer.keyOf_stored hras
  obtain ⟨held, s', hheld, hexec, before, hrequests, hbefore⟩ :=
    exec_of_target now hras hparse hlive hrbg
  obtain ⟨rfl, rfl⟩ := hheld.same hfin
  rw [haccess.secured_eq hkey] at hexec hrequests
  cases profiled hkey now spec s' with
  | found hfound _ => cases hcm.symm.trans hfound
  | failed _ hstopped _ => exact absurd hrunning hstopped
  | running _ hhandled _ _ hsame =>
      obtain rfl := hsame hrunning
      rw [exec_of_running hras hhandled, hstatus, phaseStatus_phaseStatus] at hexec
      refine quiescent_of_withStatus hras hstatus hexec fun e he => ?_
      rw [hrequests] at he
      rcases List.mem_append.mp he with he | he
      · exact hbefore e he
      · exact requests_of_running hkey hhandled e he

/-! ## The second of two passes at one time -/

/-- After a pass that stored a status without a profile. -/
theorem quiescent_of_storesStatus (hstores : StoresStatus r s key) (hfinds : ¬ FindsAll r s key)
    {result : ReconcileResult}
    (hok : (Kube.exec (serve now) (r.reconcile now key) s).1 = .ok result) :
    Quiescent r now key (Kube.exec (serve now) (r.reconcile now key) s).2 := by
  obtain ⟨ras, hras, -⟩ := id hstores
  cases ends_of_storesStatus now hras hstores with
  | invalid _ hparse hends =>
      rw [hends.exec]
      exact quiescent_of_invalid (withStatus_same hras _) rfl hparse
  | waiting _ hparse hlive hfin hrbg hends =>
      rw [hends.exec]
      refine quiescent_of_waiting (withStatus_same hends.stored _) rfl hparse hlive hfin ?_
      rw [withStatus_frame (by decide), hrbg]
  | ready hall _ => exact absurd hall hfinds
  | failed _ hends =>
      rw [hends.exec] at hok
      cases hok
  | @profiling _ _ rbg s' held hparse hlive hfin hrbg haccess hcm hrunning hends =>
      rw [hends.exec]
      let after := withStatus s' held (phaseStatus now ras.status "Initializing"
        "ProfilingInProgress" "Profiling Job is running")
      have hframe : ∀ k ≠ .autoScaler, after.objects k = s'.objects k :=
        fun k hk => withStatus_frame hk _
      have hrbg' : after.objects .roleBasedGroup key = some rbg := by
        rw [hframe _ (by decide), hrbg]
      have haccess' : AccessPresent after key :=
        haccess.congr (hframe _ (by decide)) (hframe _ (by decide)) (hframe _ (by decide))
      have hcm' : after.objects .configMap (profileKey key) = none := by
        rw [hframe _ (by decide), hcm]
      have hrunning' : Running after key := hrunning.congr (hframe _ (by decide))
      exact quiescent_of_profiling (withStatus_same hends.stored _) rfl hparse hlive hfin hrbg'
        haccess' hcm' hrunning'

/-! ## The stored Deployments -/

theorem defaulted_serve {op : KubeOp} (hop : Permitted key op) (h : Defaulted s) :
    Defaulted (serve now op s).2 := by
  intro place stored hstored
  by_cases htarget : op.target = some (.deployment, place)
  · cases op with
    | get _ _ => cases htarget
    | event _ _ _ => cases htarget
    | updateStatus _ => cases htarget
    | delete k _ =>
        cases htarget
        cases hop.1
    | create k obj =>
        cases htarget
        rcases ApiServer.create_same hstored with hold | rfl
        · exact h _ _ hold
        · exact PodSpec.complete_complete _
    | update k obj =>
        cases htarget
        obtain ⟨old, hold, rfl | rfl⟩ := ApiServer.update_same hstored
        · exact h _ _ hold
        · exact PodSpec.complete_complete _
  · rw [serve_frame htarget] at hstored
    exact h place stored hstored

/-- A pass leaves stored Deployments with their defaults. -/
theorem defaulted_exec (h : Defaulted s) :
    Defaulted (Kube.exec (serve now) (r.reconcile now key) s).2 :=
  Prog.Asks.preserves (serve_keyed now) (asks_reconcile r now key)
    (fun _ _ hop hs => defaulted_serve hop hs) h

/-- A pass leaves what a next one needs to run the planner. -/
theorem findsAll_exec (h : FindsAll r s key) :
    FindsAll r (Kube.exec (serve now) (r.reconcile now key) s).2 key := by
  have hstores := h.storesStatus
  obtain ⟨⟨ras, spec, rbg, hras, hparse, hlive, hrbg⟩, cm, hcm⟩ := h
  obtain ⟨after, hafter, hstored, -⟩ := leaves_of_storesStatus now hras hstores
  have hasks := asks_reconcile r now key
  refine ⟨⟨after, spec, rbg, hafter, hstored.spec.symm ▸ hparse, hstored.mark.trans hlive, ?_⟩,
    cm, ?_⟩
  · rw [exec_frame hasks (by simp [footprint]), hrbg]
  · rw [exec_frame hasks (by simp [footprint]), hcm]

section Deployment

variable {spec : ParsedSpec} {profilingCM : String} {prefillGPUs decodeGPUs : ℤ}

/-- The pod spec of the planner lacks the defaults a stored one has. -/
theorem update_mem_of_stored (now : String) {existing : Deployment}
    (hstored : s.objects .deployment (ras.sibling ras.plannerName) = some existing)
    (hdefaulted : existing.template.complete = existing.template) :
    ∃ (obj : Deployment) (answer : Except ApiError Deployment),
      (⟨.update .deployment obj, answer⟩ : KubeEvent) ∈ Kube.requests (serve now)
        (ensurePlannerDeployment ras spec profilingCM prefillGPUs decodeGPUs) s := by
  have hdiffers : existing.template ≠
      (plannerDeployment ras spec profilingCM prefillGPUs decodeGPUs).template := by
    rw [← hdefaulted]
    exact PodSpec.complete_ne rfl _
  let next : Resource .deployment :=
    { plannerDeployment ras spec profilingCM prefillGPUs decodeGPUs with
      metadata := existing.metadata }
  refine ⟨next, (serve now (.update .deployment next) s).1, ?_⟩
  unfold ensurePlannerDeployment
  simp only [Kube.requests_bind, Kube.requests_attempt, Kube.requests_get, Kube.exec_attempt,
    Kube.exec_get, serve, ApiServer.get_of_some hstored, if_pos hdiffers, Kube.requests_update]
  exact List.mem_append_right _ (List.mem_append_left _ (List.mem_singleton_self _))

/-- With a profile the workload goes on to the Deployment. -/
theorem requests_of_found {rbg : RoleBasedGroup}
    (hprofile : Kube.exec (serve now) (handleProfiling ras spec) s =
      (.ok (profilingCM, true), s)) {e : KubeEvent}
    (he : e ∈ Kube.requests (serve now)
      (ensurePlannerDeployment ras spec profilingCM prefillGPUs decodeGPUs) s) :
    e ∈ Kube.requests (serve now)
      (reconcileWorkload now ras spec rbg prefillGPUs decodeGPUs) s := by
  simp only [reconcileWorkload, Kube.requests_bind, Kube.requests_attempt, Kube.exec_attempt,
    hprofile]
  exact List.mem_append_right _ (List.mem_append_left _ he)

/-- The workload leaves a Deployment where there was none. -/
theorem deployed_of_found {rbg : RoleBasedGroup} (hras : s.objects .autoScaler key = some ras)
    (hnone : s.objects .deployment (ras.sibling ras.plannerName) = none)
    (hprofile : Kube.exec (serve now) (handleProfiling ras spec) s =
      (.ok (profilingCM, true), s)) :
    (Kube.exec (serve now) (reconcileWorkload now ras spec rbg prefillGPUs decodeGPUs) s).2.objects
      .deployment (ras.sibling ras.plannerName) ≠ none := by
  let desired : Resource .deployment :=
    plannerDeployment ras spec profilingCM prefillGPUs decodeGPUs
  have hkept : (s.put .deployment (ApiServer.created s.version desired)).objects .autoScaler key =
      some ras :=
    (ApiServer.put_of_ne fun h => by cases h.1).trans hras
  have hplace : ApiServer.keyOf (ApiServer.created s.version desired) =
      ras.sibling ras.plannerName := ApiServer.keyOf_created _ desired
  have hdeployed : Kube.exec (serve now)
      (ensurePlannerDeployment ras spec profilingCM prefillGPUs decodeGPUs) s =
        (.ok (), s.put .deployment (ApiServer.created s.version desired)) :=
    exec_ensurePlannerDeployment_of_none now hnone
  rw [exec_of_deployed hkept hprofile hdeployed, withStatus_frame (by decide), ← hplace,
    ApiServer.put_same]
  exact Option.some_ne_none _

end Deployment

/-- The pass updates the Deployment, or creates it. -/
theorem not_quiescent_of_findsAll (hdefaulted : Defaulted s) (hfinds : FindsAll r s key) :
    ¬ Quiescent r now key s := by
  obtain ⟨⟨ras, spec, rbg, hras, hparse, hlive, hrbg⟩, cm, hcm⟩ := hfinds
  obtain ⟨held, s', hheld, hexec, before, hrequests, -⟩ :=
    exec_of_target now hras hparse hlive hrbg
  have hprofile : (secured s' held).objects .configMap (profileKey key) = some cm := by
    rw [hheld.frame_secured (by decide), hcm]
  have hdeployments : (secured s' held).objects .deployment = s.objects .deployment :=
    hheld.frame_secured (by decide)
  intro hquiescent
  cases profiled hheld.keyed now spec (secured s' held) with
  | failed hnone _ _ => cases hprofile.symm.trans hnone
  | running hnone _ _ _ _ => cases hprofile.symm.trans hnone
  | found _ hhandled =>
      cases hplanner : (secured s' held).objects .deployment (held.sibling held.plannerName) with
      | none =>
          have hnone := hplanner
          rw [hdeployments] at hnone
          have hunchanged := hquiescent.unchanged .deployment (held.sibling held.plannerName)
          rw [hexec, hnone, Option.map_none, Option.map_eq_none_iff] at hunchanged
          exact deployed_of_found hheld.stored_secured hplanner hhandled hunchanged
      | some existing =>
          have hstored := hplanner
          rw [hdeployments] at hstored
          obtain ⟨obj, answer, hmem⟩ :=
            update_mem_of_stored now hplanner (hdefaulted _ _ hstored)
          apply hquiescent.updates obj answer
          rw [hrequests]
          exact List.mem_append_right _ (requests_of_found hhandled hmem)

/-! ## Times -/

theorem readyTimeOf_of_leaves {after : Option Json} (h : Leaves r now s key old after) :
    readyTimeOf after = some (.str now) := by
  cases h with
  | ready _ held rbg spec profilingCM => exact readyTimeOf_readyStatus _ _ _ _ _
  | phase _ _ reason message => exact readyTimeOf_phaseStatus _ _ _ _ _

/-- The second status carries the time of its pass. -/
theorem times_eq_of_quiescent (hstores : StoresStatus r s key)
    (h : Quiescent r now₂ key (Kube.exec (serve now₁) (r.reconcile now₁ key) s).2) :
    now₁ = now₂ := by
  obtain ⟨ras, hras, hor⟩ := id hstores
  obtain ⟨first, hfirst, hstored, hleaves⟩ := leaves_of_storesStatus now₁ hras hstores
  have hagain : StoresStatus r (Kube.exec (serve now₁) (r.reconcile now₁ key) s).2 key := by
    refine ⟨first, hfirst, ?_⟩
    rw [hstored.spec, hstored.mark]
    exact hor
  obtain ⟨second, hsecond, -, hleaves'⟩ := leaves_of_storesStatus now₂ hfirst hagain
  have hunchanged := h.unchanged .autoScaler key
  rw [hfirst, hsecond] at hunchanged
  have hsame : some (unversioned (k := .autoScaler) second) =
      some (unversioned (k := .autoScaler) first) := hunchanged
  have hstatus : second.status = first.status :=
    (congrArg AutoScaler.status (Option.some.inj hsame) :)
  have hfirstTime := readyTimeOf_of_leaves hleaves
  rw [← hstatus, readyTimeOf_of_leaves hleaves'] at hfirstTime
  injection Option.some.inj hfirstTime.symm

/-- Nothing else having happened, a second pass changes nothing if and only if
the first one had no status to store, or both come at one time and the first
found no profile to run the planner on. -/
theorem quiescent_iff {result : ReconcileResult} (hdefaulted : Defaulted s)
    (hok : (Kube.exec (serve now₁) (r.reconcile now₁ key) s).1 = .ok result) :
    Quiescent r now₂ key (Kube.exec (serve now₁) (r.reconcile now₁ key) s).2 ↔
      ¬ StoresStatus r s key ∨ (now₁ = now₂ ∧ ¬ FindsAll r s key) := by
  constructor
  · intro hquiescent
    by_cases hstores : StoresStatus r s key
    · refine .inr ⟨times_eq_of_quiescent hstores hquiescent, fun hfinds => ?_⟩
      exact not_quiescent_of_findsAll (defaulted_exec hdefaulted) (findsAll_exec hfinds) hquiescent
    · exact .inl hstores
  · rintro (hstores | ⟨rfl, hfinds⟩)
    · exact quiescent_of_not_storesStatus hstores
    · by_cases hstores : StoresStatus r s key
      · exact quiescent_of_storesStatus hstores hfinds hok
      · exact quiescent_of_not_storesStatus hstores

/-! ## Two passes -/

private def yi : NamespacedName := ⟨"serving", "yi"⟩

/-- An AutoScaler as it was submitted, without its target. -/
private def yiAlone : Cluster :=
  ApiServer.empty.put .autoScaler
    { metadata := { key := yi }
      spec := some (.obj [("pattern", .obj [("PDDisaggregated", .obj [])]),
        ("implementation", .obj [("DynamoPlanner", .obj [])])])
      status := none }

/-- With its target and its profile. -/
private def yiProfiled : Cluster :=
  (yiAlone.put .roleBasedGroup ⟨{ key := yi }, .obj []⟩).put .configMap
    ⟨{ key := profileKey yi }, []⟩

private theorem defaulted_yiAlone : Defaulted yiAlone := by
  intro place stored h
  cases h

private theorem defaulted_yiProfiled : Defaulted yiProfiled := by
  intro place stored h
  cases h

/-- Two passes that wait for the target in the same second. -/
theorem quiescent_iff_waiting : Quiescent ⟨"", "", ""⟩ "2025-06-01T00:00:00Z" yi
    (Kube.exec (serve "2025-06-01T00:00:00Z")
      (AutoScalerReconciler.reconcile ⟨"", "", ""⟩ "2025-06-01T00:00:00Z" yi) yiAlone).2 := by
  have hmissing : ¬ FindsAll ⟨"", "", ""⟩ yiAlone yi := by
    rintro ⟨-, cm, hcm⟩
    cases hcm
  exact (quiescent_iff defaulted_yiAlone rfl).mpr (.inr ⟨rfl, hmissing⟩)

private def yiReady : Cluster :=
  (Kube.exec (serve "2025-06-01T00:00:00Z")
    (AutoScalerReconciler.reconcile ⟨"", "", ""⟩ "2025-06-01T00:00:00Z" yi) yiProfiled).2

/-- The pass after the one that made the AutoScaler Ready updates the Deployment
the first one created. -/
theorem ready_not_quiescent :
    Defaulted yiProfiled ∧ "2025-06-01T00:00:00Z" < "2025-06-01T00:03:00Z" ∧
      (Kube.exec (serve "2025-06-01T00:00:00Z")
        (AutoScalerReconciler.reconcile ⟨"", "", ""⟩ "2025-06-01T00:00:00Z" yi) yiProfiled).1 =
          .ok { requeueAfter := 180 * second } ∧
      ¬ Quiescent ⟨"", "", ""⟩ "2025-06-01T00:03:00Z" yi yiReady := by
  have hfinds : FindsAll ⟨"", "", ""⟩ yiProfiled yi := ⟨⟨_, _, _, rfl, rfl, rfl, rfl⟩, _, rfl⟩
  refine ⟨defaulted_yiProfiled, by decide, rfl, ?_⟩
  exact not_quiescent_of_findsAll (defaulted_exec defaulted_yiProfiled) (findsAll_exec hfinds)

end RbgPlanner.Properties.Quiescence
