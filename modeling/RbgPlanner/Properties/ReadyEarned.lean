import RbgPlanner.Controller.History
import RbgPlanner.Controller.Footprint
import RbgPlanner.Controller.Status

/-!
# What a Ready status rests on

A pass that writes the phase Ready has, on the way there, read the target,
found or created all access control, read the profile and seen the Deployment
run the pod spec it wants. The Ready condition of every status agrees with its
phase.
-/

namespace RbgPlanner.Properties.ReadyEarned

open Base Controller
open Kube (TellsOk)

/-! ## What a history shows -/

/-- An object was found. -/
def Found (k : Kind) (key : NamespacedName) (h : KubeHistory) : Prop :=
  ∃ o : Resource k, (⟨.get k key, .ok o⟩ : KubeEvent) ∈ h

/-- An object was created. -/
def Created (k : Kind) (key : NamespacedName) (h : KubeHistory) : Prop :=
  ∃ obj o : Resource k, ApiServer.keyOf obj = key ∧ (⟨.create k obj, .ok o⟩ : KubeEvent) ∈ h

/-- The creation of an object was refused since there is one. -/
def Exists (k : Kind) (key : NamespacedName) (h : KubeHistory) : Prop :=
  ∃ (obj : Resource k) (e : ApiError), ApiServer.keyOf obj = key ∧
    (⟨.create k obj, .error e⟩ : KubeEvent) ∈ h ∧ e.reason = .alreadyExists

/-- The Deployment was created, updated or found with a pod spec. -/
def Deployed (key : NamespacedName) (template : PodSpec) (h : KubeHistory) : Prop :=
  (∃ obj o : Deployment, obj.metadata.key = key ∧ obj.template = template ∧
      ((⟨.create .deployment obj, .ok o⟩ : KubeEvent) ∈ h ∨
        (⟨.update .deployment obj, .ok o⟩ : KubeEvent) ∈ h)) ∨
    ∃ o : Deployment, (⟨.get .deployment key, .ok o⟩ : KubeEvent) ∈ h ∧ o.template = template

/-- What a pass has to have done before it writes Ready. -/
structure Earned (r : AutoScalerReconciler) (key : NamespacedName) (h : KubeHistory)
    (ras : AutoScaler) (spec : ParsedSpec) (rbg : RoleBasedGroup) : Prop where
  read : (⟨.get .autoScaler key, .ok ras⟩ : KubeEvent) ∈ h
  parsed : r.parseRASSpec ras.spec = .ok spec
  target : (⟨.get .roleBasedGroup key, .ok rbg⟩ : KubeEvent) ∈ h
  serviceAccount : Found .serviceAccount ⟨key.namespaceName, key.name ++ "-planner"⟩ h ∨
    Created .serviceAccount ⟨key.namespaceName, key.name ++ "-planner"⟩ h
  clusterRole : Created .clusterRole (clusterKey plannerClusterRoleName) h ∨
    Exists .clusterRole (clusterKey plannerClusterRoleName) h
  binding : Found .clusterRoleBinding (bindingKey key) h ∨
    Created .clusterRoleBinding (bindingKey key) h
  profile : Found .configMap ⟨key.namespaceName, key.name ++ "-profiling"⟩ h
  deployment : Deployed ⟨key.namespaceName, key.name ++ "-planner"⟩
    (plannerPodSpec ras spec (key.name ++ "-profiling")
      (getGPUsFromRBG rbg spec.prefillRoleName spec.decodeRoleName).1
      (getGPUsFromRBG rbg spec.prefillRoleName spec.decodeRoleName).2) h

/-- The Ready condition is true exactly in the phase Ready. -/
def Agrees (status : Option Json) : Prop :=
  readyStatusOf status = some (.str "True") ↔ phaseOf status = some (.str "Ready")

/-- Statuses agree with their phase, and Ready is earned. -/
def StatusEarned (r : AutoScalerReconciler) (key : NamespacedName) (h : KubeHistory) :
    KubeEvent → Prop
  | ⟨.updateStatus obj, _⟩ => Agrees obj.status ∧ (phaseOf obj.status = some (.str "Ready") →
      ∃ ras spec rbg, Earned r key h ras spec rbg)
  | _ => True

variable {r : AutoScalerReconciler} {key : NamespacedName} {now : String} {h h' : KubeHistory}

section Mono

variable {k : Kind} {place : NamespacedName}

theorem Found.mono (hfound : Found k place h) (hinitial : h <+: h') : Found k place h' := by
  obtain ⟨o, ho⟩ := hfound
  exact ⟨o, hinitial.subset ho⟩

theorem Created.mono (hcreated : Created k place h) (hinitial : h <+: h') :
    Created k place h' := by
  obtain ⟨obj, o, hkey, ho⟩ := hcreated
  exact ⟨obj, o, hkey, hinitial.subset ho⟩

theorem Exists.mono (hexists : Exists k place h) (hinitial : h <+: h') : Exists k place h' := by
  obtain ⟨obj, e, hkey, he, hreason⟩ := hexists
  exact ⟨obj, e, hkey, hinitial.subset he, hreason⟩

end Mono

/-! ## One lemma for each function -/

/-- What access control leaves in the history. -/
structure HasAccess (key : NamespacedName) (h : KubeHistory) : Prop where
  serviceAccount : Found .serviceAccount ⟨key.namespaceName, key.name ++ "-planner"⟩ h ∨
    Created .serviceAccount ⟨key.namespaceName, key.name ++ "-planner"⟩ h
  clusterRole : Created .clusterRole (clusterKey plannerClusterRoleName) h ∨
    Exists .clusterRole (clusterKey plannerClusterRoleName) h
  binding : Found .clusterRoleBinding (bindingKey key) h ∨
    Created .clusterRoleBinding (bindingKey key) h

theorem tells_create {k : Kind} {obj : Resource k} :
    TellsOk (StatusEarned r key) (fun h' o => (⟨.create k obj, .ok o⟩ : KubeEvent) ∈ h')
      (Kube.create k obj) h := by
  refine Kube.Tells.create fun answer _ => ⟨trivial, fun o ho => ?_⟩
  subst ho
  exact List.mem_append_right _ (List.mem_singleton_self _)

theorem tells_get {k : Kind} {place : NamespacedName} :
    TellsOk (StatusEarned r key)
      (fun h' o => ApiServer.keyOf o = place ∧ (⟨.get k place, .ok o⟩ : KubeEvent) ∈ h')
      (Kube.get k place) h := by
  refine Kube.Tells.get fun answer hkeyed => ⟨trivial, fun o ho => ⟨hkeyed o ho, ?_⟩⟩
  subst ho
  exact List.mem_append_right _ (List.mem_singleton_self _)

theorem tells_createOrUpdate {k : Kind} {obj : Resource k} :
    TellsOk (StatusEarned r key)
      (fun h' _ => Found k (ApiServer.keyOf obj) h' ∨ Created k (ApiServer.keyOf obj) h')
      (createOrUpdate k obj) h := by
  refine tells_get.bind_attempt (fun h' o _ ho => .pure (.inl ⟨o, ho.2⟩)) fun h' e _ => ?_
  dsimp only
  split_ifs
  · exact tells_create.bind fun h'' o _ ho => .pure (.inr ⟨obj, o, rfl, ho⟩)
  · exact .throw

theorem tells_createIfNotExists {k : Kind} {obj : Resource k} :
    TellsOk (StatusEarned r key)
      (fun h' _ => Created k (ApiServer.keyOf obj) h' ∨ Exists k (ApiServer.keyOf obj) h')
      (createIfNotExists k obj) h := by
  refine Kube.Tells.bind_attempt (Q := fun h' answer =>
    (⟨.create k obj, answer⟩ : KubeEvent) ∈ h') (Kube.Tells.create fun answer _ => ?_) ?_
  · exact ⟨trivial, List.mem_append_right _ (List.mem_singleton_self _)⟩
  · intro h' answer hmem
    cases answer with
    | ok o => exact TellsOk.pure (.inl ⟨obj, o, rfl, hmem⟩)
    | error e =>
        dsimp only
        split_ifs with hreason
        · exact TellsOk.pure (.inr ⟨obj, e, rfl, hmem, hreason⟩)
        · exact TellsOk.throw

section Functions

variable {ras : AutoScaler} (hkey : ras.metadata.key = key)
include hkey

theorem tells_ensureRBAC :
    TellsOk (StatusEarned r key) (fun h' _ => HasAccess key h') (ensureRBAC ras) h := by
  subst hkey
  refine (TellsOk.wrap tells_createOrUpdate).bind fun h₁ _ _ haccount => ?_
  refine (TellsOk.wrap tells_createIfNotExists).bind fun h₂ _ hgrown hrole => ?_
  apply (TellsOk.wrap tells_createOrUpdate).grows.mono
  rintro h₃ answer ⟨hbinding, hgrown'⟩ _ hok
  refine ⟨?_, ?_, hbinding () hok⟩
  · exact haccount.imp (·.mono (hgrown.trans hgrown')) (·.mono (hgrown.trans hgrown'))
  · exact hrole.imp (·.mono hgrown') (·.mono hgrown')

/-- A profile that is reported as ready was read. -/
theorem tells_handleProfiling (spec : ParsedSpec) :
    TellsOk (StatusEarned r key) (fun h' result => result.2 = true →
      result.1 = key.name ++ "-profiling" ∧
        Found .configMap ⟨key.namespaceName, key.name ++ "-profiling"⟩ h')
      (handleProfiling ras spec) h := by
  subst hkey
  refine tells_get.bind_attempt (fun h₁ cm _ hcm => .pure fun _ => ⟨rfl, cm, hcm.2⟩) ?_
  intro h₁ _ _
  refine tells_get.bind_attempt (fun h₂ job _ _ => ?_) fun h₂ e _ => ?_
  · dsimp only
    split_ifs
    · refine tells_get.bind_attempt (fun h₃ cm _ hcm => .pure fun _ => ⟨rfl, cm, hcm.2⟩) ?_
      intro h₃ _ _
      exact .throw
    · exact .throw
    · exact .pure nofun
  · dsimp only
    split_ifs
    · refine (TellsOk.wrap (P := fun _ _ => True) ?_).bind fun h₃ _ _ _ => .pure nofun
      exact tells_create.bind fun _ _ _ _ => .pure trivial
    · exact .throw

theorem tells_ensurePlannerDeployment (spec : ParsedSpec) (profilingCM : String)
    (prefillGPUs decodeGPUs : ℤ) : TellsOk (StatusEarned r key)
      (fun h' _ => Deployed ⟨key.namespaceName, key.name ++ "-planner"⟩
        (plannerPodSpec ras spec profilingCM prefillGPUs decodeGPUs) h')
      (ensurePlannerDeployment ras spec profilingCM prefillGPUs decodeGPUs) h := by
  subst hkey
  refine tells_get.bind_attempt (fun h₁ existing _ hfound => ?_) fun h₁ e _ => ?_
  · dsimp only
    split_ifs with hdiffers
    · refine TellsOk.bind (P := fun h' _ => Deployed _ _ h') ?_ fun _ _ _ hdeployed =>
        .pure hdeployed
      refine Kube.Tells.update fun answer _ => ⟨trivial, fun o ho => ?_⟩
      subst ho
      exact .inl ⟨{ plannerDeployment ras spec profilingCM prefillGPUs decodeGPUs with
        metadata := existing.metadata }, o, hfound.1, rfl,
          .inr (List.mem_append_right _ (List.mem_singleton_self _))⟩
    · exact .pure (.inr ⟨existing, hfound.2, not_not.mp hdiffers⟩)
  · dsimp only
    split_ifs
    · exact tells_create.bind fun h₂ o _ ho => .pure (.inl ⟨_, o, rfl, rfl, .inl ho⟩)
    · exact .throw

end Functions

/-- A status of another phase than Ready agrees with it. -/
theorem tells_setPhase {ras : AutoScaler} {phase reason message : String}
    (hphase : phase ≠ "Ready") :
    TellsOk (StatusEarned r key) (fun _ _ => True) (setPhase now ras phase reason message) h := by
  refine TellsOk.bind (P := fun _ _ => True) ?_ fun _ _ _ _ => .pure trivial
  refine Kube.Tells.updateStatus fun answer _ => ⟨⟨?_, ?_⟩, fun _ _ => trivial⟩
  · simp [Agrees, hphase, boolToConditionStatus]
  · simp [hphase]

/-- The status Ready, once it is earned. -/
theorem tells_updateReadyStatus {ras read : AutoScaler} {spec : ParsedSpec} {rbg : RoleBasedGroup}
    {profilingCM : String} (hearned : Earned r key h read spec rbg) :
    TellsOk (StatusEarned r key) (fun _ _ => True)
      (updateReadyStatus now ras rbg spec profilingCM) h := by
  refine TellsOk.bind (P := fun _ _ => True) ?_ fun _ _ _ _ => .pure trivial
  refine Kube.Tells.updateStatus fun answer _ => ⟨⟨?_, ?_⟩, fun _ _ => trivial⟩
  · simp [Agrees]
  · exact fun _ => ⟨read, spec, rbg, hearned⟩

/-- What a pass knows when it comes to access control. -/
structure HasTarget (r : AutoScalerReconciler) (key : NamespacedName) (h : KubeHistory)
    (ras : AutoScaler) (spec : ParsedSpec) (rbg : RoleBasedGroup) : Prop where
  read : (⟨.get .autoScaler key, .ok ras⟩ : KubeEvent) ∈ h
  stored : ras.metadata.key = key
  parsed : r.parseRASSpec ras.spec = .ok spec
  target : (⟨.get .roleBasedGroup key, .ok rbg⟩ : KubeEvent) ∈ h

theorem HasTarget.mono {ras : AutoScaler} {spec : ParsedSpec} {rbg : RoleBasedGroup}
    (ht : HasTarget r key h ras spec rbg) (hinitial : h <+: h') :
    HasTarget r key h' ras spec rbg :=
  ⟨hinitial.subset ht.read, ht.stored, ht.parsed, hinitial.subset ht.target⟩

theorem HasAccess.mono (ha : HasAccess key h) (hinitial : h <+: h') : HasAccess key h' :=
  ⟨ha.serviceAccount.imp (·.mono hinitial) (·.mono hinitial),
    ha.clusterRole.imp (·.mono hinitial) (·.mono hinitial),
    ha.binding.imp (·.mono hinitial) (·.mono hinitial)⟩

/-- The pod spec depends on the key of an AutoScaler only. -/
theorem plannerPodSpec_congr {ras read : AutoScaler} (hras : ras.metadata.key = key)
    (hread : read.metadata.key = key) (spec : ParsedSpec) (profilingCM : String)
    (prefillGPUs decodeGPUs : ℤ) :
    plannerPodSpec ras spec profilingCM prefillGPUs decodeGPUs =
      plannerPodSpec read spec profilingCM prefillGPUs decodeGPUs := by
  simp only [plannerPodSpec, AutoScaler.plannerName, AutoScaler.name, AutoScaler.namespaceName,
    hras, hread]

theorem tells_reconcileWorkload {ras read : AutoScaler} (hkey : ras.metadata.key = key)
    {spec : ParsedSpec} {rbg : RoleBasedGroup} (htarget : HasTarget r key h read spec rbg)
    (haccess : HasAccess key h) :
    TellsOk (StatusEarned r key) (fun _ _ => True) (reconcileWorkload now ras spec rbg
      (getGPUsFromRBG rbg spec.prefillRoleName spec.decodeRoleName).1
      (getGPUsFromRBG rbg spec.prefillRoleName spec.decodeRoleName).2) h := by
  refine (tells_handleProfiling hkey spec).bind_attempt (fun h₁ result hgrown hprofile => ?_)
    fun h₁ e _ => ?_
  · match result with
    | (_, false) =>
        exact (tells_setPhase (by decide)).bind_attempt (fun _ _ _ _ => .pure trivial)
          fun _ _ _ => .pure trivial
    | (profilingCM, true) =>
        obtain ⟨rfl, hfound⟩ := hprofile rfl
        refine (tells_ensurePlannerDeployment hkey spec _ _ _).bind fun h₂ _ hgrown' hdeployed => ?_
        rw [plannerPodSpec_congr hkey htarget.stored] at hdeployed
        have htarget₂ := htarget.mono (hgrown.trans hgrown')
        have haccess₂ := haccess.mono (hgrown.trans hgrown')
        have hearned : Earned r key h₂ read spec rbg :=
          ⟨htarget₂.read, htarget₂.parsed, htarget₂.target, haccess₂.serviceAccount,
            haccess₂.clusterRole, haccess₂.binding, hfound.mono hgrown', hdeployed⟩
        exact (tells_updateReadyStatus hearned).bind fun _ _ _ _ => .pure trivial
  · exact (tells_setPhase (by decide)).bind_attempt (fun _ _ _ _ => .throw) fun _ _ _ => .throw

/-- The object that holds the finalizer has the same key. -/
theorem tells_holdFinalizer {ras : AutoScaler} (hkey : ras.metadata.key = key) :
    TellsOk (StatusEarned r key) (fun _ o => o.metadata.key = key) (holdFinalizer ras) h := by
  unfold holdFinalizer
  split_ifs
  · exact .pure hkey
  · exact Kube.Tells.update fun answer hanswer => ⟨trivial, fun o ho => (hanswer o ho).trans hkey⟩

theorem tells_targetMissing {ras : AutoScaler} (e : ApiError) :
    TellsOk (StatusEarned r key) (fun _ _ => True) (targetMissing now ras e) h := by
  unfold targetMissing
  split_ifs
  · refine TellsOk.bind (P := fun _ _ => True) (fun _ _ => ⟨trivial, fun _ _ => trivial⟩)
      fun _ _ _ _ => ?_
    exact (tells_setPhase (by decide)).bind_attempt (fun _ _ _ _ => .pure trivial)
      fun _ _ _ => .pure trivial
  · exact .throw

theorem tells_finishDeletion {ras : AutoScaler} :
    TellsOk (StatusEarned r key) (fun _ _ => True) (finishDeletion ras) h := by
  unfold finishDeletion
  split_ifs
  · refine TellsOk.bind (P := fun _ _ => True) ?_ fun h₁ _ _ _ => ?_
    · refine tells_get.bind_attempt (fun h₁ crb _ _ => ?_) fun h₁ e _ => ?_
      · exact Kube.Tells.delete fun _ => ⟨trivial, fun _ _ => trivial⟩
      · dsimp only
        split_ifs
        · exact .pure trivial
        · exact .throw
    · refine TellsOk.bind (P := fun _ _ => True) ?_ fun _ _ _ _ => .pure trivial
      exact Kube.Tells.update fun _ _ => ⟨trivial, fun _ _ => trivial⟩
  · exact .pure trivial

/-- A pass writes Ready only when it is earned, and every status agrees with its phase. -/
theorem tells_reconcile :
    TellsOk (StatusEarned r key) (fun _ _ => True) (r.reconcile now key) h := by
  refine tells_get.bind_attempt (fun h₁ ras _ hread => ?_) fun h₁ e _ => ?_
  · have hkey : ras.metadata.key = key := hread.1
    dsimp only
    split
    · exact (tells_setPhase (by decide)).bind fun _ _ _ _ => .pure trivial
    · next spec hspec =>
        split_ifs
        · exact tells_finishDeletion
        · refine (tells_holdFinalizer hkey).bind fun h₂ held hgrown hheld => ?_
          refine tells_get.bind_attempt (fun h₃ rbg hgrown' htarget => ?_) fun h₃ e _ =>
            tells_targetMissing e
          have hplace : held.sibling held.name = key := by
            rw [← hheld]
            rfl
          have hastarget : HasTarget r key h₃ ras spec rbg :=
            ⟨(hgrown.trans hgrown').subset hread.2, hkey, hspec, hplace ▸ htarget.2⟩
          refine (tells_ensureRBAC hheld).bind fun h₄ _ hgrown'' haccess => ?_
          exact tells_reconcileWorkload hheld (hastarget.mono hgrown'') haccess
  · dsimp only
    split_ifs
    · exact .pure trivial
    · exact .throw

/-! ## Every execution -/

section Exec

variable {σ : Type} {answer : (op : KubeOp) → σ → KubeResp op → σ → Prop} {env : σ → σ → Prop}
  {s s' : σ} {tr : KubeHistory} {out : Prog.Outcome (Except ApiError ReconcileResult)}

/-- However the requests of a pass are answered, and wherever it ends: a status
of phase Ready is earned by what came before it in the pass, and in every
status the Ready condition is true exactly in the phase Ready. -/
theorem ready_earned (hkeyed : ∀ op s r s', answer op s r s' → op.Keyed r)
    (hpass : (ExceptT.run (r.reconcile now key)).Exec answer env s tr out s') :
    ∀ (pre post : KubeHistory) (obj : AutoScaler) (resp : Except ApiError AutoScaler),
      tr = pre ++ ⟨.updateStatus obj, resp⟩ :: post →
        (phaseOf obj.status = some (.str "Ready") →
          ∃ ras spec rbg, Earned r key pre ras spec rbg) ∧
        (readyStatusOf obj.status = some (.str "True") ↔
          phaseOf obj.status = some (.str "Ready")) := by
  intro pre post obj resp htr
  obtain ⟨hagrees, hearned⟩ := Prog.Tells.exec (tells_reconcile (h := [])) hkeyed hpass htr
  exact ⟨hearned, hagrees⟩

end Exec

/-! ## One pass -/

/-- An AutoScaler that every key is answered with. -/
private def obligingScaler (key : NamespacedName) : AutoScaler where
  metadata := { key := key, finalizers := [finalizerName] }
  spec := some (.obj [("pattern", .obj [("PDDisaggregated", .obj [])]),
    ("implementation", .obj [("DynamoPlanner", .obj [])])])
  status := none

/-- A server that finds whatever is asked for, except for Deployments, and
accepts whatever is written. -/
private def obliging : (op : KubeOp) → Unit → KubeResp op × Unit
  | .get .autoScaler key, s => (.ok (obligingScaler key), s)
  | .get .roleBasedGroup key, s => (.ok ⟨{ key := key }, .obj []⟩, s)
  | .get .serviceAccount key, s => (.ok ⟨{ key := key }⟩, s)
  | .get .clusterRole key, s => (.ok ⟨{ key := key }, []⟩, s)
  | .get .clusterRoleBinding key, s => (.ok ⟨{ key := key }, plannerRoleRef, []⟩, s)
  | .get .configMap key, s => (.ok ⟨{ key := key }, []⟩, s)
  | .get .job key, s => (.error (ApiServer.notFound key), s)
  | .get .deployment key, s => (.error (ApiServer.notFound key), s)
  | .create _ obj, s => (.ok obj, s)
  | .update _ obj, s => (.ok obj, s)
  | .updateStatus obj, s => (.ok obj, s)
  | .delete _ _, s => (.ok (), s)
  | .event _ _ _, s => ((), s)

private theorem obliging_keyed (op : KubeOp) (s : Unit) : op.Keyed (obliging op s).1 := by
  cases op with
  | get k key => cases k <;> rintro o ⟨⟩ <;> rfl
  | create k obj => rintro o ⟨⟩; rfl
  | update k obj => rintro o ⟨⟩; rfl
  | updateStatus obj => rintro o ⟨⟩; rfl
  | delete k key => trivial
  | event _ _ _ => trivial

private def gemma : NamespacedName := ⟨"serving", "gemma"⟩

/-- A pass that creates the Deployment and then writes Ready. -/
private def gemmaTrace : KubeHistory :=
  Kube.requests obliging
    ((⟨"", "", ""⟩ : AutoScalerReconciler).reconcile "2025-06-01T00:00:00Z" gemma) ()

theorem ready_earned_gemma :
    ∃ ras spec rbg, Earned ⟨"", "", ""⟩ gemma (gemmaTrace.take 8) ras spec rbg := by
  let answers (op : KubeOp) (s : Unit) (answer : KubeResp op) (_ : Unit) : Prop :=
    answer = (obliging op s).1
  have hpass : (ExceptT.run ((⟨"", "", ""⟩ : AutoScalerReconciler).reconcile
      "2025-06-01T00:00:00Z" gemma)).Exec answers (fun _ _ => False) () gemmaTrace _ () :=
    Prog.exec_of_run (fun _ _ => rfl) _ ()
  have hkeyed : ∀ op s answer (s' : Unit), answers op s answer s' → op.Keyed answer := by
    rintro op s _ _ rfl
    exact obliging_keyed op s
  have hlast : gemmaTrace = gemmaTrace.take 8 ++
      ⟨.updateStatus { obligingScaler gemma with status := some (readyStatus
          "2025-06-01T00:00:00Z" (obligingScaler gemma) ⟨{ key := gemma }, .obj []⟩ .fallback
          "gemma-profiling") }, .ok _⟩ :: [] := rfl
  exact (ready_earned hkeyed hpass _ _ _ _ hlast).1 (phaseOf_readyStatus _ _ _ _ _)

end RbgPlanner.Properties.ReadyEarned
