import RbgPlanner.Controller.Environment
import RbgPlanner.Controller.Faults
import RbgPlanner.Controller.Footprint
import RbgPlanner.Planner.RbgDocument

/-!
# The planner's own pod template

The planner scales the group that its Deployment is derived from. What the
operator takes from the group are role names and pod templates, and scaling
changes neither.
-/

namespace RbgPlanner.Properties.StableTemplate

open Base Json Controller Planner

/-! ## Groups with the same templates -/

/-- The name and the pod template of a role. -/
def nameAndTemplate (role : Json) : Option Json × Option Json :=
  (role.nested ["name"], role.nested ["template"])

/-- The names and pod templates of all roles, and nothing else of the group. -/
def templates (rbg : RoleBasedGroup) : List (Option Json × Option Json) :=
  (roleObjects rbg.object).map nameAndTemplate

/-- The Deployment that `ensurePlannerDeployment` desires in a pass that read `rbg`. -/
def desired (ras : AutoScaler) (spec : ParsedSpec) (profilingCM : String) (rbg : RoleBasedGroup) :
    Deployment :=
  plannerDeployment ras spec profilingCM
    (getGPUsFromRBG rbg spec.prefillRoleName spec.decodeRoleName).1
    (getGPUsFromRBG rbg spec.prefillRoleName spec.decodeRoleName).2

/-- The replicas of one role change. -/
def ReplicaChange (doc doc' : Json) : Prop :=
  ∃ index n, replace (.int n) (replicasPointer index) doc = some doc'

section Templates

variable {role : Json} {rbg rbg' : RoleBasedGroup} {prefillRole decodeRole : String}

/-- A path goes on from where its first step leads. -/
theorem nested_cons (key : String) (path : List String) (v : Json) :
    v.nested (key :: path) = (v.nested [key]).bind fun v' => v'.nested path := by
  cases v with
  | obj fields => simp only [nested, Option.bind_fun_some]
  | _ => rfl

/-- `extractGPURequest` on a pod template. -/
def templateGPUs (template : Option Json) : ℤ :=
  match template.bind fun template => template.nested ["spec", "containers"] with
  | some (.arr containers) => (containers.findSome? containerGPURequest).getD 0
  | _ => 0

theorem extractGPURequest_eq_templateGPUs (role : Json) :
    extractGPURequest role = templateGPUs (role.nested ["template"]) := by
  unfold extractGPURequest templateGPUs nestedSlice
  rw [nested_cons]
  rcases (role.nested ["template"]).bind fun v => v.nested ["spec", "containers"] with _ | v
  · rfl
  · cases v <;> rfl

/-- `assignGPUs` on a name and a template. -/
def assignTemplate (prefillRole decodeRole : String) (gpus : ℤ × ℤ)
    (role : Option Json × Option Json) : ℤ × ℤ :=
  let roleName := match role.1 with
    | some (.str name) => name
    | _ => ""
  if 0 < templateGPUs role.2 then
    if roleName = prefillRole then (templateGPUs role.2, gpus.2)
    else if roleName = decodeRole then (gpus.1, templateGPUs role.2)
    else gpus
  else gpus

/-- What is no object has no template either. -/
theorem assignGPUs_eq_assignTemplate (gpus : ℤ × ℤ) (role : Json) :
    assignGPUs prefillRole decodeRole gpus role =
      assignTemplate prefillRole decodeRole gpus (nameAndTemplate role) := by
  cases role with
  | obj fields =>
      unfold assignGPUs assignTemplate
      rw [extractGPURequest_eq_templateGPUs]
      unfold nestedString
      rcases hname : (obj fields).nested ["name"] with _ | name
      · simp [nameAndTemplate, hname]
      · cases name <;> simp [nameAndTemplate, hname]
  | _ => rfl

theorem getGPUsFromRBG_eq_templates (rbg : RoleBasedGroup) (prefillRole decodeRole : String) :
    getGPUsFromRBG rbg prefillRole decodeRole =
      (templates rbg).foldl (assignTemplate prefillRole decodeRole) (1, 1) := by
  have hassign : assignGPUs prefillRole decodeRole =
      fun gpus role => assignTemplate prefillRole decodeRole gpus (nameAndTemplate role) :=
    funext fun gpus => funext fun role => assignGPUs_eq_assignTemplate gpus role
  rw [getGPUsFromRBG_eq_foldl, templates, List.foldl_map, hassign]
  rfl

/-- Groups with the same templates have the same Deployment. -/
theorem desired_congr (h : templates rbg' = templates rbg) (ras : AutoScaler) (spec : ParsedSpec)
    (profilingCM : String) :
    desired ras spec profilingCM rbg' = desired ras spec profilingCM rbg := by
  rw [desired, desired, getGPUsFromRBG_eq_templates, h, ← getGPUsFromRBG_eq_templates]

/-- A change of replicas leaves all names and templates. -/
theorem ReplicaChange.templates {doc doc' : Json} (h : ReplicaChange doc doc') :
    (roleObjects doc').map nameAndTemplate = (roleObjects doc).map nameAndTemplate := by
  obtain ⟨index, n, hreplaced⟩ := h
  obtain ⟨role, role', hrole, hnew, hroles⟩ := roleObjects_replace hreplaced
  have hkept : ∀ name : String, name ≠ "replicas" → role'.nested [name] = role.nested [name] := by
    intro name hname
    rw [nested_eq_at?, nested_eq_at?]
    apply at?_replace_of_apart hnew
    simp [apart_cons, hname.symm]
  have hsame : nameAndTemplate role' = nameAndTemplate role := by
    rw [nameAndTemplate, hkept "name" (by decide), hkept "template" (by decide)]
    rfl
  rw [hroles, List.map_set, hsame]
  obtain ⟨hindex, rfl⟩ := List.getElem?_eq_some_iff.mp hrole
  rw [← List.getElem_map nameAndTemplate (h := by simpa using hindex), List.set_getElem_self]

theorem templates_of_changes {doc doc' : Json} (h : Relation.ReflTransGen ReplicaChange doc doc') :
    (roleObjects doc').map nameAndTemplate = (roleObjects doc).map nameAndTemplate := by
  induction h with
  | refl => rfl
  | tail _ hchange ih => exact hchange.templates.trans ih

/-- All that the planner does to its group is to change replicas. -/
theorem changes_of_served {α : Type} (p : Prog RbgOp RbgResp α) (doc : Json) :
    Relation.ReflTransGen ReplicaChange doc (p.run serveDocument doc).2 := by
  induction p generalizing doc with
  | ret a => exact .refl
  | call op next ih =>
      refine .trans ?_ (ih _ _)
      cases op with
      | patchRole index n =>
          cases hreplaced : replace (.int n) (replicasPointer index) doc with
          | none =>
              simp only [serveDocument, hreplaced]
              exact .refl
          | some doc' =>
              simp only [serveDocument, hreplaced]
              exact .single ⟨index, n, hreplaced⟩
      | _ => exact .refl

end Templates

/-! ## A planner and its group -/

/-- The key of the planner's Deployment. -/
def plannerKey (key : NamespacedName) : NamespacedName :=
  ⟨key.namespaceName, key.name ++ "-planner"⟩

/-- An AutoScaler, the spec that it parses to, and the names and templates of its group. -/
structure Setting where
  operator : AutoScalerReconciler
  key : NamespacedName
  spec : ParsedSpec
  rbg : RoleBasedGroup

namespace Setting

variable (setting : Setting)

/-- The pod template of the planner. -/
def template : PodSpec :=
  let ras : AutoScaler := { metadata := { key := setting.key }, spec := none, status := none }
  (desired ras setting.spec ras.profilingName setting.rbg).template

/-- The AutoScaler has the spec, the group the templates, and the planner's
Deployment, if it is there, the pod template. -/
structure Settled (s : Cluster) : Prop where
  autoScaler : ∀ ras : AutoScaler, s.objects .autoScaler setting.key = some ras →
    setting.operator.parseRASSpec ras.spec = .ok setting.spec
  group : ∀ rbg : RoleBasedGroup, s.objects .roleBasedGroup setting.key = some rbg →
    templates rbg = templates setting.rbg
  deployment : ∀ deployment : Deployment,
    s.objects .deployment (plannerKey setting.key) = some deployment →
      deployment.template = setting.template.complete

/-- Nobody edits the spec of the AutoScaler, the names and templates of the
group, or the pod template of the planner. Anything else may change. -/
structure Spared (s s' : Cluster) : Prop where
  autoScaler : ∀ ras' : AutoScaler, s'.objects .autoScaler setting.key = some ras' →
    ∃ ras : AutoScaler, s.objects .autoScaler setting.key = some ras ∧ ras'.spec = ras.spec
  group : ∀ rbg' : RoleBasedGroup, s'.objects .roleBasedGroup setting.key = some rbg' →
    ∃ rbg : RoleBasedGroup, s.objects .roleBasedGroup setting.key = some rbg ∧
      templates rbg' = templates rbg
  deployment : ∀ deployment' : Deployment,
    s'.objects .deployment (plannerKey setting.key) = some deployment' →
      ∃ deployment : Deployment, s.objects .deployment (plannerKey setting.key) = some deployment ∧
        deployment'.template = deployment.template

/-- Changes of the cluster, with its past still to be seen in cached reads. -/
def Changes (c c' : Cached) : Prop := ∃ next, c' = c.advance next ∧ setting.Spared c.current next

/-- All states that can still be seen are settled. -/
def SettledThroughout (c : Cached) : Prop := ∀ s ∈ c.current :: c.past, setting.Settled s

/-- The planner's Deployment does not depend on replicas, status, conditions or
metadata of its group. No sequence of replica changes affects it, and no run
of passes next to them alters the pod template. -/
structure Stable : Prop where
  determined : ∀ ras profilingCM rbg, templates rbg = templates setting.rbg →
    desired ras setting.spec profilingCM rbg = desired ras setting.spec profilingCM setting.rbg
  scaled : ∀ ras profilingCM metadata doc,
    Relation.ReflTransGen ReplicaChange setting.rbg.object doc →
      desired ras setting.spec profilingCM ⟨metadata, doc⟩ =
        desired ras setting.spec profilingCM setting.rbg
  kept : ∀ (c : Cached) (pool : PassPool Cached), setting.SettledThroughout c →
    Pool.Reaches setting.operator.Starts Cached.Answers setting.Changes (.idle c) pool →
      ∀ deployment : Deployment,
        pool.shared.current.objects .deployment (plannerKey setting.key) = some deployment →
          deployment.template = setting.template.complete

/-! ## Requests of a pass -/

/-- What an answer shows of the spec and the templates. -/
def Shows : (op : KubeOp) → KubeResp op → Prop
  | .get .autoScaler place, r => place = setting.key → ∀ ras : AutoScaler, r = .ok ras →
      setting.operator.parseRASSpec ras.spec = .ok setting.spec
  | .get .roleBasedGroup place, r => place = setting.key → ∀ rbg : RoleBasedGroup, r = .ok rbg →
      templates rbg = templates setting.rbg
  | _, _ => True

/-- Writes with the spec and the pod template as they are. -/
def Keeps : KubeOp → Prop
  | .create .deployment deployment => Deployment.template deployment = setting.template
  | .update .deployment deployment => Deployment.template deployment = setting.template
  | .update .autoScaler ras =>
      setting.operator.parseRASSpec (AutoScaler.spec ras) = .ok setting.spec
  | _ => True

/-- All answers so far. -/
def Shown (h : KubeHistory) : Prop := ∀ e ∈ h, setting.Shows e.1 e.2

/-- After answers as they should be, writes are as they should be. -/
def Preserves (h : KubeHistory) (e : KubeEvent) : Prop := setting.Shown h → setting.Keeps e.1

open Kube (TellsOk)

variable {setting} {h h' : KubeHistory} {α : Type}

theorem Shown.mono (hshown : setting.Shown h') (hinitial : h <+: h') : setting.Shown h :=
  fun e he => hshown e (hinitial.subset he)

/-- A part of a pass that writes neither AutoScalers nor Deployments. -/
theorem tells_within {Q : α → Prop} {accesses : List Access} {x : Kube α} {key : NamespacedName}
    (hx : Kube.Asks (Within key accesses) Q x)
    (hwrites : .write .autoScaler ∉ accesses ∧ .write .deployment ∉ accesses) :
    TellsOk setting.Preserves (fun _ a => Q a) x h := by
  refine (Kube.Asks.tells hx (fun h' e hop _ => ?_) h).mono fun h' r hr => hr.1
  obtain ⟨op, answer⟩ := e
  obtain ⟨-, haccess⟩ := hop
  cases op with
  | create k _ =>
      cases k with
      | deployment => exact absurd haccess hwrites.2
      | _ => trivial
  | update k _ =>
      cases k with
      | deployment => exact absurd haccess hwrites.2
      | autoScaler => exact absurd haccess hwrites.1
      | _ => trivial
  | _ => trivial

/-- A read is recorded with its answer. -/
theorem tells_get {k : Kind} {place : NamespacedName} :
    TellsOk setting.Preserves (fun h' o => ApiServer.keyOf o = place ∧
      (⟨.get k place, .ok o⟩ : KubeEvent) ∈ h') (Kube.get k place) h :=
  Kube.Tells.get fun _ hr => ⟨fun _ => trivial, fun o ho =>
    ⟨hr o ho, ho ▸ List.mem_append_right _ (List.mem_singleton_self _)⟩⟩

section Functions

variable {now : String} {ras : AutoScaler} {spec : ParsedSpec} {rbg : RoleBasedGroup}

/-- The desired pod template of any AutoScaler of that key. -/
theorem desired_template (hkey : ras.metadata.key = setting.key)
    (hrbg : templates rbg = templates setting.rbg) :
    (desired ras setting.spec ras.profilingName rbg).template = setting.template := by
  rw [desired_congr hrbg]
  simp only [template, desired, plannerDeployment, plannerPodSpec, AutoScaler.profilingName,
    AutoScaler.plannerName, AutoScaler.name, AutoScaler.namespaceName, hkey]

theorem tells_ensurePlannerDeployment
    (hdesired : setting.Shown h →
      (desired ras spec ras.profilingName rbg).template = setting.template) :
    TellsOk setting.Preserves (fun _ _ => True) (ensurePlannerDeployment ras spec ras.profilingName
      (getGPUsFromRBG rbg spec.prefillRoleName spec.decodeRoleName).1
      (getGPUsFromRBG rbg spec.prefillRoleName spec.decodeRoleName).2) h := by
  refine tells_get.bind_attempt (fun h₁ existing hgrown _ => ?_) fun h₁ e hgrown => ?_
  · dsimp only
    split_ifs
    · refine TellsOk.bind (P := fun _ _ => True) ?_ fun _ _ _ _ => .pure trivial
      exact Kube.Tells.update fun _ _ =>
        ⟨fun hshown => hdesired (hshown.mono hgrown), fun _ _ => trivial⟩
    · exact .pure trivial
  · dsimp only
    split_ifs
    · refine TellsOk.bind (P := fun _ _ => True) ?_ fun _ _ _ _ => .pure trivial
      exact Kube.Tells.create fun _ _ =>
        ⟨fun hshown => hdesired (hshown.mono hgrown), fun _ _ => trivial⟩
    · exact .throw

variable (hkey : ras.metadata.key = setting.key)
include hkey

theorem tells_reconcileWorkload
    (hdesired : setting.Shown h →
      (desired ras spec ras.profilingName rbg).template = setting.template) :
    TellsOk setting.Preserves (fun _ _ => True) (reconcileWorkload now ras spec rbg
      (getGPUsFromRBG rbg spec.prefillRoleName spec.decodeRoleName).1
      (getGPUsFromRBG rbg spec.prefillRoleName spec.decodeRoleName).2) h := by
  refine (tells_within (asks_handleProfiling hkey spec) (by decide)).bind_attempt ?_ ?_
  · intro h₁ result hgrown hresult
    match result with
    | (_, false) =>
        exact (tells_within (asks_setPhase hkey _ _ _ _) (by decide)).bind_attempt
          (fun _ _ _ _ => .pure trivial) fun _ _ _ => .pure trivial
    | (profilingCM, true) =>
        obtain rfl : profilingCM = ras.profilingName := hresult rfl
        refine (tells_ensurePlannerDeployment fun hshown => hdesired (hshown.mono hgrown)).bind ?_
        intro h₂ _ _ _
        exact (tells_within (asks_updateReadyStatus hkey _ _ _ _) (by decide)).bind
          fun _ _ _ _ => .pure trivial
  · intro h₁ e _
    exact (tells_within (asks_setPhase hkey _ _ _ _) (by decide)).bind_attempt
      (fun _ _ _ _ => .throw) fun _ _ _ => .throw

/-- Holding the finalizer keeps the spec that was read. -/
theorem tells_holdFinalizer
    (hspec : setting.Shown h → setting.operator.parseRASSpec ras.spec = .ok setting.spec) :
    TellsOk setting.Preserves (fun _ held => held.metadata.key = setting.key)
      (holdFinalizer ras) h := by
  unfold holdFinalizer
  split_ifs
  · exact .pure hkey
  · exact Kube.Tells.update fun _ hanswer =>
      ⟨hspec, fun held hheld => (hanswer held hheld).trans hkey⟩

theorem tells_finishDeletion
    (hspec : setting.Shown h → setting.operator.parseRASSpec ras.spec = .ok setting.spec) :
    TellsOk setting.Preserves (fun _ _ => True) (finishDeletion ras) h := by
  unfold finishDeletion
  split_ifs
  · refine (tells_within (asks_cleanupClusterResources hkey) (by decide)).bind ?_
    intro h₁ _ hgrown _
    refine TellsOk.bind (P := fun _ _ => True) ?_ fun _ _ _ _ => .pure trivial
    exact Kube.Tells.update fun _ _ =>
      ⟨fun hshown => hspec (hshown.mono hgrown), fun _ _ => trivial⟩
  · exact .pure trivial

theorem tells_reconcileLive
    (hparse : setting.operator.parseRASSpec ras.spec = .ok spec)
    (hspec : setting.Shown h → setting.operator.parseRASSpec ras.spec = .ok setting.spec) :
    TellsOk setting.Preserves (fun _ _ => True) (reconcileLive now ras spec) h := by
  refine (tells_holdFinalizer hkey hspec).bind fun h₁ held hgrown hheld => ?_
  refine tells_get.bind_attempt (fun h₂ rbg hgrown' hrbg => ?_) fun h₂ e _ => ?_
  · refine (tells_within (asks_ensureRBAC hheld) (by decide)).bind fun h₃ _ hgrown'' _ => ?_
    refine tells_reconcileWorkload hheld fun hshown => ?_
    have hshown₂ := hshown.mono hgrown''
    have hread := hspec ((hshown₂.mono hgrown').mono hgrown)
    obtain rfl : spec = setting.spec := Except.ok.inj (hparse.symm.trans hread)
    refine desired_template hheld (hshown₂ _ hrbg.2 ?_ rbg rfl)
    rw [← hheld]
    rfl
  · exact tells_within (asks_targetMissing hheld now e) (by decide)

omit hkey in
theorem tells_reconcile :
    TellsOk setting.Preserves (fun _ _ => True)
      (setting.operator.reconcile now setting.key) [] := by
  refine tells_get.bind_attempt (fun h ras _ hras => ?_) fun h e _ => ?_
  · obtain ⟨hkey, hread⟩ := hras
    have hspec : setting.Shown h →
        setting.operator.parseRASSpec ras.spec = .ok setting.spec :=
      fun hshown => hshown _ hread rfl ras rfl
    dsimp only
    split
    · exact (tells_within (asks_setPhase hkey _ _ _ _) (by decide)).bind
        fun _ _ _ _ => .pure trivial
    · next spec hparse =>
        split_ifs
        · exact tells_finishDeletion hkey hspec
        · exact tells_reconcileLive hkey hparse hspec
  · dsimp only
    split_ifs
    · exact .pure trivial
    · exact .throw

end Functions

/-! ## What requests leave -/

section Settled

variable {now : String} {s s' : Cluster} {key : NamespacedName} {op : KubeOp}

/-- Scaling is one of the changes that spare the planner. -/
theorem spared_of_changes {rbg rbg' : RoleBasedGroup}
    (hrbg : s.objects .roleBasedGroup setting.key = some rbg)
    (hkey : rbg'.metadata.key = setting.key)
    (hchanges : Relation.ReflTransGen ReplicaChange rbg.object rbg'.object) :
    setting.Spared s (s.put .roleBasedGroup rbg') := by
  have hframe : ∀ {k : Kind} {place : NamespacedName}, k ≠ .roleBasedGroup →
      (s.put .roleBasedGroup rbg').objects k place = s.objects k place :=
    fun hk => ApiServer.put_of_ne fun h => hk h.1
  refine ⟨fun ras' hras' => ?_, fun stored hstored => ?_, fun deployment' hdeployment' => ?_⟩
  · rw [hframe (by decide)] at hras'
    exact ⟨ras', hras', rfl⟩
  · have hput := @ApiServer.put_same _ Resource _ _ s .roleBasedGroup rbg'
    rw [← hkey] at hstored
    obtain rfl := Option.some.inj (hput.symm.trans hstored)
    exact ⟨rbg, hrbg, templates_of_changes hchanges⟩
  · rw [hframe (by decide)] at hdeployment'
    exact ⟨deployment', hdeployment', rfl⟩

theorem Spared.settled (hspared : setting.Spared s s') (hs : setting.Settled s) :
    setting.Settled s' := by
  refine ⟨fun ras' hras' => ?_, fun rbg' hrbg' => ?_, fun deployment' hdeployment' => ?_⟩
  · obtain ⟨ras, hras, hspec⟩ := hspared.autoScaler ras' hras'
    rw [hspec]
    exact hs.autoScaler ras hras
  · obtain ⟨rbg, hrbg, htemplates⟩ := hspared.group rbg' hrbg'
    exact htemplates.trans (hs.group rbg hrbg)
  · obtain ⟨deployment, hdeployment, htemplate⟩ := hspared.deployment deployment' hdeployment'
    exact htemplate.trans (hs.deployment deployment hdeployment)

/-- A permitted request that writes something of this AutoScaler is one of its own passes. -/
theorem index_of_target (hop : Permitted key op)
    (htarget : op.target = some (.autoScaler, setting.key) ∨
      op.target = some (.deployment, plannerKey setting.key)) : key = setting.key := by
  rcases htarget with htarget | htarget
  · exact Option.some.inj (target_of_permitted hop htarget)
  · have hplace := Option.some.inj (target_of_permitted hop htarget)
    obtain ⟨hspace, hname⟩ := NamespacedName.mk.inj hplace
    rw [String.append_left_inj] at hname
    cases key
    cases hspace
    cases hname
    rfl

/-- What a write leaves of the AutoScaler has the spec. -/
theorem parse_serve (hop : Permitted key op) (hkeeps : key = setting.key → setting.Keeps op)
    (hs : setting.Settled s) {ras : AutoScaler}
    (hras : (serve now op s).2.objects .autoScaler setting.key = some ras) :
    setting.operator.parseRASSpec ras.spec = .ok setting.spec := by
  by_cases htarget : op.target = some (.autoScaler, setting.key)
  · have hindex := index_of_target hop (.inl htarget)
    cases op with
    | get _ _ => cases htarget
    | event _ _ _ => cases htarget
    | delete _ _ =>
        cases htarget
        cases hop.1
    | create _ _ => exact absurd (Prod.mk.inj (Option.some.inj htarget)).1 hop.1
    | update _ obj =>
        obtain ⟨rfl, hplace⟩ := Prod.mk.inj (Option.some.inj htarget)
        rw [← hplace] at hras
        obtain ⟨stored, hstored, rfl | rfl⟩ := ApiServer.update_same hras
        · rw [hplace] at hstored
          exact hs.autoScaler _ hstored
        · exact hkeeps hindex
    | updateStatus obj =>
        have hplace : obj.metadata.key = setting.key := hop.trans hindex
        rw [← hplace] at hras
        obtain ⟨stored, hstored, hstatus⟩ := updateStatus_same hras
        rw [hplace] at hstored
        have hparse := hs.autoScaler stored hstored
        rcases hstatus with rfl | rfl
        · exact hparse
        · exact hparse
  · rw [serve_frame htarget] at hras
    exact hs.autoScaler ras hras

/-- What a write leaves of the planner's Deployment has the pod template. -/
theorem template_serve (hop : Permitted key op) (hkeeps : key = setting.key → setting.Keeps op)
    (hs : setting.Settled s) {deployment : Deployment}
    (hdeployment : (serve now op s).2.objects .deployment (plannerKey setting.key) =
      some deployment) : deployment.template = setting.template.complete := by
  by_cases htarget : op.target = some (.deployment, plannerKey setting.key)
  · have hindex := index_of_target hop (.inr htarget)
    cases op with
    | get _ _ => cases htarget
    | event _ _ _ => cases htarget
    | updateStatus _ => cases htarget
    | delete _ _ =>
        cases htarget
        cases hop.1
    | create _ obj =>
        obtain ⟨rfl, hplace⟩ := Prod.mk.inj (Option.some.inj htarget)
        rw [← hplace] at hdeployment
        rcases ApiServer.create_same hdeployment with hstored | rfl
        · rw [hplace] at hstored
          exact hs.deployment _ hstored
        · exact congrArg PodSpec.complete (hkeeps hindex)
    | update _ obj =>
        obtain ⟨rfl, hplace⟩ := Prod.mk.inj (Option.some.inj htarget)
        rw [← hplace] at hdeployment
        obtain ⟨stored, hstored, rfl | rfl⟩ := ApiServer.update_same hdeployment
        · rw [hplace] at hstored
          exact hs.deployment _ hstored
        · exact congrArg PodSpec.complete (hkeeps hindex)
  · rw [serve_frame htarget] at hdeployment
    exact hs.deployment deployment hdeployment

/-- No pass writes a group. -/
theorem Settled.serve (hs : setting.Settled s) (hop : Permitted key op)
    (hkeeps : key = setting.key → setting.Keeps op) (now : String) :
    setting.Settled (serve now op s).2 := by
  refine ⟨fun _ => parse_serve hop hkeeps hs, fun rbg hrbg => ?_,
    fun _ => template_serve hop hkeeps hs⟩
  have hframe : op.target ≠ some (.roleBasedGroup, setting.key) := by
    intro htarget
    cases target_of_permitted hop htarget
  rw [serve_frame hframe] at hrbg
  exact hs.group rbg hrbg

/-- An answer about settled states shows them. -/
theorem shows_of_get (hs : setting.Settled s) {k : Kind} {place : NamespacedName} :
    setting.Shows (.get k place) (s.get k place) := by
  cases k with
  | autoScaler =>
      rintro rfl ras hras
      exact hs.autoScaler ras (ApiServer.objects_of_get hras)
  | roleBasedGroup =>
      rintro rfl rbg hrbg
      exact hs.group rbg (ApiServer.objects_of_get hrbg)
  | _ => trivial

theorem shows_of_fails {e : ApiError} {r : KubeResp op} (h : op.Fails e r) :
    setting.Shows op r := by
  cases op with
  | get k place =>
      cases k with
      | autoScaler =>
          rintro - ras hras
          cases h.symm.trans hras
      | roleBasedGroup =>
          rintro - rbg hrbg
          cases h.symm.trans hrbg
      | _ => trivial
  | _ => trivial

end Settled

/-! ## Every run -/

section Runs

variable {c c' : Cached} {key : NamespacedName} {op : KubeOp} {r : KubeResp op}

theorem SettledThroughout.advance (hc : setting.SettledThroughout c) {next : Cluster}
    (hnext : setting.Settled next) : setting.SettledThroughout (c.advance next) :=
  List.forall_mem_cons.mpr ⟨hnext, hc⟩

/-- An answer shows settled states, and leaves one. -/
theorem SettledThroughout.answers (hc : setting.SettledThroughout c) (hop : Permitted key op)
    (hkeeps : key = setting.key → setting.Keeps op) (hanswer : Cached.Answers op c r c') :
    setting.Shows op r ∧ setting.SettledThroughout c' := by
  have hcurrent : setting.Settled c.current := hc _ (List.mem_cons_self ..)
  cases hanswer with
  | cached hs => exact ⟨shows_of_get (hc _ (List.mem_cons_of_mem _ hs)), hc⟩
  | live h =>
      constructor
      · rcases h.elim with ⟨now, rfl, -⟩ | ⟨e, -, hfails, -⟩
        · cases op with
          | get k place => exact shows_of_get hcurrent
          | _ => trivial
        · exact shows_of_fails hfails
      · rcases h.state with rfl | ⟨now, rfl⟩
        · exact hc.advance hcurrent
        · exact hc.advance (hcurrent.serve hop hkeeps now)

/-- A pass writes its own objects, and those of the AutoScaler as they should be. -/
def Allowed (setting : Setting) (key : NamespacedName) (h : KubeHistory) (e : KubeEvent) : Prop :=
  Permitted key e.1 ∧ (key = setting.key → setting.Preserves h e)

theorem tells_pass (key : NamespacedName) (now : String) :
    (ExceptT.run (setting.operator.reconcile now key)).Tells KubeOp.Keyed (setting.Allowed key)
      (fun _ _ => True) [] := by
  have hpermitted : Kube.Tells (fun _ e => Permitted key e.1) _
      (setting.operator.reconcile now key) [] :=
    (asks_reconcile setting.operator now key).tells (fun _ _ hop => hop) []
  by_cases hkey : key = setting.key
  · subst hkey
    have hboth := Prog.Tells.and hpermitted tells_reconcile
    exact Prog.Tells.mono hboth (fun _ _ h => ⟨h.1, fun _ => h.2⟩) fun _ _ _ => trivial
  · exact Prog.Tells.mono hpermitted (fun _ _ h => ⟨h, fun hindex => absurd hindex hkey⟩)
      fun _ _ _ => trivial

/-- Passes on the AutoScaler preserve the spec and the templates; all others
stay with their own objects. -/
theorem outline (setting : Setting) :
    Pool.Outline setting.operator.Starts Cached.Answers setting.Changes KubeOp.Keyed
      setting.Allowed setting.SettledThroughout
      fun key h _ => key = setting.key → setting.Shown h where
  starts := by
    rintro key p ⟨now, rfl⟩
    exact tells_pass key now
  empty := by
    intro key s _ e he
    cases he
  valid := fun _ _ _ _ _ h => h.keyed
  env := by
    rintro c _ hc ⟨next, rfl, hspared⟩
    exact ⟨hc.advance (hspared.settled (hc _ (List.mem_cons_self ..))), fun _ _ h => h⟩
  acts := by
    intro key h e c c' hc hshown hallowed hanswer
    have hkeeps := fun hindex => hallowed.2 hindex (hshown hindex)
    obtain ⟨hshows, hc'⟩ := hc.answers hallowed.1 hkeeps hanswer
    refine ⟨hc', fun hindex => ?_, fun _ _ _ h => h⟩
    exact List.forall_mem_append.mpr ⟨hshown hindex, List.forall_mem_singleton.mpr hshows⟩

end Runs

end Setting

/-- The planner's own scaling never redeploys the planner. -/
theorem stable (setting : Setting) : setting.Stable := by
  refine ⟨?_, ?_, ?_⟩
  · intro ras profilingCM rbg htemplates
    exact desired_congr htemplates ras setting.spec profilingCM
  · intro ras profilingCM metadata doc hchanges
    exact desired_congr (templates_of_changes hchanges) ras setting.spec profilingCM
  · intro c pool hc hreach deployment hdeployment
    have hsound := (Pool.sound_idle hc).reaches setting.outline hreach
    have hsettled := hsound.invariant _ (List.mem_cons_self ..)
    exact hsettled.deployment deployment hdeployment

end RbgPlanner.Properties.StableTemplate
