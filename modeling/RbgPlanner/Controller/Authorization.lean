import RbgPlanner.Base.AccessControl
import RbgPlanner.Controller.Faults
import RbgPlanner.Controller.Footprint
import RbgPlanner.Controller.Status

/-!
# What the operator is allowed to ask

The permissions a request needs, the role the operator is installed with, and
an API server that enforces it: whoever writes or binds a role has to hold its
rules.
-/

namespace RbgPlanner.Controller

open Base AccessControl

/-! ## The permissions of a request -/

def PolicyRule.rule (rule : PolicyRule) : Rule := ⟨rule.verbs, rule.apiGroups, rule.resources⟩

namespace Kind

def apiGroup : Kind → String
  | autoScaler => "inference-extension.rolebasedgroup.io"
  | roleBasedGroup => "workloads.x-k8s.io"
  | serviceAccount | configMap => ""
  | clusterRole | clusterRoleBinding => "rbac.authorization.k8s.io"
  | job => "batch"
  | deployment => "apps"

def resource : Kind → String
  | autoScaler => "autoscalers"
  | roleBasedGroup => "rolebasedgroups"
  | serviceAccount => "serviceaccounts"
  | clusterRole => "clusterroles"
  | clusterRoleBinding => "clusterrolebindings"
  | configMap => "configmaps"
  | job => "jobs"
  | deployment => "deployments"

def attributes (verb : String) (k : Kind) : Attributes := ⟨verb, k.apiGroup, k.resource⟩

end Kind

namespace KubeOp

/-- A recorded event is an object of the core group that is created. -/
def attributes : KubeOp → Attributes
  | get k _ => k.attributes "get"
  | create k _ => k.attributes "create"
  | update k _ => k.attributes "update"
  | updateStatus _ => ⟨"update", Kind.autoScaler.apiGroup, "autoscalers/status"⟩
  | delete k _ => k.attributes "delete"
  | event _ _ _ => ⟨"create", "", "events"⟩

/-- The rules of the stored role that a binding names. -/
def boundRules (s : Cluster) (binding : ClusterRoleBinding) : Option (List Rule) :=
  match s.get .clusterRole (clusterKey binding.roleRef.name) with
  | .ok role => some ((ClusterRole.rules role).map PolicyRule.rule)
  | .error _ => none

/-- The rules that a request hands on: those of the role it writes or of the
stored role it binds, and nothing to go by when there is no such role. An update
of owners alone would be exempt; the operator updates neither kind. -/
def handsOn (s : Cluster) : KubeOp → Option (List Rule)
  | create .clusterRole role => some ((ClusterRole.rules role).map PolicyRule.rule)
  | update .clusterRole role => some ((ClusterRole.rules role).map PolicyRule.rule)
  | create .clusterRoleBinding binding => boundRules s binding
  | update .clusterRoleBinding binding => boundRules s binding
  | _ => some []

/-- The permission to write a role beyond one's own. -/
def escalation : Attributes := Kind.clusterRole.attributes "escalate"

/-- The permission to bind such a role. -/
def binding : Attributes := Kind.clusterRole.attributes "bind"

/-- The permission that makes up for rules that are not held. -/
def waiver : KubeOp → Attributes
  | create .clusterRoleBinding _ => binding
  | update .clusterRoleBinding _ => binding
  | _ => escalation

def authorized (rules : List Rule) (s : Cluster) (op : KubeOp) : Bool :=
  AccessControl.authorized rules op.attributes &&
    (AccessControl.authorized rules op.waiver || (op.handsOn s).any (covers rules))

/-- The answers to a request that is not allowed. A binding may be answered with
the role it names not being found. -/
def Refused (op : KubeOp) (r : KubeResp op) : Prop :=
  op.access = .event ∨ ∃ e : ApiError, (e.reason = .other ∨
    e.reason = .notFound ∧ op.access = .write .clusterRoleBinding) ∧ op.Fails e r

end KubeOp

/-! ## The role of the operator -/

/-- The ClusterRole the operator is installed with. -/
def operatorClusterRole : ClusterRole where
  metadata := { key := clusterKey "rbg-planner-operator" }
  rules :=
    [{ apiGroups := [""]
       resources := ["configmaps", "serviceaccounts"]
       verbs := ["create", "delete", "get", "list", "update", "watch"] },
     { apiGroups := ["apps"]
       resources := ["deployments"]
       verbs := ["create", "delete", "get", "list", "patch", "update", "watch"] },
     { apiGroups := ["batch"]
       resources := ["jobs"]
       verbs := ["create", "delete", "get", "list", "watch"] },
     { apiGroups := ["inference-extension.rolebasedgroup.io"]
       resources := ["autoscalers"]
       verbs := ["create", "delete", "get", "list", "patch", "update", "watch"] },
     { apiGroups := ["inference-extension.rolebasedgroup.io"]
       resources := ["autoscalers/finalizers"]
       verbs := ["update"] },
     { apiGroups := ["inference-extension.rolebasedgroup.io"]
       resources := ["autoscalers/status"]
       verbs := ["get", "patch", "update"] },
     { apiGroups := ["rbac.authorization.k8s.io"]
       resources := ["clusterrolebindings", "clusterroles"]
       verbs := ["create", "delete", "get", "list", "update", "watch"] },
     { apiGroups := ["workloads.x-k8s.io"]
       resources := ["rolebasedgroups"]
       verbs := ["get", "list", "watch"] }]

def operatorRules : List Rule := operatorClusterRole.rules.map PolicyRule.rule

def plannerRules : List Rule := plannerClusterRole.rules.map PolicyRule.rule

/-! ## A server that enforces it -/

/-- Requests are refused without effect unless the rules allow them. -/
inductive Guarded (rules : List Rule) (op : KubeOp) (s : Cluster) : KubeResp op → Cluster → Prop
  | admitted {r s'} (h : op.authorized rules s = true) (ha : Faulty op s r s') :
      Guarded rules op s r s'
  | refused {r} (h : op.authorized rules s = false) (hr : op.Refused r) : Guarded rules op s r s

variable {rules : List Rule} {op : KubeOp} {s s' : Cluster} {r : KubeResp op}

def forbidden : ApiError := ⟨.other, "forbidden"⟩

/-- A refusal. Events that are not recorded are dropped. -/
def KubeOp.refusal : (op : KubeOp) → KubeResp op
  | .get _ _ => .error forbidden
  | .create _ _ => .error forbidden
  | .update _ _ => .error forbidden
  | .updateStatus _ => .error forbidden
  | .delete _ _ => .error forbidden
  | .event _ _ _ => ()

/-- Serve what the rules allow. -/
def serveGuarded (rules : List Rule) (now : String) (op : KubeOp) (s : Cluster) :
    KubeResp op × Cluster :=
  if op.authorized rules s then serve now op s else (op.refusal, s)

theorem KubeOp.refused_refusal (op : KubeOp) : op.Refused op.refusal := by
  cases op with
  | event _ _ _ => exact .inl rfl
  | get _ _ | create _ _ | update _ _ | updateStatus _ | delete _ _ =>
      exact .inr ⟨forbidden, .inl rfl, rfl⟩

/-- Serving one request after the other is one way to answer them. -/
theorem guarded_serveGuarded (now : String) (op : KubeOp) (s : Cluster) :
    Guarded rules op s (serveGuarded rules now op s).1 (serveGuarded rules now op s).2 := by
  unfold serveGuarded
  split_ifs with h
  · exact .admitted h (.served now)
  · exact .refused (Bool.eq_false_iff.mpr h) op.refused_refusal

theorem KubeOp.Refused.keyed (h : op.Refused r) : op.Keyed r := by
  rcases h with hevent | ⟨e, -, hfails⟩
  · cases op <;> cases hevent
    trivial
  · exact hfails.keyed

/-- What the answers of a server with these rules have in common. -/
def Expected (rules : List Rule) (op : KubeOp) (r : KubeResp op) : Prop :=
  op.Keyed r ∧ ((∀ s, op.authorized rules s = false) → op.Refused r)

theorem Guarded.expected (h : Guarded rules op s r s') : Expected rules op r := by
  cases h with
  | admitted hallowed ha => exact ⟨ha.keyed, fun h => by cases hallowed.symm.trans (h s)⟩
  | refused _ hr => exact ⟨hr.keyed, fun _ => hr⟩

/-- A role that is not covered is not written. -/
theorem authorized_create_clusterRole (role : ClusterRole)
    (hescalate : AccessControl.authorized rules KubeOp.escalation = false)
    (hcovers : covers rules (role.rules.map PolicyRule.rule) = false) (s : Cluster) :
    (KubeOp.create .clusterRole role).authorized rules s = false := by
  simp [KubeOp.authorized, KubeOp.handsOn, KubeOp.waiver, hescalate, hcovers]

/-- The operator may not patch what the planners scale. -/
theorem not_covers_plannerRules : covers operatorRules plannerRules = false := by
  refine Bool.eq_false_iff.mpr fun hcovers => ?_
  have hpatch := covers_iff.mp hcovers (Kind.roleBasedGroup.attributes "patch") (by decide)
  exact absurd hpatch (by decide)

theorem not_authorized_escalation :
    AccessControl.authorized operatorRules KubeOp.escalation = false := by decide

theorem not_authorized_binding :
    AccessControl.authorized operatorRules KubeOp.binding = false := by decide

/-- A request of the operator; of roles it writes only the planners', and binds no other. -/
def Usual (key : NamespacedName) (op : KubeOp) : Prop :=
  Permitted key op ∧ (∀ role, op = .create .clusterRole role → role = plannerClusterRole) ∧
    ∀ binding : ClusterRoleBinding, op = .create .clusterRoleBinding binding →
      binding.roleRef = plannerRoleRef

/-- The stored role of the planners has no rules beyond those of the operator. -/
def HoldsPlannerRole (s : Cluster) : Prop :=
  ∃ role : ClusterRole, s.get .clusterRole (clusterKey plannerClusterRoleName) = .ok role ∧
    covers operatorRules (role.rules.map PolicyRule.rule) = true

/-- Requests that hand on nothing are allowed by their attributes. -/
theorem authorized_of_attributes {allowed : Bool} (hnothing : op.handsOn s = some [])
    (h : AccessControl.authorized rules op.attributes = allowed) :
    op.authorized rules s = allowed := by
  simp [KubeOp.authorized, h, hnothing, covers]

/-- Without the permission to bind, a stored role is bound by who holds its rules. -/
theorem authorized_create_binding_iff {binding : ClusterRoleBinding}
    (hroleRef : binding.roleRef = plannerRoleRef) :
    (KubeOp.create .clusterRoleBinding binding).authorized operatorRules s = true ↔
      HoldsPlannerRole s := by
  have hattributes : AccessControl.authorized operatorRules
      (Kind.clusterRoleBinding.attributes "create") = true := by decide
  rw [KubeOp.authorized, KubeOp.attributes, hattributes, KubeOp.waiver, not_authorized_binding,
    Bool.true_and, Bool.false_or, KubeOp.handsOn, KubeOp.boundRules, hroleRef]
  unfold HoldsPlannerRole
  cases hget : s.get .clusterRole (clusterKey plannerRoleRef.name) with
  | ok role =>
      constructor
      · exact fun hcovers => ⟨role, hget, hcovers⟩
      · rintro ⟨other, hother, hcovers⟩
        obtain rfl := Except.ok.inj (hget.symm.trans hother)
        exact hcovers
  | error e =>
      refine iff_of_false Bool.false_ne_true ?_
      rintro ⟨other, hother, -⟩
      cases hget.symm.trans hother

/-- The role the operator is installed with allows what it asks, but for recording
events, for writing the role of the planners and for binding it beyond its own rules. -/
theorem authorized_operatorRules_iff {key : NamespacedName} (h : Usual key op) :
    op.authorized operatorRules s = true ↔
      op.access ≠ .event ∧ op.access ≠ .write .clusterRole ∧
        ∀ binding, op = .create .clusterRoleBinding binding → HoldsPlannerRole s := by
  obtain ⟨hpermitted, hrole, hroleRef⟩ := h
  cases op with
  | get k _ =>
      have hallowed : AccessControl.authorized operatorRules (k.attributes "get") = true := by
        cases k <;> decide
      exact iff_of_true (authorized_of_attributes rfl hallowed) ⟨nofun, nofun, nofun⟩
  | event _ _ _ =>
      have hrefused : AccessControl.authorized operatorRules ⟨"create", "", "events"⟩ = false := by
        decide
      exact iff_of_false (Bool.eq_false_iff.mp (authorized_of_attributes rfl hrefused))
        fun h => h.1 rfl
  | updateStatus _ =>
      have hallowed : AccessControl.authorized operatorRules
          ⟨"update", Kind.autoScaler.apiGroup, "autoscalers/status"⟩ = true := by
        decide
      exact iff_of_true (authorized_of_attributes rfl hallowed) ⟨nofun, nofun, nofun⟩
  | delete k _ =>
      obtain ⟨rfl, -⟩ := hpermitted
      have hallowed : AccessControl.authorized operatorRules
          (Kind.clusterRoleBinding.attributes "delete") = true := by
        decide
      exact iff_of_true (authorized_of_attributes rfl hallowed) ⟨nofun, nofun, nofun⟩
  | update k obj =>
      have hallowed : AccessControl.authorized operatorRules (k.attributes "update") = true := by
        obtain ⟨rfl | rfl, -⟩ := hpermitted <;> decide
      have hnothing : (KubeOp.update k obj).handsOn s = some [] := by
        obtain ⟨rfl | rfl, -⟩ := hpermitted <;> rfl
      have haccess : k ≠ .clusterRole := by
        obtain ⟨rfl | rfl, -⟩ := hpermitted <;> decide
      exact iff_of_true (authorized_of_attributes hnothing hallowed)
        ⟨nofun, fun h => haccess (Access.write.inj h), nofun⟩
  | create k obj =>
      obtain ⟨hscaler, hplace⟩ := hpermitted
      have hallowed : AccessControl.authorized operatorRules (k.attributes "create") = true := by
        cases k <;> first | decide | cases hplace
      cases k with
      | autoScaler => exact absurd rfl hscaler
      | roleBasedGroup => cases hplace
      | configMap => cases hplace
      | clusterRole =>
          obtain rfl := hrole obj rfl
          have hrefused := authorized_create_clusterRole plannerClusterRole
            not_authorized_escalation not_covers_plannerRules s
          exact iff_of_false (Bool.eq_false_iff.mp hrefused) fun h => h.2.1 rfl
      | clusterRoleBinding =>
          rw [authorized_create_binding_iff (hroleRef obj rfl)]
          exact ⟨fun hholds => ⟨nofun, nofun, fun _ _ => hholds⟩, fun h => h.2.2 obj rfl⟩
      | serviceAccount | job | deployment =>
          exact iff_of_true (authorized_of_attributes rfl hallowed) ⟨nofun, nofun, nofun⟩

section Usual

open Kube (Asks)

variable {key : NamespacedName} {ras : AutoScaler} {now : String} {α : Type} {Q : α → Prop}

theorem usual_of_within {x : Kube α} {accesses : List Access}
    (hx : Asks (Within key accesses) Q x) (hrole : Access.write .clusterRole ∉ accesses)
    (hbinding : Access.write .clusterRoleBinding ∉ accesses) : Asks (Usual key) Q x := by
  refine hx.mono (fun op hop => ⟨hop.1, ?_, ?_⟩) fun _ h => h
  · rintro role rfl
    exact absurd hop.2 hrole
  · rintro binding rfl
    exact absurd hop.2 hbinding

theorem usual_finishDeletion (hkey : ras.metadata.key = key) :
    Asks (Usual key) (fun _ => True) (finishDeletion ras) := by
  have hcleanup : Asks (Usual key) (fun _ => True) (cleanupClusterResources ras) := by
    subst hkey
    refine .bind (.attempt (.get ⟨trivial, nofun, nofun⟩)) fun r hr => ?_
    cases r with
    | ok crb => exact .delete ⟨⟨rfl, hr crb rfl⟩, nofun, nofun⟩
    | error e =>
        dsimp only
        split_ifs
        · exact .pure trivial
        · exact .throw
  unfold finishDeletion
  split_ifs
  · refine .bind hcleanup fun _ _ => ?_
    exact .bind (.update ⟨⟨.inl rfl, congrArg some hkey.symm⟩, nofun, nofun⟩)
      fun _ _ => .pure trivial
  · exact .pure trivial

theorem usual_ensureRBAC (hkey : ras.metadata.key = key) :
    Asks (Usual key) (fun _ => True) (ensureRBAC ras) := by
  subst hkey
  have hwritten : Asks (Usual ras.metadata.key) (fun _ => True)
      (createIfNotExists .clusterRole plannerClusterRole) := by
    refine .bind (.attempt (.create ⟨⟨by decide, rfl⟩, ?_, nofun⟩)) fun r _ => ?_
    · rintro role h
      cases h
      rfl
    · cases r with
      | ok _ => exact .pure trivial
      | error e =>
          dsimp only
          split_ifs
          · exact .pure trivial
          · exact .throw
  have hbound : Asks (Usual ras.metadata.key) (fun _ => True)
      (createOrUpdate .clusterRoleBinding (plannerBinding ras)) := by
    refine .bind (.attempt (.get ⟨trivial, nofun, nofun⟩)) fun r _ => ?_
    cases r with
    | ok _ => exact .pure trivial
    | error e =>
        dsimp only
        split_ifs
        · refine .bind (.create ⟨⟨by decide, rfl⟩, nofun, ?_⟩) fun _ _ => .pure trivial
          rintro binding h
          cases h
          rfl
        · exact .throw
  refine .bind (.wrap (usual_of_within (asks_createOrUpdate ⟨by decide, rfl⟩) (by decide)
    (by decide))) ?_
  intro _ _
  refine .bind (.wrap hwritten) fun _ _ => ?_
  exact .wrap hbound

theorem usual_reconcile (r : AutoScalerReconciler) :
    Asks (Usual key) (fun _ => True) (r.reconcile now key) := by
  refine .bind (.attempt (.get ⟨trivial, nofun, nofun⟩)) fun found hfound => ?_
  cases found with
  | error e =>
      dsimp only
      split_ifs
      · exact .pure trivial
      · exact .throw
  | ok ras =>
      have hkey : ras.metadata.key = key := hfound ras rfl
      dsimp only
      split
      · exact .bind (usual_of_within (asks_setPhase hkey _ _ _ _) (by decide) (by decide))
          fun _ _ => .pure trivial
      · split_ifs
        · exact usual_finishDeletion hkey
        · refine .bind (usual_of_within (asks_holdFinalizer hkey) (by decide) (by decide))
            fun held hheld => ?_
          refine .bind (.attempt (.get ⟨trivial, nofun, nofun⟩)) fun target _ => ?_
          cases target with
          | error e =>
              exact usual_of_within (asks_targetMissing hheld now e) (by decide) (by decide)
          | ok rbg =>
              refine .bind (usual_ensureRBAC hheld) fun _ _ => ?_
              exact usual_of_within (asks_reconcileWorkload hheld now _ rbg _ _) (by decide)
                (by decide)

end Usual

/-! ## Passes of an operator that may not grant -/

/-- The accesses of a pass after access control. -/
def workloadAccesses : List Access :=
  [.read .configMap, .read .job, .write .job, .read .deployment, .write .deployment]

/-- A request that a pass makes before access control is in place. -/
def Early (op : KubeOp) : Prop :=
  op.access ∉ workloadAccesses ∧
    ∀ obj : AutoScaler, op = .updateStatus obj → phaseOf obj.status ≠ some (.str "Ready")

section Passes

variable {key : NamespacedName} {now : String} {α : Type} {Q : α → Prop}

abbrev EarlyAsks (rules : List Rule) (Q : α → Prop) (x : Kube α) : Prop :=
  Prog.AsksOk Early (Expected rules) Q x

/-- A program that is known by its accesses, none of them late and no status among them. -/
theorem earlyAsks_of_within {x : Kube α} {accesses : List Access}
    (hx : Kube.Asks (Within key accesses) Q x) (hearly : ∀ a ∈ accesses, a ∉ workloadAccesses)
    (hstatus : Access.status ∉ accesses) : EarlyAsks rules Q x := by
  refine Prog.Asks.assume (Kube.Asks.mono hx (fun op hop => ⟨hearly _ hop.2, ?_⟩) fun _ h => h)
    fun _ _ h => h.1
  rintro obj rfl
  exact absurd hop.2 hstatus

theorem earlyAsks_setPhase {ras : AutoScaler} {phase : String} (hphase : phase ≠ "Ready")
    (reason message : String) :
    EarlyAsks rules (fun _ => True) (setPhase now ras phase reason message) := by
  have haccess : Access.status ∉ workloadAccesses := by decide
  refine ⟨⟨haccess, ?_⟩, fun answer _ => ?_⟩
  · rintro obj h
    cases h
    simpa using hphase
  · cases answer <;> exact fun _ _ => trivial

theorem earlyAsks_targetMissing {ras : AutoScaler} (e : ApiError) :
    EarlyAsks rules (fun _ => True) (targetMissing now ras e) := by
  have haccess : Access.event ∉ workloadAccesses := by decide
  unfold targetMissing
  split_ifs
  · refine Prog.AsksOk.bind (Q := fun _ => True) ⟨⟨haccess, nofun⟩, fun _ _ _ _ => trivial⟩ ?_
    intro _ _
    exact Prog.AsksOk.bind (Q := fun _ => True)
      (Prog.Asks.bind (earlyAsks_setPhase (by decide) _ _) fun _ _ _ _ => trivial)
      fun _ _ => .pure trivial
  · exact .throw

/-- Who does not hold the rules of the planners' role never gets through access control. -/
theorem earlyAsks_ensureRBAC (ras : AutoScaler)
    (hgrant : ∀ s, (KubeOp.create .clusterRole plannerClusterRole).authorized rules s = false) :
    EarlyAsks rules (fun _ => False) (ensureRBAC ras) := by
  have haccount : Kube.Asks
      (Within ras.metadata.key [.read .serviceAccount, .write .serviceAccount])
      (fun _ => True) (Kube.wrap "ensure ServiceAccount"
        (createOrUpdate .serviceAccount (plannerServiceAccount ras))) :=
    .wrap (asks_createOrUpdate ⟨by decide, rfl⟩)
  refine (earlyAsks_of_within haccount (by decide) (by decide)).bind fun _ _ => ?_
  refine Prog.AsksOk.bind (Q := fun _ => False) ?_ fun _ h => h.elim
  refine ⟨⟨by decide, nofun⟩, fun answer hanswer => ?_⟩
  obtain ⟨e, hreason, rfl⟩ := (hanswer.2 hgrant).resolve_left nofun
  -- a refusal is no sign that the role is there
  have hexists : e.reason ≠ .alreadyExists := by
    rcases hreason with hother | ⟨hmissing, -⟩
    · simp [hother]
    · simp [hmissing]
  change EarlyAsks rules (fun _ => False) (Kube.wrap "ensure ClusterRole"
    (if e.reason = .alreadyExists then pure () else throw e))
  rw [if_neg hexists]
  exact nofun

/-- A pass of such an operator ends before its workload. -/
theorem earlyAsks_reconcile (r : AutoScalerReconciler)
    (hgrant : ∀ s, (KubeOp.create .clusterRole plannerClusterRole).authorized rules s = false) :
    EarlyAsks rules (fun _ => True) (r.reconcile now key) := by
  have hread : ∀ k : Kind, k = .autoScaler ∨ k = .roleBasedGroup → ∀ place,
      Early (.get k place) := by
    rintro k (rfl | rfl) place
    · exact ⟨(by decide : Access.read .autoScaler ∉ workloadAccesses), nofun⟩
    · exact ⟨(by decide : Access.read .roleBasedGroup ∉ workloadAccesses), nofun⟩
  refine Prog.AsksOk.bind (Q := fun found => ∀ ras : AutoScaler, found = .ok ras →
    ras.metadata.key = key) ⟨hread _ (.inl rfl) _, fun answer hanswer => ?_⟩ ?_
  · rintro _ ⟨⟩ ras rfl
    exact hanswer.1 ras rfl
  intro found hfound
  cases found with
  | error e =>
      dsimp only
      split_ifs
      · exact .pure trivial
      · exact .throw
  | ok ras =>
      have hkey : ras.metadata.key = key := hfound ras rfl
      dsimp only
      split
      · exact (earlyAsks_setPhase (by decide) _ _).bind fun _ _ => .pure trivial
      · split_ifs
        · exact earlyAsks_of_within (asks_finishDeletion hkey) (by decide) (by decide)
        · refine Prog.AsksOk.bind (earlyAsks_of_within (asks_holdFinalizer hkey) (by decide)
            (by decide)) fun held _ => ?_
          refine Prog.AsksOk.bind (Q := fun _ => True)
            ⟨hread _ (.inr rfl) _, fun _ _ _ _ => trivial⟩ fun target _ => ?_
          cases target with
          | error e => exact earlyAsks_targetMissing e
          | ok rbg => exact (earlyAsks_ensureRBAC held hgrant).bind fun _ h => h.elim

end Passes

end RbgPlanner.Controller
