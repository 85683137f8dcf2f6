import RbgPlanner.Controller.Authorization

/-!
# What the role of the operator is enough for

The role the operator is installed with allows its requests with three
exceptions, and two of them are on the way to every planner: an API server that
lets nobody grant more than he holds refuses the role of the planners, and to
bind it.
-/

namespace RbgPlanner.Properties.OperatorRole

open Base AccessControl Controller

/-! ## Which requests are refused -/

/-- In every run of passes side by side, with failing requests, cached reads and
anything else going on in the cluster: of the requests of the passes the role
allows all but the events, the creation of the planners' role, and the creation
of a binding unless the planners' role is there with rules that the operator
holds. -/
theorem allowed_iff {r : AutoScalerReconciler} {env : Cached → Cached → Prop} {c : Cached}
    {pool : PassPool Cached} {log : List (Occurrence NamespacedName KubeOp KubeResp Cached)}
    (hrun : Pool.Run r.Starts Cached.Answers env (.idle c) log pool) :
    ∀ o ∈ log, o.event.1.authorized operatorRules o.before.current = true ↔
      o.event.1.access ≠ .event ∧ o.event.1.access ≠ .write .clusterRole ∧
        ∀ binding, o.event.1 = .create .clusterRoleBinding binding →
          HoldsPlannerRole o.before.current := by
  have husual : ∀ o ∈ log, ∃ key, Usual key o.event.1 := by
    refine Pool.asks_run (P := fun op => ∃ key, Usual key op) ?_ (fun _ _ _ _ h => h.keyed) hrun
    rintro key p ⟨now, rfl⟩
    exact Prog.Asks.mono (usual_reconcile r) (fun op hop => ⟨key, hop⟩) fun _ _ => trivial
  intro o ho
  obtain ⟨key, hop⟩ := husual o ho
  exact authorized_operatorRules_iff hop

/-! ## How far passes get -/

/-- In every run of passes side by side against an API server that enforces
access control, whatever else happens in the cluster: an operator that neither
holds the rules of the planners nor may escalate ends each pass before the
profile, the Job and the Deployment, and never stores the phase Ready. -/
theorem ungranted_ends_early {rules : List Rule} {r : AutoScalerReconciler}
    {env : Cluster → Cluster → Prop} {s : Cluster} {pool : PassPool Cluster}
    {log : List (Occurrence NamespacedName KubeOp KubeResp Cluster)}
    (hcovers : covers rules plannerRules = false)
    (hescalate : AccessControl.authorized rules KubeOp.escalation = false)
    (hrun : Pool.Run r.Starts (Guarded rules) env (.idle s) log pool) :
    ∀ o ∈ log, o.event.1.access ∉ workloadAccesses ∧
      ∀ obj : AutoScaler, o.event.1 = .updateStatus obj →
        phaseOf obj.status ≠ some (.str "Ready") := by
  have hgrant := authorized_create_clusterRole plannerClusterRole hescalate hcovers
  refine Pool.asks_run (P := Early) ?_ (fun _ _ _ _ h => h.expected) hrun
  rintro key p ⟨now, rfl⟩
  exact Prog.Asks.mono (earlyAsks_reconcile r hgrant) (fun _ h => h) fun _ _ => trivial

/-! ## The operator as it is installed -/

private def phi : NamespacedName := ⟨"serving", "phi"⟩

/-- An AutoScaler with its target and its profile, where the role of the planners
has been there before. -/
private def phiCluster : Cluster :=
  (((ApiServer.empty.put .autoScaler
    { metadata := { key := phi }
      spec := some (.obj [("pattern", .obj [("PDDisaggregated", .obj [])]),
        ("implementation", .obj [("DynamoPlanner", .obj [])])])
      status := none }).put .roleBasedGroup ⟨{ key := phi }, .obj []⟩).put .configMap
    ⟨{ key := profileKey phi }, []⟩).put .clusterRole plannerClusterRole

private def phiPass : KubeProg (Except ApiError ReconcileResult) :=
  ExceptT.run ((⟨"", "", ""⟩ : AutoScalerReconciler).reconcile "2025-06-01T00:00:00Z" phi)

private def phiLog : List (Occurrence NamespacedName KubeOp KubeResp Cached) :=
  Pool.occurrences (Cached.serve "2025-06-01T00:00:00Z") phi phiPass [] ⟨phiCluster, []⟩

theorem allowed_iff_phi :
    phiLog.length = 12 ∧ ∀ o ∈ phiLog, o.event.1.authorized operatorRules o.before.current = true ↔
      o.event.1.access ≠ .event ∧ o.event.1.access ≠ .write .clusterRole ∧
        ∀ binding, o.event.1 = .create .clusterRoleBinding binding →
          HoldsPlannerRole o.before.current := by
  have hrun : ∃ pool : PassPool Cached, Pool.Run (AutoScalerReconciler.Starts ⟨"", "", ""⟩)
      Cached.Answers Cached.Changes (.idle ⟨phiCluster, []⟩) phiLog pool :=
    ⟨_, Pool.run_start (Cached.answers_serve _) ⟨_, rfl⟩ _⟩
  obtain ⟨pool, hrun⟩ := hrun
  exact ⟨rfl, allowed_iff hrun⟩

private def refusedLog : List (Occurrence NamespacedName KubeOp KubeResp Cluster) :=
  Pool.occurrences (serveGuarded operatorRules "2025-06-01T00:00:00Z") phi phiPass [] phiCluster

/-- With the installed role the pass is over when the planners' role is refused,
although there is one. -/
theorem ungranted_ends_early_phi :
    refusedLog.map (fun o => o.event.1.access) =
      [.read .autoScaler, .write .autoScaler, .read .roleBasedGroup, .read .serviceAccount,
        .write .serviceAccount, .write .clusterRole] ∧
    ∀ o ∈ refusedLog, o.event.1.access ∉ workloadAccesses ∧
      ∀ obj : AutoScaler, o.event.1 = .updateStatus obj →
        phaseOf obj.status ≠ some (.str "Ready") := by
  have hrun : ∃ pool : PassPool Cluster, Pool.Run (AutoScalerReconciler.Starts ⟨"", "", ""⟩)
      (Guarded operatorRules) (fun _ _ => True) (.idle phiCluster) refusedLog pool :=
    ⟨_, Pool.run_start (guarded_serveGuarded _) ⟨_, rfl⟩ _⟩
  obtain ⟨pool, hrun⟩ := hrun
  exact ⟨rfl, ungranted_ends_early not_covers_plannerRules not_authorized_escalation hrun⟩

end RbgPlanner.Properties.OperatorRole
