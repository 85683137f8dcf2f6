import RbgPlanner.Api.AutoScalerSchema
import RbgPlanner.Controller.Outcomes

/-!
# Completing a deletion

A pass on an AutoScaler that is marked for deletion and carries the operator's
finalizer has to delete the binding and let the object go. Whether it does is
decided before the deletion mark is looked at.
-/

namespace RbgPlanner.Properties.Deletion

open Base Controller

/-- The objects the requests of a trace write, in order. -/
def writes (tr : List KubeEvent) : List (Kind × NamespacedName) := tr.filterMap fun e => e.1.target

theorem writes_append (tr₁ tr₂ : List KubeEvent) : writes (tr₁ ++ tr₂) = writes tr₁ ++ writes tr₂ :=
  List.filterMap_append

theorem writes_cons (e : KubeEvent) (tr : List KubeEvent) :
    writes (e :: tr) = e.1.target.toList ++ writes tr := by
  cases h : e.1.target <;> simp [writes, h]

@[simp] theorem writes_nil : writes [] = [] := rfl

variable (r : AutoScalerReconciler) (now : String) (key : NamespacedName) (s : Cluster)

/-- The pass returns, deletes the binding if there is one, and after that
releases the finalizer. A binding held by finalizers of its own is marked. -/
structure Completes : Prop where
  returns : (Kube.exec (serve now) (r.reconcile now key) s).1 = .ok {}
  writes : writes (Kube.requests (serve now) (r.reconcile now key) s) =
    (if (s.objects .clusterRoleBinding (bindingKey key)).isSome
      then [(.clusterRoleBinding, bindingKey key)] else []) ++ [(.autoScaler, key)]
  binding : ∀ crb : ClusterRoleBinding,
    (Kube.exec (serve now) (r.reconcile now key) s).2.objects
      .clusterRoleBinding (bindingKey key) = some crb → crb.metadata.deletionTimestamp.isSome
  finalizer : ∀ ras : AutoScaler,
    (Kube.exec (serve now) (r.reconcile now key) s).2.objects
      .autoScaler key = some ras → ras.containsFinalizer = false

variable {r now key s} {ras : AutoScaler}

/-! ## A spec that does not parse -/

/-- The finalizer stays, and with it the object. -/
theorem held_of_unparsed (now : String) (hras : s.objects .autoScaler key = some ras)
    (hfin : ras.containsFinalizer = true) {message : String}
    (hparse : r.parseRASSpec ras.spec = .error message) :
    ∃ ras' : AutoScaler, (Kube.exec (serve now) (r.reconcile now key) s).2.objects .autoScaler
        key = some ras' ∧ ras'.containsFinalizer = true ∧ ras'.spec = ras.spec := by
  let status := phaseStatus now ras.status "Failed" "InvalidSpec" message
  refine ⟨ras.statusUpdated s.version { ras with status := some status }, ?_, hfin, rfl⟩
  rw [exec_of_unparsed hras hparse]
  exact withStatus_same hras status

/-- Passes at the given times, one after the other. -/
def passes (r : AutoScalerReconciler) (key : NamespacedName) : List String → Cluster → Cluster
  | [], s => s
  | now :: times, s => passes r key times (Kube.exec (serve now) (r.reconcile now key) s).2

/-- However many passes follow, an object whose spec does not parse stays. -/
theorem held_of_unparsed_passes (hras : s.objects .autoScaler key = some ras)
    (hfin : ras.containsFinalizer = true) {message : String}
    (hparse : r.parseRASSpec ras.spec = .error message) (times : List String) :
    ∃ ras' : AutoScaler, (passes r key times s).objects .autoScaler key = some ras' ∧
      ras'.containsFinalizer = true := by
  induction times generalizing s ras with
  | nil => exact ⟨ras, hras, hfin⟩
  | cons now times ih =>
      obtain ⟨ras', hras', hfin', hspec⟩ := held_of_unparsed now hras hfin hparse
      exact ih hras' hfin' (by rw [hspec, hparse])

/-! ## A spec that parses -/

theorem writes_cleanup (hkey : ras.metadata.key = key) :
    writes (Kube.requests (serve now) (cleanupClusterResources ras) s) =
      if (s.objects .clusterRoleBinding (bindingKey key)).isSome
        then [(.clusterRoleBinding, bindingKey key)] else [] := by
  have hname : clusterKey ras.bindingName = bindingKey key := by rw [← hkey]; rfl
  unfold cleanupClusterResources writes
  cases hcrb : s.objects .clusterRoleBinding (bindingKey key) with
  | none =>
      simp [hname, serve, ApiServer.get_of_none hcrb, ApiServer.notFound, KubeOp.target]
  | some crb =>
      have hcrbKey : (ClusterRoleBinding.metadata crb).key = bindingKey key :=
        ApiServer.keyOf_stored hcrb
      simp [hname, serve, ApiServer.get_of_some hcrb, hcrbKey, KubeOp.target]

/-- A pass whose spec parses completes the deletion. -/
theorem completes_of_parsed (hras : s.objects .autoScaler key = some ras)
    (hdel : ras.metadata.deletionTimestamp.isSome = true) (hfin : ras.containsFinalizer = true)
    {spec : ParsedSpec} (hparse : r.parseRASSpec ras.spec = .ok spec) :
    Completes r now key s := by
  have hkey : ras.metadata.key = key := ApiServer.keyOf_stored hras
  obtain ⟨next, s', hupdate, hbinding, hreleased⟩ := release_after_cleanup now hras
  have hexec : Kube.exec (serve now) (r.reconcile now key) s = (.ok {}, s') := by
    rw [exec_reconcile hras, hparse]
    simp [hdel, exec_finishDeletion hkey hfin hupdate]
  refine ⟨congrArg Prod.fst hexec, ?_, fun crb hcrb => ?_, fun ras' hras' => ?_⟩
  · have hkeyOf : @ApiServer.keyOf _ Resource _ .autoScaler ras.removeFinalizer =
        key := hkey
    simp [AutoScalerReconciler.reconcile, ApiServer.get_of_some hras, hparse, serve, hdel,
      finishDeletion, hfin, exec_cleanup hkey, hupdate, writes_append, writes_cleanup hkey,
      writes_cons, KubeOp.target, hkeyOf]
  · rw [hexec, hbinding] at hcrb
    exact cleaned_binding crb hcrb
  · rw [hexec] at hras'
    exact (hreleased ras' hras').finalizer

/-- Deletion completes exactly when the spec still has the two maps the parser
insists on: `pattern.PDDisaggregated` and `implementation.DynamoPlanner`. -/
theorem completes_iff (hras : s.objects .autoScaler key = some ras)
    (hdel : ras.metadata.deletionTimestamp.isSome = true) (hfin : ras.containsFinalizer = true) :
    Completes r now key s ↔
      ∃ fields, ras.spec = some (.obj fields) ∧
        (∃ pd, Json.asMap (Json.lookup (Json.asMap (Json.lookup fields "pattern"))
          "PDDisaggregated") = some pd) ∧
        ∃ dp, Json.asMap (Json.lookup (Json.asMap (Json.lookup fields "implementation"))
          "DynamoPlanner") = some dp := by
  rw [← parseRASSpec_eq_ok_iff r]
  constructor
  · intro h
    cases hparse : r.parseRASSpec ras.spec with
    | ok spec => exact ⟨spec, rfl⟩
    | error message =>
        obtain ⟨ras', hras', hheld, -⟩ := held_of_unparsed now hras hfin hparse
        rw [h.finalizer ras' hras'] at hheld
        cases hheld
  · rintro ⟨spec, hparse⟩
    exact completes_of_parsed hras hdel hfin hparse

/-! ## Two specs -/

/-- An AutoScaler in deletion with the operator's finalizer. -/
private def terminating (spec : Json) : AutoScaler where
  metadata :=
    { key := ⟨"inference", "sglang-pd-inference"⟩
      deletionTimestamp := some "2025-06-01T00:00:00Z"
      finalizers := [finalizerName] }
  spec := some spec
  status := none

/-- The AutoScaler and the binding of an earlier pass. -/
private def clusterWith (spec : Json) : Cluster :=
  (ApiServer.empty.put .clusterRoleBinding (plannerBinding (terminating spec))).put .autoScaler
    (terminating spec)

private theorem clusterWith_autoScaler (spec : Json) :
    (clusterWith spec).objects .autoScaler ⟨"inference", "sglang-pd-inference"⟩ =
      some (terminating spec) :=
  ApiServer.put_same

private def operator : AutoScalerReconciler := ⟨"", "", ""⟩

private def dynamoPlanner : String × Json :=
  ("implementation", .obj [("DynamoPlanner", .obj [("modelName", .str "Qwen/Qwen3-0.6B")])])

private def disaggregatedSpec : Json :=
  .obj [("pattern", .obj [("PDDisaggregated", .obj
    [("prefill", .obj [("roleName", .str "prefill"), ("maxReplicas", .int 10)]),
     ("decode", .obj [("roleName", .str "decode"), ("maxReplicas", .int 10)])])]), dynamoPlanner]

private def unifiedSpec : Json :=
  .obj [("pattern", .obj [("Unified", .obj
    [("roleName", .str "worker"), ("maxReplicas", .int 4)])]), dynamoPlanner]

/-- With both maps in the spec the deletion completes. -/
theorem completes_iff_disaggregated :
    Completes operator "2025-06-01T00:00:05Z" ⟨"inference", "sglang-pd-inference"⟩
      (clusterWith (Api.autoScalerSpec.complete disaggregatedSpec)) :=
  (completes_iff (clusterWith_autoScaler _) rfl (by decide)).mpr
    ⟨_, rfl, ⟨_, rfl⟩, ⟨_, rfl⟩⟩

/-- A spec edited to `pattern.Unified` is admitted, and the object stays in
deletion with its binding in place. -/
theorem unified_never_completes :
    Api.autoScalerSpec.valid (Api.autoScalerSpec.complete unifiedSpec) = true ∧
      ¬ Completes operator "2025-06-01T00:00:05Z" ⟨"inference", "sglang-pd-inference"⟩
        (clusterWith (Api.autoScalerSpec.complete unifiedSpec)) := by
  refine ⟨by decide, fun h => ?_⟩
  have hparse : operator.parseRASSpec (terminating (Api.autoScalerSpec.complete unifiedSpec)).spec =
      .error "pattern.PDDisaggregated is required" := rfl
  obtain ⟨ras', hras', hheld, -⟩ := held_of_unparsed "2025-06-01T00:00:05Z"
    (clusterWith_autoScaler (Api.autoScalerSpec.complete unifiedSpec)) rfl hparse
  rw [h.finalizer ras' hras'] at hheld
  cases hheld

end RbgPlanner.Properties.Deletion
