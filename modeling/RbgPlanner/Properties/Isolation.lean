import RbgPlanner.Controller.Fleet

/-!
# Isolation between AutoScalers

A pass on one AutoScaler has to leave alone what another live one relies on,
and an AutoScaler that got its access keeps it until its deletion is requested.
Bindings are named without the namespace, so this depends on what has a name
when a pass comes to it.
-/

namespace RbgPlanner.Properties.Isolation

open Base Controller

/-- What an AutoScaler relies on: itself, its target, the profile, the objects
of its planner, and every binding that grants it access. -/
def ReliesOn (key : NamespacedName) : (k : Kind) → NamespacedName → Resource k → Prop
  | .clusterRoleBinding, _, crb => Grants crb key
  | .roleBasedGroup, place, _ => place = key
  | .configMap, place, _ => place = ⟨key.namespaceName, key.name ++ "-profiling"⟩
  | .autoScaler, place, _ => footprint key .autoScaler = some place
  | .serviceAccount, place, _ => footprint key .serviceAccount = some place
  | .clusterRole, place, _ => footprint key .clusterRole = some place
  | .job, place, _ => footprint key .job = some place
  | .deployment, place, _ => footprint key .deployment = some place

/-- Whatever a live AutoScaler other than the one at `key` relies on is still there, unchanged. -/
def Spares (s s' : Cluster) (key : NamespacedName) : Prop :=
  ∀ other ≠ key, LiveIn s other → ∀ (k : Kind) (place : NamespacedName) (o : Resource k),
    ReliesOn other k place o → s.objects k place = some o → s'.objects k place = some o

/-- A pass spares the others, and after any action the live AutoScalers that
got their access have it. -/
structure StepIsolates (r : AutoScalerReconciler) (f : Fleet) (a : FleetAction) : Prop where
  spares : ∀ now key, a = .pass now key → Spares f.cluster (f.step r a).cluster key
  bound : ∀ key, LiveIn (f.step r a).cluster key → (f.step r a).established key →
    Bound (f.step r a).cluster key

/-- A pass that gets to access control finds no binding of its name but its own,
and a pass that cleans up finds none that grants access to a live AutoScaler. -/
def Separate (r : AutoScalerReconciler) (f : Fleet) : FleetAction → Prop
  | .pass _ key => ∀ crb : ClusterRoleBinding,
      f.cluster.objects .clusterRoleBinding (bindingKey key) = some crb →
        (Establishes r f.cluster key → Grants crb key) ∧
          (CleansUp r f.cluster key → ∀ other, LiveIn f.cluster other → ¬ Grants crb other)
  | _ => True

variable {r : AutoScalerReconciler} {now : String} {key : NamespacedName} {s : Cluster}

/-! ## One pass -/

theorem not_cleansUp_of_live (r : AutoScalerReconciler) (h : LiveIn s key) :
    ¬ CleansUp r s key := by
  obtain ⟨ras, hras, hlive⟩ := h
  rintro ⟨ras', spec, hras', -, hmarked, -⟩
  cases hras.symm.trans hras'
  rw [hlive] at hmarked
  cases hmarked

/-- Without a cleanup no binding changes or goes. -/
theorem binding_kept (now : String) (hc : ¬ CleansUp r s key) {place : NamespacedName}
    {crb : ClusterRoleBinding} (hcrb : s.objects .clusterRoleBinding place = some crb) :
    (Kube.exec (serve now) (r.reconcile now key) s).2.objects .clusterRoleBinding place =
      some crb := by
  by_cases hplace : place = bindingKey key
  · subst hplace
    by_cases he : Establishes r s key
    · obtain ⟨crb', hafter, hfound | ⟨hnone, -⟩⟩ := binding_of_establishes now he
      · rw [hafter, ← hfound, hcrb]
      · cases hcrb.symm.trans hnone
    · rw [bindings_of_neither now he hc, hcrb]
  · rw [bindings_frame hplace, hcrb]

/-- A ClusterRole that exists stays as it is. -/
theorem clusterRole_kept {place : NamespacedName} {role : ClusterRole}
    (hrole : s.objects .clusterRole place = some role) :
    (Kube.exec (serve now) (r.reconcile now key) s).2.objects .clusterRole place = some role := by
  apply Prog.Asks.preserves (serve_keyed now) (asks_reconcile r now key)
    (I := fun s' => s'.objects .clusterRole place = some role) _ hrole
  intro op s' hop hs'
  by_cases htarget : op.target = some (.clusterRole, place)
  · cases op with
    | create k obj =>
        cases htarget
        simpa [serve, ApiServer.create_of_some hs'] using hs'
    | update k obj =>
        cases htarget
        rcases hop.1 with h | h <;> cases h
    | delete k _ =>
        cases htarget
        cases hop.1
    | updateStatus _ => cases htarget
    | get _ _ => cases htarget
    | event _ _ _ => cases htarget
  · rw [serve_frame htarget, hs']

/-- A pass writes no object of another AutoScaler's own. -/
theorem footprint_disjoint {other : NamespacedName} (hne : other ≠ key) {k : Kind}
    (hk : k ≠ .clusterRole) (hk' : k ≠ .clusterRoleBinding) {place : NamespacedName}
    (h : footprint other k = some place) : footprint key k ≠ some place := by
  intro hkey
  apply hne
  cases k with
  | clusterRole => exact absurd rfl hk
  | clusterRoleBinding => exact absurd rfl hk'
  | autoScaler => exact Option.some.inj (h.trans hkey.symm)
  | configMap => cases h
  | roleBasedGroup => cases h
  | serviceAccount | job | deployment =>
      obtain ⟨hspace, hname⟩ := NamespacedName.mk.inj (Option.some.inj (h.trans hkey.symm))
      rw [String.append_left_inj] at hname
      cases other
      cases key
      cases hspace
      cases hname
      rfl

/-- No binding of the operator survives the cleanup of its name. -/
theorem cleaned_roleRef (hs : Managed s) {crb : ClusterRoleBinding}
    (hcrb : (cleaned now s key).objects .clusterRoleBinding (bindingKey key) = some crb) :
    crb.roleRef ≠ plannerRoleRef := by
  intro href
  obtain ⟨-, stored, hstored, hheld, hcrb⟩ := ApiServer.delete_same hcrb
  have hstoredRef : ClusterRoleBinding.roleRef stored = plannerRoleRef := by
    rcases hcrb with rfl | rfl
    · exact href
    · exact href
  have hnone : (ApiObject.metadata stored).finalizers = [] := (hs _ _ hstored hstoredRef).1
  rw [hnone] at hheld
  cases hheld

/-- In a managed cluster a pass spares the others exactly when it cleans up no
binding of theirs. -/
theorem spares_iff (hs : Managed s) :
    Spares s (Kube.exec (serve now) (r.reconcile now key) s).2 key ↔
      (CleansUp r s key → ∀ crb : ClusterRoleBinding,
        s.objects .clusterRoleBinding (bindingKey key) = some crb →
          ∀ other, LiveIn s other → ¬ Grants crb other) := by
  constructor
  · intro h hc crb hcrb other hlive hgrants
    have hne : other ≠ key := by
      rintro rfl
      exact not_cleansUp_of_live r hlive hc
    have hkept := h other hne hlive .clusterRoleBinding (bindingKey key) crb hgrants hcrb
    rw [bindings_of_cleansUp now hc] at hkept
    exact cleaned_roleRef hs hkept hgrants.1
  · intro h other hne hlive k place o hrelies ho
    have hframe : footprint key k ≠ some place →
        (Kube.exec (serve now) (r.reconcile now key) s).2.objects k place = some o :=
      fun hfoot => (exec_frame (asks_reconcile r now key) hfoot).trans ho
    cases k with
    | clusterRoleBinding =>
        by_cases hc : CleansUp r s key
        · by_cases hplace : place = bindingKey key
          · subst hplace
            exact absurd hrelies (h hc o ho other hlive)
          · rw [bindings_frame hplace, ho]
        · exact binding_kept now hc ho
    | clusterRole => exact clusterRole_kept ho
    | roleBasedGroup => exact hframe nofun
    | configMap => exact hframe nofun
    | autoScaler =>
        exact hframe (footprint_disjoint (k := .autoScaler) hne (by decide) (by decide) hrelies)
    | serviceAccount =>
        exact hframe (footprint_disjoint (k := .serviceAccount) hne (by decide) (by decide) hrelies)
    | job =>
        exact hframe (footprint_disjoint (k := .job) hne (by decide) (by decide) hrelies)
    | deployment =>
        exact hframe (footprint_disjoint (k := .deployment) hne (by decide) (by decide) hrelies)

theorem managed_cleaned (hs : Managed s) : Managed (cleaned now s key) := by
  intro place crb hcrb href
  by_cases hplace : place = bindingKey key
  · subst hplace
    exact absurd href (cleaned_roleRef hs hcrb)
  · have hframe : (cleaned now s key).objects .clusterRoleBinding place =
        s.objects .clusterRoleBinding place := ApiServer.delete_frame fun h => hplace h.2
    exact hs place crb (hframe.symm.trans hcrb) href

/-- A pass leaves a managed cluster. -/
theorem managed_pass (hs : Managed s) :
    Managed (Kube.exec (serve now) (r.reconcile now key) s).2 := by
  by_cases hc : CleansUp r s key
  · exact (managed_congr (bindings_of_cleansUp now hc)).mpr (managed_cleaned hs)
  by_cases he : Establishes r s key
  · intro place crb hcrb href
    by_cases hplace : place = bindingKey key
    · subst hplace
      obtain ⟨made, hafter, hfound | ⟨-, hfinalizers, -, hsubjects⟩⟩ :=
        binding_of_establishes now he
      · obtain rfl := Option.some.inj (hafter.symm.trans hcrb)
        exact hs _ _ hfound href
      · obtain rfl := Option.some.inj (hafter.symm.trans hcrb)
        exact ⟨hfinalizers, key, rfl, hsubjects⟩
    · rw [bindings_frame hplace] at hcrb
      exact hs place crb hcrb href
  · exact (managed_congr (bindings_of_neither now he hc)).mpr hs

/-! ## One action -/

/-- What the actions keep, whether or not passes collide, and the access that
isolation adds to it. -/
structure Tidy (f : Fleet) : Prop where
  managed : Managed f.cluster
  live : ∀ key, f.established key → LiveIn f.cluster key
  bound : ∀ key, f.established key → Bound f.cluster key

variable {f : Fleet} {a : FleetAction}

/-- Actions other than passes write no binding. -/
theorem bindings_of_action (hpossible : f.Possible a) (ha : ∀ now key, a ≠ .pass now key) :
    (f.step r a).cluster.objects .clusterRoleBinding =
      f.cluster.objects .clusterRoleBinding := by
  funext place
  cases a with
  | submit ras => exact ApiServer.create_frame (by simp)
  | edit ras => exact ApiServer.update_frame (by simp)
  | requestDeletion now key => exact ApiServer.delete_frame (by simp)
  | pass now key => exact absurd rfl (ha now key)
  | elsewhere next => exact congrFun hpossible.2 place

/-- A live AutoScaler stays live until its deletion is requested. -/
theorem live_of_action (hpossible : f.Possible a) (hlive : LiveIn f.cluster key)
    (ha : ∀ now, a ≠ .requestDeletion now key) : LiveIn (f.step r a).cluster key := by
  cases a with
  | submit ras =>
      by_cases hkey : key = ras.metadata.key
      · obtain ⟨stored, hstored, -⟩ := id hlive
        subst hkey
        have hcreate : f.cluster.create .autoScaler ras = _ := ApiServer.create_of_some hstored
        change LiveIn (f.cluster.create .autoScaler ras).2 _
        rwa [hcreate]
      · exact (liveIn_congr (ApiServer.create_frame fun h => hkey h.2)).mpr hlive
  | edit ras =>
      have hpermitted : Permitted ras.metadata.key (.update .autoScaler ras) := ⟨.inl rfl, rfl⟩
      exact (liveIn_serve "" hpermitted).mpr hlive
  | requestDeletion now key' =>
      have hkey : key ≠ key' := by
        rintro rfl
        exact ha now rfl
      exact (liveIn_congr (ApiServer.delete_frame fun h => hkey h.2)).mpr hlive
  | pass now key' => exact (liveIn_exec (asks_reconcile r now key')).mpr hlive
  | elsewhere next => exact (liveIn_congr (congrFun hpossible.1 key)).mpr hlive

/-- An isolating action keeps the invariant. -/
theorem tidy_step (hf : Tidy f) (hpossible : f.Possible a) (ha : StepIsolates r f a) :
    Tidy (f.step r a) := by
  have hlive : ∀ key, (f.step r a).established key → LiveIn (f.step r a).cluster key := by
    intro key hkey
    cases a with
    | requestDeletion now key' =>
        apply live_of_action hpossible (hf.live key hkey.1)
        rintro now' ⟨rfl, rfl⟩
        exact hkey.2 rfl
    | pass now key' =>
        rcases hkey with hkey | ⟨rfl, ras, spec, rbg, hras, -, hunmarked, -⟩
        · exact live_of_action hpossible (hf.live key hkey) nofun
        · exact live_of_action hpossible ⟨ras, hras, hunmarked⟩ nofun
    | submit ras => exact live_of_action hpossible (hf.live key hkey) nofun
    | edit ras => exact live_of_action hpossible (hf.live key hkey) nofun
    | elsewhere next => exact live_of_action hpossible (hf.live key hkey) nofun
  refine ⟨?_, hlive, fun key hkey => ha.bound key (hlive key hkey) hkey⟩
  cases a with
  | pass now key => exact managed_pass hf.managed
  | submit ras => exact (managed_congr (bindings_of_action hpossible nofun)).mpr hf.managed
  | edit ras => exact (managed_congr (bindings_of_action hpossible nofun)).mpr hf.managed
  | requestDeletion now key =>
      exact (managed_congr (bindings_of_action hpossible nofun)).mpr hf.managed
  | elsewhere next => exact (managed_congr (bindings_of_action hpossible nofun)).mpr hf.managed

/-- After an action that is not a pass, access is what it was. -/
theorem stepIsolates_of_action (hf : Tidy f) (hpossible : f.Possible a)
    (ha : ∀ now key, a ≠ .pass now key) : StepIsolates r f a := by
  constructor
  · intro now key hpass
    exact absurd hpass (ha now key)
  · intro key _ hkey
    rw [bound_congr (bindings_of_action hpossible ha)]
    apply hf.bound
    cases a with
    | requestDeletion now key' => exact hkey.1
    | pass now key' => exact absurd rfl (ha now key')
    | submit ras => exact hkey
    | edit ras => exact hkey
    | elsewhere next => exact hkey

/-- A pass isolates exactly when it is separate from the others. -/
theorem pass_isolates_iff (hf : Tidy f) :
    StepIsolates r f (.pass now key) ↔ Separate r f (.pass now key) := by
  constructor
  · intro h crb hcrb
    constructor
    · intro he
      obtain ⟨ras, spec, rbg, hras, -, hunmarked, -⟩ := id he
      have hlive : LiveIn (f.step r (.pass now key)).cluster key :=
        (liveIn_exec (asks_reconcile r now key)).mpr ⟨ras, hras, hunmarked⟩
      obtain ⟨place, granting, hplace, hgrants⟩ := h.bound key hlive (.inr ⟨rfl, he⟩)
      -- the access can only come from the binding of this name, which was there before
      obtain rfl := (managed_pass hf.managed).eq_bindingKey hplace hgrants
      have hkept := binding_kept now (not_cleansUp_of_live r ⟨ras, hras, hunmarked⟩) hcrb
      obtain rfl := Option.some.inj (hplace.symm.trans hkept)
      exact hgrants
    · intro hc
      exact (spares_iff hf.managed).mp (h.spares now key rfl) hc crb hcrb
  · intro h
    have hspares : Spares f.cluster (f.step r (.pass now key)).cluster key :=
      (spares_iff hf.managed).mpr fun hc crb hcrb => (h crb hcrb).2 hc
    refine ⟨?_, fun other hlive hother => ?_⟩
    · rintro now' key' ⟨rfl, rfl⟩
      exact hspares
    · have hbefore : LiveIn f.cluster other := (liveIn_exec (asks_reconcile r now key)).mp hlive
      rcases hother with hother | ⟨rfl, he⟩
      · obtain ⟨place, crb, hcrb, hgrants⟩ := hf.bound other hother
        by_cases hne : other = key
        · subst hne
          exact ⟨place, crb, binding_kept now (not_cleansUp_of_live r hbefore) hcrb, hgrants⟩
        · exact ⟨place, crb,
            hspares other hne hbefore .clusterRoleBinding place crb hgrants hcrb, hgrants⟩
      · obtain ⟨crb, hafter, hfound | ⟨-, -, href, hsubjects⟩⟩ :=
          binding_of_establishes now he
        · exact ⟨_, crb, hafter, (h crb hfound).1 he⟩
        · exact ⟨_, crb, hafter, href, by rw [hsubjects]; exact List.mem_singleton_self _⟩

/-- In every run from a cluster whose planner bindings are the operator's own,
the AutoScalers are isolated from each other exactly as long as no pass finds,
under the name of its binding, the access of another. -/
theorem isolated_iff {run : List FleetAction} (hs : Managed s)
    (hrun : Along (Fleet.step r) Fleet.Possible (.initial s) run) :
    Along (Fleet.step r) (StepIsolates r) (.initial s) run ↔
      Along (Fleet.step r) (Separate r) (.initial s) run := by
  have hinitial : Tidy (.initial s) := ⟨hs, nofun, nofun⟩
  refine along_congr (fun _ _ => tidy_step) (fun f a hf hpossible => ?_) hinitial hrun
  cases a with
  | pass now key => exact pass_isolates_iff hf
  | submit ras => exact iff_of_true (stepIsolates_of_action hf hpossible nofun) trivial
  | edit ras => exact iff_of_true (stepIsolates_of_action hf hpossible nofun) trivial
  | requestDeletion now key =>
      exact iff_of_true (stepIsolates_of_action hf hpossible nofun) trivial
  | elsewhere next => exact iff_of_true (stepIsolates_of_action hf hpossible nofun) trivial

/-! ## One name in two namespaces -/

/-- The second of two AutoScalers of one name gets no access. -/
theorem not_isolated_of_same_name {a b : NamespacedName} {t₁ t₂ : String} (hs : Managed s)
    (hne : a ≠ b) (hname : a.name = b.name) (ha : Establishes r s a) (hb : Establishes r s b)
    (hfree : s.objects .clusterRoleBinding (bindingKey a) = none) :
    ¬ Along (Fleet.step r) (StepIsolates r) (.initial s) [.pass t₁ a, .pass t₂ b] := by
  rintro ⟨hfirst, hsecond, -⟩
  have htidy : Tidy ((Fleet.initial s).step r (.pass t₁ a)) :=
    tidy_step ⟨hs, nofun, nofun⟩ trivial hfirst
  obtain ⟨crb, hcrb, hfound | ⟨-, -, -, hsubjects⟩⟩ := binding_of_establishes t₁ ha
  · cases hfree.symm.trans hfound
  · obtain ⟨ras, spec, rbg, hras, hparse, hlive, hrbg⟩ := hb
    have hkept : ∀ k, footprint a k ≠ some b →
        ((Fleet.initial s).step r (.pass t₁ a)).cluster.objects k b = s.objects k b :=
      fun k hfoot => exec_frame (asks_reconcile r t₁ a) hfoot
    have hb' : Establishes r ((Fleet.initial s).step r (.pass t₁ a)).cluster b :=
      ⟨ras, spec, rbg, (hkept .autoScaler fun h => hne (Option.some.inj h)).trans hras, hparse,
        hlive, (hkept .roleBasedGroup nofun).trans hrbg⟩
    rw [bindingKey_eq_iff.mpr hname] at hcrb
    have hgrants := ((pass_isolates_iff htidy).mp hsecond crb hcrb).1 hb'
    have hmem := hgrants.2
    rw [hsubjects, List.mem_singleton] at hmem
    exact hne (subjectOf_injective hmem).symm

/-- Cleaning up after one of them takes the access of the other. -/
theorem cleanup_takes_access {a b : NamespacedName} (hs : Managed s) (hname : a.name = b.name)
    (hc : CleansUp r s b) : ¬ Bound (Kube.exec (serve now) (r.reconcile now b) s).2 a := by
  rintro ⟨place, crb, hcrb, hgrants⟩
  obtain rfl := (managed_pass hs).eq_bindingKey hcrb hgrants
  rw [bindings_of_cleansUp now hc, bindingKey_eq_iff.mpr hname] at hcrb
  exact cleaned_roleRef hs hcrb hgrants.1

/-- An AutoScaler as a user submits it. -/
private def tenant (key : NamespacedName) : AutoScaler where
  metadata := { key := key }
  spec := some (.obj [("pattern", .obj [("PDDisaggregated", .obj [])]),
    ("implementation", .obj [("DynamoPlanner", .obj [("modelName", .str "Qwen/Qwen3-0.6B")])])])
  status := none

/-- The AutoScalers and their targets. -/
private def tenants : List NamespacedName → Cluster
  | [] => .empty
  | key :: keys => ((tenants keys).put .roleBasedGroup ⟨{ key := key }, .obj []⟩).put .autoScaler
      (tenant key)

private theorem tenants_bindings (keys : List NamespacedName) (place : NamespacedName) :
    (tenants keys).objects .clusterRoleBinding place = none := by
  induction keys with
  | nil => rfl
  | cons key keys ih =>
      rw [tenants, ApiServer.put_of_ne (by simp), ApiServer.put_of_ne (by simp), ih]

private theorem tenants_managed (keys : List NamespacedName) : Managed (tenants keys) := by
  intro place crb hcrb
  rw [tenants_bindings] at hcrb
  cases hcrb

private def reconciler : AutoScalerReconciler := ⟨"", "", ""⟩

private def servingQwen : NamespacedName := ⟨"serving", "qwen"⟩

private def servingLlama : NamespacedName := ⟨"serving", "llama"⟩

private def stagingQwen : NamespacedName := ⟨"staging", "qwen"⟩

/-- Two AutoScalers of different names are isolated. -/
theorem isolated_iff_distinctNames :
    Along (Fleet.step reconciler) (StepIsolates reconciler)
      (.initial (tenants [servingQwen, servingLlama]))
      [.pass "2025-06-01T00:00:00Z" servingQwen, .pass "2025-06-01T00:00:01Z" servingLlama] := by
  have hpossible : Along (Fleet.step reconciler) Fleet.Possible
      (.initial (tenants [servingQwen, servingLlama]))
      [.pass "2025-06-01T00:00:00Z" servingQwen, .pass "2025-06-01T00:00:01Z" servingLlama] :=
    ⟨trivial, trivial, trivial⟩
  refine (isolated_iff (tenants_managed _) hpossible).mpr ⟨?_, ?_, trivial⟩
  · intro crb hcrb
    cases (tenants_bindings _ _).symm.trans hcrb
  · intro crb hcrb
    have hne : bindingKey servingLlama ≠ bindingKey servingQwen := by decide
    cases ((tenants_bindings _ _).symm.trans (bindings_frame hne).symm).trans hcrb

/-- Two AutoScalers of one name are not. -/
theorem same_name_collides :
    Managed (tenants [stagingQwen, servingQwen]) ∧
      ¬ Along (Fleet.step reconciler) (StepIsolates reconciler)
        (.initial (tenants [stagingQwen, servingQwen]))
        [.pass "2025-06-01T00:00:00Z" stagingQwen, .pass "2025-06-01T00:00:01Z" servingQwen] :=
  ⟨tenants_managed _, not_isolated_of_same_name (tenants_managed _) (by decide) rfl
    ⟨_, _, _, rfl, rfl, rfl, rfl⟩ ⟨_, _, _, rfl, rfl, rfl, rfl⟩ (tenants_bindings _ _)⟩

end RbgPlanner.Properties.Isolation
