import RbgPlanner.Controller.Faults
import RbgPlanner.Properties.Isolation

/-!
# Objects that go with their AutoScaler

The service account, the Job and the Deployment of an AutoScaler carry a
reference to it, by which the garbage collector finds them. A Deployment that
is updated keeps the references it has.
-/

namespace RbgPlanner.Properties.OwnedObjects

open Base Controller

/-- The kinds of objects that the garbage collector removes with an AutoScaler. -/
def dependents : List Kind := [.serviceAccount, .job, .deployment]

/-- The AutoScaler at `key` is or was the owner that is referred to. -/
def Seen (key : NamespacedName) (c : Cached) (owner : OwnerReference) : Prop :=
  ∃ s ∈ c.current :: c.past, ∃ ras : AutoScaler,
    s.objects .autoScaler key = some ras ∧ ras.ownerRef = owner

/-- There is one owner, an AutoScaler that is or was at `key`. -/
def OwnedBy (key : NamespacedName) (c : Cached) (owners : List OwnerReference) : Prop :=
  ∃ owner, owners = [owner] ∧ Seen key c owner

/-- The AutoScaler's own objects are owned, in every state that can still be seen. -/
def Owned (key : NamespacedName) (c : Cached) : Prop :=
  ∀ s ∈ c.current :: c.past, ∀ k ∈ dependents, ∀ place, footprint key k = some place →
    ∀ o : Resource k, s.objects k place = some o →
      OwnedBy key c (ApiObject.metadata o).ownerReferences

/-- Nobody else creates one of the AutoScaler's own objects or changes its owners.
They may be deleted, and all else may change. -/
def Changes (key : NamespacedName) (c c' : Cached) : Prop :=
  ∃ next, c' = c.advance next ∧ ∀ k ∈ dependents, ∀ place, footprint key k = some place →
    ∀ o' : Resource k, next.objects k place = some o' →
      ∃ o : Resource k, c.current.objects k place = some o ∧
        (ApiObject.metadata o').ownerReferences = (ApiObject.metadata o).ownerReferences

/-! ## Requests of a pass -/

/-- What an answer shows of owners. -/
def Shows (key : NamespacedName) (c : Cached) : (op : KubeOp) → KubeResp op → Prop
  | .get .autoScaler place, r => place = key → ∀ ras : AutoScaler, r = .ok ras →
      Seen key c ras.ownerRef
  | .update .autoScaler obj, r => (AutoScaler.metadata obj).key = key →
      ∀ ras : AutoScaler, r = .ok ras → Seen key c ras.ownerRef
  | .get .deployment place, r => footprint key .deployment = some place →
      ∀ deployment : Deployment, r = .ok deployment →
        OwnedBy key c deployment.metadata.ownerReferences
  | _, _ => True

/-- Writes that leave the AutoScaler's objects owned. -/
def Keeps (key : NamespacedName) (c : Cached) : KubeOp → Prop
  | .create k obj => k ∈ dependents → OwnedBy key c (ApiObject.metadata obj).ownerReferences
  | .update .deployment deployment =>
      OwnedBy key c (Deployment.metadata deployment).ownerReferences
  | _ => True

def Shown (key : NamespacedName) (c : Cached) (h : KubeHistory) : Prop :=
  ∀ e ∈ h, Shows key c e.1 e.2

/-- What the answers so far have shown is enough for a write. -/
def Preserves (key : NamespacedName) (h : KubeHistory) (e : KubeEvent) : Prop :=
  ∀ c, Shown key c h → Keeps key c e.1

open Kube (TellsOk)

variable {key : NamespacedName} {c c' : Cached} {h h' : KubeHistory}

theorem Shown.mono (hshown : Shown key c h') (hinitial : h <+: h') : Shown key c h :=
  fun e he => hshown e (hinitial.subset he)

/-- A part of a pass that writes none of the objects. -/
theorem tells_within {α : Type} {Q : α → Prop} {accesses : List Access} {x : Kube α}
    {place : NamespacedName} (hx : Kube.Asks (Within place accesses) Q x)
    (hwrites : ∀ k ∈ dependents, .write k ∉ accesses) :
    TellsOk (Preserves key) (fun _ a => Q a) x h := by
  refine (Kube.Asks.tells hx (fun h' e hop c _ => ?_) h).mono fun h' r hr => hr.1
  obtain ⟨op, answer⟩ := e
  obtain ⟨-, haccess⟩ := hop
  cases op with
  | create k _ => exact fun hk => absurd haccess (hwrites k hk)
  | update k _ =>
      cases k with
      | deployment => exact absurd haccess (hwrites _ (by decide))
      | _ => trivial
  | _ => trivial

/-- A read, with its answer on record. -/
theorem tells_get {k : Kind} {place : NamespacedName} :
    TellsOk (Preserves key) (fun h' o => ApiServer.keyOf o = place ∧
      (⟨.get k place, .ok o⟩ : KubeEvent) ∈ h') (Kube.get k place) h :=
  Kube.Tells.get fun _ hr => ⟨fun _ _ => trivial, fun o ho =>
    ⟨hr o ho, ho ▸ List.mem_append_right _ (List.mem_singleton_self _)⟩⟩

section Functions

variable {now : String} {ras : AutoScaler} {spec : ParsedSpec} {rbg : RoleBasedGroup}
  {prefillGPUs decodeGPUs : ℤ} (hseen : ∀ c, Shown key c h → Seen key c ras.ownerRef)
include hseen

/-- A new object of the AutoScaler. -/
theorem tells_create {k : Kind} {obj : Resource k}
    (howners : (ApiObject.metadata obj).ownerReferences = [ras.ownerRef]) :
    TellsOk (Preserves key) (fun _ _ => True) (Kube.create k obj) h :=
  Kube.Tells.create fun _ _ =>
    ⟨fun c hshown _ => ⟨ras.ownerRef, howners, hseen c hshown⟩, fun _ _ => trivial⟩

theorem tells_createOrUpdate {k : Kind} {obj : Resource k}
    (howners : (ApiObject.metadata obj).ownerReferences = [ras.ownerRef]) :
    TellsOk (Preserves key) (fun _ _ => True) (createOrUpdate k obj) h := by
  refine tells_get.bind_attempt (fun h₁ o _ _ => .pure trivial) fun h₁ e hgrown => ?_
  dsimp only
  split_ifs
  · refine TellsOk.bind (P := fun _ _ => True) ?_ fun _ _ _ _ => .pure trivial
    exact tells_create (fun c hshown => hseen c (hshown.mono hgrown)) howners
  · exact .throw

/-- The role and the binding have no owner; they belong to the cluster. -/
theorem tells_ensureRBAC : TellsOk (Preserves key) (fun _ _ => True) (ensureRBAC ras) h := by
  have hrole : Kube.Asks (Within ras.metadata.key [.write .clusterRole]) (fun _ => True)
      (createIfNotExists .clusterRole plannerClusterRole) :=
    asks_createIfNotExists ⟨by decide, rfl⟩
  have hbinding : Kube.Asks (Within ras.metadata.key
      [.read .clusterRoleBinding, .write .clusterRoleBinding]) (fun _ => True)
      (createOrUpdate .clusterRoleBinding (plannerBinding ras)) :=
    asks_createOrUpdate ⟨by decide, rfl⟩
  refine TellsOk.bind (tells_createOrUpdate hseen rfl).wrap fun _ _ _ _ => ?_
  refine TellsOk.bind (TellsOk.wrap (tells_within hrole (by decide))) fun _ _ _ _ => ?_
  exact TellsOk.wrap (tells_within hbinding (by decide))

theorem tells_handleProfiling :
    TellsOk (Preserves key) (fun _ _ => True) (handleProfiling ras spec) h := by
  refine tells_get.bind_attempt (fun _ _ _ _ => .pure trivial) fun h₁ e hgrown => ?_
  refine tells_get.bind_attempt (fun h₂ job _ _ => ?_) fun h₂ e hgrown' => ?_
  · dsimp only
    split_ifs
    · exact tells_get.bind_attempt (fun _ _ _ _ => .pure trivial) fun _ _ _ => .throw
    · exact .throw
    · exact .pure trivial
  · dsimp only
    split_ifs
    · have hseen' : ∀ c, Shown key c h₂ → Seen key c ras.ownerRef :=
        fun c hshown => hseen c ((hshown.mono hgrown').mono hgrown)
      refine TellsOk.bind (P := fun _ _ => True) (TellsOk.wrap ?_) fun _ _ _ _ => .pure trivial
      exact TellsOk.bind (tells_create hseen' rfl) fun _ _ _ _ => .pure trivial
    · exact .throw

variable (hkey : ras.metadata.key = key)
include hkey

/-- An update takes over the owners of the Deployment that was read. -/
theorem tells_ensurePlannerDeployment (profilingCM : String) (prefillGPUs decodeGPUs : ℤ) :
    TellsOk (Preserves key) (fun _ _ => True)
      (ensurePlannerDeployment ras spec profilingCM prefillGPUs decodeGPUs) h := by
  subst hkey
  refine tells_get.bind_attempt (fun h₁ existing hgrown hread => ?_) fun h₁ e hgrown => ?_
  · dsimp only
    split_ifs
    · refine TellsOk.bind (P := fun _ _ => True) ?_ fun _ _ _ _ => .pure trivial
      exact Kube.Tells.update fun _ _ =>
        ⟨fun c hshown => hshown _ hread.2 rfl existing rfl, fun _ _ => trivial⟩
    · exact .pure trivial
  · dsimp only
    split_ifs
    · refine TellsOk.bind (P := fun _ _ => True) ?_ fun _ _ _ _ => .pure trivial
      exact tells_create (fun c hshown => hseen c (hshown.mono hgrown)) rfl
    · exact .throw

theorem tells_reconcileWorkload (prefillGPUs decodeGPUs : ℤ) :
    TellsOk (Preserves key) (fun _ _ => True)
      (reconcileWorkload now ras spec rbg prefillGPUs decodeGPUs) h := by
  refine (tells_handleProfiling hseen).bind_attempt (fun h₁ result hgrown _ => ?_) ?_
  · match result with
    | (_, false) =>
        exact (tells_within (asks_setPhase hkey _ _ _ _) (by decide)).bind_attempt
          (fun _ _ _ _ => .pure trivial) fun _ _ _ => .pure trivial
    | (profilingCM, true) =>
        have hseen' : ∀ c, Shown key c h₁ → Seen key c ras.ownerRef :=
          fun c hshown => hseen c (hshown.mono hgrown)
        refine (tells_ensurePlannerDeployment hseen' hkey _ _ _).bind fun _ _ _ _ => ?_
        exact (tells_within (asks_updateReadyStatus hkey _ _ _ _) (by decide)).bind
          fun _ _ _ _ => .pure trivial
  · intro h₁ e _
    exact (tells_within (asks_setPhase hkey _ _ _ _) (by decide)).bind_attempt
      (fun _ _ _ _ => .throw) fun _ _ _ => .throw

/-- The object with the finalizer has been seen too. -/
theorem tells_holdFinalizer :
    TellsOk (Preserves key) (fun h' held => held.metadata.key = key ∧
      ∀ c, Shown key c h' → Seen key c held.ownerRef) (holdFinalizer ras) h := by
  unfold holdFinalizer
  split_ifs
  · exact .pure ⟨hkey, hseen⟩
  · refine Kube.Tells.update fun _ hanswer => ⟨fun _ _ => trivial, ?_⟩
    rintro held rfl
    refine ⟨(hanswer held rfl).trans hkey, fun c hshown => ?_⟩
    exact hshown _ (List.mem_append_right _ (List.mem_singleton_self _)) hkey held rfl

theorem tells_reconcileLive :
    TellsOk (Preserves key) (fun _ _ => True) (reconcileLive now ras spec) h := by
  refine (tells_holdFinalizer hseen hkey).bind fun h₁ held hgrown hheld => ?_
  refine tells_get.bind_attempt (fun h₂ rbg hgrown' _ => ?_) fun h₂ e _ => ?_
  · have hseen₂ : ∀ c, Shown key c h₂ → Seen key c held.ownerRef :=
      fun c hshown => hheld.2 c (hshown.mono hgrown')
    refine (tells_ensureRBAC hseen₂).bind fun h₃ _ hgrown'' _ => ?_
    exact tells_reconcileWorkload (fun c hshown => hseen₂ c (hshown.mono hgrown'')) hheld.1 _ _
  · exact tells_within (asks_targetMissing hheld.1 now e) (by decide)

omit hseen hkey in
theorem tells_reconcile (r : AutoScalerReconciler) :
    TellsOk (Preserves key) (fun _ _ => True) (r.reconcile now key) [] := by
  refine tells_get.bind_attempt (fun h ras _ hras => ?_) fun h e _ => ?_
  · obtain ⟨hkey, hread⟩ := hras
    have hseen : ∀ c, Shown key c h → Seen key c ras.ownerRef :=
      fun c hshown => hshown _ hread rfl ras rfl
    dsimp only
    split
    · exact (tells_within (asks_setPhase hkey _ _ _ _) (by decide)).bind
        fun _ _ _ _ => .pure trivial
    · split_ifs
      · exact tells_within (asks_finishDeletion hkey) (by decide)
      · exact tells_reconcileLive hseen hkey
  · dsimp only
    split_ifs
    · exact .pure trivial
    · exact .throw

end Functions

/-! ## What requests leave -/

/-- No state is forgotten. -/
def Extends (c c' : Cached) : Prop := ∀ s ∈ c.current :: c.past, s ∈ c'.current :: c'.past

theorem extends_advance (c : Cached) (next : Cluster) : Extends c (c.advance next) :=
  fun _ hs => List.mem_cons_of_mem _ hs

theorem extends_of_answers {op : KubeOp} {r : KubeResp op} (h : Cached.Answers op c r c') :
    Extends c c' := by
  cases h with
  | cached _ => exact fun _ hs => hs
  | live _ => exact extends_advance _ _

theorem Seen.mono {owner : OwnerReference} (h : Seen key c owner) (hc : Extends c c') :
    Seen key c' owner := by
  obtain ⟨s, hs, hstored⟩ := h
  exact ⟨s, hc s hs, hstored⟩

theorem OwnedBy.mono {owners : List OwnerReference} (h : OwnedBy key c owners)
    (hc : Extends c c') : OwnedBy key c' owners := by
  obtain ⟨owner, howners, hseen⟩ := h
  exact ⟨owner, howners, hseen.mono hc⟩

theorem Shown.later (hshown : Shown key c h) (hc : Extends c c') : Shown key c' h := by
  intro e he
  have hshows := hshown e he
  obtain ⟨op, r⟩ := e
  cases op with
  | get k place =>
      cases k with
      | autoScaler => exact fun hplace ras hras => (hshows hplace ras hras).mono hc
      | deployment => exact fun hplace deployment hread => (hshows hplace deployment hread).mono hc
      | _ => trivial
  | update k obj =>
      cases k with
      | autoScaler => exact fun hplace ras hras => (hshows hplace ras hras).mono hc
      | _ => trivial
  | _ => trivial

/-- A new state whose objects are owned. -/
theorem Owned.advance (hc : Owned key c) {next : Cluster}
    (hnext : ∀ k ∈ dependents, ∀ place, footprint key k = some place →
      ∀ o : Resource k, next.objects k place = some o →
        OwnedBy key c (ApiObject.metadata o).ownerReferences) : Owned key (c.advance next) := by
  intro s hs k hk place hplace o ho
  have hgrows := extends_advance c next
  rcases List.mem_cons.mp hs with rfl | hs
  · exact (hnext k hk place hplace o ho).mono hgrows
  · exact (hc s hs k hk place hplace o ho).mono hgrows

section Serve

variable {now : String} {s : Cluster} {index : NamespacedName} {op : KubeOp}

/-- A write to one of the AutoScaler's own objects is made by one of its passes. -/
theorem index_of_target (hop : Permitted index op) {k : Kind} (hk : k ∈ dependents)
    {place : NamespacedName} (hplace : footprint key k = some place)
    (htarget : op.target = some (k, place)) : index = key := by
  by_contra hne
  have hkinds : k ≠ .clusterRole ∧ k ≠ .clusterRoleBinding := by
    constructor <;> rintro rfl <;> exact absurd hk (by decide)
  exact Isolation.footprint_disjoint (fun h => hne h.symm) hkinds.1 hkinds.2 hplace
    (target_of_permitted hop htarget)

/-- What a write leaves of the AutoScaler's objects is owned. -/
theorem owned_serve (hc : Owned key c) (hop : Permitted index op)
    (hkeeps : index = key → Keeps key c op) {k : Kind} (hk : k ∈ dependents)
    {place : NamespacedName} (hplace : footprint key k = some place) {o : Resource k}
    (ho : (serve now op c.current).2.objects k place = some o) :
    OwnedBy key c (ApiObject.metadata o).ownerReferences := by
  have hcurrent : ∀ o : Resource k, c.current.objects k place = some o →
      OwnedBy key c (ApiObject.metadata o).ownerReferences :=
    fun o ho => hc _ (List.mem_cons_self ..) k hk place hplace o ho
  by_cases htarget : op.target = some (k, place)
  · have hkeep := hkeeps (index_of_target hop hk hplace htarget)
    cases op with
    | get _ _ => cases htarget
    | event _ _ _ => cases htarget
    | updateStatus _ =>
        cases htarget
        exact absurd hk (by decide)
    | delete _ _ =>
        cases htarget
        rw [hop.1] at hk
        exact absurd hk (by decide)
    | create _ obj =>
        obtain ⟨rfl, rfl⟩ := Prod.mk.inj (Option.some.inj htarget)
        rcases ApiServer.create_same ho with hstored | rfl
        · exact hcurrent o hstored
        · simpa [ApiServer.created] using hkeep hk
    | update _ obj =>
        obtain ⟨rfl, rfl⟩ := Prod.mk.inj (Option.some.inj htarget)
        obtain ⟨stored, hstored, rfl | rfl⟩ := ApiServer.update_same ho
        · exact hcurrent _ hstored
        · rcases hop.1 with rfl | rfl
          · exact absurd hk (by decide)
          · rw [ApiServer.updated, ApiObject.metadata_withMetadata]
            exact hkeep
  · rw [serve_frame htarget] at ho
    exact hcurrent o ho

end Serve

/-- What a read shows of a state that can be seen. -/
theorem shows_of_get (hc : Owned key c) {s : Cluster} (hs : s ∈ c.current :: c.past) {k : Kind}
    {place : NamespacedName} : Shows key c (.get k place) (s.get k place) := by
  cases k with
  | autoScaler =>
      rintro rfl ras hras
      exact ⟨s, hs, ras, ApiServer.objects_of_get hras, rfl⟩
  | deployment =>
      intro hplace deployment hread
      exact hc s hs .deployment (by decide) place hplace deployment (ApiServer.objects_of_get hread)
  | _ => trivial

/-- What any answer shows. -/
theorem shows_of_answers (hc : Owned key c) {op : KubeOp} {r : KubeResp op}
    (hanswer : Cached.Answers op c r c') : Shows key c' op r := by
  have hgrows := extends_of_answers hanswer
  have hshown : Shows key c op r → Shows key c' op r := fun h =>
    Shown.later (h := [⟨op, r⟩]) (List.forall_mem_singleton.mpr h) hgrows ⟨op, r⟩
      (List.mem_singleton_self _)
  apply hshown
  cases hanswer with
  | cached hs => exact shows_of_get hc (List.mem_cons_of_mem _ hs)
  | live h =>
      rcases h.elim with ⟨now, rfl, -⟩ | ⟨e, -, hfails, -⟩
      · cases op with
        | get k place => exact shows_of_get hc (List.mem_cons_self ..)
        | update k obj =>
            cases k with
            | autoScaler =>
                intro hkey ras hras
                obtain ⟨stored, hstored, rfl⟩ := ApiServer.exists_of_update hras
                have hplace : @ApiServer.keyOf _ Resource _ .autoScaler obj = key := hkey
                rw [hplace] at hstored
                have hname : stored.name = AutoScaler.name obj := congrArg NamespacedName.name
                  ((ApiServer.keyOf_stored hstored).trans hkey.symm)
                refine ⟨c.current, List.mem_cons_self .., stored, hstored, ?_⟩
                unfold AutoScaler.ownerRef
                rw [hname]
                rfl
            | _ => trivial
        | _ => trivial
      · cases op with
        | get k place =>
            cases k with
            | autoScaler =>
                intro _ ras hras
                cases hfails.symm.trans hras
            | deployment =>
                intro _ deployment hread
                cases hfails.symm.trans hread
            | _ => trivial
        | update k obj =>
            cases k with
            | autoScaler =>
                intro _ ras hras
                cases hfails.symm.trans hras
            | _ => trivial
        | _ => trivial

/-! ## Every run -/

/-- A pass asks for what it may, and one on this AutoScaler keeps its objects owned. -/
def Allowed (key index : NamespacedName) (h : KubeHistory) (e : KubeEvent) : Prop :=
  Permitted index e.1 ∧ (index = key → Preserves key h e)

theorem tells_pass (r : AutoScalerReconciler) (key index : NamespacedName) (now : String) :
    (ExceptT.run (r.reconcile now index)).Tells KubeOp.Keyed (Allowed key index)
      (fun _ _ => True) [] := by
  have hpermitted : Kube.Tells (fun _ e => Permitted index e.1) _ (r.reconcile now index) [] :=
    (asks_reconcile r now index).tells (fun _ _ hop => hop) []
  by_cases hkey : index = key
  · subst hkey
    have hpreserves : TellsOk (Preserves index) (fun _ _ => True) (r.reconcile now index) [] :=
      tells_reconcile r
    exact (Prog.Tells.and hpermitted hpreserves).mono (fun _ _ h => ⟨h.1, fun _ => h.2⟩)
      fun _ _ _ => trivial
  · exact Prog.Tells.mono hpermitted (fun _ _ h => ⟨h, fun hindex => absurd hindex hkey⟩)
      fun _ _ _ => trivial

/-- Ownership is kept by each pass as far as its reads have shown the owners. -/
theorem outline (r : AutoScalerReconciler) (key : NamespacedName) :
    Pool.Outline r.Starts Cached.Answers (Changes key) KubeOp.Keyed (Allowed key) (Owned key)
      fun index h c => index = key → Shown key c h where
  starts := by
    rintro index p ⟨now, rfl⟩
    exact tells_pass r key index now
  empty := by
    intro index c _ e he
    cases he
  valid := fun _ _ _ _ _ h => h.keyed
  env := by
    rintro c _ hc ⟨next, rfl, hnext⟩
    refine ⟨hc.advance fun k hk place hplace o ho => ?_, fun index h hshown hindex =>
      (hshown hindex).later (extends_advance c next)⟩
    obtain ⟨before, hbefore, howners⟩ := hnext k hk place hplace o ho
    rw [howners]
    exact hc _ (List.mem_cons_self ..) k hk place hplace before hbefore
  acts := by
    rintro index h ⟨op, answer⟩ c c' hc hshown hallowed hanswer
    have hgrows := extends_of_answers hanswer
    have hkeeps : index = key → Keeps key c op :=
      fun hindex => hallowed.2 hindex c (hshown hindex)
    have hshows := shows_of_answers hc hanswer
    refine ⟨?_, fun hindex => ?_, fun other _ h' hshown' hother => (hshown' hother).later hgrows⟩
    · cases hanswer with
      | cached _ => exact hc
      | live hlive =>
          rcases hlive.state with rfl | ⟨now, rfl⟩
          · exact hc.advance (hc _ (List.mem_cons_self ..))
          · exact hc.advance fun k hk place hplace o ho =>
              owned_serve hc hallowed.1 hkeeps hk hplace ho
    · exact List.forall_mem_append.mpr
        ⟨(hshown hindex).later hgrows, List.forall_mem_singleton.mpr hshows⟩

/-- However passes run side by side, with failing requests, stale reads and other
components at work, the service account, the Job and the Deployment of an
AutoScaler have one owner, an object that is or was at its key. -/
theorem owned {r : AutoScalerReconciler} {key : NamespacedName} {c : Cached}
    {pool : PassPool Cached} (hc : Owned key c)
    (hreach : Pool.Reaches r.Starts Cached.Answers (Changes key) (.idle c) pool) :
    Owned key pool.shared :=
  ((Pool.sound_idle hc).reaches (outline r key) hreach).invariant

private def mixtral : NamespacedName := ⟨"serving", "mixtral"⟩

/-- An AutoScaler with its target and its profile. -/
private def mixtralCluster : Cluster :=
  ((ApiServer.empty.put .roleBasedGroup ⟨{ key := mixtral }, .obj []⟩).put .configMap
    ⟨{ key := profileKey mixtral }, []⟩).put .autoScaler
      { metadata := { key := mixtral, uid := 7 }
        spec := some (.obj [("pattern", .obj [("PDDisaggregated", .obj [])]),
          ("implementation", .obj [("DynamoPlanner", .obj [])])])
        status := none }

private def mixtralAfter : Cached :=
  ((ExceptT.run ((⟨"", "", ""⟩ : AutoScalerReconciler).reconcile "2025-06-01T00:00:00Z"
    mixtral)).run (Cached.serve "2025-06-01T00:00:00Z") ⟨mixtralCluster, []⟩).2

/-- After one pass there is a Deployment, and it is owned. -/
theorem owned_mixtral :
    (mixtralAfter.current.objects .deployment ⟨"serving", "mixtral-planner"⟩).isSome = true ∧
      Owned mixtral mixtralAfter := by
  have hnew : Owned mixtral ⟨mixtralCluster, []⟩ := by
    intro s hs k hk place _ o ho
    obtain rfl := List.mem_singleton.mp hs
    simp only [dependents, List.mem_cons, List.not_mem_nil, or_false] at hk
    rcases hk with rfl | rfl | rfl <;> cases ho
  have hrun : Pool.Run (AutoScalerReconciler.Starts ⟨"", "", ""⟩) Cached.Answers
      (Changes mixtral) (.idle ⟨mixtralCluster, []⟩) _ (.idle mixtralAfter) :=
    Pool.run_start (Cached.answers_serve _) ⟨_, rfl⟩ _
  exact ⟨rfl, owned hnew hrun.reaches⟩

end RbgPlanner.Properties.OwnedObjects
