import RbgPlanner.Base.ServedRuns
import RbgPlanner.Planner.RbgDocument

/-!
# Scaling without adapters

A role without a scaling adapter is scaled by a patch of the stored document.
This module follows `set_replicas` through its loop and says what the document
is afterwards, and which requests led there.
-/

namespace RbgPlanner.Properties.FallbackScaling

open Base Json Prog Planner Planner.RBGConnector

/-- The position of a role, as a search from the front finds it. -/
def position (rbg : Rbg) (roleName : String) : ℕ :=
  rbg.roles.findIdx fun role => role.name == roleName

/-- The writes of a target that differs: its adapter, and then the role. -/
def targetWrites (connector : RBGConnector) (rbg : Rbg) (target : TargetReplica) : List RbgOp :=
  [.patchScale (connector.adapterName target.roleName) target.desiredReplicas,
    .patchRole (position rbg target.roleName) target.desiredReplicas]

/-- The pointer to the replicas of a role. -/
def countPointer (doc : Json) (roleName : String) : Pointer :=
  replicasPointer (position (Rbg.ofJson doc) roleName)

/-- The targets whose count is another one. -/
def differing (doc : Json) (targets : List TargetReplica) : List TargetReplica :=
  targets.filter fun t => (Rbg.ofJson doc).replicas t.roleName ≠ t.desiredReplicas

section Calls

variable (connector : RBGConnector) (targets : List TargetReplica) (doc : Json)

/-- The document after a call of `set_replicas` that does not block. -/
def after : Json :=
  ((ExceptT.run (connector.setReplicas targets false)).run serveDocument doc).2

/-- The requests of the call that are not reads, in order. -/
def writes : List RbgOp :=
  (((ExceptT.run (connector.setReplicas targets false)).trace serveDocument doc).map
    Sigma.fst).filter (· ≠ .getRbg)

/-- What the call leaves in the document and what it sends. -/
structure Exact : Prop where
  returns : targets ≠ [] →
    ((ExceptT.run (connector.setReplicas targets false)).run serveDocument doc).1 = .ok ()
  counts : ∀ t ∈ targets, (Rbg.ofJson (after connector targets doc)).role? t.roleName =
    some ⟨t.roleName, some t.desiredReplicas⟩
  others : ∀ path, (∀ t ∈ targets, Apart (countPointer doc t.roleName) path) →
    at? path (after connector targets doc) = at? path doc
  sends : writes connector targets doc =
    (differing doc targets).flatMap (targetWrites connector (Rbg.ofJson doc))
  again : writes connector targets (after connector targets doc) = []

end Calls

variable {connector : RBGConnector} {rbg : Rbg} {doc : Json} {targets : List TargetReplica}
  {target : TargetReplica} {roleName : String} {n : ℤ}

/-- The document still has the roles of the first read, each with a count. -/
structure Tracks (rbg : Rbg) (doc : Json) : Prop where
  complete : Complete doc
  names : (Rbg.ofJson doc).roleNames = rbg.roleNames

theorem Tracks.findIdx (h : Tracks rbg doc) (hpresent : roleName ∈ rbg.roleNames) :
    ((Rbg.ofJson doc).roles.findIdx? fun role => role.name == roleName) =
      some (position rbg roleName) := by
  rw [Rbg.findIdx_eq, h.names, ← Rbg.findIdx_eq]
  obtain ⟨role, hrole, rfl⟩ := List.mem_map.mp hpresent
  exact List.findIdx?_eq_some_of_exists ⟨role, hrole, beq_self_eq_true role.name⟩

/-- The document after one target. -/
def scaled (rbg : Rbg) (doc : Json) (target : TargetReplica) : Json :=
  if rbg.replicas target.roleName ≠ target.desiredReplicas then
    (replace (.int target.desiredReplicas)
      (replicasPointer (position rbg target.roleName)) doc).getD doc
  else doc

/-- The requests of one target. -/
def requests (connector : RBGConnector) (rbg : Rbg) (target : TargetReplica) : List RbgOp :=
  if rbg.replicas target.roleName ≠ target.desiredReplicas then
    [.patchScale (connector.adapterName target.roleName) target.desiredReplicas, .getRbg,
      .patchRole (position rbg target.roleName) target.desiredReplicas]
  else []

/-! ## One target -/

/-- A read is answered with what the document holds. -/
theorem returns_getRbg (connector : RBGConnector) (doc : Json) :
    Returns serveDocument connector.getRbg doc [.getRbg] (Rbg.ofJson doc) doc :=
  Returns.bind Returns.lift (Returns.pure (Rbg.ofJson doc))

namespace Tracks

/-- The patch for a role that is there is accepted. -/
theorem replace_eq (h : Tracks rbg doc) (hpresent : target.roleName ∈ rbg.roleNames)
    (hdiffers : rbg.replicas target.roleName ≠ target.desiredReplicas) :
    replace (.int target.desiredReplicas) (replicasPointer (position rbg target.roleName)) doc =
      some (scaled rbg doc target) := by
  have hposition := List.findIdx?_eq_some_iff_findIdx_eq.mp (h.findIdx hpresent)
  obtain ⟨doc', hreplaced⟩ := exists_replace target.desiredReplicas h.complete hposition.1
  rw [scaled, if_pos hdiffers, hreplaced]
  rfl

/-- For the connector a target sets the replicas of its role. -/
theorem ofJson_scaled (h : Tracks rbg doc) (hpresent : target.roleName ∈ rbg.roleNames) :
    Rbg.ofJson (scaled rbg doc target) =
      if rbg.replicas target.roleName ≠ target.desiredReplicas then
        (Rbg.ofJson doc).setReplicas target.roleName target.desiredReplicas
      else Rbg.ofJson doc := by
  split_ifs with hdiffers
  · rw [ofJson_replace (h.replace_eq hpresent hdiffers), Rbg.setReplicas, h.findIdx hpresent]
  · rw [scaled, if_neg hdiffers]

theorem scaled (h : Tracks rbg doc) (hpresent : target.roleName ∈ rbg.roleNames) :
    Tracks rbg (scaled rbg doc target) where
  complete := by
    by_cases hdiffers : rbg.replicas target.roleName ≠ target.desiredReplicas
    · exact complete_replace (h.replace_eq hpresent hdiffers) h.complete
    · rw [FallbackScaling.scaled, if_neg hdiffers]
      exact h.complete
  names := by
    rw [h.ofJson_scaled hpresent]
    split_ifs
    · rw [Rbg.roleNames_setReplicas, h.names]
    · exact h.names

/-- Scaling a role without an adapter: the scale call finds none, and the
position for the patch comes from a new read. -/
theorem returns_scaleRole {doc' : Json} (h : Tracks rbg doc) (hpresent : roleName ∈ rbg.roleNames)
    (hreplaced : replace (.int n) (replicasPointer (position rbg roleName)) doc = some doc') :
    Returns serveDocument (connector.scaleRole roleName n) doc
      [.patchScale (connector.adapterName roleName) n, .getRbg,
        .patchRole (position rbg roleName) n] () doc' := by
  have hmissing : Returns serveDocument (connector.tryScaleViaRbgsa roleName n) doc
      [.patchScale (connector.adapterName roleName) n] false doc :=
    Returns.bind Returns.lift (Returns.pure false)
  have hanswer : serveDocument (.patchRole (position rbg roleName) n) doc = (.ok (), doc') := by
    simp only [serveDocument, hreplaced]
  have hpatched : Returns serveDocument (connector.patchRbgRoleReplicas roleName n) doc
      [.getRbg, .patchRole (position rbg roleName) n] () doc' := by
    refine (returns_getRbg connector doc).bind ?_
    rw [h.findIdx hpresent]
    refine Returns.bind Returns.lift ?_
    rw [hanswer]
    exact .pure ()
  exact hmissing.bind hpatched

/-- A target makes its requests and leaves the document with its count. -/
theorem returns_scaleTarget (h : Tracks rbg doc) (hpresent : target.roleName ∈ rbg.roleNames) :
    Returns serveDocument (connector.scaleTarget rbg target) doc (requests connector rbg target) ()
      (FallbackScaling.scaled rbg doc target) := by
  obtain ⟨role, hrole⟩ := Option.isSome_iff_exists.mp (Rbg.role?_isSome_iff.mpr hpresent)
  have hfound : Returns serveDocument (connector.getRoleFromRbg rbg target.roleName) doc []
      role doc := by
    rw [getRoleFromRbg, hrole]
    exact .pure role
  have hcurrent : role.replicas.getD 0 = rbg.replicas target.roleName := by
    simp [Rbg.replicas, hrole]
  have hrest : Returns serveDocument (if role.replicas.getD 0 ≠ target.desiredReplicas then
      connector.scaleRole target.roleName target.desiredReplicas else return ()) doc
      (requests connector rbg target) () (FallbackScaling.scaled rbg doc target) := by
    rw [hcurrent, requests, FallbackScaling.scaled]
    by_cases hdiffers : rbg.replicas target.roleName ≠ target.desiredReplicas
    · rw [if_pos hdiffers, if_pos hdiffers, if_pos hdiffers]
      have hreplaced := h.replace_eq hpresent hdiffers
      rw [hreplaced]
      exact h.returns_scaleRole hpresent hreplaced
    · rw [if_neg hdiffers, if_neg hdiffers, if_neg hdiffers]
      exact .pure ()
  exact hfound.bind hrest

end Tracks

/-! ## The loop -/

/-- The targets are of roles of the first read. -/
def Known (rbg : Rbg) (targets : List TargetReplica) : Prop :=
  ∀ t ∈ targets, t.roleName ∈ rbg.roleNames

/-- What a target keeps of the document, the targets of a list keep. -/
theorem Tracks.foldl {I : Json → Prop} (h : Tracks rbg doc) (hknown : Known rbg targets)
    (hkeeps : ∀ t ∈ targets, ∀ doc, Tracks rbg doc → I doc → I (FallbackScaling.scaled rbg doc t))
    (hstart : I doc) :
    Tracks rbg (targets.foldl (FallbackScaling.scaled rbg) doc) ∧
      I (targets.foldl (FallbackScaling.scaled rbg) doc) := by
  induction targets generalizing doc with
  | nil => exact ⟨h, hstart⟩
  | cons t targets ih =>
      obtain ⟨hfirst, hothers⟩ := List.forall_mem_cons.mp hknown
      apply ih (h.scaled hfirst) hothers
      · intro t' ht'
        exact hkeeps t' (List.mem_cons_of_mem t ht')
      · exact hkeeps t (List.mem_cons_self) doc h hstart

theorem Tracks.returns_scaleTargets (h : Tracks rbg doc) (hknown : Known rbg targets) :
    Returns serveDocument (connector.scaleTargets rbg targets) doc
      (targets.flatMap (requests connector rbg)) ()
      (targets.foldl (FallbackScaling.scaled rbg) doc) := by
  induction targets generalizing doc with
  | nil => exact .pure ()
  | cons t targets ih =>
      obtain ⟨hfirst, hothers⟩ := List.forall_mem_cons.mp hknown
      exact (h.returns_scaleTarget hfirst).bind (ih (h.scaled hfirst) hothers)

/-- Whatever is apart from the counts of the targets is kept. -/
theorem at?_foldl (h : Tracks rbg doc) (hknown : Known rbg targets) {path : Pointer}
    (hapart : ∀ t ∈ targets, Apart (replicasPointer (position rbg t.roleName)) path) :
    at? path (targets.foldl (scaled rbg) doc) = at? path doc := by
  refine (h.foldl (I := fun doc' => at? path doc' = at? path doc) hknown ?_ rfl).2
  intro t ht doc' htracks hkept
  by_cases hdiffers : rbg.replicas t.roleName ≠ t.desiredReplicas
  · rw [at?_replace_of_apart (htracks.replace_eq (hknown t ht) hdiffers) (hapart t ht), hkept]
  · rw [scaled, if_neg hdiffers, hkept]

/-- A target keeps the roles of other names. -/
theorem Tracks.role?_scaled_of_ne (h : Tracks rbg doc) (hpresent : target.roleName ∈ rbg.roleNames)
    (hother : target.roleName ≠ roleName) :
    (Rbg.ofJson (FallbackScaling.scaled rbg doc target)).role? roleName =
      (Rbg.ofJson doc).role? roleName := by
  rw [h.ofJson_scaled hpresent]
  split_ifs
  · rw [Rbg.role?_setReplicas, if_neg hother.symm]
  · rfl

/-- A role that is no target is kept. -/
theorem role?_foldl_of_ne (h : Tracks rbg doc) (hknown : Known rbg targets)
    (hother : ∀ t ∈ targets, t.roleName ≠ roleName) :
    (Rbg.ofJson (targets.foldl (scaled rbg) doc)).role? roleName =
      (Rbg.ofJson doc).role? roleName := by
  refine (h.foldl (I := fun doc' => (Rbg.ofJson doc').role? roleName =
    (Rbg.ofJson doc).role? roleName) hknown ?_ rfl).2
  intro t ht doc' htracks hkept
  rw [htracks.role?_scaled_of_ne (hknown t ht) (hother t ht), hkept]

/-- The roles of a complete document have counts. -/
theorem isSome_replicas (h : Complete doc) {role : RbgRole}
    (hrole : role ∈ (Rbg.ofJson doc).roles) : role.replicas.isSome = true := by
  obtain ⟨object, hobject, rfl⟩ := List.mem_map.mp hrole
  exact (h object hobject).2

/-- A target leaves its role with the count it asks for. -/
theorem Tracks.role?_scaled (h : Tracks rbg doc) (hpresent : target.roleName ∈ rbg.roleNames)
    (hsame : (Rbg.ofJson doc).role? target.roleName = rbg.role? target.roleName) :
    (Rbg.ofJson (FallbackScaling.scaled rbg doc target)).role? target.roleName =
      some ⟨target.roleName, some target.desiredReplicas⟩ := by
  obtain ⟨role, hrole⟩ := Option.isSome_iff_exists.mp (Rbg.role?_isSome_iff.mpr hpresent)
  have hname : role.name = target.roleName := by simpa using List.find?_some hrole
  have hread : (Rbg.ofJson doc).role? target.roleName = some role := hsame.trans hrole
  rw [h.ofJson_scaled hpresent]
  split_ifs with hdiffers
  · rw [Rbg.role?_setReplicas, if_pos rfl, hread]
    simp [hname]
  · -- the role has a count, and it is the desired one
    obtain ⟨m, hm⟩ := Option.isSome_iff_exists.mp
      (isSome_replicas h.complete (List.mem_of_find?_eq_some hread))
    have hdesired : m = target.desiredReplicas := by
      simpa [Rbg.replicas, hrole, hm] using hdiffers
    obtain ⟨name, replicas⟩ := role
    subst hname hm hdesired
    exact hread

/-- Targets of distinct roles leave each role with the count that is asked for it. -/
theorem role?_foldl (h : Tracks rbg doc) (hknown : Known rbg targets)
    (hdistinct : (targets.map TargetReplica.roleName).Nodup)
    (hsame : ∀ t ∈ targets, (Rbg.ofJson doc).role? t.roleName = rbg.role? t.roleName)
    (hmem : target ∈ targets) :
    (Rbg.ofJson (targets.foldl (scaled rbg) doc)).role? target.roleName =
      some ⟨target.roleName, some target.desiredReplicas⟩ := by
  induction targets generalizing doc with
  | nil => cases hmem
  | cons t targets ih =>
      obtain ⟨hfirst, hothers⟩ := List.forall_mem_cons.mp hknown
      obtain ⟨hnew, hdistinct⟩ := List.nodup_cons.mp hdistinct
      have hne : ∀ t' ∈ targets, t'.roleName ≠ t.roleName := by
        intro t' ht' heq
        exact hnew (List.mem_map.mpr ⟨t', ht', heq⟩)
      rw [List.foldl_cons]
      rcases List.mem_cons.mp hmem with rfl | hmem
      · rw [role?_foldl_of_ne (h.scaled hfirst) hothers hne]
        exact h.role?_scaled hfirst (hsame target List.mem_cons_self)
      · apply ih (h.scaled hfirst) hothers hdistinct _ hmem
        intro t' ht'
        rw [h.role?_scaled_of_ne hfirst (hne t' ht').symm]
        exact hsame t' (List.mem_cons_of_mem t ht')

/-! ## The call -/

/-- The group is read once, and what follows depends on whether it is Ready. -/
theorem returns_afterRead {ops : List RbgOp} {doc' : Json} (hnonempty : targets ≠ [])
    (h : Returns serveDocument (if (Rbg.ofJson doc).isReady then
      connector.scaleTargets (Rbg.ofJson doc) targets else pure ()) doc ops () doc') :
    Returns serveDocument (connector.setReplicas targets false) doc (.getRbg :: ops) () doc' := by
  unfold RBGConnector.setReplicas
  rw [if_neg (by simpa using hnonempty)]
  refine (returns_getRbg connector doc).bind ?_
  change Returns serveDocument (if !(Rbg.ofJson doc).isReady then pure () else do
    connector.scaleTargets (Rbg.ofJson doc) targets
    pure ()) doc _ () _
  cases hready : (Rbg.ofJson doc).isReady with
  | false => simpa [hready] using h
  | true =>
      rw [hready, if_pos rfl] at h
      simpa using h.bind (Returns.pure ())

/-- A Ready group is read once, and then the targets are gone through. -/
theorem returns_setReplicas (hcomplete : Complete doc) (hready : (Rbg.ofJson doc).isReady = true)
    (hknown : Known (Rbg.ofJson doc) targets) (hnonempty : targets ≠ []) :
    Returns serveDocument (connector.setReplicas targets false) doc
      (.getRbg :: targets.flatMap (requests connector (Rbg.ofJson doc))) ()
      (targets.foldl (scaled (Rbg.ofJson doc)) doc) := by
  have htracks : Tracks (Rbg.ofJson doc) doc := ⟨hcomplete, rfl⟩
  apply returns_afterRead hnonempty
  rw [if_pos hready]
  exact htracks.returns_scaleTargets hknown

theorem after_eq (hcomplete : Complete doc) (hready : (Rbg.ofJson doc).isReady = true)
    (hknown : Known (Rbg.ofJson doc) targets) :
    after connector targets doc = targets.foldl (scaled (Rbg.ofJson doc)) doc := by
  by_cases hempty : targets = []
  · subst hempty
    rfl
  · unfold after
    rw [(returns_setReplicas hcomplete hready hknown hempty).run]

theorem filter_requests (targets : List TargetReplica) :
    (targets.flatMap (requests connector (Rbg.ofJson doc))).filter (· ≠ .getRbg) =
      (differing doc targets).flatMap (targetWrites connector (Rbg.ofJson doc)) := by
  induction targets with
  | nil => rfl
  | cons t targets ih =>
      rw [List.flatMap_cons, List.filter_append, ih]
      by_cases hdiffers : (Rbg.ofJson doc).replicas t.roleName ≠ t.desiredReplicas
      · simp [requests, differing, targetWrites, hdiffers]
      · simp [requests, differing, hdiffers]

/-- Only the targets that differ write. -/
theorem writes_eq (hcomplete : Complete doc) (hready : (Rbg.ofJson doc).isReady = true)
    (hknown : Known (Rbg.ofJson doc) targets) :
    writes connector targets doc =
      (differing doc targets).flatMap (targetWrites connector (Rbg.ofJson doc)) := by
  by_cases hempty : targets = []
  · subst hempty
    rfl
  · unfold writes
    rw [(returns_setReplicas hcomplete hready hknown hempty).requests,
      List.filter_cons_of_neg (by simp), filter_requests]

/-- A group that is not Ready is only read. -/
theorem setReplicas_of_not_ready (hready : (Rbg.ofJson doc).isReady = false) :
    writes connector targets doc = [] ∧ after connector targets doc = doc := by
  by_cases hempty : targets = []
  · subst hempty
    exact ⟨rfl, rfl⟩
  · have hcall : Returns serveDocument (connector.setReplicas targets false) doc [.getRbg] ()
        doc := by
      apply returns_afterRead hempty
      rw [if_neg (by simp [hready])]
      exact .pure ()
    constructor
    · rw [writes, hcall.requests]
      rfl
    · rw [after, hcall.run]

/-- The group stays Ready, and complete, and keeps its roles. -/
theorem foldl_scaled_ready (hcomplete : Complete doc) (hready : (Rbg.ofJson doc).isReady = true)
    (hknown : Known (Rbg.ofJson doc) targets) :
    Tracks (Rbg.ofJson doc) (targets.foldl (scaled (Rbg.ofJson doc)) doc) ∧
      (Rbg.ofJson (targets.foldl (scaled (Rbg.ofJson doc)) doc)).isReady = true := by
  have htracks : Tracks (Rbg.ofJson doc) doc := ⟨hcomplete, rfl⟩
  refine htracks.foldl (I := fun doc' => (Rbg.ofJson doc').isReady = true) hknown ?_ hready
  intro t ht doc' htracks hready
  rw [htracks.ofJson_scaled (hknown t ht)]
  split_ifs
  · rw [Rbg.isReady_setReplicas, hready]
  · exact hready

/-- Scaling a Ready group without adapters leaves every target at its count and
everything else as it was, with one patch for each target that differed; a
second call sends nothing, and neither does a call on a group that is not Ready.
Roles that share a name are no exception: the first one is meant throughout. -/
theorem setReplicas_exact (hcomplete : Complete doc) (hknown : Known (Rbg.ofJson doc) targets)
    (hdistinct : (targets.map TargetReplica.roleName).Nodup) :
    ((Rbg.ofJson doc).isReady = true → Exact connector targets doc) ∧
      ((Rbg.ofJson doc).isReady = false →
        writes connector targets doc = [] ∧ after connector targets doc = doc) := by
  have htracks : Tracks (Rbg.ofJson doc) doc := ⟨hcomplete, rfl⟩
  constructor
  · intro hready
    have hafter : after connector targets doc = _ := after_eq hcomplete hready hknown
    have hcounts : ∀ t ∈ targets, (Rbg.ofJson (after connector targets doc)).role? t.roleName =
        some ⟨t.roleName, some t.desiredReplicas⟩ := by
      intro t ht
      rw [hafter]
      exact role?_foldl htracks hknown hdistinct (fun _ _ => rfl) ht
    constructor
    · intro hnonempty
      rw [(returns_setReplicas hcomplete hready hknown hnonempty).run]
    · exact hcounts
    · intro path hapart
      rw [hafter]
      exact at?_foldl htracks hknown hapart
    · exact writes_eq hcomplete hready hknown
    · -- the second call finds every target at its count
      obtain ⟨htracks', hready'⟩ := foldl_scaled_ready hcomplete hready hknown
      rw [← hafter] at htracks' hready'
      have hknown' : Known (Rbg.ofJson (after connector targets doc)) targets := by
        intro t ht
        rw [htracks'.names]
        exact hknown t ht
      have hnone : differing (after connector targets doc) targets = [] := by
        rw [differing, List.filter_eq_nil_iff]
        intro t ht
        simp [Rbg.replicas, hcounts t ht]
      rw [writes_eq htracks'.complete hready' hknown', hnone]
      rfl
  · exact setReplicas_of_not_ready

private def threeRoles : Json :=
  .obj [("spec", .obj [("roles", .arr
      [.obj [("name", .str "router"), ("replicas", .int 1)],
        .obj [("replicas", .int 2), ("name", .str "prefill"), ("template", .obj [])],
        .obj [("name", .str "decode"), ("replicas", .int 3)]])]),
    ("status", .obj [("conditions", .arr
      [.obj [("type", .str "Ready"), ("status", .str "True")]])])]

/-- Of two roles of three, the one whose count differs is patched at its position. -/
theorem setReplicas_exact_three :
    Exact ⟨"qwen", "serving", "prefill", "decode"⟩ [⟨"decode", 3⟩, ⟨"prefill", 5⟩] threeRoles ∧
      writes ⟨"qwen", "serving", "prefill", "decode"⟩ [⟨"decode", 3⟩, ⟨"prefill", 5⟩] threeRoles =
        [.patchScale "qwen-prefill" 5, .patchRole 1 5] := by
  refine ⟨(setReplicas_exact ?_ ?_ ?_).1 ?_, ?_⟩
  · unfold Complete
    decide
  · unfold Known
    decide
  · decide
  · decide
  · decide

end RbgPlanner.Properties.FallbackScaling
