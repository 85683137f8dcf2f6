import RbgPlanner.Base.WeakestPre
import RbgPlanner.Planner.ScalingCalls

/-!
# What the connector's calls write

The methods of the connector with nobody else at work, as preconditions: a
target is written by at most one accepted request, the last one it makes, so a
method leaves either its whole effect or none.
-/

namespace RbgPlanner.Planner

open Base Prog

/-- Set the replicas of the first role of that name. -/
def Rbg.setReplicas (rbg : Rbg) (roleName : String) (n : ℤ) : Rbg :=
  match rbg.roles.findIdx? fun role => role.name == roleName with
  | some index => rbg.patchReplicas index n
  | none => rbg

namespace Rbg

variable {rbg : Rbg} {roleName other : String} {n : ℤ}

theorem isReady_setReplicas : (rbg.setReplicas roleName n).isReady = rbg.isReady := by
  unfold setReplicas
  split <;> rfl

/-- The role that a search finds is the one at the position that a search finds. -/
theorem role?_eq_getElem? {index : ℕ}
    (h : (rbg.roles.findIdx? fun role => role.name == roleName) = some index) :
    rbg.role? roleName = rbg.roles[index]? := by
  rw [role?, List.find?_eq_bind_findIdx?_getElem?, h]
  rfl

theorem role?_eq_none (h : (rbg.roles.findIdx? fun role => role.name == roleName) = none) :
    rbg.role? roleName = none := by
  rw [role?, List.find?_eq_none]
  simpa using List.findIdx?_eq_none_iff.mp h

theorem role?_setReplicas :
    (rbg.setReplicas roleName n).role? other =
      if other = roleName then (rbg.role? other).map fun role => { role with replicas := some n }
      else rbg.role? other := by
  unfold setReplicas
  cases hindex : rbg.roles.findIdx? fun role => role.name == roleName with
  | some index => exact find_modify ((findIdx_eq rbg roleName).symm.trans hindex)
  | none =>
      dsimp only
      split_ifs with hother
      · subst hother
        rw [role?_eq_none hindex]
        rfl
      · rfl

theorem roleNames_setReplicas : (rbg.setReplicas roleName n).roleNames = rbg.roleNames := by
  unfold setReplicas
  split
  · exact roleNames_patchReplicas _
  · rfl

theorem replicas_setReplicas (h : roleName ∈ rbg.roleNames) :
    (rbg.setReplicas roleName n).replicas other =
      if other = roleName then n else rbg.replicas other := by
  unfold replicas
  rw [role?_setReplicas]
  split_ifs with hother
  · subst hother
    obtain ⟨role, hrole⟩ := Option.isSome_iff_exists.mp (role?_isSome_iff.mpr h)
    rw [hrole]
    rfl
  · rfl

end Rbg

namespace RBGConnector

/-- Scaling a role writes its adapter, or the role itself when it has none. -/
def write (self : RBGConnector) (s : ScalingState) (roleName : String) (n : ℤ) : ScalingState :=
  match s.adapters (self.adapterName roleName) with
  | some _ => s.setAdapter (self.adapterName roleName) n
  | none => { s with rbg := s.rbg.map fun rbg => rbg.setReplicas roleName n }

/-- The API server can accept the write: there is something to replace. -/
def Writable (self : RBGConnector) (s : ScalingState) (roleName : String) : Prop :=
  (s.adapters (self.adapterName roleName)).isSome ∨
    ((s.rbg.bind fun rbg => rbg.role? roleName).bind RbgRole.replicas).isSome

/-- What a target that is reached leaves, given the first read. -/
def writeDiffering (self : RBGConnector) (rbg : Rbg) (s : ScalingState) (target : TargetReplica) :
    ScalingState :=
  if rbg.replicas target.roleName ≠ target.desiredReplicas then
    self.write s target.roleName target.desiredReplicas
  else s

/-- The call can get past a target. -/
structure Passes (connector : RBGConnector) (rbg : Rbg) (s : ScalingState)
    (target : TargetReplica) : Prop where
  present : target.roleName ∈ rbg.roleNames
  writable : rbg.replicas target.roleName ≠ target.desiredReplicas →
    connector.Writable s target.roleName

/-- The call can raise at a target: the role is missing, or there are requests to make. -/
def MayRaise (rbg : Rbg) (target : TargetReplica) : Prop :=
  target.roleName ∈ rbg.roleNames → rbg.replicas target.roleName ≠ target.desiredReplicas

/-- The precondition of a method for what it returns and for how it leaves the
state when it raises. -/
abbrev Pre {α : Type} (Q : α → ScalingState → Prop) (R : ScalingState → Prop) (x : RbgCall α)
    (s : ScalingState) : Prop :=
  wpRaise Answers Q (fun _ => R) x s

variable {self : RBGConnector} {s : ScalingState} {rbg : Rbg} {roleName other : String} {n : ℤ}
  {R : ScalingState → Prop}

/-! ## One precondition for each method -/

/-- A read can always fail. -/
theorem pre_getRbg {Q : Rbg → ScalingState → Prop} :
    Pre Q R self.getRbg s ↔ (∀ rbg, s.rbg = some rbg → Q rbg s) ∧ R s := by
  refine wpRaise_bind.trans (wpRaise_lift.trans ⟨fun h => ⟨?_, ?_⟩, ?_⟩)
  · intro rbg hrbg
    exact h _ _ (.read hrbg)
  · exact h (.error 500) s (.readFailed (by decide))
  · rintro ⟨hreturns, hraises⟩ r s' hanswer
    cases hanswer with
    | read hrbg => exact hreturns _ hrbg
    | missing _ => exact hraises
    | @readFailed _ status hstatus =>
        split
        · contradiction
        · exact hraises
        · exact hraises

theorem pre_tryScaleViaRbgsa {Q : Bool → ScalingState → Prop} :
    Pre Q R (self.tryScaleViaRbgsa roleName n) s ↔
      ((s.adapters (self.adapterName roleName)).isSome →
        Q true (s.setAdapter (self.adapterName roleName) n)) ∧
      (s.adapters (self.adapterName roleName) = none → Q false s) ∧ R s := by
  refine wpRaise_bind.trans (wpRaise_lift.trans ⟨fun h => ⟨?_, ?_, ?_⟩, ?_⟩)
  · intro hadapter
    obtain ⟨old, hold⟩ := Option.isSome_iff_exists.mp hadapter
    exact h _ _ (.scaled hold)
  · intro hnone
    exact h _ _ (.noAdapter hnone)
  · exact h (.error 500) s (.scaleFailed (by decide))
  · rintro ⟨hscaled, hnone, hraises⟩ r s' hanswer
    cases hanswer with
    | scaled hold => exact hscaled (by rw [hold]; rfl)
    | noAdapter hadapter => exact hnone hadapter
    | @scaleFailed _ _ _ status hstatus =>
        split
        · contradiction
        · rename_i hmissing
          exact absurd (Except.error.inj hmissing) hstatus
        · exact hraises

/-- A patch of a role that has replicas replaces them, at the position of a read
of the same moment. -/
theorem pre_patchRbgRoleReplicas {Q : Unit → ScalingState → Prop} :
    Pre Q R (self.patchRbgRoleReplicas roleName n) s ↔
      (((s.rbg.bind fun rbg => rbg.role? roleName).bind RbgRole.replicas).isSome →
        Q () { s with rbg := s.rbg.map fun rbg => rbg.setReplicas roleName n }) ∧ R s := by
  refine wpRaise_bind.trans (pre_getRbg.trans (and_congr_left fun hraises => ?_))
  cases hrbg : s.rbg with
  | none => simp
  | some rbg =>
      simp only [Option.some.injEq, forall_eq', Option.bind_some, Option.map_some]
      cases hindex : rbg.roles.findIdx? fun role => role.name == roleName with
      | none => simp [Rbg.role?_eq_none hindex, hraises]
      | some index =>
          rw [Rbg.role?_eq_getElem? hindex, Rbg.setReplicas, hindex]
          refine wpRaise_bind.trans (wpRaise_lift.trans ⟨?_, ?_⟩)
          · intro h hreplicas
            obtain ⟨m, hm⟩ := Option.isSome_iff_exists.mp hreplicas
            obtain ⟨role, hrole, hrolereplicas⟩ := Option.bind_eq_some_iff.mp hm
            exact h _ _ (.patched hrbg hrole (by rw [hrolereplicas]; rfl))
          · intro hpatched r s' hanswer
            cases hanswer with
            | patchFailed => exact hraises
            | patched hstored hrole hreplicas =>
                obtain rfl := Option.some.inj (hrbg.symm.trans hstored)
                exact hpatched (by rw [hrole]; exact hreplicas)

/-- Scaling a role is all or nothing: it is written as a whole or left as it is. -/
theorem pre_scaleRole {Q : Unit → ScalingState → Prop} :
    Pre Q R (self.scaleRole roleName n) s ↔
      (self.Writable s roleName → Q () (self.write s roleName n)) ∧ R s := by
  refine wpRaise_bind.trans (pre_tryScaleViaRbgsa.trans ?_)
  cases hadapter : s.adapters (self.adapterName roleName) with
  | some old => simp [Writable, write, hadapter]
  | none =>
      simp only [Option.isSome_none, Bool.false_eq_true, false_implies, true_and, true_implies,
        if_false, pre_patchRbgRoleReplicas]
      simp [Writable, write, hadapter]

theorem pre_scaleTarget {target : TargetReplica} {Q : Unit → ScalingState → Prop} :
    Pre Q R (self.scaleTarget rbg target) s ↔
      (self.Passes rbg s target → Q () (self.writeDiffering rbg s target)) ∧
        (MayRaise rbg target → R s) := by
  refine wpRaise_bind.trans ?_
  unfold getRoleFromRbg
  cases hrole : rbg.role? target.roleName with
  | none =>
      have hmissing : target.roleName ∉ rbg.roleNames := by
        intro hmem
        rw [← Rbg.role?_isSome_iff, hrole] at hmem
        cases hmem
      have hpasses : ¬ self.Passes rbg s target := fun h => hmissing h.present
      simp [hpasses, MayRaise, hmissing]
  | some role =>
      have hpresent : target.roleName ∈ rbg.roleNames :=
        Rbg.role?_isSome_iff.mp (by rw [hrole]; rfl)
      have hcurrent : role.replicas.getD 0 = rbg.replicas target.roleName := by
        simp [Rbg.replicas, hrole]
      have hpasses : self.Passes rbg s target ↔
          (rbg.replicas target.roleName ≠ target.desiredReplicas →
            self.Writable s target.roleName) :=
        ⟨Passes.writable, fun h => ⟨hpresent, h⟩⟩
      simp only [wpRaise_pure, hcurrent, hpasses, MayRaise, hpresent, true_implies, writeDiffering]
      split_ifs with hdiffers
      · simp [pre_scaleRole, hdiffers]
      · simp [hdiffers]

/-! ## The loop -/

/-- A write leaves what can be written. -/
theorem writable_write (h : self.Writable s roleName) :
    self.Writable (self.write s roleName n) other ↔ self.Writable s other := by
  unfold write
  cases hadapter : s.adapters (self.adapterName roleName) with
  | some old =>
      by_cases hother : other = roleName
      · subst hother
        simp [Writable, ScalingState.setAdapter, hadapter]
      · have hname : self.adapterName other ≠ self.adapterName roleName :=
          fun heq => hother (adapterName_injective self heq)
        simp [Writable, ScalingState.setAdapter, Function.update_of_ne hname]
  | none =>
      have hreplicas : ((s.rbg.bind fun rbg => rbg.role? roleName).bind
          RbgRole.replicas).isSome := by simpa [Writable, hadapter] using h
      cases hrbg : s.rbg with
      | none =>
          rw [hrbg] at hreplicas
          cases hreplicas
      | some rbg =>
          rw [hrbg] at hreplicas
          simp only [Writable, hrbg, Option.map_some, Option.bind_some, Rbg.role?_setReplicas]
          split_ifs with hother
          · subst hother
            obtain ⟨role, hrole, -⟩ := Option.bind_eq_some_iff.mp
              (Option.isSome_iff_exists.mp hreplicas).choose_spec
            have hrole : rbg.role? other = some role := hrole
            rw [Option.bind_some, hrole, Option.bind_some] at hreplicas
            simp [hreplicas, hrole]
          · exact Iff.rfl

/-- A target that is passed leaves which others can be. -/
theorem passes_writeDiffering {target t : TargetReplica} (h : self.Passes rbg s target) :
    self.Passes rbg (self.writeDiffering rbg s target) t ↔ self.Passes rbg s t := by
  unfold writeDiffering
  split_ifs with hdiffers
  · have hwritable := h.writable hdiffers
    constructor
    · intro ht
      exact ⟨ht.present, fun hne => (writable_write hwritable).mp (ht.writable hne)⟩
    · intro ht
      exact ⟨ht.present, fun hne => (writable_write hwritable).mpr (ht.writable hne)⟩
  · exact Iff.rfl

/-- The loop raises at a target after it wrote those before. -/
theorem pre_scaleTargets {targets : List TargetReplica} {Q : Unit → ScalingState → Prop} :
    Pre Q R (self.scaleTargets rbg targets) s ↔
      ((∀ t ∈ targets, self.Passes rbg s t) →
        Q () (targets.foldl (self.writeDiffering rbg) s)) ∧
      ∀ before target later, targets = before ++ target :: later →
        (∀ t ∈ before, self.Passes rbg s t) → MayRaise rbg target →
          R (before.foldl (self.writeDiffering rbg) s) := by
  induction targets generalizing s with
  | nil => simp [scaleTargets]
  | cons target targets ih =>
      refine wpRaise_bind.trans (pre_scaleTarget.trans ⟨?_, ?_⟩)
      · rintro ⟨hrest, hraises⟩
        have hrest := fun h => ih.mp (hrest h)
        refine ⟨fun hall => ?_, fun before failing later hsplit hbefore hmay => ?_⟩
        · obtain ⟨hfirst, hothers⟩ := List.forall_mem_cons.mp hall
          exact (hrest hfirst).1 fun t ht => (passes_writeDiffering hfirst).mpr (hothers t ht)
        · cases before with
          | nil =>
              obtain ⟨rfl, rfl⟩ := List.cons.inj hsplit
              exact hraises hmay
          | cons first before =>
              obtain ⟨rfl, rfl⟩ := List.cons.inj hsplit
              obtain ⟨hfirst, hothers⟩ := List.forall_mem_cons.mp hbefore
              exact (hrest hfirst).2 before failing later rfl
                (fun t ht => (passes_writeDiffering hfirst).mpr (hothers t ht)) hmay
      · rintro ⟨hreturns, hraises⟩
        refine ⟨fun hfirst => ih.mpr ⟨fun hothers => ?_, ?_⟩, ?_⟩
        · apply hreturns
          exact List.forall_mem_cons.mpr
            ⟨hfirst, fun t ht => (passes_writeDiffering hfirst).mp (hothers t ht)⟩
        · rintro before failing later rfl hothers hmay
          apply hraises (target :: before) failing later rfl _ hmay
          exact List.forall_mem_cons.mpr
            ⟨hfirst, fun t ht => (passes_writeDiffering hfirst).mp (hothers t ht)⟩
        · exact hraises [] target targets rfl (by simp)

/-- Waiting for a RoleBasedGroup that is Ready reads it once. -/
theorem pre_waitForReady {delaySeconds attempts : ℕ} {Q : Unit → ScalingState → Prop}
    (hready : s.rbg.map Rbg.isReady = some true) :
    Pre Q R (self.waitForReady delaySeconds (attempts + 1)) s ↔ Q () s ∧ R s := by
  obtain ⟨rbg, hrbg, hready⟩ := Option.map_eq_some_iff.mp hready
  have hread : Pre Q R (do
      let rbg ← self.getRbg
      if rbg.isReady then return () else self.waitForReady delaySeconds attempts) s ↔
        Q () s ∧ R s := by
    refine wpRaise_bind.trans (pre_getRbg.trans (and_congr_left fun _ => ?_))
    simp [hrbg, hready]
  refine (wpRaise_bind.trans (wpRaise_lift.trans ⟨fun h => ?_, ?_⟩)).trans hread
  · exact h () s .slept
  · intro h _ s' hanswer
    cases hanswer
    exact h

/-- The writes of the loop leave what replicas do not matter for. -/
theorem map_foldl_writeDiffering {α : Type} {f : Rbg → α}
    (hf : ∀ rbg roleName n, f (Rbg.setReplicas rbg roleName n) = f rbg)
    (targets : List TargetReplica) :
    (targets.foldl (self.writeDiffering rbg) s).rbg.map f = s.rbg.map f := by
  induction targets generalizing s with
  | nil => rfl
  | cons target targets ih =>
      rw [List.foldl_cons, ih, writeDiffering]
      split_ifs
      · unfold write
        cases s.adapters (self.adapterName target.roleName) with
        | some _ => rfl
        | none =>
            rw [Option.map_map]
            exact congrArg (fun g => s.rbg.map g) (funext fun _ => hf _ _ _)
      · rfl

/-- `set_replicas` raises before it wrote, at a target after it wrote those
before, or while it waits. -/
theorem pre_setReplicas {targets : List TargetReplica} {blocking : Bool} :
    Pre (fun _ _ => True) R (self.setReplicas targets blocking) s ↔
      R s ∧ ∀ rbg, s.rbg = some rbg → rbg.isReady = true →
        (∀ before target later, targets = before ++ target :: later →
          (∀ t ∈ before, self.Passes rbg s t) → MayRaise rbg target →
            R (before.foldl (self.writeDiffering rbg) s)) ∧
        (blocking = true → (∀ t ∈ targets, self.Passes rbg s t) →
          R (targets.foldl (self.writeDiffering rbg) s)) := by
  unfold setReplicas
  by_cases hempty : targets = []
  · subst hempty
    simp +contextual
  · have hnonempty : targets.isEmpty = false := by simpa using hempty
    rw [hnonempty, if_neg Bool.false_ne_true]
    refine wpRaise_bind.trans (pre_getRbg.trans (and_comm.trans (and_congr_right fun _ => ?_)))
    refine forall₂_congr fun rbg hrbg => ?_
    change Pre (fun _ _ => True) R (if !rbg.isReady then pure () else do
      self.scaleTargets rbg targets
      if blocking then self.waitForReady 10 180 else pure ()) s ↔ _
    cases hready : rbg.isReady with
    | false => simp
    | true =>
        have hwait : (targets.foldl (self.writeDiffering rbg) s).rbg.map Rbg.isReady =
            some true := by
          rw [map_foldl_writeDiffering fun _ _ _ => Rbg.isReady_setReplicas, hrbg, Option.map_some,
            hready]
        refine (wpRaise_bind.trans (pre_scaleTargets.trans and_comm)).trans ?_
        cases blocking with
        | false => simp
        | true => simp [pre_waitForReady hwait]

/-! ## What the writes of the loop leave -/

/-- The last target that the loop writes for a role, given the first read. -/
def lastWrite (rbg : Rbg) (targets : List TargetReplica) (roleName : String) : Option ℤ :=
  lastTarget (targets.filter fun t => rbg.replicas t.roleName ≠ t.desiredReplicas) roleName

theorem lastWrite_append (targets : List TargetReplica) (target : TargetReplica) :
    lastWrite rbg (targets ++ [target]) roleName =
      if target.roleName = roleName ∧ rbg.replicas roleName ≠ target.desiredReplicas then
        some target.desiredReplicas
      else lastWrite rbg targets roleName := by
  by_cases hname : target.roleName = roleName
  · subst hname
    by_cases hdiffers : rbg.replicas target.roleName = target.desiredReplicas
    · simp [lastWrite, hdiffers]
    · simp [lastWrite, lastTarget, hdiffers]
  · by_cases hdiffers : rbg.replicas target.roleName = target.desiredReplicas
    · simp [lastWrite, hdiffers, hname]
    · simp [lastWrite, lastTarget, hdiffers, hname]

/-- What is written last was written because the first read differs from it. -/
theorem replicas_ne_lastWrite {targets : List TargetReplica}
    (h : lastWrite rbg targets roleName = some n) : rbg.replicas roleName ≠ n := by
  induction targets using List.reverseRecOn with
  | nil => cases h
  | append_singleton targets target ih =>
      rw [lastWrite_append] at h
      split_ifs at h with hwrite
      · exact Option.some.inj h ▸ hwrite.2
      · exact ih h

/-- A target that differs is written, so that its role has a last write. -/
theorem isSome_lastWrite {targets : List TargetReplica} {target : TargetReplica}
    (hmem : target ∈ targets)
    (hdiffers : rbg.replicas target.roleName ≠ target.desiredReplicas) :
    (lastWrite rbg targets target.roleName).isSome := by
  induction targets using List.reverseRecOn with
  | nil => cases hmem
  | append_singleton targets last ih =>
      rw [lastWrite_append]
      split_ifs with hwrite
      · rfl
      · rcases List.mem_append.mp hmem with hinit | hlast
        · exact ih hinit
        · obtain rfl := List.mem_singleton.mp hlast
          exact absurd ⟨rfl, hdiffers⟩ hwrite

theorem adapters_write (adapterName : String) :
    (self.write s roleName n).adapters adapterName =
      if adapterName = self.adapterName roleName then (s.adapters adapterName).map fun _ => n
      else s.adapters adapterName := by
  unfold write
  split_ifs with hname
  · subst hname
    cases hadapter : s.adapters (self.adapterName roleName) with
    | some old => simp [ScalingState.setAdapter]
    | none => simp [hadapter]
  · cases s.adapters (self.adapterName roleName) with
    | some old => simp [ScalingState.setAdapter, Function.update_of_ne hname]
    | none => rfl

/-- An adapter holds what was last written for its role. -/
theorem adapters_foldl (targets : List TargetReplica) (roleName : String) :
    (targets.foldl (self.writeDiffering rbg) s).adapters (self.adapterName roleName) =
      (s.adapters (self.adapterName roleName)).map
        ((lastWrite rbg targets roleName).getD ·) := by
  induction targets using List.reverseRecOn with
  | nil => simp [lastWrite, lastTarget]
  | append_singleton targets target ih =>
      rw [List.foldl_append, List.foldl_cons, List.foldl_nil, lastWrite_append, writeDiffering]
      by_cases hname : target.roleName = roleName
      · subst hname
        by_cases hdiffers : rbg.replicas target.roleName ≠ target.desiredReplicas
        · rw [if_pos hdiffers, adapters_write, if_pos rfl, ih, if_pos ⟨rfl, hdiffers⟩,
            Option.map_map]
          rfl
        · have hunwritten : ¬ (target.roleName = target.roleName ∧
              rbg.replicas target.roleName ≠ target.desiredReplicas) := fun h => hdiffers h.2
          rw [if_neg hdiffers, if_neg hunwritten, ih]
      · have hother : ¬ (target.roleName = roleName ∧
            rbg.replicas roleName ≠ target.desiredReplicas) := fun h => hname h.1
        rw [if_neg hother, ← ih]
        split_ifs
        · rw [adapters_write, if_neg fun h => hname (adapterName_injective self h).symm]
        · rfl

/-- An adapter of no role is not written. -/
theorem adapters_foldl_of_ne {adapterName : String}
    (h : ∀ roleName, adapterName ≠ self.adapterName roleName) (targets : List TargetReplica) :
    (targets.foldl (self.writeDiffering rbg) s).adapters adapterName =
      s.adapters adapterName := by
  induction targets generalizing s with
  | nil => rfl
  | cons target targets ih =>
      rw [List.foldl_cons, ih, writeDiffering]
      split_ifs
      · rw [adapters_write, if_neg (h target.roleName)]
      · rfl

/-- A role without an adapter has what was last written for it. -/
theorem count_foldl {targets : List TargetReplica} (hrbg : s.rbg = some rbg)
    (hpresent : ∀ t ∈ targets, t.roleName ∈ rbg.roleNames)
    (hadapter : s.adapters (self.adapterName roleName) = none) :
    (targets.foldl (self.writeDiffering rbg) s).count roleName =
      some ((lastWrite rbg targets roleName).getD (rbg.replicas roleName)) := by
  induction targets using List.reverseRecOn with
  | nil => simp [lastWrite, lastTarget, ScalingState.count, hrbg]
  | append_singleton targets target ih =>
      have hinit := ih fun t ht => hpresent t (List.mem_append_left _ ht)
      rw [List.foldl_append, List.foldl_cons, List.foldl_nil, lastWrite_append]
      have hnames : (targets.foldl (self.writeDiffering rbg) s).rbg.map Rbg.roleNames =
          s.rbg.map Rbg.roleNames :=
        map_foldl_writeDiffering (fun _ _ _ => Rbg.roleNames_setReplicas) targets
      have hnone : (targets.foldl (self.writeDiffering rbg) s).adapters
          (self.adapterName roleName) = none := by
        rw [adapters_foldl, hadapter, Option.map_none]
      generalize targets.foldl (self.writeDiffering rbg) s = s₁ at hinit hnames hnone ⊢
      rw [hrbg, Option.map_some] at hnames
      obtain ⟨current, hcurrent, hnames⟩ := Option.map_eq_some_iff.mp hnames
      have hmem : target.roleName ∈ current.roleNames :=
        hnames ▸ hpresent target (List.mem_append_right _ (List.mem_singleton_self _))
      rw [writeDiffering]
      by_cases hdiffers : rbg.replicas target.roleName ≠ target.desiredReplicas
      · rw [if_pos hdiffers, write]
        by_cases hname : target.roleName = roleName
        · subst hname
          rw [hnone, if_pos ⟨rfl, hdiffers⟩]
          simp [ScalingState.count, hcurrent, Rbg.replicas_setReplicas hmem]
        · rw [if_neg fun h => hname h.1, ← hinit]
          cases s₁.adapters (self.adapterName target.roleName) with
          | some old => rfl
          | none =>
              simp [ScalingState.count, hcurrent, Rbg.replicas_setReplicas hmem, Ne.symm hname]
      · rw [if_neg hdiffers, if_neg, hinit]
        rintro ⟨rfl, hne⟩
        exact hdiffers hne

/-- When all roles that are written have adapters, the RoleBasedGroup is not written. -/
theorem rbg_foldl {targets : List TargetReplica}
    (h : ∀ t ∈ targets, rbg.replicas t.roleName ≠ t.desiredReplicas →
      (s.adapters (self.adapterName t.roleName)).isSome) :
    (targets.foldl (self.writeDiffering rbg) s).rbg = s.rbg := by
  induction targets using List.reverseRecOn with
  | nil => rfl
  | append_singleton targets target ih =>
      have hadapter : (targets.foldl (self.writeDiffering rbg) s).adapters
          (self.adapterName target.roleName) = _ := adapters_foldl targets target.roleName
      rw [List.foldl_append, List.foldl_cons, List.foldl_nil,
        ← ih fun t ht => h t (List.mem_append_left _ ht), writeDiffering]
      split_ifs with hdiffers
      · obtain ⟨old, hold⟩ := Option.isSome_iff_exists.mp
          (h target (List.mem_append_right _ (List.mem_singleton_self _)) hdiffers)
        rw [hold, Option.map_some] at hadapter
        rw [write, hadapter]
        rfl
      · rfl

end RBGConnector

end RbgPlanner.Planner
