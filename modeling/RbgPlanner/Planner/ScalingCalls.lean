import RbgPlanner.Planner.ScalingApi

/-!
# What the connector's calls do

One lemma for each method, for executions among copies of the controller: a
call that returns sets the governed count of the roles it writes, and a call
that ends in any way leaves the other roles.
-/

namespace RbgPlanner.Planner.RBGConnector

open Base Prog

variable {self : RBGConnector} {names : List String} {s s' : ScalingState} {rbg : Rbg}
  {roleName : String} {n : ℤ} {tr : List RbgEvent}

/-- An answer leaves the names and readiness. -/
theorem serves_answers {op : RbgOp} {r : RbgResp op} (h : Answers op s r s')
    (hs : Serves names s) : Serves names s' := by
  cases h with
  | patched hrbg _ _ =>
      obtain ⟨rbg, hrbg', hnames, hready⟩ := hs
      obtain rfl := Option.some.inj (hrbg.symm.trans hrbg')
      exact ⟨_, rfl, by rw [Rbg.roleNames_patchReplicas, hnames], hready⟩
  | scaled _ => exact hs
  | read _ | missing _ | readFailed _ | noAdapter _ | scaleFailed _ | patchFailed | slept =>
      exact hs

/-- Whatever a call does, the RoleBasedGroup keeps serving. -/
theorem serves_executes {α : Type} {x : RbgCall α} {out}
    (h : self.Executes x s tr out s') (hs : Serves names s) : Serves names s' :=
  Exec.preserves (I := Serves names) (fun _ _ => serves_copies)
    (fun _ _ _ _ => serves_answers) h hs

/-! ## Calls that return -/

/-- A read returns what is stored at some moment. -/
theorem getRbg_done (hs : Serves names s)
    (h : self.Executes self.getRbg s tr (.done (.ok rbg)) s') :
    ∃ s₁, Relation.ReflTransGen self.Copies s s₁ ∧ s₁.rbg = some rbg ∧
      Settles self names s s' ∧ tr = [⟨.getRbg, .ok rbg⟩] := by
  obtain ⟨r, s₁, tr₁, tr₂, hread, hreturn, rfl⟩ := Exec.bind_ok h
  obtain ⟨s₂, s₃, hbefore, hanswer, hafter, rfl⟩ := Exec.lift_done hread
  cases hanswer with
  | missing hnone =>
      obtain ⟨stored, hstored, -⟩ := (settles_star hbefore hs).serves
      cases hnone.symm.trans hstored
  | readFailed hstatus => exact (Exec.throw_ok (by simpa [hstatus] using hreturn)).elim
  | read hrbg =>
      obtain ⟨rfl, hend, rfl⟩ := Exec.pure_done hreturn
      exact ⟨s₂, hbefore, hrbg, settles_star (hbefore.trans (hafter.trans hend)) hs, rfl⟩

/-- A patch that returns has read the role again and patched it by its position. -/
theorem patchRbgRoleReplicas_done (hs : Serves names s)
    (hnone : s.adapters (self.adapterName roleName) = none)
    (h : self.Executes (self.patchRbgRoleReplicas roleName n) s tr (.done (.ok ())) s') :
    Serves names s' ∧ ∀ other, self.governed s' other =
      if other = roleName then n else self.governed s other := by
  obtain ⟨fresh, s₁, tr₁, tr₂, hget, hpatch, rfl⟩ := Exec.bind_ok h
  obtain ⟨s₂, hread, hfresh, hsettled₁, -⟩ := getRbg_done hs hget
  have hnames : fresh.roleNames = names := by
    obtain ⟨rbg, hrbg, hnames, -⟩ := (settles_star hread hs).serves
    obtain rfl := Option.some.inj (hfresh.symm.trans hrbg)
    exact hnames
  rw [Rbg.findIdx_eq, hnames] at hpatch
  cases hindex : names.findIdx? (· == roleName) with
  | none =>
      rw [hindex] at hpatch
      exact (Exec.throw_ok hpatch).elim
  | some index =>
      rw [hindex] at hpatch
      obtain ⟨r, s₃, tr₃, tr₄, hrequest, hreturn, rfl⟩ := Exec.bind_ok hpatch
      obtain ⟨s₄, s₅, hbefore, hanswer, hafter, rfl⟩ := Exec.lift_done hrequest
      have hsettled₂ := settles_star hbefore hsettled₁.serves
      cases hanswer with
      | patchFailed => exact (Exec.throw_ok hreturn).elim
      | patched hrbg hrole hreplicas =>
          obtain ⟨-, hend, rfl⟩ := Exec.pure_done hreturn
          have hsettled₃ := settles_star (hafter.trans hend)
            (serves_answers (.patched hrbg hrole hreplicas) hsettled₂.serves)
          refine ⟨hsettled₃.serves, fun other => ?_⟩
          have hadapter : s₄.adapters (self.adapterName roleName) = none := by
            rw [hsettled₂.adapters, hsettled₁.adapters, hnone]
          have hindex' : ∀ rbg, s₄.rbg = some rbg →
              rbg.roleNames.findIdx? (· == roleName) = some index := by
            intro rbg hrbg
            obtain ⟨rbg', hrbg', hnames', -⟩ := hsettled₂.serves
            obtain rfl := Option.some.inj (hrbg.symm.trans hrbg')
            rw [hnames', hindex]
          rw [hsettled₃.governed, governed_patchReplicas hrbg hadapter (hindex' _ hrbg),
            hsettled₂.governed, hsettled₁.governed]

/-- Scaling a role that exists sets its governed count and no other. -/
theorem scaleRole_done (hs : Serves names s)
    (h : self.Executes (self.scaleRole roleName n) s tr (.done (.ok ())) s') :
    Serves names s' ∧ ∀ other, self.governed s' other =
      if other = roleName then n else self.governed s other := by
  obtain ⟨viaAdapter, s₁, tr₁, tr₂, htry, hrest, rfl⟩ := Exec.bind_ok h
  obtain ⟨r, s₂, tr₃, tr₄, hscale, hreturn, rfl⟩ := Exec.bind_ok htry
  obtain ⟨s₃, s₄, hbefore, hanswer, hafter, rfl⟩ := Exec.lift_done hscale
  have hsettled := settles_star hbefore hs
  cases hanswer with
  | scaled hold =>
      -- through the adapter
      obtain ⟨rfl, hend, rfl⟩ := Exec.pure_done hreturn
      obtain ⟨-, hlast, rfl⟩ := Exec.pure_done hrest
      have hsettled' := settles_star ((hafter.trans hend).trans hlast)
        (serves_answers (.scaled hold) hsettled.serves)
      refine ⟨hsettled'.serves, fun other => ?_⟩
      rw [hsettled'.governed, governed_setAdapter, hsettled.governed]
  | scaleFailed hstatus => exact (Exec.throw_ok (by simpa [hstatus] using hreturn)).elim
  | noAdapter hnone =>
      -- no adapter: the fallback
      obtain ⟨rfl, hend, rfl⟩ := Exec.pure_done hreturn
      have hsettled₁ := settles_star (hafter.trans hend) hsettled.serves
      have hadapter : s₁.adapters (self.adapterName roleName) = none := by
        rw [hsettled₁.adapters, hnone]
      obtain ⟨hserves, hgoverned⟩ := patchRbgRoleReplicas_done hsettled₁.serves hadapter hrest
      refine ⟨hserves, fun other => ?_⟩
      rw [hgoverned, hsettled₁.governed, hsettled.governed]

/-- What one target makes of the governed count of a role, given the first read. -/
def writeTarget (rbg : Rbg) (roleName : String) (governed : ℤ) (target : TargetReplica) : ℤ :=
  if target.roleName = roleName ∧ rbg.replicas roleName ≠ target.desiredReplicas then
    target.desiredReplicas
  else governed

theorem scaleTarget_done {target : TargetReplica} (hs : Serves names s)
    (h : self.Executes (self.scaleTarget rbg target) s tr (.done (.ok ())) s') :
    Serves names s' ∧ target.roleName ∈ rbg.roleNames ∧ ∀ other, self.governed s' other =
      writeTarget rbg other (self.governed s other) target := by
  obtain ⟨role, s₁, tr₁, tr₂, hget, hrest, rfl⟩ := Exec.bind_ok h
  unfold getRoleFromRbg at hget
  cases hrole : rbg.role? target.roleName with
  | none =>
      rw [hrole] at hget
      exact (Exec.throw_ok hget).elim
  | some found =>
      rw [hrole] at hget
      obtain ⟨rfl, hbefore, rfl⟩ := Exec.pure_done hget
      have hsettled := settles_star hbefore hs
      have hcurrent : rbg.replicas target.roleName = role.replicas.getD 0 := by
        simp [Rbg.replicas, hrole]
      have hmem : target.roleName ∈ rbg.roleNames :=
        Rbg.role?_isSome_iff.mp (by rw [hrole]; rfl)
      unfold writeTarget
      by_cases hdiffers : role.replicas.getD 0 ≠ target.desiredReplicas
      · rw [if_pos hdiffers] at hrest
        obtain ⟨hserves, hgoverned⟩ := scaleRole_done hsettled.serves hrest
        refine ⟨hserves, hmem, fun other => ?_⟩
        rw [hgoverned, hsettled.governed]
        by_cases hother : other = target.roleName
        · subst hother
          rw [if_pos rfl, if_pos ⟨rfl, by rwa [hcurrent]⟩]
        · rw [if_neg hother, if_neg fun hw => hother hw.1.symm]
      · rw [if_neg hdiffers] at hrest
        obtain ⟨-, hend, rfl⟩ := Exec.pure_done hrest
        have hsettled' := settles_star hend hsettled.serves
        refine ⟨hsettled'.serves, hmem, fun other => ?_⟩
        rw [hsettled'.governed, hsettled.governed, if_neg]
        rintro ⟨rfl, hne⟩
        rw [hcurrent] at hne
        exact hdiffers hne

/-- The loop: the targets of a role, one after the other, against one read. -/
theorem scaleTargets_done {targets : List TargetReplica} (hs : Serves names s)
    (h : self.Executes (self.scaleTargets rbg targets) s tr (.done (.ok ())) s') :
    Serves names s' ∧ (∀ target ∈ targets, target.roleName ∈ rbg.roleNames) ∧
      ∀ other, self.governed s' other =
        targets.foldl (writeTarget rbg other) (self.governed s other) := by
  induction targets generalizing s tr with
  | nil =>
      obtain ⟨-, hend, rfl⟩ := Exec.pure_done h
      exact ⟨(settles_star hend hs).serves, nofun, (settles_star hend hs).governed⟩
  | cons target targets ih =>
      obtain ⟨_, s₁, tr₁, tr₂, hfirst, hrest, rfl⟩ := Exec.bind_ok h
      obtain ⟨hserves, hmem, hgoverned⟩ := scaleTarget_done hs hfirst
      obtain ⟨hserves', hmem', hgoverned'⟩ := ih hserves hrest
      refine ⟨hserves', List.forall_mem_cons.mpr ⟨hmem, hmem'⟩, fun other => ?_⟩
      rw [hgoverned', hgoverned, List.foldl_cons]

/-- Waiting writes nothing. -/
theorem waitForReady_done {delaySeconds attempts : ℕ} (hs : Serves names s)
    (h : self.Executes (self.waitForReady delaySeconds attempts) s tr (.done (.ok ())) s') :
    Settles self names s s' := by
  induction attempts generalizing s tr with
  | zero => exact (Exec.throw_ok h).elim
  | succ attempts ih =>
      obtain ⟨_, s₁, tr₁, tr₂, hsleep, hrest, rfl⟩ := Exec.bind_ok h
      obtain ⟨s₂, s₃, hbefore, hanswer, hafter, rfl⟩ := Exec.lift_done hsleep
      cases hanswer
      have hslept := settles_star (hbefore.trans hafter) hs
      obtain ⟨rbg, s₄, tr₃, tr₄, hget, hcheck, rfl⟩ := Exec.bind_ok hrest
      obtain ⟨-, -, -, hread, -⟩ := getRbg_done hslept.serves hget
      have hend : Settles self names s₄ s' := by
        by_cases hready : rbg.isReady = true
        · rw [if_pos hready] at hcheck
          exact settles_star (Exec.pure_done hcheck).2.1 hread.serves
        · rw [if_neg hready] at hcheck
          exact ih hread.serves hcheck
      refine ⟨hend.serves, ?_, fun roleName => ?_⟩
      · rw [hend.adapters, hread.adapters, hslept.adapters]
      · rw [hend.governed, hread.governed, hslept.governed]

/-- A call of `set_replicas` that returns reads the RoleBasedGroup once and
writes its targets against that read. -/
theorem setReplicas_done {targets : List TargetReplica} {blocking : Bool} (hs : Serves names s)
    (h : self.Executes (self.setReplicas targets blocking) s tr (.done (.ok ())) s') :
    ∃ rbg tail s₁, tr = ⟨.getRbg, .ok rbg⟩ :: tail ∧
      Relation.ReflTransGen self.Copies s s₁ ∧ s₁.rbg = some rbg ∧ Serves names s' ∧
        (∀ target ∈ targets, target.roleName ∈ names) ∧ ∀ other, self.governed s' other =
          targets.foldl (writeTarget rbg other) (self.governed s other) := by
  unfold setReplicas at h
  by_cases hempty : targets.isEmpty = true
  · rw [if_pos hempty] at h
    exact (Exec.throw_ok h).elim
  · rw [if_neg hempty] at h
    obtain ⟨rbg, s₁, tr₁, tr₂, hget, hrest, rfl⟩ := Exec.bind_ok h
    obtain ⟨s₂, hread, hrbg, hsettled, rfl⟩ := getRbg_done hs hget
    obtain ⟨hnames, hready⟩ : rbg.roleNames = names ∧ rbg.isReady = true := by
      obtain ⟨rbg', hrbg', hnames, hready⟩ := (settles_star hread hs).serves
      obtain rfl := Option.some.inj (hrbg.symm.trans hrbg')
      exact ⟨hnames, hready⟩
    have hisReady : self.isReady (some rbg) = (pure true : RbgCall Bool) := by
      change (pure rbg.isReady : RbgCall Bool) = pure true
      rw [hready]
    rw [hisReady] at hrest
    obtain ⟨_, s₃, tr₃, tr₄, hloop, hwait, htr⟩ := Exec.bind_ok (x := self.scaleTargets rbg targets)
      (f := fun _ => if blocking then self.waitForReady 10 180 else pure ()) hrest
    obtain ⟨hserves, hmem, hgoverned⟩ := scaleTargets_done hsettled.serves hloop
    have hend : Settles self names s₃ s' := by
      cases blocking with
      | true => exact waitForReady_done hserves hwait
      | false => exact settles_star (Exec.pure_done hwait).2.1 hserves
    rw [hnames] at hmem
    refine ⟨rbg, tr₂, s₂, rfl, hread, hrbg, hend.serves, hmem, fun other => ?_⟩
    rw [hend.governed, hgoverned, hsettled.governed]

/-! ## Last targets -/

/-- The target a list of targets ends with for a role. -/
def lastTarget (targets : List TargetReplica) (roleName : String) : Option ℤ :=
  ((targets.filter fun target => target.roleName == roleName).getLast?).map
    TargetReplica.desiredReplicas

/-- Targets that agree with the read write nothing, any other one is seen in the end. -/
theorem foldl_writeTarget_of_replicas (h : rbg.replicas roleName = n)
    (targets : List TargetReplica) (g : ℤ) :
    targets.foldl (writeTarget rbg roleName) g = n ↔
      (∀ target ∈ targets, target.roleName = roleName → target.desiredReplicas = n) ∧ g = n := by
  induction targets generalizing g with
  | nil => simp
  | cons target targets ih =>
      rw [List.foldl_cons, ih, List.forall_mem_cons]
      unfold writeTarget
      by_cases hname : target.roleName = roleName
      · by_cases hn : target.desiredReplicas = n
        · simp [hname, hn, h]
        · simp [hname, hn, h, Ne.symm hn]
      · simp [hname]

theorem foldl_writeTarget_iff {targets : List TargetReplica}
    (h : lastTarget targets roleName = some n) (g : ℤ) :
    targets.foldl (writeTarget rbg roleName) g = n ↔
      rbg.replicas roleName ≠ n ∨
        (∀ target ∈ targets, target.roleName = roleName → target.desiredReplicas = n) ∧ g = n := by
  by_cases hreplicas : rbg.replicas roleName = n
  · rw [foldl_writeTarget_of_replicas hreplicas]
    simp [hreplicas]
  · refine iff_of_true ?_ (.inl hreplicas)
    induction targets using List.reverseRecOn with
    | nil => simp [lastTarget] at h
    | append_singleton targets target ih =>
        rw [List.foldl_append, List.foldl_cons, List.foldl_nil]
        by_cases hname : target.roleName = roleName
        · obtain rfl : target.desiredReplicas = n := by simpa [lastTarget, hname] using h
          exact if_pos ⟨hname, hreplicas⟩
        · have hinit : lastTarget targets roleName = some n := by
            simpa [lastTarget, hname] using h
          rw [writeTarget, if_neg fun hw => hname hw.1]
          exact ih hinit

/-- What such a call leaves as the governed count of a role: the role's last
target, unless the read is at that target already and hides another value. -/
theorem setReplicas_governed_iff {targets : List TargetReplica} {blocking : Bool}
    (hs : Serves names s)
    (h : self.Executes (self.setReplicas targets blocking) s tr (.done (.ok ())) s')
    (htarget : lastTarget targets roleName = some n) :
    self.governed s' roleName = n ↔ ∀ rbg, tr.head? = some ⟨.getRbg, .ok rbg⟩ →
      rbg.replicas roleName ≠ n ∨
        (∀ target ∈ targets, target.roleName = roleName → target.desiredReplicas = n) ∧
          ∀ m, s.adapters (self.adapterName roleName) = some m → m = n := by
  obtain ⟨rbg, tail, s₁, rfl, hread, hrbg, -, -, hgoverned⟩ := setReplicas_done hs h
  have hsettled := settles_star hread hs
  have hhead : ∀ rbg', (⟨.getRbg, .ok rbg⟩ :: tail : List RbgEvent).head? =
      some ⟨.getRbg, .ok rbg'⟩ ↔ rbg = rbg' := by
    intro rbg'
    simp
  simp only [hhead, forall_eq']
  rw [hgoverned, foldl_writeTarget_iff htarget]
  by_cases hreplicas : rbg.replicas roleName = n
  · have hstart : self.governed s roleName = n ↔
        ∀ m, s.adapters (self.adapterName roleName) = some m → m = n := by
      rw [← hsettled.governed]
      unfold governed
      rw [hsettled.adapters]
      cases s.adapters (self.adapterName roleName) with
      | some m => simp
      | none => simp [hrbg, hreplicas]
    rw [hstart]
  · simp [hreplicas]

/-! ## Calls that end in any way -/

/-- A request that does not write the governed count of a role. -/
def Leaves (self : RBGConnector) (names : List String) (roleName : String) : RbgOp → Prop
  | .patchScale adapterName _ => adapterName ≠ self.adapterName roleName
  | .patchRole index _ => ∃ other ≠ roleName, names.findIdx? (· == other) = some index
  | _ => True

/-- Reads see the names. -/
def Sees (names : List String) : (op : RbgOp) → RbgResp op → Prop
  | .getRbg, r => ∀ rbg, r = .ok rbg → rbg.roleNames = names
  | _, _ => True

/-- A program whose requests leave a role. -/
abbrev AsksLeaving (self : RBGConnector) (names : List String) (roleName : String) {α : Type}
    (Q : α → Prop) (x : RbgCall α) : Prop :=
  Prog.AsksOk (Leaves self names roleName) (Sees names) Q x

theorem asks_getRbg :
    AsksLeaving self names roleName (fun rbg => rbg.roleNames = names) self.getRbg := by
  refine AsksOk.bind (Q := fun r => ∀ rbg, r = .ok rbg → rbg.roleNames = names) ?_ fun r hr => ?_
  · exact ⟨trivial, fun r hr a ha => by cases ha; exact hr⟩
  · split
    · exact AsksOk.pure (hr _ rfl)
    · exact AsksOk.throw
    · exact AsksOk.throw

theorem asks_scaleRole {other : String} (hne : other ≠ roleName) :
    AsksLeaving self names roleName (fun _ => True) (self.scaleRole other n) := by
  refine AsksOk.bind (Q := fun _ => True) ?_ fun viaAdapter _ => ?_
  · refine AsksOk.bind (Q := fun _ => True) ?_ fun r _ => ?_
    · exact ⟨fun h => hne (adapterName_injective self h), fun _ _ _ _ => trivial⟩
    · split
      · exact AsksOk.pure trivial
      · exact AsksOk.pure trivial
      · exact AsksOk.throw
  · split_ifs
    · exact AsksOk.pure trivial
    · refine AsksOk.bind asks_getRbg fun rbg hnames => ?_
      rw [Rbg.findIdx_eq, hnames]
      cases hindex : names.findIdx? (· == other) with
      | none => exact AsksOk.throw
      | some index =>
          refine AsksOk.bind (Q := fun _ => True) ?_ fun r _ => ?_
          · exact ⟨⟨other, hne, hindex⟩, fun _ _ _ _ => trivial⟩
          · split
            · exact AsksOk.pure trivial
            · exact AsksOk.throw

theorem asks_scaleTargets {targets : List TargetReplica}
    (hne : ∀ target ∈ targets, target.roleName ≠ roleName) :
    AsksLeaving self names roleName (fun _ => True) (self.scaleTargets rbg targets) := by
  induction targets with
  | nil => exact AsksOk.pure trivial
  | cons target targets ih =>
      refine AsksOk.bind (Q := fun _ => True) ?_ fun _ _ => ?_
      · refine AsksOk.bind (Q := fun _ => True) ?_ fun role _ => ?_
        · unfold getRoleFromRbg
          split
          · exact AsksOk.pure trivial
          · exact AsksOk.throw
        · split_ifs
          · exact asks_scaleRole (hne target List.mem_cons_self)
          · exact AsksOk.pure trivial
      · exact ih fun t ht => hne t (List.mem_cons_of_mem _ ht)

theorem asks_waitForReady {delaySeconds attempts : ℕ} :
    AsksLeaving self names roleName (fun _ => True)
      (self.waitForReady delaySeconds attempts) := by
  induction attempts with
  | zero => exact AsksOk.throw
  | succ attempts ih =>
      refine AsksOk.bind (Q := fun _ => True) ⟨trivial, fun _ _ _ _ => trivial⟩ fun _ _ => ?_
      refine AsksOk.bind asks_getRbg fun rbg _ => ?_
      split_ifs
      · exact AsksOk.pure trivial
      · exact ih

theorem asks_setReplicas {targets : List TargetReplica} {blocking : Bool}
    (hne : ∀ target ∈ targets, target.roleName ≠ roleName) :
    AsksLeaving self names roleName (fun _ => True) (self.setReplicas targets blocking) := by
  unfold setReplicas
  by_cases hempty : targets.isEmpty = true
  · rw [if_pos hempty]
    exact AsksOk.throw
  · rw [if_neg hempty]
    refine AsksOk.bind asks_getRbg fun rbg _ => ?_
    refine AsksOk.bind (Q := fun _ => True) (AsksOk.pure trivial) fun ready _ => ?_
    cases ready with
    | false => exact AsksOk.pure trivial
    | true =>
        refine AsksOk.bind (asks_scaleTargets hne) fun _ _ => ?_
        cases blocking with
        | true => exact asks_waitForReady
        | false => exact AsksOk.pure trivial

/-- A call leaves the governed count of every role it does not target, whatever
answers it gets and wherever it stops. -/
theorem setReplicas_frame {targets : List TargetReplica} {blocking : Bool} {out}
    (hs : Serves names s) (h : self.Executes (self.setReplicas targets blocking) s tr out s')
    (hne : ∀ target ∈ targets, target.roleName ≠ roleName) :
    self.governed s' roleName = self.governed s roleName := by
  have hasks : AsksLeaving self names roleName (fun _ => True)
      (self.setReplicas targets blocking) := asks_setReplicas hne
  have hkept : Serves names s' ∧ self.governed s' roleName = self.governed s roleName := by
    refine Asks.exec_preserves hasks
      (I := fun t => Serves names t ∧ self.governed t roleName = self.governed s roleName)
      ?_ ?_ ?_ h ⟨hs, rfl⟩
    · intro t t' hcopy ⟨hserves, hgoverned⟩
      exact ⟨serves_copies hcopy hserves, (governed_copies hcopy roleName).trans hgoverned⟩
    · intro op t r t' ⟨⟨rbg, hrbg, hnames, _⟩, _⟩ hanswer
      cases hanswer with
      | read hread =>
          intro found hfound
          obtain rfl := Except.ok.inj hfound
          obtain rfl := Option.some.inj (hread.symm.trans hrbg)
          exact hnames
      | missing _ => exact fun _ hfound => by cases hfound
      | readFailed _ => exact fun _ hfound => by cases hfound
      | scaled _ | noAdapter _ | scaleFailed _ | patched _ _ _ | patchFailed | slept => trivial
    · intro op t r t' hleaves ⟨hserves, hgoverned⟩ hanswer
      refine ⟨serves_answers hanswer hserves, ?_⟩
      rw [← hgoverned]
      cases hanswer with
      | scaled hold => exact governed_setAdapter_of_ne hleaves
      | patched hrbg hrole hreplicas =>
          obtain ⟨other, hother, hindex⟩ := hleaves
          obtain ⟨rbg, hrbg', hnames, -⟩ := hserves
          obtain rfl := Option.some.inj (hrbg.symm.trans hrbg')
          rw [← hnames] at hindex
          exact governed_patchReplicas_of_ne hrbg hindex hother.symm
      | read _ | missing _ | readFailed _ | noAdapter _ | scaleFailed _ | patchFailed | slept =>
          rfl
  exact hkept.2

end RbgPlanner.Planner.RBGConnector
