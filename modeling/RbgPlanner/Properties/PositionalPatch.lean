import RbgPlanner.Base.Pool
import RbgPlanner.Planner.ScalingApi

/-!
# Patching a role by its position

`_patch_rbg_role_replicas` finds the position of a role in one read and patches
that position later. Any number of such calls run while other writers insert,
remove and reorder roles in between.
-/

namespace RbgPlanner.Properties.PositionalPatch

open Base Planner

/-- Roles of other names are where they were, with the replicas they had. -/
def Spares (roleName : String) (before after : Rbg) : Prop :=
  ∀ (i : ℕ) (role : RbgRole), before.roles[i]? = some role → role.name ≠ roleName →
    after.roles[i]? = some role

/-- The position of the role in the read is, at the patch, still a position of
the role, or one whose replicas the patch repeats. -/
def Aligned (roleName : String) (n : ℤ) (read current : Rbg) : Prop :=
  ∃ index role, (read.roles.findIdx? fun role => role.name == roleName) = some index ∧
    current.roles[index]? = some role ∧ (role.name = roleName ∨ role.replicas = some n)

/-- Other writers change the RoleBasedGroup in any way. -/
def Edits (s s' : ScalingState) : Prop := s'.adapters = s.adapters

section Calls

variable (connector : RBGConnector) {ι : Type} (roleName : ι → String) (n : ι → ℤ)

/-- The call under an index. -/
def Starts (i : ι) (p : RbgProg (Except PlannerExc Unit)) : Prop :=
  p = ExceptT.run (connector.patchRbgRoleReplicas (roleName i) (n i))

/-- A call patches the position that its only read gave the role. -/
def PatchesRead (i : ι) (h : Prog.History RbgOp RbgResp) : RbgEvent → Prop
  | ⟨.patchRole index m, _⟩ => m = n i ∧ ∃ read : Rbg, h = [⟨.getRbg, .ok read⟩] ∧
      (read.roles.findIdx? fun role => role.name == roleName i) = some index
  | _ => True

end Calls

variable {connector : RBGConnector} {ι : Type} {roleName : ι → String} {n : ι → ℤ}

/-- The read that a call starts with. -/
theorem tells_getRbg {i : ι} :
    (ExceptT.run connector.getRbg).Tells (fun _ _ => True) (PatchesRead roleName n i)
      (fun h r => ∀ rbg, r = .ok rbg → h = [⟨.getRbg, .ok rbg⟩]) [] := by
  refine Prog.Tells.bind_raising (Q := fun h r => ∃ answer, r = .ok answer ∧
    h = [⟨.getRbg, answer⟩]) (fun r _ => ⟨trivial, r, rfl, rfl⟩) ?_ ?_
  · rintro h a ⟨_, hanswer, rfl⟩
    obtain rfl := Except.ok.inj hanswer
    split
    · rintro _ ⟨⟩
      rfl
    · exact nofun
    · exact nofun
  · rintro h e ⟨_, herror, -⟩
    cases herror

/-- The text of a call: a read, and after a read that has the role one patch. -/
theorem tells_patchRbgRoleReplicas (i : ι) :
    (ExceptT.run (connector.patchRbgRoleReplicas (roleName i) (n i))).Tells (fun _ _ => True)
      (PatchesRead roleName n i) (fun _ _ => True) [] := by
  refine Prog.Tells.bind_raising tells_getRbg ?_ fun _ _ _ => trivial
  intro h rbg hread
  obtain rfl := hread rbg rfl
  split
  · trivial
  · next index hindex =>
      refine Prog.Tells.bind_raising (Q := fun _ _ => True)
        (fun r _ => ⟨⟨rfl, rbg, rfl, hindex⟩, trivial⟩) ?_ fun _ _ _ => trivial
      rintro h (status | _) -
      · trivial
      · trivial

/-! ## One patch -/

/-- A patch of a position spares the other roles exactly when it comes upon the
role itself or writes what is there. -/
theorem spares_patchReplicas_iff {current : Rbg} {name : String} {index : ℕ} {role : RbgRole}
    {m : ℤ} (hrole : current.roles[index]? = some role) :
    Spares name current (current.patchReplicas index m) ↔
      role.name = name ∨ role.replicas = some m := by
  have hpatched : ∀ i, (current.patchReplicas index m).roles[i]? =
      (fun role : RbgRole => if index = i then { role with replicas := some m } else role) <$>
        current.roles[i]? := by
    intro i
    simp only [Rbg.patchReplicas, List.getElem?_modify]
  constructor
  · intro h
    by_contra hother
    obtain ⟨hname, hreplicas⟩ := not_or.mp hother
    have hkept := h index role hrole hname
    rw [hpatched, hrole] at hkept
    simp only [Option.map_eq_map, Option.map_some, if_true, Option.some.injEq] at hkept
    rw [← hkept] at hreplicas
    exact hreplicas rfl
  · intro h i other hi hname
    rw [hpatched, hi]
    by_cases hindex : index = i
    · subst hindex
      obtain rfl := Option.some.inj (hrole.symm.trans hi)
      have hreplicas : role.replicas = some m := h.resolve_left hname
      simp [← hreplicas]
    · simp [hindex]

/-! ## Runs -/

/-- The calls follow their text, whatever the other writers do. -/
theorem outline (connector : RBGConnector) (roleName : ι → String) (n : ι → ℤ) :
    Pool.Outline (Starts connector roleName n) Answers Edits (fun _ _ => True)
      (PatchesRead roleName n) (fun _ => True) fun _ _ _ => True where
  starts := by
    rintro i p rfl
    exact tells_patchRbgRoleReplicas i
  empty := fun _ _ => trivial
  valid := fun _ _ _ _ _ _ => trivial
  env := fun _ _ _ _ => ⟨trivial, fun _ _ _ => trivial⟩
  acts := fun _ _ _ _ _ _ _ _ _ => ⟨trivial, trivial, fun _ _ _ _ => trivial⟩

section Runs

variable [DecidableEq ι] {s : ScalingState}
  {pool pool' : Pool ι RbgOp RbgResp (Except PlannerExc Unit) ScalingState}
  {i : ι} {h : Prog.History RbgOp RbgResp} {index : ℕ} {m : ℤ}

/-- In every run, an accepted patch spares the other roles exactly when the
position in the read is still the role's. -/
theorem patch_spares_iff
    (hreach : Pool.Reaches (Starts connector roleName n) Answers Edits (.idle s) pool)
    (hpatch : Pool.Acts Answers i h ⟨.patchRole index m, .ok ()⟩ pool pool') :
    ∃ read current patched : Rbg, h = [⟨.getRbg, .ok read⟩] ∧ pool.shared.rbg = some current ∧
      pool'.shared.rbg = some patched ∧
        (Spares (roleName i) current patched ↔ Aligned (roleName i) (n i) read current) := by
  have hsound := (Pool.sound_idle trivial).reaches (outline connector roleName n) hreach
  obtain ⟨rfl, read, rfl, hindex⟩ := hsound.allows (outline connector roleName n) hpatch
  cases hpatch with
  | mk hi ha =>
      cases ha with
      | @patched _ current _ _ role hcurrent hrole _ =>
          refine ⟨read, current, _, rfl, hcurrent, rfl, ?_⟩
          rw [spares_patchReplicas_iff hrole, Aligned]
          constructor
          · intro haligned
            exact ⟨index, role, hindex, hrole, haligned⟩
          · rintro ⟨index', role', hindex', hrole', haligned⟩
            obtain rfl := Option.some.inj (hindex.symm.trans hindex')
            obtain rfl := Option.some.inj (hrole.symm.trans hrole')
            exact haligned

end Runs

/-! ## One call and one edit -/

private def twoRoles : Rbg := ⟨[⟨"prefill", some 2⟩, ⟨"decode", some 3⟩], [], []⟩

private def swappedRoles : Rbg := ⟨[⟨"decode", some 3⟩, ⟨"prefill", some 2⟩], [], []⟩

private def storing (rbg : Rbg) : ScalingState := ⟨some rbg, fun _ => none⟩

/-- Calls that scale prefill to five. -/
private def scalePrefill : Unit → RbgProg (Except PlannerExc Unit) → Prop :=
  Starts ⟨"qwen", "serving", "prefill", "decode"⟩ (fun _ => "prefill") fun _ => 5

private abbrev PatchPool := Pool Unit RbgOp RbgResp (Except PlannerExc Unit) ScalingState

/-- The call has started. -/
private def started : PatchPool :=
  (Pool.idle (storing twoRoles)).set () (some ⟨[], ExceptT.run
    (RBGConnector.patchRbgRoleReplicas ⟨"qwen", "serving", "prefill", "decode"⟩ "prefill" 5)⟩)

/-- The call has read both roles, and by now `stored` is stored. -/
private theorem reaches_read (stored : Rbg) :
    ∃ pool : PatchPool, ∃ next,
      Pool.Reaches scalePrefill Answers Edits (.idle (storing twoRoles)) pool ∧
        pool.shared = storing stored ∧
        pool.threads () = some ⟨[⟨.getRbg, .ok twoRoles⟩], .call (.patchRole 0 5) next⟩ := by
  have hstart : Pool.Step scalePrefill Answers Edits (.idle (storing twoRoles)) started :=
    .quiet (.start rfl rfl)
  have hread : Pool.Acts Answers () [] ⟨.getRbg, .ok twoRoles⟩ started _ := .mk rfl (.read rfl)
  have hedited : Pool.Reaches scalePrefill Answers Edits (.idle (storing twoRoles)) _ :=
    ((Relation.ReflTransGen.single hstart).tail (.act hread)).tail
      (.quiet (.env (rfl : Edits _ (storing stored))))
  exact ⟨_, _, hedited, rfl, rfl⟩

/-- Without an edit in between only prefill is touched. -/
theorem patch_spares_iff_unedited :
    ∃ pool pool' : PatchPool, ∃ h current patched,
      Pool.Acts Answers () h ⟨.patchRole 0 5, .ok ()⟩ pool pool' ∧
        pool.shared.rbg = some current ∧ pool'.shared.rbg = some patched ∧
        Spares "prefill" current patched := by
  obtain ⟨⟨_, threads⟩, next, hreach, rfl, hthread⟩ := reaches_read twoRoles
  have hpatch : Pool.Acts Answers () [⟨.getRbg, .ok twoRoles⟩] ⟨.patchRole 0 5, .ok ()⟩
      ⟨storing twoRoles, threads⟩ _ := .mk hthread (.patched rfl rfl rfl)
  obtain ⟨read, current, patched, hread, hcurrent, hpatched, hiff⟩ :=
    patch_spares_iff hreach hpatch
  refine ⟨_, _, _, current, patched, hpatch, hcurrent, hpatched, hiff.mpr ?_⟩
  obtain ⟨⟨⟩, -⟩ := List.cons.inj hread
  obtain rfl := Option.some.inj hcurrent
  exact ⟨0, ⟨"prefill", some 2⟩, rfl, rfl, .inl rfl⟩

/-- A patch that was meant for prefill gives decode five replicas when the two
roles have changed places since the read. -/
theorem swapped_role_patched :
    ∃ pool pool' : PatchPool, ∃ h,
      Pool.Reaches scalePrefill Answers Edits (.idle (storing twoRoles)) pool ∧
        Pool.Acts Answers () h ⟨.patchRole 0 5, .ok ()⟩ pool pool' ∧
        pool.shared.rbg = some swappedRoles ∧
        pool'.shared.rbg = some ⟨[⟨"decode", some 5⟩, ⟨"prefill", some 2⟩], [], []⟩ ∧
        ¬ Spares "prefill" swappedRoles
          ⟨[⟨"decode", some 5⟩, ⟨"prefill", some 2⟩], [], []⟩ := by
  obtain ⟨⟨_, threads⟩, next, hreach, rfl, hthread⟩ := reaches_read swappedRoles
  have hpatch : Pool.Acts Answers () [⟨.getRbg, .ok twoRoles⟩] ⟨.patchRole 0 5, .ok ()⟩
      ⟨storing swappedRoles, threads⟩ _ := .mk hthread (.patched rfl rfl rfl)
  refine ⟨_, _, _, hreach, hpatch, rfl, rfl, ?_⟩
  intro hspares
  have hdecode := hspares 0 ⟨"decode", some 3⟩ rfl (by decide)
  cases hdecode

end RbgPlanner.Properties.PositionalPatch
