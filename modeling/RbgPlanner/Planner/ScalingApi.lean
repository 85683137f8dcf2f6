import RbgPlanner.Base.ProgramLogic
import RbgPlanner.Planner.RbgConnector

/-!
# Scaling a RoleBasedGroup

What the connector's calls do to a RoleBasedGroup and its scaling adapters, and
the controller that copies an adapter's replicas into its role, at any time.
The count of a role is governed by its adapter when it has one.
-/

namespace RbgPlanner.Planner

open Base

/-- The RoleBasedGroup and the replicas of each adapter, by its name. -/
structure ScalingState where
  rbg : Option Rbg
  adapters : String → Option ℤ

/-- The replicas of a role. -/
def ScalingState.count (s : ScalingState) (roleName : String) : Option ℤ :=
  s.rbg.map fun rbg => rbg.replicas roleName

/-! ## Changes of a RoleBasedGroup -/

namespace Rbg

/-- Replace the replicas of the role at a position. -/
def patchReplicas (rbg : Rbg) (index : ℕ) (n : ℤ) : Rbg :=
  { rbg with roles := rbg.roles.modify index fun role => { role with replicas := some n } }

/-- What the controller makes of the replicas of an adapter. -/
def copyReplicas (rbg : Rbg) (roleName : String) (n : ℤ) : Rbg :=
  { rbg with roles := rbg.roles.map fun role =>
      if role.name = roleName then { role with replicas := some n } else role }

/-- The names of the roles, in order. -/
def roleNames (rbg : Rbg) : List String := rbg.roles.map RbgRole.name

variable {rbg : Rbg} {roleName other : String} {n : ℤ}

@[simp] theorem roleNames_patchReplicas (index : ℕ) :
    (rbg.patchReplicas index n).roleNames = rbg.roleNames := by
  apply List.ext_getElem
  · simp [roleNames, patchReplicas]
  · intro i h₁ h₂
    simp only [roleNames, patchReplicas, List.getElem_map, List.getElem_modify]
    split_ifs <;> rfl

@[simp] theorem roleNames_copyReplicas :
    (rbg.copyReplicas roleName n).roleNames = rbg.roleNames := by
  simp only [roleNames, copyReplicas, List.map_map]
  apply List.map_congr_left
  intro role _
  dsimp only [Function.comp]
  split_ifs <;> rfl

/-- The position of a role is a matter of the names. -/
theorem findIdx_eq (rbg : Rbg) (roleName : String) :
    (rbg.roles.findIdx? fun role => role.name == roleName) =
      rbg.roleNames.findIdx? (· == roleName) := by
  simp [roleNames, List.findIdx?_map, Function.comp_def]

theorem role?_isSome_iff : (rbg.role? roleName).isSome ↔ roleName ∈ rbg.roleNames := by
  simp [role?, roleNames, List.find?_isSome]

/-- Changing one entry of a list, seen through a search by name. -/
theorem find_modify {roles : List RbgRole} {index : ℕ}
    (hindex : (roles.map RbgRole.name).findIdx? (· == roleName) = some index) :
    ((roles.modify index fun role => { role with replicas := some n }).find? fun role =>
        role.name == other) =
      if other = roleName then
        (roles.find? fun role => role.name == other).map fun role =>
          { role with replicas := some n }
      else roles.find? fun role => role.name == other := by
  induction roles generalizing index with
  | nil => simp at hindex
  | cons role roles ih =>
      rw [List.map_cons, List.findIdx?_cons] at hindex
      by_cases hname : role.name = roleName
      · simp only [hname, beq_self_eq_true, if_true, Option.some.injEq] at hindex
        subst hindex
        by_cases hother : other = roleName
        · simp [hname, hother]
        · have hne : (roleName == other) = false := by simpa using Ne.symm hother
          simp [hname, hother, hne]
      · have hne : (role.name == roleName) = false := by simpa using hname
        simp only [hne, Bool.false_eq_true, if_false, Option.map_eq_some_iff] at hindex
        obtain ⟨tail, htail, rfl⟩ := hindex
        rw [List.modify_succ_cons, List.find?_cons, List.find?_cons, ih htail]
        by_cases hrole : role.name = other
        · have hother : other ≠ roleName := fun h => hname (hrole.trans h)
          simp [hrole, hother]
        · have hrole : (role.name == other) = false := by simpa using hrole
          simp [hrole]

theorem replicas_patchReplicas {index : ℕ}
    (hindex : rbg.roleNames.findIdx? (· == roleName) = some index) :
    (rbg.patchReplicas index n).replicas other =
      if other = roleName then n else rbg.replicas other := by
  have hmem : roleName ∈ rbg.roleNames := by
    have hsome : (rbg.roleNames.findIdx? (· == roleName)).isSome = true := by rw [hindex]; rfl
    simpa [List.findIdx?_isSome] using hsome
  have hfind : (rbg.patchReplicas index n).role? other = _ := find_modify hindex
  unfold replicas
  rw [hfind]
  split_ifs with hother
  · subst hother
    obtain ⟨role, hrole⟩ := Option.isSome_iff_exists.mp (role?_isSome_iff.mpr hmem)
    have hrole : (rbg.roles.find? fun role => role.name == other) = some role := hrole
    rw [hrole]
    rfl
  · rfl

theorem replicas_copyReplicas (hmem : roleName ∈ rbg.roleNames) :
    (rbg.copyReplicas roleName n).replicas other =
      if other = roleName then n else rbg.replicas other := by
  have hname : (fun role : RbgRole => role.name == other) ∘ (fun role : RbgRole =>
      if role.name = roleName then { role with replicas := some n } else role) =
        fun role => role.name == other := by
    funext role
    dsimp only [Function.comp]
    split_ifs <;> rfl
  unfold replicas role? copyReplicas
  rw [List.find?_map, hname]
  split_ifs with hother
  · subst hother
    obtain ⟨role, hrole⟩ := Option.isSome_iff_exists.mp (role?_isSome_iff.mpr hmem)
    have hrole : (rbg.roles.find? fun role => role.name == other) = some role := hrole
    have hrolename : role.name = other := by simpa using List.find?_some hrole
    simp [hrole, hrolename]
  · cases hrole : rbg.roles.find? fun role => role.name == other with
    | none => rfl
    | some role =>
        have hrolename : role.name = other := by simpa using List.find?_some hrole
        have hne : role.name ≠ roleName := fun h => hother (hrolename.symm.trans h)
        simp [hne]

end Rbg

/-! ## The API server and the controller -/

namespace ScalingState

/-- Set the replicas of an adapter. -/
def setAdapter (s : ScalingState) (adapterName : String) (n : ℤ) : ScalingState :=
  { s with adapters := Function.update s.adapters adapterName (some n) }

end ScalingState

/-- The answers of the API server with what they change. A call can fail with
another status than 404 and then changes nothing. -/
inductive Answers : (op : RbgOp) → ScalingState → RbgResp op → ScalingState → Prop
  | read {s rbg} (h : s.rbg = some rbg) : Answers .getRbg s (.ok rbg) s
  | missing {s} (h : s.rbg = none) : Answers .getRbg s (.error 404) s
  | readFailed {s status} (h : status ≠ 404) : Answers .getRbg s (.error status) s
  | scaled {s name n old} (h : s.adapters name = some old) :
      Answers (.patchScale name n) s (.ok ()) (s.setAdapter name n)
  | noAdapter {s name n} (h : s.adapters name = none) :
      Answers (.patchScale name n) s (.error 404) s
  | scaleFailed {s name n status} (h : status ≠ 404) :
      Answers (.patchScale name n) s (.error status) s
  | patched {s rbg index n role} (h : s.rbg = some rbg) (hrole : rbg.roles[index]? = some role)
      (hreplicas : role.replicas.isSome) :
      Answers (.patchRole index n) s (.ok ()) { s with rbg := some (rbg.patchReplicas index n) }
  | patchFailed {s index n status} : Answers (.patchRole index n) s (.error status) s
  | slept {s seconds} : Answers (.sleep seconds) s () s

/-- An API server that accepts whatever it can. -/
def ScalingState.serve : (op : RbgOp) → ScalingState → RbgResp op × ScalingState
  | .getRbg, s =>
      match s.rbg with
      | some rbg => (.ok rbg, s)
      | none => (.error 404, s)
  | .patchScale name n, s =>
      match s.adapters name with
      | some _ => (.ok (), s.setAdapter name n)
      | none => (.error 404, s)
  | .patchRole index n, s =>
      match s.rbg with
      | some rbg =>
          if (rbg.roles[index]?.bind RbgRole.replicas).isSome then
            (.ok (), { s with rbg := some (rbg.patchReplicas index n) })
          else (.error 422, s)
      | none => (.error 404, s)
  | .sleep _, s => ((), s)

theorem answers_serve (op : RbgOp) (s : ScalingState) :
    Answers op s (s.serve op).1 (s.serve op).2 := by
  cases op with
  | getRbg =>
      simp only [ScalingState.serve]
      cases h : s.rbg with
      | some rbg => exact .read h
      | none => exact .missing h
  | patchScale name n =>
      simp only [ScalingState.serve]
      cases h : s.adapters name with
      | some old => exact .scaled h
      | none => exact .noAdapter h
  | patchRole index n =>
      simp only [ScalingState.serve]
      cases h : s.rbg with
      | none => exact .patchFailed
      | some rbg =>
          dsimp only
          split_ifs with hreplicas
          · obtain ⟨m, hm⟩ := Option.isSome_iff_exists.mp hreplicas
            obtain ⟨role, hrole, hm⟩ := Option.bind_eq_some_iff.mp hm
            exact .patched h hrole (by rw [hm]; rfl)
          · exact .patchFailed
  | sleep seconds => exact .slept

namespace RBGConnector

variable (self : RBGConnector)

/-- One step of the controller: the replicas of an adapter arrive at its role. -/
def Copies (s s' : ScalingState) : Prop :=
  ∃ rbg roleName n, s.rbg = some rbg ∧ roleName ∈ rbg.roleNames ∧
    s.adapters (self.adapterName roleName) = some n ∧
      s' = { s with rbg := some (rbg.copyReplicas roleName n) }

/-- An interleaved execution of a call. -/
abbrev Executes {α : Type} (x : RbgCall α) (s : ScalingState) (tr : List RbgEvent)
    (out : Prog.Outcome (Except PlannerExc α)) (s' : ScalingState) : Prop :=
  (ExceptT.run x).Exec Answers self.Copies s tr out s'

/-- The count a role has or is going to have: its adapter's when there is one. -/
def governed (s : ScalingState) (roleName : String) : ℤ :=
  match s.adapters (self.adapterName roleName) with
  | some n => n
  | none =>
      match s.rbg with
      | some rbg => rbg.replicas roleName
      | none => 0

/-- The RoleBasedGroup is there, Ready, and has roles of these names. -/
def Serves (names : List String) (s : ScalingState) : Prop :=
  ∃ rbg, s.rbg = some rbg ∧ rbg.roleNames = names ∧ rbg.isReady = true

/-- All pending copies are done: the roles have the replicas of their adapters. -/
def Settled (s : ScalingState) : Prop :=
  ∀ rbg roleName n, s.rbg = some rbg → roleName ∈ rbg.roleNames →
    s.adapters (self.adapterName roleName) = some n → rbg.replicas roleName = n

variable {self} {names : List String} {s s' : ScalingState} {roleName : String} {n : ℤ}

theorem adapterName_injective (self : RBGConnector) : Function.Injective self.adapterName := by
  intro a b h
  simpa [adapterName] using h

theorem serves_copies (h : self.Copies s s') (hs : Serves names s) : Serves names s' := by
  obtain ⟨rbg, role, n, hrbg, -, -, rfl⟩ := h
  obtain ⟨rbg', hrbg', hnames, hready⟩ := hs
  obtain rfl := Option.some.inj (hrbg.symm.trans hrbg')
  exact ⟨_, rfl, by rw [Rbg.roleNames_copyReplicas, hnames], hready⟩

/-- Copying changes no governed count. -/
theorem governed_copies (h : self.Copies s s') (roleName : String) :
    self.governed s' roleName = self.governed s roleName := by
  obtain ⟨rbg, role, n, hrbg, hmem, hadapter, rfl⟩ := h
  unfold governed
  cases hother : s.adapters (self.adapterName roleName) with
  | some _ => rfl
  | none =>
      have hne : roleName ≠ role := by
        rintro rfl
        cases hother.symm.trans hadapter
      simp only [hrbg, Rbg.replicas_copyReplicas hmem, if_neg hne]

/-- In a settled state the count of a role is its governed count. -/
theorem Settled.count (hsettled : self.Settled s) (hs : Serves names s) (hmem : roleName ∈ names) :
    s.count roleName = some (self.governed s roleName) := by
  obtain ⟨rbg, hrbg, hnames, -⟩ := hs
  simp only [ScalingState.count, hrbg, Option.map_some, governed]
  cases hadapter : s.adapters (self.adapterName roleName) with
  | some m => rw [hsettled rbg roleName m hrbg (by rwa [hnames]) hadapter]
  | none => rfl

/-- What any number of copies leave: names, readiness, adapters and governed counts. -/
structure Settles (connector : RBGConnector) (names : List String) (s s' : ScalingState) :
    Prop where
  serves : Serves names s'
  adapters : s'.adapters = s.adapters
  governed : ∀ roleName, connector.governed s' roleName = connector.governed s roleName

theorem settles_star (h : Relation.ReflTransGen self.Copies s s') (hs : Serves names s) :
    Settles self names s s' := by
  induction h with
  | refl => exact ⟨hs, rfl, fun _ => rfl⟩
  | tail _ hcopy ih =>
      refine ⟨serves_copies hcopy ih.serves, ?_, ?_⟩
      · obtain ⟨rbg, role, n, -, -, -, rfl⟩ := hcopy
        exact ih.adapters
      · intro roleName
        rw [governed_copies hcopy, ih.governed]

/-- Scaling another adapter leaves a role. -/
theorem governed_setAdapter_of_ne {adapterName : String}
    (h : adapterName ≠ self.adapterName roleName) :
    self.governed (s.setAdapter adapterName n) roleName = self.governed s roleName := by
  simp [governed, ScalingState.setAdapter, Function.update_of_ne h.symm]

/-- An adapter that is scaled governs its role and no other. -/
theorem governed_setAdapter (roleName other : String) (n : ℤ) :
    self.governed (s.setAdapter (self.adapterName roleName) n) other =
      if other = roleName then n else self.governed s other := by
  split_ifs with h
  · subst h
    simp [governed, ScalingState.setAdapter]
  · exact governed_setAdapter_of_ne fun heq => h (adapterName_injective self heq).symm

/-- Patching another role leaves a role. -/
theorem governed_patchReplicas_of_ne {rbg : Rbg} {index : ℕ} {other : String}
    (hrbg : s.rbg = some rbg) (hindex : rbg.roleNames.findIdx? (· == roleName) = some index)
    (h : other ≠ roleName) :
    self.governed { s with rbg := some (rbg.patchReplicas index n) } other =
      self.governed s other := by
  simp [governed, hrbg, Rbg.replicas_patchReplicas hindex, h]

/-- A role without an adapter that is patched governs itself. -/
theorem governed_patchReplicas {rbg : Rbg} {index : ℕ} (hrbg : s.rbg = some rbg)
    (hadapter : s.adapters (self.adapterName roleName) = none)
    (hindex : rbg.roleNames.findIdx? (· == roleName) = some index) (other : String) :
    self.governed { s with rbg := some (rbg.patchReplicas index n) } other =
      if other = roleName then n else self.governed s other := by
  split_ifs with h
  · subst h
    simp [governed, hadapter, Rbg.replicas_patchReplicas hindex]
  · exact governed_patchReplicas_of_ne hrbg hindex h

end RBGConnector

end RbgPlanner.Planner
