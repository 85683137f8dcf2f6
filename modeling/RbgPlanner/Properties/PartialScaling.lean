import RbgPlanner.Planner.ScalingWrites

/-!
# Partial scaling

The connector offers to set the replicas of multiple roles at once, and looks
up, compares and writes one after the other. This module decides for which
targets a call that raises leaves everything as it was.
-/

namespace RbgPlanner.Properties.PartialScaling

open Base Prog Planner Planner.RBGConnector

/-- Every role and every adapter has the same desired replicas in both states. -/
structure SameReplicas (s s' : ScalingState) : Prop where
  roles : s'.rbg.map Rbg.roles = s.rbg.map Rbg.roles
  adapters : s'.adapters = s.adapters

/-- A call of `set_replicas` with nobody else at work leaves all desired
replicas when it raises, whatever the outcome of each API call. -/
def AllOrNothing (self : RBGConnector) (targets : List TargetReplica) (blocking : Bool)
    (s : ScalingState) : Prop :=
  ∀ tr e s', (ExceptT.run (self.setReplicas targets blocking)).Exec Answers Still s tr
    (.done (.error e)) s' → SameReplicas s s'

/-- Whatever these targets write last for a role, an adapter of the role holds already. -/
def Harmless (self : RBGConnector) (rbg : Rbg) (s : ScalingState) (targets : List TargetReplica) :
    Prop :=
  ∀ roleName n, lastWrite rbg targets roleName = some n →
    s.adapters (self.adapterName roleName) = some n

/-- Wherever the call may raise, the targets that it passed before are harmless. -/
structure HarmlessBefore (self : RBGConnector) (rbg : Rbg) (s : ScalingState)
    (targets : List TargetReplica) (blocking : Bool) : Prop where
  raising : ∀ before target later, targets = before ++ target :: later →
    (∀ t ∈ before, self.Passes rbg s t) → MayRaise rbg target → Harmless self rbg s before
  waiting : blocking = true → (∀ t ∈ targets, self.Passes rbg s t) → Harmless self rbg s targets

variable {self : RBGConnector} {s : ScalingState} {rbg : Rbg} {targets : List TargetReplica}
  {blocking : Bool}

theorem SameReplicas.refl (s : ScalingState) : SameReplicas s s := ⟨rfl, rfl⟩

/-- Harmless targets write no role, and no adapter in the end. -/
theorem Harmless.sameReplicas (h : Harmless self rbg s targets) :
    SameReplicas s (targets.foldl (self.writeDiffering rbg) s) where
  roles := by
    rw [rbg_foldl]
    intro t ht hdiffers
    obtain ⟨n, hn⟩ := Option.isSome_iff_exists.mp (isSome_lastWrite ht hdiffers)
    rw [h t.roleName n hn]
    rfl
  adapters := by
    funext adapterName
    by_cases hname : ∃ roleName, adapterName = self.adapterName roleName
    · obtain ⟨roleName, rfl⟩ := hname
      rw [adapters_foldl]
      cases hlast : lastWrite rbg targets roleName with
      | none => simp
      | some n => simp [h roleName n hlast]
    · exact adapters_foldl_of_ne (not_exists.mp hname) targets

/-- Targets that leave all desired replicas are harmless. -/
theorem harmless_of_sameReplicas (hrbg : s.rbg = some rbg)
    (hpresent : ∀ t ∈ targets, t.roleName ∈ rbg.roleNames)
    (h : SameReplicas s (targets.foldl (self.writeDiffering rbg) s)) :
    Harmless self rbg s targets := by
  intro roleName n hlast
  cases hadapter : s.adapters (self.adapterName roleName) with
  | some old =>
      have hwritten : (targets.foldl (self.writeDiffering rbg) s).adapters
          (self.adapterName roleName) = _ := adapters_foldl targets roleName
      rw [h.adapters, hadapter, hlast] at hwritten
      exact hwritten
  | none =>
      -- the role itself was written, and differs from what was read
      have hwritten := count_foldl hrbg hpresent hadapter
      obtain ⟨rbg', hrbg', hroles⟩ := Option.map_eq_some_iff.mp
        (h.roles.trans (congrArg (Option.map Rbg.roles) hrbg))
      have hcount : rbg'.replicas roleName = rbg.replicas roleName := by
        simp only [Rbg.replicas, Rbg.role?, hroles]
      rw [ScalingState.count, hrbg', hlast, Option.map_some, hcount] at hwritten
      exact absurd (Option.some.inj hwritten) (replicas_ne_lastWrite hlast)

/-- The call is all or nothing exactly when the RoleBasedGroup is not there or
not Ready, or the call may raise behind harmless targets only. -/
theorem allOrNothing_iff :
    AllOrNothing self targets blocking s ↔
      ∀ rbg, s.rbg = some rbg → rbg.isReady = true →
        HarmlessBefore self rbg s targets blocking := by
  have hpre : AllOrNothing self targets blocking s ↔
      Pre (fun _ _ => True) (SameReplicas s) (self.setReplicas targets blocking) s :=
    wpRaise_true_iff_exec.symm
  rw [hpre, pre_setReplicas, and_iff_right (SameReplicas.refl s)]
  refine forall_congr' fun rbg => forall₂_congr fun hrbg _ => ⟨?_, ?_⟩
  · rintro ⟨hraising, hwaiting⟩
    constructor
    · intro before target later hsplit hbefore hmay
      exact harmless_of_sameReplicas hrbg (fun t ht => (hbefore t ht).present)
        (hraising before target later hsplit hbefore hmay)
    · intro hblocking hall
      exact harmless_of_sameReplicas hrbg (fun t ht => (hall t ht).present)
        (hwaiting hblocking hall)
  · rintro ⟨hraising, hwaiting⟩
    constructor
    · intro before target later hsplit hbefore hmay
      exact (hraising before target later hsplit hbefore hmay).sameReplicas
    · intro hblocking hall
      exact (hwaiting hblocking hall).sameReplicas

/-- Of two targets, the first of which can be passed and has no adapter, either
the first is at its count or the call cannot raise at the second. -/
theorem harmlessBefore_pair_iff {first second : TargetReplica} (hpasses : self.Passes rbg s first)
    (hadapter : s.adapters (self.adapterName first.roleName) = none) :
    HarmlessBefore self rbg s [first, second] false ↔
      rbg.replicas first.roleName = first.desiredReplicas ∨ ¬ MayRaise rbg second := by
  constructor
  · rintro ⟨hraising, -⟩
    refine or_iff_not_imp_left.mpr fun hdiffers hmay => ?_
    have hlast : lastWrite rbg ([] ++ [first]) first.roleName = some first.desiredReplicas := by
      rw [lastWrite_append, if_pos ⟨rfl, hdiffers⟩]
    have hholds := hraising [first] second [] rfl (by simpa using hpasses) hmay _ _ hlast
    cases hadapter.symm.trans hholds
  · intro hpair
    refine ⟨fun before target later hsplit _ hmay => ?_, nofun⟩
    match before with
    | [] => exact fun roleName n hlast => by cases hlast
    | [only] =>
        obtain ⟨rfl, htail⟩ := List.cons.inj hsplit
        obtain ⟨rfl, -⟩ := List.cons.inj htail
        have hequal := hpair.resolve_right (not_not.mpr hmay)
        intro roleName n hlast
        simp [lastWrite, lastTarget, hequal] at hlast
    | _ :: _ :: before => simp at hsplit

/-! ## Prefill without decode -/

private def pairConnector : RBGConnector := ⟨"qwen", "serving", "prefill", "decode"⟩

/-- A Ready RoleBasedGroup with two prefill engines, one decode engine, and no adapters. -/
private def pairState : ScalingState where
  rbg := some
    { roles := [{ name := "prefill", replicas := some 2 }, { name := "decode", replicas := some 1 }]
      roleStatuses := []
      conditions := [{ type := "Ready", status := "True" }] }
  adapters := fun _ => none

/-- An API server that fails once the prefill engines are four. -/
private def failingServe (op : RbgOp) (s : ScalingState) : RbgResp op × ScalingState :=
  match op with
  | .patchScale name n =>
      if s.count "prefill" = some 4 then (.error 500, s) else s.serve (.patchScale name n)
  | op => s.serve op

private theorem answers_failingServe (op : RbgOp) (s : ScalingState) :
    Answers op s (failingServe op s).1 (failingServe op s).2 := by
  cases op with
  | patchScale name n =>
      unfold failingServe
      dsimp only
      split_ifs
      · exact .scaleFailed (by decide)
      · exact answers_serve _ s
  | getRbg | patchRole _ _ | sleep _ => exact answers_serve _ s

/-- The call for four prefill engines and three decode engines. -/
private def pairCall : RbgProg (Except PlannerExc Unit) :=
  ExceptT.run (pairConnector.setReplicas [⟨"prefill", 4⟩, ⟨"decode", 3⟩] false)

/-- The prefill engines are scaled, the request for the decode engines fails,
and the roles are left at counts of two different plans. -/
theorem half_scaled :
    (pairCall.run failingServe pairState).1 = .error (.apiException 500) ∧
      (pairCall.run failingServe pairState).2.count "prefill" = some 4 ∧
      (pairCall.run failingServe pairState).2.count "decode" = some 1 ∧
      ¬ AllOrNothing pairConnector [⟨"prefill", 4⟩, ⟨"decode", 3⟩] false pairState := by
  have hraises : (pairCall.run failingServe pairState).1 = .error (.apiException 500) := by
    decide +kernel
  have hprefill : (pairCall.run failingServe pairState).2.count "prefill" = some 4 := by
    decide +kernel
  refine ⟨hraises, hprefill, by decide +kernel, fun h => ?_⟩
  have hexec : pairCall.Exec Answers Still pairState _ _ _ :=
    exec_of_run answers_failingServe pairCall pairState
  rw [hraises] at hexec
  have hroles := (h _ _ _ hexec).roles
  have hcount : (pairCall.run failingServe pairState).2.rbg.map Rbg.roles ≠
      pairState.rbg.map Rbg.roles := by decide +kernel
  exact hcount hroles

end RbgPlanner.Properties.PartialScaling
