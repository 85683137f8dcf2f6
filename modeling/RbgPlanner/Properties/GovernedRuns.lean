import RbgPlanner.Properties.EarnedWrites
import RbgPlanner.Properties.InertBudget

/-!
# Governed counts over a run

A planner among the controllers of the cluster. Whatever holds of the counts it
decides on, and at the start, holds of the governed counts of its two roles in
every state of every run, and no other role is touched.
-/

namespace RbgPlanner.Properties

open Base Base.Prog Planner InertBudget

/-! ## The cluster around a planner -/

/-- The answers to a running planner whose queries hear these. The clock may show anything. -/
inductive LoopAnswers (heard : String → Except PyExc (List PyFloat) → Prop) :
    (op : LoopOp) → ScalingState → LoopResp op → ScalingState → Prop
  | scaling {op s r s'} (h : Answers op s r s') : LoopAnswers heard (.api (.rbg op)) s r s'
  | query {query s r} (h : heard query r) : LoopAnswers heard (.api (.query query)) s r s
  | time {s t} : LoopAnswers heard .time s t s
  | sleep {seconds s} : LoopAnswers heard (.sleep seconds) s () s

/-- The roles are these. -/
def Named (names : List String) (s : ScalingState) : Prop :=
  ∀ rbg, s.rbg = some rbg → rbg.roleNames = names

/-- A step of the others: it keeps the roles and scales nothing. -/
def KeepsCounts (connector : RBGConnector) (names : List String) (s s' : ScalingState) : Prop :=
  (Named names s → Named names s') ∧ ∀ roleName,
    connector.governed s' roleName = connector.governed s roleName

/-- The counts of the two roles satisfy `P` and `Q`, and every other one is as at the start. -/
structure KeepsRoles (connector : RBGConnector) (config : PlannerConfig) (names : List String)
    (start : ScalingState) (P Q : ℤ → Prop) (s : ScalingState) : Prop where
  named : Named names s
  prefill : P (connector.governed s config.prefillRoleName)
  decode : Q (connector.governed s config.decodeRoleName)
  others : ∀ roleName, roleName ≠ config.prefillRoleName → roleName ≠ config.decodeRoleName →
    connector.governed s roleName = connector.governed start roleName

variable {connector : RBGConnector} {config : PlannerConfig} {names : List String}
  {start s s' : ScalingState} {heard : String → Except PyExc (List PyFloat) → Prop}
  {P Q : ℤ → Prop} {D : ℤ × ℤ → Prop}

/-- The controller that copies adapters into roles takes such steps. -/
theorem keepsCounts_copies (h : connector.Copies s s') : KeepsCounts connector names s s' := by
  refine ⟨fun hnamed => ?_, fun roleName => RBGConnector.governed_copies h roleName⟩
  obtain ⟨rbg, roleName, n, hrbg, -, -, rfl⟩ := h
  rintro _ hrbg'
  obtain rfl := Option.some.inj hrbg'
  rw [Rbg.roleNames_copyReplicas]
  exact hnamed rbg hrbg

theorem KeepsRoles.env (henv : KeepsCounts connector names s s')
    (hs : KeepsRoles connector config names start P Q s) :
    KeepsRoles connector config names start P Q s' where
  named := henv.1 hs.named
  prefill := by rw [henv.2]; exact hs.prefill
  decode := by rw [henv.2]; exact hs.decode
  others := fun roleName hp hd => (henv.2 roleName).trans (hs.others roleName hp hd)

/-- Scaling a role of the planner to a count it decides on. -/
theorem KeepsRoles.scale {target : TargetReplica}
    (hs : KeepsRoles connector config names start P Q s) (hnamed : Named names s')
    (hgoverned : ∀ other, connector.governed s' other =
      if other = target.roleName then target.desiredReplicas else connector.governed s other)
    (hroles : config.prefillRoleName ≠ config.decodeRoleName) {decided : ℤ × ℤ}
    (hdecided : P decided.1 ∧ Q decided.2) (htarget : target ∈ config.targets decided) :
    KeepsRoles connector config names start P Q s' := by
  rcases List.mem_pair.mp htarget with rfl | rfl
  · refine ⟨hnamed, ?_, ?_, fun other hp hd => ?_⟩
    · rw [hgoverned, if_pos rfl]
      exact hdecided.1
    · rw [hgoverned, if_neg hroles.symm]
      exact hs.decode
    · rw [hgoverned, if_neg hp]
      exact hs.others other hp hd
  · refine ⟨hnamed, ?_, ?_, fun other hp hd => ?_⟩
    · rw [hgoverned, if_neg hroles]
      exact hs.prefill
    · rw [hgoverned, if_pos rfl]
      exact hdecided.2
    · rw [hgoverned, if_neg hd]
      exact hs.others other hp hd

/-- Reads see the roles. -/
def LoopSees (names : List String) : (op : LoopOp) → LoopResp op → Prop
  | .api (.rbg .getRbg), r => ∀ rbg, r = .ok rbg → rbg.roleNames = names
  | _, _ => True

theorem loopSees_answers {op : LoopOp} {r : LoopResp op} (hs : Named names s)
    (h : LoopAnswers heard op s r s') : LoopSees names op r := by
  cases h with
  | query | time | sleep => trivial
  | scaling h =>
      cases h with
      | read hrbg =>
          intro rbg hread
          obtain rfl := Except.ok.inj hread
          exact hs _ hrbg
      | missing _ => exact fun _ hread => by cases hread
      | readFailed _ => exact fun _ hread => by cases hread
      | scaled _ | noAdapter _ | scaleFailed _ | patched _ _ _ | patchFailed | slept => trivial

theorem loopHears_answers {op : LoopOp} {r : LoopResp op} (h : LoopAnswers heard op s r s') :
    LoopHears heard op r := by
  cases h with
  | query h => exact h
  | scaling _ | time | sleep => trivial

/-- An answer to an earned request keeps the roles. -/
theorem KeepsRoles.answer (hdecided : ∀ decided, D decided → P decided.1 ∧ Q decided.2)
    (hroles : config.prefillRoleName ≠ config.decodeRoleName) {h : List LoopEvent} {op : LoopOp}
    {r : LoopResp op} (hearned : EarnedScaling connector config D h ⟨op, r⟩)
    (hsees : ∀ e ∈ h, LoopSees names e.1 e.2)
    (hs : KeepsRoles connector config names start P Q s) (ha : LoopAnswers heard op s r s') :
    KeepsRoles connector config names start P Q s' := by
  cases ha with
  | query _ | time | sleep => exact hs
  | @scaling op _ r _ ha =>
      have hrests := hearned ⟨op, r⟩ rfl
      cases ha with
      | read _ | missing _ | readFailed _ | noAdapter _ | scaleFailed _ | patchFailed | slept =>
          exact hs
      | scaled hold =>
          obtain ⟨-, -, before, t, rfl, decided, before', t', htaken, rfl, target, hrest, rfl⟩ :=
            hrests trivial
          obtain ⟨htarget, rfl, -⟩ := hrest
          refine hs.scale hs.named (fun other => ?_) hroles (hdecided _ htaken) htarget
          exact RBGConnector.governed_setAdapter _ other _
      | @patched _ rbg index n role hrbg hrole hreplicas =>
          obtain ⟨-, -, before, t, rfl, decided, before', t', htaken, rfl, target, earlier, fresh,
            hrest, rfl, hindex⟩ := hrests trivial
          obtain ⟨htarget, rfl, -⟩ := hrest
          have hfresh : fresh.roleNames = names :=
            hsees ⟨.api (.rbg .getRbg), .ok fresh⟩ (by simp [serviceEvent, loopEvent]) fresh rfl
          rw [Rbg.findIdx_eq, hfresh, ← hs.named rbg hrbg] at hindex
          have hnamed : Named names { s with rbg := some (rbg.patchReplicas index
              target.desiredReplicas) } := by
            rintro _ hrbg'
            obtain rfl := Option.some.inj hrbg'
            rw [Rbg.roleNames_patchReplicas]
            exact hs.named rbg hrbg
          cases hadapter : s.adapters (connector.adapterName target.roleName) with
          | none =>
              exact hs.scale hnamed (RBGConnector.governed_patchReplicas hrbg hadapter hindex)
                hroles (hdecided _ htaken) htarget
          | some m =>
              -- an adapter that has appeared since governs the role
              refine KeepsRoles.env ⟨fun _ => hnamed, fun other => ?_⟩ hs
              by_cases hother : other = target.roleName
              · subst hother
                simp [RBGConnector.governed, hadapter]
              · exact RBGConnector.governed_patchReplicas_of_ne hrbg hindex hother

/-- What holds of the counts that a planner decides on is kept in every run among
the other controllers, wherever it ends. -/
theorem run_keepsRoles {forecasters : Forecasters} {I : PlannerState → Prop}
    {planner : PlannerState} {turns : ℕ} {tr : List LoopEvent} {out}
    (hkeeps : Keeps heard forecasters config I D) (hplanner : I planner)
    (hdecided : ∀ decided, D decided → P decided.1 ∧ Q decided.2)
    (hroles : config.prefillRoleName ≠ config.decodeRoleName)
    (hs : KeepsRoles connector config names start P Q s)
    (h : (ExceptT.run (planner.run connector forecasters turns)).Exec (LoopAnswers heard)
      (KeepsCounts connector names) s tr out s') :
    KeepsRoles connector config names start P Q s' := by
  have htells : (ExceptT.run (planner.run connector forecasters turns)).Tells
      (fun op r => LoopSees names op r ∧ LoopHears heard op r)
      (EarnedScaling connector config D) (fun _ _ => True) [] :=
    (tells_run hkeeps hplanner).assume fun _ _ h => h.2
  exact (htells.and (Tells.answered _ nofun)).exec_preserves
    (I := KeepsRoles connector config names start P Q)
    (fun _ _ henv hs => hs.env henv)
    (fun _ _ _ _ hs ha => ⟨loopSees_answers hs.named ha, loopHears_answers ha⟩)
    (fun _ _ _ _ _ hearned hs ha => hs.answer hdecided hroles hearned.1
      (fun e he => (hearned.2 e he).1) ha) h hs

/-- A host answers as a cluster does. -/
theorem loopAnswers_serve {reading : PyFloat} (hheard : ∀ query, heard query (.ok [reading]))
    (op : LoopOp) (host : Host) :
    LoopAnswers heard op host.cluster (Host.serve reading op host).1
      (Host.serve reading op host).2.cluster := by
  cases op with
  | api op =>
      cases op with
      | rbg op => exact .scaling (answers_serve op host.cluster)
      | query _ => exact .query (hheard _)
  | time => exact .time
  | sleep _ => exact .sleep

end RbgPlanner.Properties
