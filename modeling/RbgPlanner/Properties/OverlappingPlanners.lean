import RbgPlanner.Base.Pool
import RbgPlanner.Properties.BoundedRuns

/-!
# Planners side by side

While a Deployment is rolled out, the planner it had runs next to the one it
gets, each with its own configuration, and both scale the same roles. A request
of one may come between any two requests of another.
-/

namespace RbgPlanner.Properties.OverlappingPlanners

open Base Base.Prog Planner InertBudget

variable {ι : Type} {connector : RBGConnector} {config : PlannerConfig}
  {configs : ι → PlannerConfig} {names : List String} {start s : ScalingState}

/-- Planner processes over one cluster. -/
abbrev PlannerPool (ι : Type) : Type :=
  Pool ι LoopOp LoopResp (Except PlannerExc RunningPlanner) ScalingState

/-- Under `i` runs a planner with the `i`-th configuration. -/
def Starts (connector : RBGConnector) (configs : ι → PlannerConfig) (i : ι)
    (p : LoopProg (Except PlannerExc RunningPlanner)) : Prop :=
  ∃ (planner : PlannerState) (forecasters : Forecasters) (turns : ℕ),
    planner.config = configs i ∧ p = ExceptT.run (planner.run connector forecasters turns)

/-- The configurations name the same two roles. -/
structure SameRoles (config : PlannerConfig) (configs : ι → PlannerConfig) : Prop where
  prefill : ∀ i, (configs i).prefillRoleName = config.prefillRoleName
  decode : ∀ i, (configs i).decodeRoleName = config.decodeRoleName

/-- Each role within its bounds of one of the configurations, not always the same
one for both, and every other role as at the start. -/
abbrev KeepsAnyBounds (connector : RBGConnector) (config : PlannerConfig)
    (configs : ι → PlannerConfig) (names : List String) (start s : ScalingState) : Prop :=
  KeepsRoles connector config names start
    (fun n => ∃ i, WithinBounds (configs i).minReplicas (configs i).maxPrefillReplicas n)
    (fun n => ∃ i, WithinBounds (configs i).minReplicas (configs i).maxDecodeReplicas n) s

/-- Only the names of the two roles matter. -/
theorem keepsRoles_congr {config' : PlannerConfig} {P Q : ℤ → Prop}
    (hprefill : config'.prefillRoleName = config.prefillRoleName)
    (hdecode : config'.decodeRoleName = config.decodeRoleName) :
    KeepsRoles connector config' names start P Q s ↔
      KeepsRoles connector config names start P Q s := by
  constructor
  · rintro ⟨hnamed, hp, hd, hothers⟩
    rw [hprefill] at hp hothers
    rw [hdecode] at hd hothers
    exact ⟨hnamed, hp, hd, hothers⟩
  · rintro ⟨hnamed, hp, hd, hothers⟩
    rw [← hprefill] at hp hothers
    rw [← hdecode] at hd hothers
    exact ⟨hnamed, hp, hd, hothers⟩

/-- What a planner of the pool may ask for: scaling that it has earned, after
reads that saw the roles. -/
def Allowed (connector : RBGConnector) (configs : ι → PlannerConfig) (names : List String) (i : ι)
    (h : List LoopEvent) (e : LoopEvent) : Prop :=
  EarnedScaling connector (configs i) (Decided (configs i)) h e ∧
    ∀ e ∈ h, LoopSees names e.1 e.2

/-- Each planner keeps the roles, whatever the others have made of them. -/
theorem outline (hinert : ∀ i, BudgetInert (configs i)) (hsame : SameRoles config configs)
    (hroles : config.prefillRoleName ≠ config.decodeRoleName) :
    Pool.Outline (Starts connector configs) (LoopAnswers fun _ _ => True)
      (KeepsCounts connector names) (LoopSees names) (Allowed connector configs names)
      (KeepsAnyBounds connector config configs names start) fun _ _ _ => True where
  starts := by
    rintro i p ⟨planner, forecasters, turns, hconfig, rfl⟩
    have hearned : (ExceptT.run (planner.run connector forecasters turns)).Tells (LoopSees names)
        (EarnedScaling connector (configs i) (Decided (configs i))) (fun _ _ => True) [] :=
      (tells_run (keeps_config forecasters (configs i)) hconfig).assume fun _ _ _ => loopHears_true
    exact (hearned.and (Tells.answered _ nofun)).mono (fun _ _ h => h) fun _ _ _ => trivial
  empty := fun _ _ => trivial
  valid := fun _ _ _ _ hs ha => loopSees_answers hs.named ha
  env := fun _ _ hs henv => ⟨hs.env henv, fun _ _ _ => trivial⟩
  acts := by
    rintro i h e s s' hs - ⟨hearned, hsees⟩ ha
    have hbounds : ∀ decided, Decided (configs i) decided →
        (∃ j, WithinBounds (configs j).minReplicas (configs j).maxPrefillReplicas decided.1) ∧
          ∃ j, WithinBounds (configs j).minReplicas (configs j).maxDecodeReplicas decided.2 := by
      intro decided hdecided
      obtain ⟨hprefill, hdecode⟩ := Decided.within (hinert i) hdecided
      exact ⟨⟨i, hprefill⟩, i, hdecode⟩
    have hdistinct : (configs i).prefillRoleName ≠ (configs i).decodeRoleName := by
      rw [hsame.prefill, hsame.decode]
      exact hroles
    have hkept := ((keepsRoles_congr (hsame.prefill i) (hsame.decode i)).mpr hs).answer hbounds
      hdistinct hearned hsees ha
    exact ⟨(keepsRoles_congr (hsame.prefill i) (hsame.decode i)).mp hkept, trivial,
      fun _ _ _ _ => trivial⟩

/-- Any number of deployed planners may run side by side, be started and killed at
any time, and have different bounds: each of the two roles stays within its bounds
of one of them, and no other role changes. Planners with one configuration keep
within its budget together. -/
theorem planners_keepBounds [DecidableEq ι] {pool : PlannerPool ι}
    (hemitted : ∀ i, ∃ ras spec rbg, Emitted ras spec rbg (configs i))
    (hsame : SameRoles config configs) (hroles : config.prefillRoleName ≠ config.decodeRoleName)
    (hs : KeepsAnyBounds connector config configs names s s)
    (hreach : Pool.Reaches (Starts connector configs) (LoopAnswers fun _ _ => True)
      (KeepsCounts connector names) (.idle s) pool) :
    KeepsAnyBounds connector config configs names s pool.shared ∧
      ((∀ i, configs i = config) →
        config.totalGpu (connector.governed pool.shared config.prefillRoleName)
          (connector.governed pool.shared config.decodeRoleName) ≤ config.maxGpuBudget) := by
  have hinert : ∀ i, BudgetInert (configs i) := by
    intro i
    obtain ⟨ras, spec, rbg, h⟩ := hemitted i
    exact h.inert
  have hkept : KeepsAnyBounds connector config configs names s pool.shared :=
    ((Pool.sound_idle hs).reaches (outline hinert hsame hroles) hreach).invariant
  refine ⟨hkept, fun hone => ?_⟩
  obtain ⟨i, hprefill⟩ := hkept.prefill
  obtain ⟨j, hdecode⟩ := hkept.decode
  rw [hone] at hprefill hdecode
  have hbounds : KeepsBounds connector config names s pool.shared :=
    ⟨hkept.named, hprefill, hdecode, hkept.others⟩
  exact hbounds.gpus (hone i ▸ hinert i)

/-- The spec before and after an edit of its upper bounds. -/
private def rolloutSpec (edited : Bool) : Controller.ParsedSpec :=
  { Controller.ParsedSpec.fallback with
    prefillMaxReplicas := if edited then 2 else 3
    decodeMaxReplicas := 8 }

private def rolloutConfig (edited : Bool) : PlannerConfig :=
  Controller.deployedConfig "yi" (rolloutSpec edited) "serving" (if edited then 10 else 11) 1 1

private def rolloutPlanner (edited : Bool) : PlannerState :=
  .flat (rolloutConfig edited) (.constant []) 100 1000 40 500

private def rolloutConnector : RBGConnector := .ofConfig (rolloutConfig false) "serving"

private def rolloutRun (edited : Bool) : LoopProg (Except PlannerExc RunningPlanner) :=
  ExceptT.run ((rolloutPlanner edited).run rolloutConnector .failing 11)

private def rolloutScaler : Controller.AutoScaler := ⟨{ key := ⟨"serving", "yi"⟩ }, none, none⟩

private def rolloutGroup : Controller.RoleBasedGroup where
  metadata := { key := ⟨"serving", "yi"⟩ }
  object := .obj []

/-- The cluster after the planner before the edit, then after the one that follows it. -/
private def rolloutHost : Host :=
  ((rolloutRun true).run (Host.serve (.fin 2000))
    ((rolloutRun false).run (Host.serve (.fin 2000)) Host.small).2).2

theorem planners_keepBounds_rollout :
    KeepsAnyBounds rolloutConnector (rolloutConfig false) rolloutConfig ["prefill", "decode"]
        Host.small.cluster rolloutHost.cluster ∧
      rolloutHost.cluster.count "prefill" = some 2 := by
  have hemitted : ∀ edited, ∃ ras spec rbg, Emitted ras spec rbg (rolloutConfig edited) := by
    intro edited
    cases edited with
    | false => exact ⟨rolloutScaler, rolloutSpec false, rolloutGroup,
        Controller.fromEnviron_buildPlannerEnv _ _ _ _ _ _, by decide +kernel⟩
    | true => exact ⟨rolloutScaler, rolloutSpec true, rolloutGroup,
        Controller.fromEnviron_buildPlannerEnv _ _ _ _ _ _, by decide +kernel⟩
  have hsame : SameRoles (rolloutConfig false) rolloutConfig :=
    ⟨fun _ => rfl, fun _ => rfl⟩
  have hstart : KeepsAnyBounds rolloutConnector (rolloutConfig false) rolloutConfig
      ["prefill", "decode"] Host.small.cluster Host.small.cluster := by
    refine ⟨?_, ⟨false, by decide, by decide⟩, ⟨false, by decide, by decide⟩, fun _ _ _ => rfl⟩
    rintro rbg hrbg
    obtain rfl := Option.some.inj hrbg
    rfl
  have hreach : ∀ edited (host : Host),
      Pool.Reaches (Starts rolloutConnector rolloutConfig) (LoopAnswers fun _ _ => True)
        (KeepsCounts rolloutConnector ["prefill", "decode"]) (.idle host.cluster)
        (.idle ((rolloutRun edited).run (Host.serve (.fin 2000)) host).2.cluster) := by
    intro edited host
    have hstarts : Starts rolloutConnector rolloutConfig edited (rolloutRun edited) :=
      ⟨rolloutPlanner edited, .failing, 11, rfl, rfl⟩
    exact Pool.reaches_start hstarts
      (exec_of_run_seen (loopAnswers_serve fun _ => trivial) (rolloutRun edited) host)
  have hboth := (hreach false Host.small).trans (hreach true _)
  refine ⟨(planners_keepBounds hemitted hsame (by decide) hstart hboth).1, ?_⟩
  decide +kernel

end RbgPlanner.Properties.OverlappingPlanners
