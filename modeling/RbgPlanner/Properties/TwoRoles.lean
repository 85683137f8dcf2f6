import RbgPlanner.Controller.Admission
import RbgPlanner.Controller.Environment
import RbgPlanner.Planner.Requirements
import RbgPlanner.Planner.Cycle
import RbgPlanner.Planner.ScalingCalls

/-!
# Two roles

The schema gives the name of both roles the same default, and the planner scales
whatever two names it is configured with. This module follows the names of a
submitted spec to the roles that a cycle scales.
-/

namespace RbgPlanner.Properties.TwoRoles

open Base Api Controller Planner Planner.RBGConnector

/-- The two roles of a configuration differ and have their targets. -/
structure RolesKept (config : PlannerConfig) (target : ℤ × ℤ) (s' : ScalingState) : Prop where
  distinct : config.prefillRoleName ≠ config.decodeRoleName
  prefill : s'.count config.prefillRoleName = some target.1
  decode : s'.count config.decodeRoleName = some target.2

/-- The read of a role does not hide its adapter: it is not at the target, or
the adapter, if there is one, is at the target too. -/
def TakesEffect (self : RBGConnector) (s : ScalingState) (rbg : Rbg) (roleName : String) (n : ℤ) :
    Prop :=
  rbg.replicas roleName ≠ n ∨ ∀ m, s.adapters (self.adapterName roleName) = some m → m = n

variable {v stored : Json} {r : AutoScalerReconciler} {spec : ParsedSpec} {planner : PlannerState}
  {self : RBGConnector} {names : List String} {s s₁ s' : ScalingState} {tr : List RbgEvent}
  {target : ℤ × ℤ}

/-- The planner of an admitted AutoScaler scales the submitted names. -/
theorem config_roleNames (hadmitted : autoScalerSpec.admitted v = some stored)
    (hparse : r.parseRASSpec (some stored) = .ok spec) {rbgName namespaceName : String}
    {budget prefillGPUs decodeGPUs : ℤ} {config : PlannerConfig}
    (henv : PlannerConfig.fromEnviron
      (buildPlannerEnv rbgName spec namespaceName budget prefillGPUs decodeGPUs) = .ok config) :
    config.prefillRoleName = submittedRoleName v "prefill" ∧
      config.decodeRoleName = submittedRoleName v "decode" := by
  rw [fromEnviron_buildPlannerEnv] at henv
  obtain rfl := Except.ok.inj henv
  exact roleNames_of_admitted hadmitted hparse

/-- The targets of a cycle on two names: each has its own. -/
theorem counts_iff (hne : planner.config.prefillRoleName ≠ planner.config.decodeRoleName)
    (hs : Serves names s)
    (h : self.Executes (self.setReplicas (planner.config.targets target) false) s tr
      (.done (.ok ())) s₁)
    (hcopies : Relation.ReflTransGen self.Copies s₁ s') (hsettled : self.Settled s') :
    s'.count planner.config.prefillRoleName = some target.1 ∧
        s'.count planner.config.decodeRoleName = some target.2 ↔
      ∀ rbg, tr.head? = some ⟨.getRbg, .ok rbg⟩ →
        TakesEffect self s rbg planner.config.prefillRoleName target.1 ∧
          TakesEffect self s rbg planner.config.decodeRoleName target.2 := by
  obtain ⟨-, -, -, -, -, -, hserves, hmem, -⟩ := setReplicas_done hs h
  have hlast := settles_star hcopies hserves
  have hprefill : lastTarget (planner.config.targets target) planner.config.prefillRoleName =
      some target.1 := by
    simp [lastTarget, PlannerConfig.targets, hne.symm]
  have hdecode : lastTarget (planner.config.targets target) planner.config.decodeRoleName =
      some target.2 := by
    simp [lastTarget, PlannerConfig.targets, hne]
  simp only [PlannerConfig.targets, List.forall_mem_cons, List.not_mem_nil, false_imp_iff,
    implies_true, and_true] at hmem
  rw [hsettled.count hlast.serves hmem.1, hsettled.count hlast.serves hmem.2, Option.some.injEq,
    Option.some.injEq, hlast.governed, hlast.governed, setReplicas_governed_iff hs h hprefill,
    setReplicas_governed_iff hs h hdecode]
  simp only [PlannerConfig.targets, List.forall_mem_cons, List.not_mem_nil, false_imp_iff,
    implies_true, and_true, hne, hne.symm, true_and, TakesEffect]
  constructor
  · rintro ⟨hp, hd⟩ rbg hread
    exact ⟨hp rbg hread, hd rbg hread⟩
  · intro h
    exact ⟨fun rbg hread => (h rbg hread).1, fun rbg hread => (h rbg hread).2⟩

/-- A call of a deployed planner's cycle that returns leaves both roles at their
targets, once all copies are done, exactly when the submitted names differ and
what it reads hides no adapter. -/
theorem rolesKept_iff (hadmitted : autoScalerSpec.admitted v = some stored)
    (hparse : r.parseRASSpec (some stored) = .ok spec) {rbgName namespaceName : String}
    {budget prefillGPUs decodeGPUs : ℤ}
    (henv : PlannerConfig.fromEnviron
      (buildPlannerEnv rbgName spec namespaceName budget prefillGPUs decodeGPUs) =
        .ok planner.config) {podNamespace : String} (hs : Serves names s)
    (h : (ofConfig planner.config podNamespace).Executes
      ((ofConfig planner.config podNamespace).setReplicas (planner.config.targets target) false)
        s tr (.done (.ok ())) s₁)
    (hcopies : Relation.ReflTransGen (ofConfig planner.config podNamespace).Copies s₁ s')
    (hsettled : (ofConfig planner.config podNamespace).Settled s') :
    RolesKept planner.config target s' ↔
      submittedRoleName v "prefill" ≠ submittedRoleName v "decode" ∧
        ∀ rbg, tr.head? = some ⟨.getRbg, .ok rbg⟩ →
          TakesEffect (ofConfig planner.config podNamespace) s rbg
              (submittedRoleName v "prefill") target.1 ∧
            TakesEffect (ofConfig planner.config podNamespace) s rbg
              (submittedRoleName v "decode") target.2 := by
  obtain ⟨hprefill, hdecode⟩ := config_roleNames hadmitted hparse henv
  rw [← hprefill, ← hdecode]
  constructor
  · rintro ⟨hne, hp, hd⟩
    exact ⟨hne, (counts_iff hne hs h hcopies hsettled).mp ⟨hp, hd⟩⟩
  · rintro ⟨hne, heffect⟩
    obtain ⟨hp, hd⟩ := (counts_iff hne hs h hcopies hsettled).mpr heffect
    exact ⟨hne, hp, hd⟩

/-! ## Two specs -/

/-- A spec that names its decode role or leaves it out. -/
private def rolesSpec (decodeName : List (String × Json)) : Json :=
  .obj [("pattern", .obj [("PDDisaggregated", .obj
      [("prefill", .obj [("roleName", .str "prefill"), ("maxReplicas", .int 8)]),
       ("decode", .obj (decodeName ++ [("maxReplicas", .int 8)]))])]),
    ("implementation", .obj [("DynamoPlanner", .obj [])])]

/-- What the operator makes of it. -/
private def rolesParsedSpec (decodeName : String) : ParsedSpec :=
  { ParsedSpec.fallback with
    decodeRoleName := decodeName
    prefillMaxReplicas := 8
    decodeMaxReplicas := 8 }

/-- Its planner on a flat profile. -/
private def rolesPlanner (decodeName : String) : PlannerState :=
  .flat (deployedConfig "qwen" (rolesParsedSpec decodeName) "serving" 16 1 1) (.constant [])
    100 1000 40 500

private def rolesConnector (decodeName : String) : RBGConnector :=
  .ofConfig (rolesPlanner decodeName).config "serving"

/-- A Ready RoleBasedGroup with both roles and no adapters. -/
private def bothRoles (prefill decode : ℤ) : ScalingState where
  rbg := some
    { roles := [{ name := "prefill", replicas := some prefill },
                { name := "decode", replicas := some decode }]
      roleStatuses := []
      conditions := [{ type := "Ready", status := "True" }] }
  adapters := fun _ => none

/-- The cycle's call for three prefill and five decode replicas. -/
private def rolesCall (decodeName : String) : RbgProg (Except PlannerExc Unit) :=
  ExceptT.run ((rolesConnector decodeName).setReplicas
    ((rolesPlanner decodeName).config.targets (3, 5)) false)

private theorem settled_bothRoles {self : RBGConnector} {s : ScalingState}
    (h : s.adapters = fun _ => none) : self.Settled s := by
  intro rbg roleName n _ _ hadapter
  rw [h] at hadapter
  cases hadapter

private theorem rolesCall_executes {decodeName : String}
    (h : ((rolesCall decodeName).run ScalingState.serve (bothRoles 1 1)).1 = .ok ()) :
    (rolesConnector decodeName).Executes ((rolesConnector decodeName).setReplicas
      ((rolesPlanner decodeName).config.targets (3, 5)) false) (bothRoles 1 1)
        ((rolesCall decodeName).trace ScalingState.serve (bothRoles 1 1)) (.done (.ok ()))
          ((rolesCall decodeName).run ScalingState.serve (bothRoles 1 1)).2 := by
  rw [← h]
  exact Prog.exec_of_run answers_serve (rolesCall decodeName) (bothRoles 1 1)

/-- With two names each role gets its target. -/
theorem rolesKept_iff_named :
    RolesKept (rolesPlanner "decode").config (3, 5)
      ((rolesCall "decode").run ScalingState.serve (bothRoles 1 1)).2 := by
  have hcall := @rolesCall_executes "decode" (by decide +kernel)
  have hnoAdapter : ∀ (n m : ℤ), (none : Option ℤ) = some m → m = n := nofun
  have hserves : Serves ["prefill", "decode"] (bothRoles 1 1) := ⟨_, rfl, rfl, by decide⟩
  exact (rolesKept_iff (v := rolesSpec [("roleName", .str "decode")]) (r := ⟨"", "", ""⟩)
    rfl rfl (fromEnviron_buildPlannerEnv _ _ _ _ _ _) hserves hcall .refl
      (settled_bothRoles rfl)).mpr
      ⟨by decide, fun _ _ => ⟨.inr (hnoAdapter 3), .inr (hnoAdapter 5)⟩⟩

/-- Without a name for the decode role the schema calls it `prefill`: the prefill
role gets the decode target and the decode role none. -/
theorem roles_coincide :
    ∃ stored planner forecast target s s',
      autoScalerSpec.admitted (rolesSpec []) = some stored ∧
      (⟨"", "", ""⟩ : AutoScalerReconciler).parseRASSpec (some stored) =
        .ok (rolesParsedSpec "prefill") ∧
      PlannerConfig.fromEnviron (buildPlannerEnv "qwen" (rolesParsedSpec "prefill") "serving"
        16 1 1) = .ok planner.config ∧
      PlannerState.nextReplicas planner forecast = some target ∧
      Serves ["prefill", "decode"] s ∧
      (∃ tr, (ofConfig planner.config "serving").Executes
        ((ofConfig planner.config "serving").setReplicas (planner.config.targets target) false)
          s tr (.done (.ok ())) s') ∧
      (ofConfig planner.config "serving").Settled s' ∧
      s'.count "prefill" = some target.2 ∧ s'.count "decode" = s.count "decode" ∧
      target.1 ≠ target.2 ∧ ¬ RolesKept planner.config target s' := by
  have hcall := @rolesCall_executes "prefill" (by decide +kernel)
  refine ⟨_, rolesPlanner "prefill", (.fin 900, .fin 500, .fin 450), (3, 5), _, _, rfl, rfl,
    fromEnviron_buildPlannerEnv _ _ _ _ _ _, ?_, ⟨_, rfl, rfl, by decide⟩, ⟨_, hcall⟩,
    settled_bothRoles rfl, ?_, ?_, by decide, fun h => h.distinct rfl⟩
  · decide +kernel
  · decide +kernel
  · decide +kernel

end RbgPlanner.Properties.TwoRoles
