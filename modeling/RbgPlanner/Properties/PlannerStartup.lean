import RbgPlanner.Controller.Admission
import RbgPlanner.Controller.Environment
import RbgPlanner.Planner.Startup

/-!
# A deployed planner starts

From a spec that the API server admits to a planner that is built: the operator
writes the container's environment, `main` reads it, and the planner picks its
adapter and its predictors and loads the profile.
-/

namespace RbgPlanner.Properties.PlannerStartup

open Base Base.Argparse Base.Schema Json Api Controller Planner

variable {scipy : SciPy} {config : PlannerConfig} {prefillData : PrefillRawData}
  {decodeData : DecodeRawData} {serverStarts : Bool}

/-! ## What the API server admits -/

/-- A field with a default and an enumeration has one of its values. -/
theorem choice_of_complete {properties : List (String × Property)} {required : List String}
    {w : Json} {inner : Fields} {key default : String} {choices : List String}
    (hnodup : (properties.map Prod.fst).Nodup)
    (h : (key, some (.str default), .string choices) ∈ properties) (hchoices : choices ≠ [])
    (hcomplete : (object properties required).complete w = .obj inner)
    (hvalid : (object properties required).valid (.obj inner) = true) (fallback : String) :
    getStrField (some inner) key fallback ∈ choices := by
  obtain ⟨hfield, hfieldValid⟩ := field_of_complete hnodup h hcomplete hvalid
  obtain ⟨x, hx⟩ : ∃ x, inner.lookup key = some x := by
    rw [hfield]
    cases presentField w key with
    | none => exact ⟨_, rfl⟩
    | some x => exact ⟨_, rfl⟩
  have hchoice := hfieldValid x hx
  unfold getStrField lookup
  rw [Option.bind_some, hx]
  cases x with
  | str s => simpa [Schema.valid, hchoices] using hchoice
  | _ => simp [Schema.valid] at hchoice

/-- The settings of an admitted spec that parses are the submitted ones, completed. -/
theorem settings_of_admitted {v : Json} {fields dp : Fields}
    (hfields : autoScalerSpec.complete v = .obj fields)
    (hvalid : autoScalerSpec.valid (.obj fields) = true)
    (hdp : asMap (lookup (asMap (lookup fields "implementation")) "DynamoPlanner") = some dp) :
    ∃ w, dynamoPlannerConfig.complete w = .obj dp ∧ dynamoPlannerConfig.valid (.obj dp) = true := by
  cases himplementation : asMap (lookup fields "implementation") with
  | none => simp [himplementation] at hdp
  | some inner =>
      rw [himplementation] at hdp
      obtain ⟨w, -, hcomplete, hinner⟩ := map_of_complete (by decide)
        (by simp : (("implementation", none, implementation) : String × Property) ∈ _)
        hfields hvalid himplementation
      obtain ⟨w', -, hcomplete', hinner'⟩ := map_of_complete (by decide)
        (by simp : (("DynamoPlanner", none, dynamoPlannerConfig) : String × Property) ∈ _)
        hcomplete hinner hdp
      exact ⟨w', hcomplete', hinner'⟩

/-- An admitted spec names a metric source and a predictor of the schema's. -/
theorem choices_of_admitted {v stored : Json} {r : AutoScalerReconciler} {spec : ParsedSpec}
    (hadmitted : autoScalerSpec.admitted v = some stored)
    (hparse : r.parseRASSpec (some stored) = .ok spec) :
    spec.metricSource ∈ ["sglang", "vllm", "patio"] ∧
      spec.loadPredictor ∈ ["arima", "constant", "prophet"] := by
  obtain ⟨hvalid, hcomplete⟩ := admitted_eq_some.mp hadmitted
  obtain ⟨fields, hstored, ⟨pd, hpd⟩, dp, hdp⟩ := (parseRASSpec_eq_ok_iff r).mp ⟨spec, hparse⟩
  obtain rfl := Option.some.inj hstored
  simp only [AutoScalerReconciler.parseRASSpec, requiredMaps, asMap_obj, hpd, hdp, bind,
    Except.bind, pure, Except.pure, Except.ok.injEq] at hparse
  subst hparse
  obtain ⟨w, hdpComplete, hdpValid⟩ := settings_of_admitted hcomplete hvalid hdp
  constructor
  · dsimp only
    cases hendpoint : asMap (lookup dp "metricsEndpoint") with
    | none => simp [getStrField]
    | some me =>
        obtain ⟨w', -, hcomplete', hvalid'⟩ := map_of_complete (by decide)
          (by simp : (("metricsEndpoint", none, metricsEndpointConfig) : String × Property) ∈ _)
          hdpComplete hdpValid hendpoint
        exact choice_of_complete (by decide)
          (by simp : (("metricSource", some (.str "sglang"), .string ["sglang", "vllm", "patio"]) :
            String × Property) ∈ _) (by decide) hcomplete' hvalid' _
  · exact choice_of_complete (by decide)
      (by simp : (("loadPredictor", some (.str "arima"), .string ["arima", "constant", "prophet"]) :
        String × Property) ∈ _) (by decide) hdpComplete hdpValid _

/-! ## The deployed planner -/

/-- In the container the operator deploys, `main` has the deployed configuration. -/
theorem mainConfig_deployed {ras : AutoScaler} (hname : ras.name ≠ "") {spec : ParsedSpec}
    {profilingCM : String} {prefillGPUs decodeGPUs : ℤ} {container : Container}
    (hcontainer : container ∈
      (plannerDeployment ras spec profilingCM prefillGPUs decodeGPUs).template.containers) :
    mainConfig container.env container.args =
      .ok (deployedConfig ras.name spec ras.namespaceName
        (maxGPUBudget spec prefillGPUs decodeGPUs) prefillGPUs decodeGPUs) := by
  obtain rfl := List.mem_singleton.mp hcontainer
  simp only [mainConfig, fromEnviron_buildPlannerEnv]
  have hparse : parseArgs Arguments.parser {} [] = .ok {} := rfl
  rw [hparse]
  dsimp only
  rw [if_neg]
  · rfl
  · exact fun h => hname h.1

/-- For every spec that the API server admits and the operator parses, the
container of the Deployment starts a planner exactly when its profile can be
loaded and, unless it is a dry run, its connector finds the cluster; the planner
has the deployed configuration. -/
theorem starts_iff {v stored : Json} {r : AutoScalerReconciler} {spec : ParsedSpec}
    (hscipy : scipy.Builds) (haligned : Aligned prefillData decodeData)
    (hadmitted : autoScalerSpec.admitted v = some stored)
    (hparse : r.parseRASSpec (some stored) = .ok spec) {ras : AutoScaler} (hname : ras.name ≠ "")
    {profilingCM : String} {prefillGPUs decodeGPUs : ℤ} {container : Container}
    (hcontainer : container ∈
      (plannerDeployment ras spec profilingCM prefillGPUs decodeGPUs).template.containers)
    {connects : Bool} :
    ((∃ planner, mainPlanner scipy container.env container.args connects prefillData decodeData
        serverStarts = .ok planner) ↔
          (spec.dryRun = true ∨ connects = true) ∧ Loadable prefillData decodeData) ∧
      ∀ planner, mainPlanner scipy container.env container.args connects prefillData decodeData
        serverStarts = .ok planner → planner.config = deployedConfig ras.name spec
          ras.namespaceName (maxGPUBudget spec prefillGPUs decodeGPUs) prefillGPUs decodeGPUs := by
  obtain ⟨hsource, hpredictor⟩ := choices_of_admitted hadmitted hparse
  have hstart : ∀ planner,
      mainPlanner scipy container.env container.args connects prefillData decodeData
        serverStarts = .ok planner ↔
        (spec.dryRun = true ∨ connects = true) ∧
          PlannerState.init scipy _ prefillData decodeData serverStarts = .ok planner :=
    fun planner => mainPlanner_iff (mainConfig_deployed hname hcontainer)
  constructor
  · refine (exists_congr hstart).trans (exists_and_left.trans (and_congr_right fun _ => ?_))
    refine (init_iff hscipy haligned).trans ?_
    have hsources : ∀ source ∈ ["sglang", "vllm", "patio"],
        source ∈ ["sglang", "vllm", "dynamo", "patio"] := by decide
    have hpredictors : ∀ predictor ∈ ["arima", "constant", "prophet"],
        predictor ∈ ["constant", "arima", "prophet"] := by decide
    exact ⟨fun h => h.2.2, fun hloadable =>
      ⟨hsources _ hsource, hpredictors _ hpredictor, hloadable⟩⟩
  · exact fun planner h => config_of_init ((hstart planner).mp h).2

private def granite : AutoScaler where
  metadata := { key := ⟨"serving", "granite"⟩ }
  spec := none
  status := none

private def graniteSubmitted : Json :=
  .obj [("pattern", .obj [("PDDisaggregated", .obj
      [("prefill", .obj [("maxReplicas", .int 4)]),
        ("decode", .obj [("roleName", .str "decode"), ("maxReplicas", .int 8)])])]),
    ("implementation", .obj [("DynamoPlanner", .obj [("loadPredictor", .str "constant")])])]

private def graniteSpec : ParsedSpec :=
  { ParsedSpec.fallback with
    prefillMaxReplicas := 4, decodeMaxReplicas := 8, loadPredictor := "constant" }

private def granitePrefill : PrefillRawData where
  prefillIsl := [128, 256, 512, 1024]
  prefillTtft := [.fin 10, .fin 20, .fin 40, .fin 80]
  prefillThptPerGpu := [.fin 100, .fin 90, .fin 80, .fin 70]

private def graniteDecode : DecodeRawData where
  xKvUsage := [0, 1, 0]
  yContextLength := [0, 0, 1]
  zItl := [.fin 10, .fin 20, .fin 30]
  zThptPerGpu := [.fin 100, .fin 200, .fin 300]
  maxKvTokens := 32768

/-- The planner of an AutoScaler that leaves nearly everything to the defaults. -/
theorem starts_iff_granite : ∃ container ∈
    (plannerDeployment granite graniteSpec "granite-profiling" 1 1).template.containers,
      ∃ planner,
        mainPlanner .small container.env container.args true granitePrefill graniteDecode true =
          .ok planner := by
  have hadmitted : autoScalerSpec.admitted graniteSubmitted =
      some (autoScalerSpec.complete graniteSubmitted) :=
    admitted_eq_some.mpr ⟨by decide +kernel, rfl⟩
  have hparse : (⟨"", "", ""⟩ : AutoScalerReconciler).parseRASSpec
      (some (autoScalerSpec.complete graniteSubmitted)) = .ok graniteSpec := by decide +kernel
  have haligned : Aligned granitePrefill graniteDecode := ⟨rfl, rfl, rfl, rfl, rfl⟩
  have hloadable : Loadable granitePrefill graniteDecode := by
    constructor <;> decide +kernel
  obtain ⟨container, hcontainer⟩ : ∃ container, container ∈
      (plannerDeployment granite graniteSpec "granite-profiling" 1 1).template.containers :=
    ⟨_, List.mem_singleton_self _⟩
  refine ⟨container, hcontainer, ?_⟩
  exact (starts_iff SciPy.small_builds haligned hadmitted hparse (by decide) hcontainer).1.mpr
    ⟨.inr rfl, hloadable⟩

end RbgPlanner.Properties.PlannerStartup
