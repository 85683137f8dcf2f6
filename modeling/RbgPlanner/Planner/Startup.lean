import RbgPlanner.Planner.CommandLine
import RbgPlanner.Planner.State

/-!
# Start of the planner

`main` up to its loop: the configuration, the connector, and the planner with
its adapter, its predictors and the profile.
-/

namespace RbgPlanner.Planner

open Base

/-- `main` up to the loop, in an environment and with a profile; `connects` tells
whether the connector finds a configuration of the cluster. -/
def mainPlanner (scipy : SciPy) (env : List EnvVar) (args : List String) (connects : Bool)
    (prefillData : PrefillRawData) (decodeData : DecodeRawData) (serverStarts : Bool) :
    Except PlannerExit PlannerState :=
  match mainConfig env args with
  | .error e => .error e
  | .ok config =>
      if config.noOperation = false ∧ connects = false then .error .kubeConfig
      else
        match PlannerState.init scipy config prefillData decodeData serverStarts with
        | .error e => .error (.builtin e)
        | .ok planner => .ok planner

/-- A profile that both interpolators can be built from: four prefill points at
different lengths, and three decode points that are not on one line. -/
structure Loadable (prefillData : PrefillRawData) (decodeData : DecodeRawData) : Prop where
  points : 4 ≤ prefillData.prefillIsl.length
  distinct : prefillData.prefillIsl.Nodup
  surface : Triangulable (decodeData.xKvUsage.zip decodeData.yContextLength)

/-- The arrays of a profile belong together. -/
structure Aligned (prefillData : PrefillRawData) (decodeData : DecodeRawData) : Prop where
  ttft : prefillData.prefillIsl.length = prefillData.prefillTtft.length
  prefillThpt : prefillData.prefillIsl.length = prefillData.prefillThptPerGpu.length
  contextLength : decodeData.xKvUsage.length = decodeData.yContextLength.length
  itl : decodeData.xKvUsage.length = decodeData.zItl.length
  decodeThpt : decodeData.xKvUsage.length = decodeData.zThptPerGpu.length

variable {scipy : SciPy} {config : PlannerConfig} {prefillData : PrefillRawData}
  {decodeData : DecodeRawData} {serverStarts : Bool}

theorem createMetricsAdapter_iff {source : String} :
    (∃ adapter, createMetricsAdapter source = .ok adapter) ↔
      source ∈ ["sglang", "vllm", "dynamo", "patio"] := by
  simp only [createMetricsAdapter, List.mem_cons, List.not_mem_nil, or_false]
  split_ifs <;> simp_all

theorem createPredictor_iff {name : String} {windowSize : ℤ} :
    (∃ predictor, LoadPredictor.create name windowSize = .ok predictor) ↔
      name ∈ ["constant", "arima", "prophet"] := by
  simp only [LoadPredictor.create, List.mem_cons, List.not_mem_nil, or_false]
  split_ifs <;> simp_all

/-- What the constructor needs. -/
theorem init_iff (hscipy : scipy.Builds) (haligned : Aligned prefillData decodeData) :
    (∃ planner, PlannerState.init scipy config prefillData decodeData serverStarts = .ok planner) ↔
      config.metricSource ∈ ["sglang", "vllm", "dynamo", "patio"] ∧
        config.loadPredictor ∈ ["constant", "arima", "prophet"] ∧
          Loadable prefillData decodeData := by
  have hprefill := PrefillInterpolator.init_iff hscipy haligned.ttft haligned.prefillThpt
  have hdecode := DecodeInterpolator.init_iff hscipy (Nat.le_of_ble_eq_true rfl : 2 ≤ 100)
    haligned.contextLength haligned.itl haligned.decodeThpt
  constructor
  · rintro ⟨planner, h⟩
    obtain ⟨adapter, hadapter, h⟩ := bind_eq_ok.mp h
    obtain ⟨predictor, hpredictor, h⟩ := bind_eq_ok.mp h
    obtain ⟨prefill, hprefillData, h⟩ := bind_eq_ok.mp h
    obtain ⟨decode, hdecodeData, -⟩ := bind_eq_ok.mp h
    obtain ⟨hpoints, hdistinct⟩ := hprefill.mp ⟨prefill, hprefillData⟩
    exact ⟨createMetricsAdapter_iff.mp ⟨adapter, hadapter⟩,
      createPredictor_iff.mp ⟨predictor, hpredictor⟩,
      hpoints, hdistinct, hdecode.mp ⟨decode, hdecodeData⟩⟩
  · rintro ⟨hsource, hpredictors, hloadable⟩
    obtain ⟨adapter, hadapter⟩ := createMetricsAdapter_iff.mpr hsource
    obtain ⟨predictor, hpredictor⟩ : ∃ predictor,
        LoadPredictor.create config.loadPredictor config.loadPredictionWindowSize = .ok predictor :=
      createPredictor_iff.mpr hpredictors
    obtain ⟨prefill, hprefillData⟩ := hprefill.mpr ⟨hloadable.points, hloadable.distinct⟩
    obtain ⟨decode, hdecodeData⟩ := hdecode.mpr hloadable.surface
    exact ⟨_, by
      rw [PlannerState.init, hadapter, hpredictor, hprefillData, hdecodeData]
      rfl⟩

theorem config_of_init {planner : PlannerState}
    (h : PlannerState.init scipy config prefillData decodeData serverStarts = .ok planner) :
    planner.config = config := by
  obtain ⟨_, -, h⟩ := bind_eq_ok.mp h
  obtain ⟨_, -, h⟩ := bind_eq_ok.mp h
  obtain ⟨_, -, h⟩ := bind_eq_ok.mp h
  obtain ⟨_, -, h⟩ := bind_eq_ok.mp h
  cases h
  rfl

/-- Once `main` has a configuration, the constructor decides. -/
theorem mainPlanner_iff {env : List EnvVar} {args : List String} {connects : Bool}
    (hconfig : mainConfig env args = .ok config) {planner : PlannerState} :
    mainPlanner scipy env args connects prefillData decodeData serverStarts = .ok planner ↔
      (config.noOperation = true ∨ connects = true) ∧
        PlannerState.init scipy config prefillData decodeData serverStarts = .ok planner := by
  rw [mainPlanner, hconfig]
  dsimp only
  by_cases hlost : config.noOperation = false ∧ connects = false
  · simp [hlost]
  · have hconnects : config.noOperation = true ∨ connects = true := by
      cases connects <;> simp_all
    rw [if_neg hlost, and_iff_right hconnects]
    cases PlannerState.init scipy config prefillData decodeData serverStarts with
    | error e => exact iff_of_false nofun nofun
    | ok built => simp

end RbgPlanner.Planner
