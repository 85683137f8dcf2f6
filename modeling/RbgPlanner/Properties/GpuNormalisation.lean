import RbgPlanner.Controller.Environment
import RbgPlanner.Profiler.Launch
import RbgPlanner.Profiler.Samples

/-!
# Throughput per GPU

The profiler divides what it measures by a number of GPUs, and the planner
multiplies by another: the operator passes the profiler none and takes the
planner's from the RoleBasedGroup. This module decides at which points the two
cancel.
-/

namespace RbgPlanner.Properties.GpuNormalisation

open Base Base.Rounding Controller Planner Profiler

/-- A capacity is the measured throughput up to the rounding of the number per
GPU, which is off by half a hundredth at most. -/
def UpToRounding (gpus : ℤ) : PyFloat → PyFloat → Prop
  | .fin capacity, .fin measured => |capacity - measured| ≤ gpus / 200
  | capacity, measured => capacity = measured

/-- The engine has one GPU, or a throughput so low that the rounding is larger
than what the factor changes, or none that is finite. -/
def Cancels (gpus : ℤ) : PyFloat → Prop
  | .fin measured =>
      gpus = 1 ∨ |measured| ≤ 1 / 200 ∨ gpus = 2 ∧ 1 / 100 ≤ |measured| ∧ |measured| < 3 / 200
  | _ => True

/-- Stored for one GPU, used for several. -/
theorem upToRounding_iff {gpus : ℤ} (h : 1 ≤ gpus) (measured : PyFloat) :
    UpToRounding gpus ((measured.ieeeDiv (.ofInt 1)).roundDigits 2 * .ofInt gpus) measured ↔
      Cancels gpus measured := by
  have hgpus : (0 : ℚ) < gpus := by exact_mod_cast h
  cases measured with
  | fin t =>
      have hcapacity : ((PyFloat.fin t).ieeeDiv (.ofInt 1)).roundDigits 2 * .ofInt gpus =
          .fin (roundTo 2 t * gpus) := by
        simp [PyFloat.ieeeDiv, PyFloat.ofInt]
      have hscaled := abs_scaled_sub_le_iff (x := t * 10 ^ 2) h
      have hleft : |roundTo 2 t * gpus - t| ≤ (gpus : ℚ) / 200 ↔
          |(roundHalfEven (t * 10 ^ 2) : ℚ) * gpus - t * 10 ^ 2| ≤ (gpus : ℚ) / 2 := by
        have hfactor : (roundHalfEven (t * 10 ^ 2) : ℚ) * gpus - t * 10 ^ 2 =
            (roundTo 2 t * gpus - t) * 100 := by
          rw [roundTo]
          ring
        rw [hfactor, abs_mul, abs_of_pos (by norm_num : (0 : ℚ) < 100)]
        constructor <;> intro h <;> linarith
      have hsize : |t * 10 ^ 2| = |t| * 100 := by
        rw [abs_mul]
        norm_num
      rw [hcapacity, UpToRounding, hleft, hscaled, hsize, Cancels]
      refine or_congr_right (or_congr ?_ (and_congr_right fun _ => and_congr ?_ ?_)) <;>
      · constructor <;> intro h <;> linarith
  | posInf =>
      have hcapacity : (PyFloat.posInf.ieeeDiv (.ofInt 1)).roundDigits 2 * .ofInt gpus =
          .posInf := by
        simp only [PyFloat.ieeeDiv, PyFloat.ofInt, Int.cast_one, zero_le_one, if_true]
        change PyFloat.infOfSign gpus = .posInf
        simp [PyFloat.infOfSign, hgpus, hgpus.ne']
      rw [hcapacity]
      exact iff_of_true rfl trivial
  | negInf =>
      have hcapacity : (PyFloat.negInf.ieeeDiv (.ofInt 1)).roundDigits 2 * .ofInt gpus =
          .negInf := by
        simp only [PyFloat.ieeeDiv, PyFloat.ofInt, Int.cast_one, zero_le_one, if_true]
        change PyFloat.infOfSign (-gpus) = .negInf
        simp [PyFloat.infOfSign, hgpus.ne', (by omega : 0 ≤ gpus)]
      rw [hcapacity]
      exact iff_of_true rfl trivial
  | nan => exact iff_of_true rfl trivial

/-! ## What the planner finds in a profile -/

section Lookup

variable {scipy : SciPy} {args : Options} {z : PyFloat}

theorem interpolate_prefillFile {points : List PrefillPoint} {p : PrefillInterpolator}
    (hp : PrefillInterpolator.init scipy (prefillFile args points) = .ok p)
    (hexact : scipy.ExactOn (prefillFile args points).prefillIsl
      (prefillFile args points).prefillThptPerGpu)
    {point : PrefillPoint} (hpoint : point ∈ points) :
    p.interpolateThptPerGpu (.ofInt point.isl) =
      (point.throughput.ieeeDiv (.ofInt args.numGpus)).roundDigits 2 := by
  apply PrefillInterpolator.interpolateThptPerGpu_of_mem hp hexact
  simp only [prefillFile, extendPrefill, List.nil_append, List.zip_map']
  exact List.mem_map_of_mem hpoint

theorem zThptPerGpu_decodeFile {osl : ℤ} {samples : List DecodeSample} {sample : DecodeSample}
    (h : (sample, z) ∈ samples.zip (decodeFile osl args samples).zThptPerGpu) :
    z = (sample.throughput.ieeeDiv (.ofInt args.numGpus)).roundDigits 2 := by
  have hzip : samples.zip (decodeFile osl args samples).zThptPerGpu = samples.map fun sample =>
      (sample, (sample.throughput.ieeeDiv (.ofInt args.numGpus)).roundDigits 2) := by
    rw [List.map_prod_left_eq_zip]
    rfl
  rw [hzip] at h
  obtain ⟨other, -, hpair⟩ := List.mem_map.mp h
  cases hpair
  rfl

end Lookup

/-- The configuration of the planner that the operator deploys for a RoleBasedGroup. -/
def plannerConfig (ras : AutoScaler) (spec : ParsedSpec) (rbg : RoleBasedGroup) :
    Except PyExc PlannerConfig :=
  let gpus := getGPUsFromRBG rbg spec.prefillRoleName spec.decodeRoleName
  PlannerConfig.fromEnviron (buildPlannerEnv ras.name spec ras.namespaceName
    (maxGPUBudget spec gpus.1 gpus.2) gpus.1 gpus.2)

theorem plannerConfig_of_gpus (ras : AutoScaler) {spec : ParsedSpec} {rbg : RoleBasedGroup}
    {gpus : ℤ × ℤ} (h : getGPUsFromRBG rbg spec.prefillRoleName spec.decodeRoleName = gpus) :
    plannerConfig ras spec rbg = .ok (deployedConfig ras.name spec ras.namespaceName
      (maxGPUBudget spec gpus.1 gpus.2) gpus.1 gpus.2) := by
  rw [plannerConfig, h]
  exact fromEnviron_buildPlannerEnv _ _ _ _ _ _

/-- At a measured point the planner's capacity of an engine is the measured
throughput exactly when the two numbers of GPUs cancel there. -/
theorem capacity_iff {env : List EnvVar} {ras : AutoScaler} {spec : ParsedSpec} {args : Options}
    (hlaunched : Launched env ras spec args) {σ : Type}
    {answer : (op : ProfilerOp) → σ → ProfilerResp op → σ → Prop} {others : σ → σ → Prop}
    {s s' : σ} {tr : List ProfilerEvent} {out}
    (hrun : (ExceptT.run (runProfiling args)).Exec answer others s tr out s') {e : ProfilerEvent}
    (he : e ∈ tr) {prefill : PrefillRawData} {decode : DecodeRawData}
    (hwritten : written e.1 = some (prefill, decode)) {scipy : SciPy} {p : PrefillInterpolator}
    (hp : PrefillInterpolator.init scipy prefill = .ok p)
    (hexact : scipy.ExactOn prefill.prefillIsl prefill.prefillThptPerGpu) {rbg : RoleBasedGroup}
    {config : PlannerConfig} (hconfig : plannerConfig ras spec rbg = .ok config) :
    (∀ point ∈ prefillPoints 5 tr,
      UpToRounding config.prefillEngineNumGpu
          (p.interpolateThptPerGpu (.ofInt point.isl) * .ofInt config.prefillEngineNumGpu)
          point.throughput ↔
        Cancels (getGPUsFromRBG rbg spec.prefillRoleName spec.decodeRoleName).1
          point.throughput) ∧
      ∀ sample z, (sample, z) ∈ (decodeSamples 500 tr).zip decode.zThptPerGpu →
        (UpToRounding config.decodeEngineNumGpu (z * .ofInt config.decodeEngineNumGpu)
            sample.throughput ↔
          Cancels (getGPUsFromRBG rbg spec.prefillRoleName spec.decodeRoleName).2
            sample.throughput) := by
  obtain ⟨rfl, rfl⟩ := written_runProfiling hrun he hwritten
  obtain ⟨hprefill, hdecode⟩ := getGPUsFromRBG_pos rbg spec.prefillRoleName spec.decodeRoleName
  cases (plannerConfig_of_gpus ras rfl).symm.trans hconfig
  constructor
  · intro point hpoint
    rw [interpolate_prefillFile hp hexact hpoint, numGpus_of_launched hlaunched]
    exact upToRounding_iff hprefill point.throughput
  · intro sample z hsample
    rw [zThptPerGpu_decodeFile hsample, numGpus_of_launched hlaunched]
    exact upToRounding_iff hdecode sample.throughput

/-! ## One GPU and two -/

private def llama : AutoScaler := ⟨{ key := ⟨"serving", "llama"⟩ }, none, none⟩

private def llamaSpec : ParsedSpec := { ParsedSpec.fallback with modelName := "meta/Llama-3-70B" }

private def requesting (role gpus : String) : Json :=
  .obj [("name", .str role), ("template", .obj [("spec", .obj [("containers", .arr
    [.obj [("resources", .obj [("requests", .obj [("nvidia.com/gpu", .str gpus)])])]])])])]

/-- Two roles whose engines request that many GPUs. -/
private def llamaGroup (gpus : String) : RoleBasedGroup :=
  ⟨{ key := ⟨"serving", "llama"⟩ },
    .obj [("spec", .obj [("roles", .arr [requesting "prefill" gpus, requesting "decode" gpus])])]⟩

/-- What the profiler of the Job runs with. -/
private def llamaOptions : Options where
  baseUrl := "http://localhost:8000"
  modelName := "meta/Llama-3-70B"
  tokenizer := ""
  numGpus := 1
  maxKvTokens := 32768
  maxContextLength := 32768
  namespaceName := "serving"
  outputConfigmap := "llama-profiling"
  outputDir := "/tmp/profiling_results"
  updateConfigmap := true
  prefillIslPoints := "128,256,512,1024,1536,2048,3072,4096"
  decodeIslPoints := "256,512,1024,2048,3072"
  decodeGranularity := 6

/-- A default of a profiler without an environment, and the Job's arguments. -/
private theorem llama_launched : Launched [] llama llamaSpec llamaOptions where
  bound := ⟨{ llamaOptions with
      modelName := "", namespaceName := "default", outputConfigmap := "profiling-results" },
    ["--engine", "sglang", "--ttft-sla", "500.0", "--itl-sla", "50.0", "--rbg-name", "llama"],
    by decide +kernel, by decide +kernel⟩
  unset := rfl
  name := by decide
  metricSource := by decide

/-- The runs with long prompts fail. -/
private def llamaTrace : List ProfilerEvent :=
  profilingTrace llamaOptions fun bench => if bench.inputLen ≤ 1024 then some healthy else none

private def llamaProfile : PrefillRawData :=
  prefillFile llamaOptions (prefillPoints 5 llamaTrace)

private theorem llama_published :
    ∃ decode, ∃ e ∈ llamaTrace, written e.1 = some (llamaProfile, decode) := by
  have hwrites : (llamaTrace.filterMap fun e => written e.1) ≠ [] := by decide +kernel
  obtain ⟨⟨prefill, decode⟩, hmem⟩ := List.exists_mem_of_ne_nil _ hwrites
  obtain ⟨e, he, hwritten⟩ := List.mem_filterMap.mp hmem
  obtain ⟨rfl, -⟩ := written_runProfiling (profilingTrace_exec _ _) he hwritten
  exact ⟨decode, e, he, hwritten⟩

private theorem llama_exactOn :
    SciPy.small.ExactOn llamaProfile.prefillIsl llamaProfile.prefillThptPerGpu :=
  SciPy.small_exactOn (by decide +kernel)

private theorem llama_interpolator :
    ∃ p, PrefillInterpolator.init .small llamaProfile = .ok p :=
  (PrefillInterpolator.init_iff SciPy.small_builds (by decide +kernel) (by decide +kernel)).mpr
    (by decide +kernel)

/-- The configuration of a planner for engines of that many GPUs. -/
private def llamaConfig (gpus : ℤ) : PlannerConfig :=
  deployedConfig "llama" llamaSpec "serving" (maxGPUBudget llamaSpec gpus gpus) gpus gpus

/-- With one GPU everything that was measured comes back. -/
theorem capacity_iff_singleGPU :
    ∃ decode p, (∃ e ∈ llamaTrace, written e.1 = some (llamaProfile, decode)) ∧
      PrefillInterpolator.init .small llamaProfile = .ok p ∧
      plannerConfig llama llamaSpec (llamaGroup "1") = .ok (llamaConfig 1) ∧
      (∀ point ∈ prefillPoints 5 llamaTrace,
        UpToRounding 1 (p.interpolateThptPerGpu (.ofInt point.isl) * .ofInt 1)
          point.throughput) ∧
      ∀ sample z, (sample, z) ∈ (decodeSamples 500 llamaTrace).zip decode.zThptPerGpu →
        UpToRounding 1 (z * .ofInt 1) sample.throughput := by
  obtain ⟨decode, e, he, hwritten⟩ := llama_published
  obtain ⟨p, hp⟩ := llama_interpolator
  have hgpus : getGPUsFromRBG (llamaGroup "1") llamaSpec.prefillRoleName
      llamaSpec.decodeRoleName = (1, 1) := by
    decide +kernel
  have hconfig : plannerConfig llama llamaSpec (llamaGroup "1") = .ok (llamaConfig 1) :=
    plannerConfig_of_gpus llama hgpus
  have hcancels : ∀ measured, Cancels 1 measured := by
    intro measured
    cases measured with
    | fin t => exact .inl rfl
    | _ => trivial
  obtain ⟨hprefill, hdecode⟩ := capacity_iff llama_launched (profilingTrace_exec _ _) he hwritten hp
    llama_exactOn hconfig
  refine ⟨decode, p, ⟨e, he, hwritten⟩, hp, hconfig, ?_, ?_⟩
  · intro point hpoint
    exact (hprefill point hpoint).mpr (hgpus ▸ hcancels _)
  · intro sample z hsample
    exact (hdecode sample z hsample).mpr (hgpus ▸ hcancels _)

/-- With two GPUs an engine that prefills 128 tokens in 100 ms is taken for one
that prefills 256. -/
theorem two_gpus_counted_twice :
    Launched [] llama llamaSpec llamaOptions ∧
      ∃ decode p, (∃ e ∈ llamaTrace, written e.1 = some (llamaProfile, decode)) ∧
        PrefillInterpolator.init .small llamaProfile = .ok p ∧
        plannerConfig llama llamaSpec (llamaGroup "2") = .ok (llamaConfig 2) ∧
        ⟨128, .fin 100⟩ ∈ prefillPoints 5 llamaTrace ∧
        PrefillPoint.throughput ⟨128, .fin 100⟩ = .fin 1280 ∧
        p.interpolateThptPerGpu (.ofInt 128) * .ofInt 2 = .fin 2560 ∧
        ¬ UpToRounding 2 (.fin 2560) (.fin 1280) := by
  obtain ⟨decode, hpublished⟩ := llama_published
  obtain ⟨p, hp⟩ := llama_interpolator
  have hgpus : getGPUsFromRBG (llamaGroup "2") llamaSpec.prefillRoleName
      llamaSpec.decodeRoleName = (2, 2) := by
    decide +kernel
  have hmem : ⟨128, .fin 100⟩ ∈ prefillPoints 5 llamaTrace := by decide +kernel
  have hthroughput : PrefillPoint.throughput ⟨128, .fin 100⟩ = .fin 1280 := by decide +kernel
  have hlookup := interpolate_prefillFile hp llama_exactOn hmem
  refine ⟨llama_launched, decode, p, hpublished, hp, plannerConfig_of_gpus llama hgpus, hmem,
    hthroughput, ?_, ?_⟩
  · rw [hlookup, hthroughput]
    decide +kernel
  · simp only [UpToRounding]
    norm_num

end RbgPlanner.Properties.GpuNormalisation
