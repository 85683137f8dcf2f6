import RbgPlanner.Profiler.Samples

/-!
# Published profiles

The profiler publishes whatever points its runs left, and the operator takes the
ConfigMap for a profile. This module decides from the benchmark runs whether the
planner can build its interpolators from what was published.
-/

namespace RbgPlanner.Properties.PublishedProfile

open Base Planner Profiler

/-- Both interpolators can be built from a profile. -/
def Usable (scipy : SciPy) (prefill : PrefillRawData) (decode : DecodeRawData) : Prop :=
  (∃ p, PrefillInterpolator.init scipy prefill = .ok p) ∧
    ∃ d, DecodeInterpolator.init scipy 100 (Nat.le_of_ble_eq_true rfl) decode = .ok d

variable {scipy : SciPy} {args : Options}

theorem prefillFile_usable_iff (hscipy : scipy.Builds) (points : List PrefillPoint) :
    (∃ p, PrefillInterpolator.init scipy (prefillFile args points) = .ok p) ↔
      4 ≤ points.length ∧ (points.map PrefillPoint.isl).Nodup := by
  have hisl : (prefillFile args points).prefillIsl =
      (points.map PrefillPoint.isl).map fun isl : ℤ => (isl : ℚ) := by
    simp [prefillFile, extendPrefill, Function.comp_def]
  rw [PrefillInterpolator.init_iff hscipy (by simp [prefillFile, extendPrefill])
    (by simp [prefillFile, extendPrefill]), hisl, List.length_map, List.length_map,
    List.nodup_map_iff Int.cast_injective]

theorem decodeFile_usable_iff (hscipy : scipy.Builds) (osl : ℤ) (samples : List DecodeSample) :
    (∃ d, DecodeInterpolator.init scipy 100 (Nat.le_of_ble_eq_true rfl)
        (decodeFile osl args samples) = .ok d) ↔
      Triangulable (samples.map (DecodeSample.node osl args.maxKvTokens)) := by
  have hnodes : (decodeFile osl args samples).xKvUsage.zip
      (decodeFile osl args samples).yContextLength =
        samples.map (DecodeSample.node osl args.maxKvTokens) := by
    simp [decodeFile, extendDecode, List.zip_map']
  rw [DecodeInterpolator.init_iff hscipy _ (by simp [decodeFile, extendDecode])
    (by simp [decodeFile, extendDecode]) (by simp [decodeFile, extendDecode]), hnodes]

/-- What a run of the profiler publishes is usable exactly when four prefill runs
were usable, all at different input lengths, and three decode runs were, not on
one line in the plane of KV usage and context length. -/
theorem usable_iff (hscipy : scipy.Builds) {σ : Type}
    {answer : (op : ProfilerOp) → σ → ProfilerResp op → σ → Prop} {env : σ → σ → Prop} {s s' : σ}
    {tr : List ProfilerEvent} {out}
    (hrun : (ExceptT.run (runProfiling args)).Exec answer env s tr out s') {e : ProfilerEvent}
    (he : e ∈ tr) {prefill : PrefillRawData} {decode : DecodeRawData}
    (hwritten : written e.1 = some (prefill, decode)) :
    Usable scipy prefill decode ↔
      4 ≤ (prefillPoints 5 tr).length ∧ ((prefillPoints 5 tr).map PrefillPoint.isl).Nodup ∧
        Triangulable ((decodeSamples 500 tr).map (DecodeSample.node 500 args.maxKvTokens)) := by
  obtain ⟨rfl, rfl⟩ := written_runProfiling hrun he hwritten
  rw [Usable, prefillFile_usable_iff hscipy, decodeFile_usable_iff hscipy, and_assoc]

/-! ## Two runs -/

/-- A profiler that measures few points. -/
private def fewPoints : Options where
  baseUrl := "http://localhost:8000"
  modelName := "Qwen/Qwen3-0.6B"
  tokenizer := ""
  numGpus := 1
  maxKvTokens := 32768
  maxContextLength := 32768
  namespaceName := "serving"
  outputConfigmap := "qwen-profiling"
  outputDir := "/tmp/profiling_results"
  updateConfigmap := true
  prefillIslPoints := "128,256,512,1024"
  decodeIslPoints := "256,512"
  decodeGranularity := 2

/-- When every run succeeds, the profile is usable. -/
theorem usable_iff_healthy :
    ∃ prefill decode, (∃ e ∈ profilingTrace fewPoints fun _ => some healthy,
      written e.1 = some (prefill, decode)) ∧ Usable .small prefill decode := by
  have hwrites : ((profilingTrace fewPoints fun _ => some healthy).filterMap fun e =>
      written e.1) ≠ [] := by
    decide +kernel
  obtain ⟨⟨prefill, decode⟩, hmem⟩ := List.exists_mem_of_ne_nil _ hwrites
  obtain ⟨e, he, hwritten⟩ := List.mem_filterMap.mp hmem
  refine ⟨prefill, decode, ⟨e, he, hwritten⟩, ?_⟩
  apply (usable_iff SciPy.small_builds (profilingTrace_exec _ _) he hwritten).mpr
  decide +kernel

/-- When every run fails, the profiler ends well and publishes a profile without
points. -/
theorem empty_profile_published :
    ((ExceptT.run (runProfiling fewPoints)).run (endpoint fun _ => none) ()).1 = .ok () ∧
      ∃ prefill decode, (∃ e ∈ profilingTrace fewPoints fun _ => none,
        written e.1 = some (prefill, decode)) ∧ ∀ scipy, ¬ Usable scipy prefill decode := by
  have hdata : (profilingTrace fewPoints fun _ => none).filterMap (fun e => written e.1) =
      [(⟨[], [], []⟩, ⟨[], [], [], [], 32768⟩)] := by
    decide +kernel
  refine ⟨by decide +kernel, ⟨[], [], []⟩, ⟨[], [], [], [], 32768⟩, ?_, ?_⟩
  · exact List.mem_filterMap.mp (by rw [hdata]; exact List.mem_singleton_self _)
  · rintro scipy ⟨⟨p, hp⟩, -⟩
    -- `min` of no input lengths raises before SciPy is asked
    cases hp

end RbgPlanner.Properties.PublishedProfile
