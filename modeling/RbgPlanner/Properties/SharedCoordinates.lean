import RbgPlanner.Planner.DecodeGrid
import RbgPlanner.Profiler.Concurrency
import RbgPlanner.Profiler.Samples

/-!
# The coordinates of a decode sample

The profiler files a decode run under its share of the KV cache and its context
length; the planner computes both again from a concurrency and a context
length. This module follows one sample from the sweep to the node that the
planner looks it up at.
-/

namespace RbgPlanner.Properties.SharedCoordinates

open Base Base.Rounding Base.Prog Planner Profiler
open Planner.DecodeInterpolator (SelectsNearest axisIndex_of_mem xi_zero xi_one)

/-! ## The sweep -/

/-- A sample whose run fits the cache to the last token it generates. -/
structure FitsCache (maxKvTokens osl : ℤ) (sample : DecodeSample) : Prop where
  isl_nonneg : 0 ≤ sample.isl
  concurrency_pos : 1 ≤ sample.concurrency
  tokens_le : sample.concurrency * (sample.isl + osl) ≤ maxKvTokens

variable {args : Options} {osl : ℤ}

theorem fitsCache_of_sweepBench {isls : List ℤ} {bench : Bench} {sample : DecodeSample}
    {result : BenchResult} (hosl : 2 ≤ osl) (hgranularity : 2 ≤ args.decodeGranularity)
    (hisls : ∀ isl ∈ isls, 0 ≤ isl) (hbench : SweepBench args osl isls (.runBench bench))
    (hsample : decodeSample bench result = some sample) :
    FitsCache args.maxKvTokens osl sample := by
  obtain ⟨-, hisl, fitting, points, hfitting, hroom, hpoints, hconcurrency⟩ := hbench
  obtain ⟨measured, -, rfl⟩ := Option.map_eq_some_iff.mp hsample
  have hisl : 0 ≤ bench.inputLen := hisls _ hisl
  have hbounds := (shape_concurrencyPoints hgranularity hroom hpoints).inRange _ hconcurrency
  have hfitting : fitting = args.maxKvTokens / (bench.inputLen + osl) := by
    unfold floorDiv at hfitting
    split_ifs at hfitting with hzero
    rw [← Except.ok.inj hfitting]
    exact Int.fdiv_eq_ediv_of_nonneg _ (by omega)
  refine ⟨hisl, hbounds.1, ?_⟩
  rw [hfitting] at hbounds
  change bench.numPrompts * (bench.inputLen + osl) ≤ args.maxKvTokens
  exact (Int.le_ediv_iff_mul_le (by omega)).mp (hbounds.2.trans (min_le_left _ _))

section Run

variable {σ : Type} {answer : (op : ProfilerOp) → σ → ProfilerResp op → σ → Prop}
  {env : σ → σ → Prop} {s s' : σ} {tr : List ProfilerEvent} {isls : List ℤ}

/-- Every sample of a decode phase comes from a run that fits the cache. -/
theorem fitsCache_of_mem (hosl : 2 ≤ osl) (hgranularity : 2 ≤ args.decodeGranularity)
    (hisls : ∀ isl ∈ isls, 0 ≤ isl) {out}
    (hrun : (ExceptT.run (profileDecode args osl isls)).Exec answer env s tr out s')
    {sample : DecodeSample} (hsample : sample ∈ decodeSamples osl tr) :
    FitsCache args.maxKvTokens osl sample := by
  obtain ⟨⟨op, r⟩, he, hsample⟩ := List.mem_filterMap.mp hsample
  have hop := Asks.exec_trace asks_sweep (fun _ _ _ _ _ => trivial) hrun _ he
  cases op with
  | runBench bench =>
      cases r with
      | none => cases hsample
      | some result =>
          have hsample : decodeSample bench result = some sample := by
            simpa [runSample, hop.1] using hsample
          exact fitsCache_of_sweepBench hosl hgranularity hisls hop hsample
  | _ => exact hop.elim

end Run

/-! ## The grid -/

/-- The share of the cache that a sample occupies, before the profiler rounds it. -/
def usage (maxKvTokens osl : ℤ) (sample : DecodeSample) : ℚ :=
  (sample.isl + osl / 2 : ℚ) * sample.concurrency / maxKvTokens

/-- A point of the rectangle that the planner's grid spans. -/
structure InGrid (d : DecodeInterpolator) (point : ℚ × ℚ) : Prop where
  usage_nonneg : 0 ≤ point.1
  usage_le : point.1 ≤ 1
  context_pos : 0 < point.2
  context_le : point.2 ≤ d.maxContextLength

section Located

variable {maxKvTokens : ℤ} {sample : DecodeSample}

theorem usage_nonneg (hfits : FitsCache maxKvTokens osl sample) (hosl : 2 ≤ osl)
    (hkv : 1 ≤ maxKvTokens) : 0 ≤ usage maxKvTokens osl sample := by
  have hisl : (0 : ℚ) ≤ sample.isl := by exact_mod_cast hfits.isl_nonneg
  have hoslq : (2 : ℚ) ≤ osl := by exact_mod_cast hosl
  have hconcurrency : (1 : ℚ) ≤ sample.concurrency := by exact_mod_cast hfits.concurrency_pos
  have hkvq : (1 : ℚ) ≤ maxKvTokens := by exact_mod_cast hkv
  exact div_nonneg (mul_nonneg (by linarith) (by linarith)) (by linarith)

/-- Half of the generated tokens are in the cache at a time, and there is room
for all of them. -/
theorem usage_le_one (hfits : FitsCache maxKvTokens osl sample) (hosl : 2 ≤ osl)
    (hkv : 1 ≤ maxKvTokens) : usage maxKvTokens osl sample ≤ 1 := by
  have hoslq : (2 : ℚ) ≤ osl := by exact_mod_cast hosl
  have hconcurrency : (1 : ℚ) ≤ sample.concurrency := by exact_mod_cast hfits.concurrency_pos
  have htokens : (sample.concurrency : ℚ) * (sample.isl + osl) ≤ maxKvTokens := by
    exact_mod_cast hfits.tokens_le
  rw [usage, div_le_one (by exact_mod_cast hkv)]
  calc (sample.isl + osl / 2 : ℚ) * sample.concurrency
      ≤ (sample.isl + osl) * sample.concurrency := by
        apply mul_le_mul_of_nonneg_right _ (by linarith)
        linarith
    _ = sample.concurrency * (sample.isl + osl) := mul_comm _ _
    _ ≤ maxKvTokens := htokens

/-- For an even output length the profiler's context length is the planner's. -/
theorem contextLength_eq (hosl : Even osl) (isl : ℤ) :
    (contextLength osl isl : ℚ) = isl + osl / 2 := by
  obtain ⟨half, rfl⟩ := hosl
  have hdiv : (half + half).fdiv 2 = half := by
    rw [Int.fdiv_eq_ediv_of_nonneg _ (by decide)]
    omega
  rw [contextLength, hdiv]
  push_cast
  ring

variable {d : DecodeInterpolator}

/-- The KV usage that the planner divides out of a sample. -/
theorem usage_eq_div (hkv : 1 ≤ maxKvTokens) (hd : d.maxKvTokens = maxKvTokens) :
    (PyFloat.ofInt sample.concurrency * .fin (sample.isl + osl / 2)).div (.ofInt d.maxKvTokens) =
      .ok (.fin (usage maxKvTokens osl sample)) := by
  have hne : (maxKvTokens : ℚ) ≠ 0 := by
    have hkvq : (1 : ℚ) ≤ maxKvTokens := by exact_mod_cast hkv
    linarith
  rw [hd, PyFloat.ofInt, PyFloat.ofInt, PyFloat.fin_mul, PyFloat.fin_div _ hne, usage, mul_comm]

/-- The column nearest to the usage is half a step and one rounding from the profiled one. -/
theorem abs_xi_sub_node_le {ix : ℕ}
    (hx : SelectsNearest d.xi d.resolution (usage maxKvTokens osl sample) ix) :
    |d.xi ix - (sample.node osl maxKvTokens).1| ≤
      1 / (2 * (d.resolution - 1)) + 1 / (2 * 10 ^ 6) := by
  have hstep : (d.xi 1 - d.xi 0) / 2 = 1 / (2 * (d.resolution - 1)) := by
    rw [xi_zero, xi_one, sub_zero, div_div, mul_comm]
  have hwithin : |d.xi ix - usage maxKvTokens osl sample| ≤ 1 / (2 * (d.resolution - 1)) :=
    hx.within.trans_eq hstep
  calc |d.xi ix - (sample.node osl maxKvTokens).1|
      ≤ |d.xi ix - usage maxKvTokens osl sample| +
          |usage maxKvTokens osl sample - (sample.node osl maxKvTokens).1| :=
        abs_sub_le _ _ _
    _ ≤ 1 / (2 * (d.resolution - 1)) + 1 / (2 * 10 ^ 6) := by
        rw [abs_sub_comm (usage _ _ _)]
        exact add_le_add hwithin (abs_roundTo_sub_le 6 _)

/-- The profiled point lies in the grid, and the planner, asked for the
concurrency and the context length of the sample, selects the nearest node. -/
structure Located (d : DecodeInterpolator) (maxKvTokens osl : ℤ) (sample : DecodeSample) :
    Prop where
  inGrid : InGrid d (sample.node osl maxKvTokens)
  selected : ∃ ix iy,
    d.computeIdx (.ofInt sample.concurrency) (.fin (sample.isl + osl / 2)) = .ok (ix, iy) ∧
      SelectsNearest d.xi d.resolution (usage maxKvTokens osl sample) ix ∧
      SelectsNearest d.yi d.resolution (sample.node osl maxKvTokens).2 iy ∧
      |d.xi ix - (sample.node osl maxKvTokens).1| ≤
        1 / (2 * (d.resolution - 1)) + 1 / (2 * 10 ^ 6)

theorem located_of_fits (hfits : FitsCache maxKvTokens osl sample)
    (hosl : 2 ≤ osl) (heven : Even osl) (hkv : 1 ≤ maxKvTokens)
    (hd : d.maxKvTokens = maxKvTokens)
    (hcontext : (sample.node osl maxKvTokens).2 ≤ d.maxContextLength) :
    Located d maxKvTokens osl sample := by
  have hnonneg := usage_nonneg hfits hosl hkv
  have hle := usage_le_one hfits hosl hkv
  have hlength : (sample.node osl maxKvTokens).2 = sample.isl + osl / 2 :=
    contextLength_eq heven sample.isl
  have hpos : 0 < (sample.node osl maxKvTokens).2 := by
    have hisl : (0 : ℚ) ≤ sample.isl := by exact_mod_cast hfits.isl_nonneg
    have hoslq : (2 : ℚ) ≤ osl := by exact_mod_cast hosl
    rw [hlength]
    linarith
  constructor
  · exact ⟨roundTo_nonneg 6 hnonneg, roundTo_le_one 6 hle, hpos, hcontext⟩
  · obtain ⟨ix, hix, hx⟩ : ∃ ix,
        d.axisIndex (.fin (usage maxKvTokens osl sample)) (d.xi 0) (d.xi 1) = .ok ix ∧
          SelectsNearest d.xi d.resolution (usage maxKvTokens osl sample) ix :=
      axisIndex_of_mem hnonneg one_pos hle
    obtain ⟨iy, hiy, hy⟩ : ∃ iy,
        d.axisIndex (.fin (sample.node osl maxKvTokens).2) (d.yi 0) (d.yi 1) = .ok iy ∧
          SelectsNearest d.yi d.resolution (sample.node osl maxKvTokens).2 iy :=
      axisIndex_of_mem hpos.le (hpos.trans_le hcontext) hcontext
    refine ⟨ix, iy, ?_, hx, hy, abs_xi_sub_node_le hx⟩
    rw [hlength] at hiy
    exact bind_eq_ok.mpr ⟨_, usage_eq_div hkv hd, bind_eq_ok.mpr ⟨_, hix,
      bind_eq_ok.mpr ⟨_, hiy, rfl⟩⟩⟩

end Located

/-- Whatever the benchmarks measure, each sample of a decode phase is in the
profile, inside the grid that the planner builds from it at any resolution, and
the planner finds it at the nearest node. -/
theorem sample_located {σ : Type}
    {answer : (op : ProfilerOp) → σ → ProfilerResp op → σ → Prop} {env : σ → σ → Prop} {s s' : σ}
    {tr : List ProfilerEvent} {isls : List ℤ} {data : DecodeRawData} {scipy : SciPy}
    {resolution : ℕ} {d : DecodeInterpolator} {sample : DecodeSample}
    (hisls : ∀ isl ∈ isls, 0 ≤ isl) (hosl : 2 ≤ osl) (heven : Even osl)
    (hkv : 1 ≤ args.maxKvTokens) (hgranularity : 2 ≤ args.decodeGranularity)
    (hresolution : 2 ≤ resolution)
    (hrun : (ExceptT.run (profileDecode args osl isls)).Exec answer env s tr
      (.done (.ok data)) s')
    (hd : DecodeInterpolator.init scipy resolution hresolution data = .ok d)
    (hsample : sample ∈ decodeSamples osl tr) :
    sample.node osl args.maxKvTokens ∈ data.xKvUsage.zip data.yContextLength ∧
      d.resolution = resolution ∧ Located d args.maxKvTokens osl sample := by
  have hfits := fitsCache_of_mem hosl hgranularity hisls hrun hsample
  have hdata := profileDecodePoints_done hrun
  have hmem : sample.node osl args.maxKvTokens ∈ data.xKvUsage.zip data.yContextLength := by
    have hnodes : data.xKvUsage.zip data.yContextLength =
        (decodeSamples osl tr).map (DecodeSample.node osl args.maxKvTokens) := by
      rw [hdata]
      simp [extendDecode, List.zip_map']
    rw [hnodes]
    exact List.mem_map_of_mem hsample
  have hkvData : data.maxKvTokens = args.maxKvTokens := by rw [hdata]; rfl
  obtain ⟨maxContextLength, hmax, hd⟩ := bind_eq_ok.mp hd
  obtain ⟨itl, -, hd⟩ := bind_eq_ok.mp hd
  obtain ⟨thpt, -, hd⟩ := bind_eq_ok.mp hd
  obtain rfl := Except.ok.inj hd
  refine ⟨hmem, rfl, located_of_fits hfits hosl heven hkv hkvData ?_⟩
  exact le_listMax hmax _ (List.of_mem_zip hmem).2

/-! ## A sweep -/

/-- A profiler with a small cache. -/
private def smallCache : Options where
  baseUrl := "http://localhost:8000"
  modelName := "Qwen/Qwen3-0.6B"
  tokenizer := ""
  numGpus := 1
  maxKvTokens := 2048
  maxContextLength := 32768
  namespaceName := "serving"
  outputConfigmap := "qwen-profiling"
  outputDir := "/tmp/profiling_results"
  updateConfigmap := true
  prefillIslPoints := "128,256,512,1024"
  decodeIslPoints := "0,512"
  decodeGranularity := 2

/-- The profile of its decode phase: one and four requests without a prompt, one
and two with a prompt of 512 tokens. -/
private def smallCacheProfile : DecodeRawData where
  xKvUsage := [12207 / 100000, 488281 / 1000000, 37207 / 100000, 744141 / 1000000]
  yContextLength := [250, 250, 762, 762]
  zItl := [.fin 10, .fin 10, .fin 10, .fin 10]
  zThptPerGpu := [.fin 1000, .fin 1000, .fin 1000, .fin 1000]
  maxKvTokens := 2048

private def smallCacheSweep : Prog ProfilerOp ProfilerResp (Except ProfilerExc DecodeRawData) :=
  ExceptT.run (profileDecode smallCache 500 [0, 512])

private theorem smallCacheSweep_run :
    (smallCacheSweep.run (endpoint fun _ => some healthy) ()).1 = .ok smallCacheProfile := by
  decide +kernel

private theorem smallCacheSweep_exec :
    smallCacheSweep.Exec (fun _ _ _ _ => True) (fun _ _ => False) ()
      (smallCacheSweep.trace (endpoint fun _ => some healthy) ())
      (.done (.ok smallCacheProfile))
      (smallCacheSweep.run (endpoint fun _ => some healthy) ()).2 := by
  rw [← smallCacheSweep_run]
  exact Prog.exec_of_run (fun _ _ => trivial) _ _

private theorem smallCacheProfile_init : ∃ d,
    DecodeInterpolator.init .small 100 (by decide) smallCacheProfile = .ok d := by
  have hpoints : Triangulable
      (smallCacheProfile.xKvUsage.zip smallCacheProfile.yContextLength) := by
    decide +kernel
  exact (DecodeInterpolator.init_iff SciPy.small_builds _ rfl rfl rfl).mpr hpoints

theorem sample_located_small_cache :
    ∃ d sample, DecodeInterpolator.init .small 100 (by decide) smallCacheProfile = .ok d ∧
      sample.isl = 512 ∧ sample.concurrency = 2 ∧
        sample.node 500 2048 ∈ smallCacheProfile.xKvUsage.zip smallCacheProfile.yContextLength ∧
          d.resolution = 100 ∧ Located d 2048 500 sample := by
  obtain ⟨d, hd⟩ := smallCacheProfile_init
  have hsample : (⟨512, 2, .fin 10, .fin 1000⟩ : DecodeSample) ∈
      decodeSamples 500 (smallCacheSweep.trace (endpoint fun _ => some healthy) ()) := by
    decide +kernel
  have hisls : ∀ isl ∈ ([0, 512] : List ℤ), 0 ≤ isl := by decide
  exact ⟨d, _, hd, rfl, rfl, @sample_located smallCache 500 Unit _ _ _ _ _ _ _ _ _ _ _ hisls
    (by decide) (by decide) (by decide) (by decide) (by decide) smallCacheSweep_exec hd hsample⟩

end RbgPlanner.Properties.SharedCoordinates
