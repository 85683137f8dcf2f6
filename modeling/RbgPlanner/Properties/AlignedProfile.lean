import RbgPlanner.Base.ServedRuns
import RbgPlanner.Profiler.Concurrency
import RbgPlanner.Profiler.Samples

/-!
# The columns of a profile

The profiler appends to several lists side by side. This module follows both
phases through their sweeps, whatever the benchmarks answer, up to the lists
they return or to an integer that no float holds.
-/

namespace RbgPlanner.Properties.AlignedProfile

open Base Base.Rounding Base.Prog Planner Profiler

/-! ## Aligned lists -/

/-- A benchmark run that has a result. -/
def runEvent (run : Bench × BenchResult) : ProfilerEvent := ⟨.runBench run.1, some run.2⟩

/-- Each row comes from a run of its own, and rows are in the order of the runs. -/
def FromRuns {α : Type} (extract : Bench → BenchResult → Option α) (tr : List ProfilerEvent)
    (rows : List α) : Prop :=
  ∃ runs : List (Bench × BenchResult), (runs.map runEvent).Sublist tr ∧
    runs.map (fun run => extract run.1 run.2) = rows.map some

/-- Three lists of one length, with one entry each for the same run. -/
structure PrefillAligned (numGpus : ℤ) (tr : List ProfilerEvent) (data : PrefillRawData) :
    Prop where
  lengths : data.prefillIsl.length = data.prefillTtft.length ∧
    data.prefillTtft.length = data.prefillThptPerGpu.length
  rows : ∃ points : List PrefillPoint, FromRuns prefillPoint tr points ∧
    data.prefillIsl = points.map (fun point => (point.isl : ℚ)) ∧
    data.prefillTtft = points.map (fun point => point.ttft.roundDigits 2) ∧
    data.prefillThptPerGpu =
      points.map fun point => (point.throughput.ieeeDiv (.ofInt numGpus)).roundDigits 2

/-- Four lists of one length, with one entry each for the same run. -/
structure DecodeAligned (osl maxKvTokens numGpus : ℤ) (tr : List ProfilerEvent)
    (data : DecodeRawData) : Prop where
  lengths : data.xKvUsage.length = data.yContextLength.length ∧
    data.yContextLength.length = data.zItl.length ∧
    data.zItl.length = data.zThptPerGpu.length
  rows : ∃ samples : List DecodeSample, FromRuns decodeSample tr samples ∧
    data.xKvUsage = samples.map (fun sample =>
      roundTo 6 ((sample.isl + osl / 2 : ℚ) * sample.concurrency / maxKvTokens)) ∧
    data.yContextLength = samples.map (fun sample => (contextLength osl sample.isl : ℚ)) ∧
    data.zItl = samples.map (fun sample => sample.itl.roundDigits 3) ∧
    data.zThptPerGpu =
      samples.map fun sample => (sample.throughput.ieeeDiv (.ofInt numGpus)).roundDigits 2

/-! ## Sweeps -/

/-- The runs of the prefill phase. -/
def prefillSweep (args : Options) (numPrompts osl : ℤ) (isls : List ℤ) : List ProfilerOp :=
  (isls.filter fun isl => isl < args.maxContextLength - 512).map fun isl =>
    .runBench (prefillBench args numPrompts osl isl)

/-- Increasing concurrencies for an input length, from one on where the context
and the cache have room for it. -/
structure Sweeps (args : Options) (osl isl : ℤ) (points : List ℤ) : Prop where
  increasing : points.Pairwise (· < ·)
  first : isl + osl < args.maxContextLength → isl + osl ≤ args.maxKvTokens → 1 ∈ points

/-- The runs of a decode phase that measures these concurrencies. -/
def decodeSweep (args : Options) (osl : ℤ) (points : ℤ → List ℤ) (isls : List ℤ) :
    List ProfilerOp :=
  isls.flatMap fun isl => (points isl).map fun concurrency =>
    .runBench (decodeBench args osl isl concurrency)

/-- A run within the cache and the context. -/
def InRange (args : Options) : ProfilerOp → Prop
  | .runBench bench =>
      bench.numPrompts * (bench.inputLen + bench.outputLen) ≤ args.maxKvTokens ∧
        bench.inputLen + bench.outputLen < args.maxContextLength
  | _ => False

section Served

variable {σ : Type} (serve : (op : ProfilerOp) → σ → ProfilerResp op × σ) (s : σ)

/-- The prefill phase returns aligned lists, and its runs are those of its sweep. -/
structure PrefillProfiled (args : Options) (numPrompts osl : ℤ) (isls : List ℤ) : Prop where
  returns : ∃ data s',
    (ExceptT.run (profilePrefill args numPrompts osl isls)).run serve s = (.ok data, s') ∧
      PrefillAligned args.numGpus
        ((ExceptT.run (profilePrefill args numPrompts osl isls)).trace serve s) data
  sweep : ((ExceptT.run (profilePrefill args numPrompts osl isls)).trace serve s).map Sigma.fst =
    prefillSweep args numPrompts osl isls

/-- The decode phase returns aligned lists, and its runs sweep the input lengths
as they are given, all in range. -/
structure DecodeProfiled (args : Options) (osl : ℤ) (isls : List ℤ) : Prop where
  returns : ∃ data s',
    (ExceptT.run (profileDecode args osl isls)).run serve s = (.ok data, s') ∧
      DecodeAligned osl args.maxKvTokens args.numGpus
        ((ExceptT.run (profileDecode args osl isls)).trace serve s) data
  sweep : ∃ points : ℤ → List ℤ, (∀ isl ∈ isls, Sweeps args osl isl (points isl)) ∧
    ((ExceptT.run (profileDecode args osl isls)).trace serve s).map Sigma.fst =
      decodeSweep args osl points isls
  inRange : ∀ e ∈ (ExceptT.run (profileDecode args osl isls)).trace serve s, InRange args e.1

end Served

/-! ## Integers in the results -/

/-- Doubles hold the integers that a prefill run is computed with: the time to
first token, and for a positive one the input length and the number of GPUs. -/
def PrefillFits (numGpus : ℤ) : ProfilerEvent → Prop
  | ⟨.runBench bench, result⟩ => ∀ ttft ∈ result.bind meanTtft, ttft.InRange ∧
      (ttft.value.le (.fin 0) = false → InDoubleRange bench.inputLen ∧ InDoubleRange numGpus)
  | _ => True

instance (numGpus : ℤ) : DecidablePred (PrefillFits numGpus)
  | ⟨.runBench bench, result⟩ => inferInstanceAs (Decidable (∀ ttft ∈ result.bind meanTtft,
      ttft.InRange ∧ (ttft.value.le (.fin 0) = false →
        InDoubleRange bench.inputLen ∧ InDoubleRange numGpus)))
  | ⟨.readConfigMap .., _⟩ => .isTrue trivial
  | ⟨.replaceConfigMap .., _⟩ => .isTrue trivial
  | ⟨.createConfigMap .., _⟩ => .isTrue trivial

/-- Doubles hold the integers that a decode run is computed with: the latency and
the throughput, the number of GPUs and the size of the cache. -/
def DecodeFits (maxKvTokens numGpus : ℤ) : ProfilerEvent → Prop
  | ⟨.runBench _, result⟩ => ∀ measured ∈ result.bind itlAndThroughput,
      measured.1.InRange ∧ measured.2.InRange ∧ InDoubleRange numGpus ∧ InDoubleRange maxKvTokens
  | _ => True

instance (maxKvTokens numGpus : ℤ) : DecidablePred (DecodeFits maxKvTokens numGpus)
  | ⟨.runBench _, result⟩ => inferInstanceAs (Decidable (∀ measured ∈ result.bind itlAndThroughput,
      measured.1.InRange ∧ measured.2.InRange ∧
        InDoubleRange numGpus ∧ InDoubleRange maxKvTokens))
  | ⟨.readConfigMap .., _⟩ => .isTrue trivial
  | ⟨.replaceConfigMap .., _⟩ => .isTrue trivial
  | ⟨.createConfigMap .., _⟩ => .isTrue trivial

/-! ## Rows -/

theorem fromRuns_filterMap {α : Type} (osl : ℤ) (extract : Bench → BenchResult → Option α)
    (tr : List ProfilerEvent) : FromRuns extract tr (tr.filterMap (runSample osl extract)) := by
  induction tr with
  | nil => exact ⟨[], .slnil, rfl⟩
  | cons e tr ih =>
      obtain ⟨runs, hsub, hrows⟩ := ih
      rw [List.filterMap_cons]
      cases hrow : runSample osl extract e with
      | none => exact ⟨runs, hsub.cons e, hrows⟩
      | some row =>
          obtain ⟨op, r⟩ := e
          cases op with
          | runBench bench =>
              cases r with
              | none => cases hrow
              | some result =>
                  have hextract : extract bench result = some row :=
                    (Option.ite_none_right_eq_some.mp hrow).2
                  refine ⟨(bench, result) :: runs, hsub.cons_cons _, ?_⟩
                  rw [List.map_cons, hrows, hextract]
                  rfl
          | _ => cases hrow

/-! ## Concurrencies -/

/-- The concurrencies that are measured at an input length. -/
def sweepAt (args : Options) (osl isl : ℤ) : List ℤ :=
  if args.maxContextLength ≤ isl + osl then []
  else ((floorDiv args.maxKvTokens (isl + osl)).bind fun fitting =>
    concurrencyPoints args.decodeGranularity (min fitting 512)).toOption.getD []

section Concurrencies

variable {args : Options} {osl isl : ℤ} (hosl : 1 ≤ osl)
  (hgranularity : 2 ≤ args.decodeGranularity) (hisl : 0 ≤ isl)
include hosl hisl

/-- The number of requests of one length that fit the cache. -/
theorem floorDiv_fitting :
    floorDiv args.maxKvTokens (isl + osl) = .ok (args.maxKvTokens / (isl + osl)) := by
  unfold floorDiv
  rw [if_neg (by omega), Int.fdiv_eq_ediv_of_nonneg _ (by omega)]

include hgranularity

/-- What is measured at an input length: nothing, or a sweep up to what fits the cache. -/
theorem sweepAt_cases :
    (sweepAt args osl isl = [] ∧
      (args.maxContextLength ≤ isl + osl ∨
        min (args.maxKvTokens / (isl + osl)) 512 < 1)) ∨
    (isl + osl < args.maxContextLength ∧ 1 ≤ min (args.maxKvTokens / (isl + osl)) 512 ∧
      concurrencyPoints args.decodeGranularity (min (args.maxKvTokens / (isl + osl)) 512) =
        .ok (sweepAt args osl isl)) := by
  unfold sweepAt
  by_cases hlong : args.maxContextLength ≤ isl + osl
  · rw [if_pos hlong]
    exact .inl ⟨rfl, .inl hlong⟩
  · rw [if_neg hlong, floorDiv_fitting hosl hisl]
    by_cases hroom : 1 ≤ min (args.maxKvTokens / (isl + osl)) 512
    · obtain ⟨points, hpoints, -⟩ := exists_concurrencyPoints hgranularity hroom
      refine .inr ⟨not_le.mp hlong, hroom, ?_⟩
      simp only [Except.bind, hpoints]
      rfl
    · refine .inl ⟨?_, .inr (not_le.mp hroom)⟩
      have hnone : concurrencyPoints args.decodeGranularity
          (min (args.maxKvTokens / (isl + osl)) 512) = .ok [] := by
        unfold concurrencyPoints
        rw [if_pos (by omega), map_castRange]
        have hzero : (min (args.maxKvTokens / (isl + osl)) 512).toNat = 0 := by omega
        rw [hzero]
        rfl
      simp only [Except.bind, hnone]
      rfl

/-- The requests of a run fit the cache together. -/
theorem bounds_of_mem_sweepAt {concurrency : ℤ} (h : concurrency ∈ sweepAt args osl isl) :
    1 ≤ concurrency ∧ concurrency * (isl + osl) ≤ args.maxKvTokens ∧
      isl + osl < args.maxContextLength := by
  rcases sweepAt_cases hosl hgranularity hisl with ⟨hnone, -⟩ | ⟨hshort, hroom, hpoints⟩
  · rw [hnone] at h
    cases h
  · have hrange := (shape_concurrencyPoints hgranularity hroom hpoints).inRange concurrency h
    have hle : concurrency ≤ args.maxKvTokens / (isl + osl) := hrange.2.trans (min_le_left _ _)
    exact ⟨hrange.1, (Int.le_ediv_iff_mul_le (by omega)).mp hle, hshort⟩

theorem sweeps_sweepAt : Sweeps args osl isl (sweepAt args osl isl) := by
  rcases sweepAt_cases hosl hgranularity hisl with ⟨hnone, hskip⟩ | ⟨-, hroom, hpoints⟩
  · rw [hnone]
    refine ⟨.nil, fun hshort hfits => ?_⟩
    have hone : 1 ≤ args.maxKvTokens / (isl + osl) :=
      (Int.le_ediv_iff_mul_le (by omega)).mpr (by omega)
    omega
  · have hshape := shape_concurrencyPoints hgranularity hroom hpoints
    exact ⟨hshape.increasing, fun _ _ => hshape.first⟩

end Concurrencies

/-! ## Numbers of a run -/

section Numbers

variable {osl isl : ℤ}

theorem fin_ne_zero {n : ℤ} (hn : 1 ≤ n) : PyFloat.fin (n : ℚ) ≠ .fin 0 :=
  fun h => absurd (PyFloat.ofInt_eq_zero.mp h) (by omega)

theorem exists_prefillThpt_iff {ttft : PyFloat} {numGpus : ℤ} (httft : ttft.le (.fin 0) = false)
    (hgpus : 1 ≤ numGpus) :
    (∃ thpt, prefillThpt isl ttft numGpus = .ok thpt) ↔
      InDoubleRange isl ∧ InDoubleRange numGpus := by
  constructor
  · rintro ⟨thpt, h⟩
    obtain ⟨_, hisl, h⟩ := bind_eq_ok.mp h
    obtain ⟨_, -, h⟩ := bind_eq_ok.mp h
    obtain ⟨_, hrange, -⟩ := bind_eq_ok.mp h
    exact ⟨(double_eq_ok hisl).1, (double_eq_ok hrange).1⟩
  · rintro ⟨hisl, hrange⟩
    have hne : ttft ≠ .fin 0 := by
      rintro rfl
      exact absurd httft (by decide)
    exact ⟨_, bind_eq_ok.mpr ⟨_, double_of_inRange hisl, bind_eq_ok.mpr ⟨_, if_neg hne,
      bind_eq_ok.mpr ⟨_, double_of_inRange hrange, if_neg (fin_ne_zero hgpus)⟩⟩⟩⟩

theorem exists_decodeThpt_iff {throughput : PyNumber} {numGpus : ℤ} (hgpus : 1 ≤ numGpus) :
    (∃ thpt, decodeThpt throughput numGpus = .ok thpt) ↔
      throughput.InRange ∧ InDoubleRange numGpus := by
  constructor
  · rintro ⟨thpt, h⟩
    obtain ⟨_, hmeasured, h⟩ := bind_eq_ok.mp h
    obtain ⟨_, hrange, -⟩ := bind_eq_ok.mp h
    exact ⟨(PyNumber.toFloat_eq_ok hmeasured).1, (double_eq_ok hrange).1⟩
  · rintro ⟨hmeasured, hrange⟩
    exact ⟨_, bind_eq_ok.mpr ⟨_, PyNumber.toFloat_of_inRange hmeasured,
      bind_eq_ok.mpr ⟨_, double_of_inRange hrange, if_neg (fin_ne_zero hgpus)⟩⟩⟩

/-- In a cache that holds the requests the other integers are within its size. -/
theorem exists_kvUsage_iff {concurrency maxKvTokens : ℤ} (hosl : 1 ≤ osl) (hisl : 0 ≤ isl)
    (hconcurrency : 1 ≤ concurrency) (hfits : concurrency * (isl + osl) ≤ maxKvTokens) :
    (∃ usage, kvUsage osl isl concurrency maxKvTokens = .ok usage) ↔
      InDoubleRange maxKvTokens := by
  constructor
  · rintro ⟨usage, h⟩
    obtain ⟨_, -, h⟩ := bind_eq_ok.mp h
    obtain ⟨_, -, h⟩ := bind_eq_ok.mp h
    obtain ⟨_, -, h⟩ := bind_eq_ok.mp h
    obtain ⟨_, hrange, -⟩ := bind_eq_ok.mp h
    exact (double_eq_ok hrange).1
  · intro hrange
    have hlength : isl + osl ≤ maxKvTokens := by nlinarith
    have hrequests : concurrency ≤ maxKvTokens := by nlinarith
    have hsmall : ∀ n : ℤ, 0 ≤ n → n ≤ maxKvTokens → InDoubleRange n := by
      intro n hn hle
      refine hrange.of_abs_le ?_
      rw [abs_of_nonneg (by exact_mod_cast hn)]
      exact_mod_cast hle
    have hhalf : InDoubleRange (osl / 2 : ℚ) := by
      have hosl : (1 : ℚ) ≤ osl := by exact_mod_cast hosl
      have hle : (osl : ℚ) ≤ maxKvTokens := by exact_mod_cast (by omega : osl ≤ maxKvTokens)
      refine hrange.of_abs_le ?_
      rw [abs_of_nonneg (by positivity)]
      linarith
    exact ⟨_, bind_eq_ok.mpr ⟨_, double_of_inRange hhalf, bind_eq_ok.mpr ⟨_,
      double_of_inRange (hsmall isl hisl (by omega)), bind_eq_ok.mpr ⟨_,
        double_of_inRange (hsmall concurrency (by omega) hrequests), bind_eq_ok.mpr ⟨_,
          double_of_inRange hrange, if_neg (by exact_mod_cast (by omega : maxKvTokens ≠ 0))⟩⟩⟩⟩⟩

end Numbers

/-! ## Runs that return -/

theorem raising_ok_bind {α β : Type} (a : α) (f : α → ProfilerCall β) :
    (ProfilerCall.raising (.ok a) >>= f) = f a := rfl

theorem raising_error_bind {α β : Type} (e : PyExc) (f : α → ProfilerCall β) :
    (ProfilerCall.raising (.error e) >>= f) = throw (.builtin e) := rfl

/-- `float` raises on what is out of range. -/
theorem toFloat_of_not_inRange {x : PyNumber} (h : ¬ x.InRange) : ∃ e, x.toFloat = .error e := by
  cases hx : x.toFloat with
  | ok y => exact absurd (PyNumber.toFloat_eq_ok hx).1 h
  | error e => exact ⟨e, rfl⟩

theorem prefillFits_iff {numGpus : ℤ} {bench : Bench} {result : Option BenchResult}
    {ttft : PyNumber} (h : result.bind meanTtft = some ttft) :
    PrefillFits numGpus ⟨.runBench bench, result⟩ ↔ ttft.InRange ∧
      (ttft.value.le (.fin 0) = false → InDoubleRange bench.inputLen ∧ InDoubleRange numGpus) := by
  constructor
  · exact fun hfits => hfits ttft h
  · intro hfits other hother
    rwa [← Option.some.inj (h.symm.trans hother)]

theorem decodeFits_iff {maxKvTokens numGpus : ℤ} {bench : Bench} {result : Option BenchResult}
    {measured : PyNumber × PyNumber} (h : result.bind itlAndThroughput = some measured) :
    DecodeFits maxKvTokens numGpus ⟨.runBench bench, result⟩ ↔ measured.1.InRange ∧
      measured.2.InRange ∧ InDoubleRange numGpus ∧ InDoubleRange maxKvTokens := by
  constructor
  · exact fun hfits => hfits measured h
  · intro hfits other hother
    rwa [← Option.some.inj (h.symm.trans hother)]

section Returns

variable {σ : Type} {serve : (op : ProfilerOp) → σ → ProfilerResp op × σ} {s : σ}
  {args : Options} {numPrompts osl isl : ℤ}

section Prefill

variable (hgpus : 1 ≤ args.numGpus)
include hgpus

theorem returnsWhen_profilePrefillPoint (isl : ℤ) (data : PrefillRawData) (s : σ) :
    ReturnsWhen serve (PrefillFits args.numGpus)
      (profilePrefillPoint args numPrompts osl isl data) s
      (prefillSweep args numPrompts osl [isl]) := by
  unfold profilePrefillPoint prefillSweep
  by_cases hskip : args.maxContextLength - 512 ≤ isl
  · rw [if_pos hskip]
    simp only [List.filter_singleton, not_lt.mpr hskip, decide_false, Bool.cond_false, List.map_nil]
    exact .pure data
  · rw [if_neg hskip]
    simp only [List.filter_singleton, not_le.mp hskip, decide_true, Bool.cond_true, List.map_cons,
      List.map_nil]
    refine .request ?_
    generalize (serve (.runBench (prefillBench args numPrompts osl isl)) s).1 = result
    cases hmean : result.bind meanTtft with
    | none => exact .inl ⟨data, rfl, fun ttft httft => by cases hmean.symm.trans httft⟩
    | some ttft =>
        rw [prefillFits_iff hmean]
        by_cases hrange : ttft.InRange
        · simp only [PyNumber.toFloat_of_inRange hrange, raising_ok_bind]
          cases hle : ttft.value.le (.fin 0) with
          | true => exact .inl ⟨data, rfl, hrange, nofun⟩
          | false =>
              have hiff : (∃ thpt, prefillThpt isl ttft.value args.numGpus = .ok thpt) ↔ _ :=
                exists_prefillThpt_iff hle hgpus
              cases hthpt : prefillThpt isl ttft.value args.numGpus with
              | ok thpt => exact .inl ⟨_, rfl, hrange, fun _ => hiff.mp ⟨thpt, hthpt⟩⟩
              | error e =>
                  refine .inr ⟨_, rfl, fun hfits => ?_⟩
                  obtain ⟨thpt, hok⟩ := hiff.mpr (hfits.2 rfl)
                  cases hthpt.symm.trans hok
        · obtain ⟨e, hraise⟩ := toFloat_of_not_inRange hrange
          simp only [hraise, raising_error_bind]
          exact .inr ⟨_, rfl, fun hfits => hrange hfits.1⟩

theorem returnsWhen_profilePrefillPoints (isls : List ℤ) (data : PrefillRawData) (s : σ) :
    ReturnsWhen serve (PrefillFits args.numGpus)
      (profilePrefillPoints args numPrompts osl isls data) s
      (prefillSweep args numPrompts osl isls) := by
  induction isls generalizing data s with
  | nil => exact .pure data
  | cons isl isls ih =>
      have hsweep : prefillSweep args numPrompts osl (isl :: isls) =
          prefillSweep args numPrompts osl [isl] ++ prefillSweep args numPrompts osl isls := by
        rw [prefillSweep, prefillSweep, prefillSweep, ← List.map_append, ← List.filter_append]
        rfl
      rw [hsweep]
      exact (returnsWhen_profilePrefillPoint hgpus isl data s).bind ih

end Prefill

section Decode

variable (hgpus : 1 ≤ args.numGpus) (hosl : 1 ≤ osl)
include hgpus hosl

theorem returnsWhen_profileDecodeRun {concurrency : ℤ} (hisl : 0 ≤ isl)
    (hconcurrency : 1 ≤ concurrency) (hfits : concurrency * (isl + osl) ≤ args.maxKvTokens)
    (data : DecodeRawData) (s : σ) :
    ReturnsWhen serve (DecodeFits args.maxKvTokens args.numGpus)
      (profileDecodeRun args osl isl concurrency data) s
      [.runBench (decodeBench args osl isl concurrency)] := by
  refine .request ?_
  generalize (serve (.runBench (decodeBench args osl isl concurrency)) s).1 = result
  cases hmeasured : result.bind itlAndThroughput with
  | none => exact .inl ⟨data, rfl, fun _ h => by cases hmeasured.symm.trans h⟩
  | some measured =>
      obtain ⟨itl, throughput⟩ := measured
      rw [decodeFits_iff hmeasured]
      have husageIff := exists_kvUsage_iff hosl hisl hconcurrency hfits
      have hthptIff : (∃ thpt, decodeThpt throughput args.numGpus = .ok thpt) ↔ _ :=
        exists_decodeThpt_iff hgpus
      by_cases hitl : itl.InRange
      · cases hthpt : decodeThpt throughput args.numGpus with
        | ok thpt =>
            obtain ⟨hthroughput, hrange⟩ := hthptIff.mp ⟨thpt, hthpt⟩
            cases husage : kvUsage osl isl concurrency args.maxKvTokens with
            | ok usage =>
                refine .inl ⟨appendDecode data usage (contextLength osl isl) itl.value thpt, ?_,
                  hitl, hthroughput, hrange, husageIff.mp ⟨usage, husage⟩⟩
                simp only [PyNumber.toFloat_of_inRange hitl, hthpt, raising_ok_bind]
            | error e =>
                refine .inr ⟨.builtin e, ?_, fun h => ?_⟩
                · simp only [PyNumber.toFloat_of_inRange hitl, hthpt, raising_ok_bind,
                    raising_error_bind]
                · obtain ⟨usage, hok⟩ := husageIff.mpr h.2.2.2
                  cases husage.symm.trans hok
        | error e =>
            refine .inr ⟨.builtin e, ?_, fun h => ?_⟩
            · simp only [PyNumber.toFloat_of_inRange hitl, hthpt, raising_ok_bind,
                raising_error_bind]
            · obtain ⟨thpt, hok⟩ := hthptIff.mpr ⟨h.2.1, h.2.2.1⟩
              cases hthpt.symm.trans hok
      · obtain ⟨e, hraise⟩ := toFloat_of_not_inRange hitl
        refine .inr ⟨.builtin e, ?_, fun h => hitl h.1⟩
        simp only [hraise, raising_error_bind]

theorem returnsWhen_profileDecodeRuns {points : List ℤ} (hisl : 0 ≤ isl)
    (hpoints : ∀ concurrency ∈ points, 1 ≤ concurrency ∧
      concurrency * (isl + osl) ≤ args.maxKvTokens) (data : DecodeRawData) (s : σ) :
    ReturnsWhen serve (DecodeFits args.maxKvTokens args.numGpus)
      (profileDecodeRuns args osl isl points data) s
      (points.map fun concurrency => .runBench (decodeBench args osl isl concurrency)) := by
  induction points generalizing data s with
  | nil => exact .pure data
  | cons concurrency points ih =>
      obtain ⟨hfirst, hrest⟩ := List.forall_mem_cons.mp hpoints
      exact (returnsWhen_profileDecodeRun hgpus hosl hisl hfirst.1 hfirst.2 data s).bind
        (ih hrest)

variable (hgranularity : 2 ≤ args.decodeGranularity)
include hgranularity

theorem returnsWhen_profileDecodePoint (hisl : 0 ≤ isl) (data : DecodeRawData) (s : σ) :
    ReturnsWhen serve (DecodeFits args.maxKvTokens args.numGpus)
      (profileDecodePoint args osl isl data) s
      ((sweepAt args osl isl).map fun concurrency =>
        .runBench (decodeBench args osl isl concurrency)) := by
  unfold profileDecodePoint
  rw [floorDiv_fitting hosl hisl]
  rcases sweepAt_cases hosl hgranularity hisl with ⟨hnone, hskip⟩ | ⟨hshort, hroom, hpoints⟩
  · rw [hnone]
    by_cases hlong : args.maxContextLength ≤ isl + osl
    · rw [if_pos hlong]
      exact .pure data
    · rw [if_neg hlong, raising_ok_bind, if_pos (hskip.resolve_left hlong)]
      exact .pure data
  · rw [if_neg (not_le.mpr hshort), raising_ok_bind, if_neg (not_lt.mpr hroom), hpoints,
      raising_ok_bind]
    refine returnsWhen_profileDecodeRuns hgpus hosl hisl (fun concurrency h => ?_) data s
    have hbounds := bounds_of_mem_sweepAt hosl hgranularity hisl h
    exact ⟨hbounds.1, hbounds.2.1⟩

theorem returnsWhen_profileDecodePoints {isls : List ℤ} (hisls : ∀ isl ∈ isls, 0 ≤ isl)
    (data : DecodeRawData) (s : σ) :
    ReturnsWhen serve (DecodeFits args.maxKvTokens args.numGpus)
      (profileDecodePoints args osl isls data) s
      (decodeSweep args osl (sweepAt args osl) isls) := by
  induction isls generalizing data s with
  | nil => exact .pure data
  | cons isl isls ih =>
      obtain ⟨hisl, hrest⟩ := List.forall_mem_cons.mp hisls
      rw [decodeSweep, List.flatMap_cons]
      exact (returnsWhen_profileDecodePoint hgpus hosl hgranularity hisl data s).bind (ih hrest)

end Decode

end Returns

/-! ## Both phases -/

variable {args : Options} {numPrompts osl : ℤ} {isls : List ℤ}

/-- The columns of the prefill profile are columns of one list of points. -/
theorem prefillAligned_extend {numGpus : ℤ} {tr : List ProfilerEvent} :
    PrefillAligned numGpus tr (extendPrefill numGpus ⟨[], [], []⟩ (prefillPoints osl tr)) where
  lengths := by simp [extendPrefill]
  rows := ⟨prefillPoints osl tr, fromRuns_filterMap osl prefillPoint tr, rfl, rfl, rfl⟩

theorem decodeAligned_extend {maxKvTokens numGpus : ℤ} {tr : List ProfilerEvent} :
    DecodeAligned osl maxKvTokens numGpus tr
      (extendDecode osl maxKvTokens numGpus ⟨[], [], [], [], maxKvTokens⟩
        (decodeSamples osl tr)) where
  lengths := by simp [extendDecode]
  rows := ⟨decodeSamples osl tr, fromRuns_filterMap osl decodeSample tr, rfl, rfl, rfl, rfl⟩

/-- Every run of a sweep is in range. -/
theorem inRange_sweep (hosl : 1 ≤ osl) (hgranularity : 2 ≤ args.decodeGranularity)
    (hisls : ∀ isl ∈ isls, 0 ≤ isl) :
    ∀ op ∈ decodeSweep args osl (sweepAt args osl) isls, InRange args op := by
  intro op hop
  obtain ⟨isl, hmem, hop⟩ := List.mem_flatMap.mp hop
  obtain ⟨concurrency, hconcurrency, rfl⟩ := List.mem_map.mp hop
  exact (bounds_of_mem_sweepAt hosl hgranularity (hisls isl hmem) hconcurrency).2

theorem prefillProfiled_iff (hgpus : 1 ≤ args.numGpus) {σ : Type}
    (serve : (op : ProfilerOp) → σ → ProfilerResp op × σ) (s : σ) :
    PrefillProfiled serve s args numPrompts osl isls ↔
      ∀ e ∈ (ExceptT.run (profilePrefill args numPrompts osl isls)).trace serve s,
        PrefillFits args.numGpus e := by
  have hphase : ReturnsWhen serve (PrefillFits args.numGpus)
      (profilePrefill args numPrompts osl isls) s (prefillSweep args numPrompts osl isls) :=
    returnsWhen_profilePrefillPoints hgpus isls _ s
  constructor
  · rintro ⟨⟨data, s', hrun, -⟩, -⟩
    exact hphase.fits ⟨data, s', hrun⟩
  · intro hfits
    obtain ⟨data, s', hreturns⟩ := hphase.returns hfits
    refine ⟨⟨data, s', hreturns.run, ?_⟩, hreturns.requests⟩
    obtain rfl := profilePrefillPoints_done (hreturns.exec fun _ _ => False)
    exact prefillAligned_extend

theorem decodeProfiled_iff (hgpus : 1 ≤ args.numGpus) (hosl : 1 ≤ osl)
    (hgranularity : 2 ≤ args.decodeGranularity) (hisls : ∀ isl ∈ isls, 0 ≤ isl) {σ : Type}
    (serve : (op : ProfilerOp) → σ → ProfilerResp op × σ) (s : σ) :
    DecodeProfiled serve s args osl isls ↔
      ∀ e ∈ (ExceptT.run (profileDecode args osl isls)).trace serve s,
        DecodeFits args.maxKvTokens args.numGpus e := by
  have hphase : ReturnsWhen serve (DecodeFits args.maxKvTokens args.numGpus)
      (profileDecode args osl isls) s (decodeSweep args osl (sweepAt args osl) isls) :=
    returnsWhen_profileDecodePoints hgpus hosl hgranularity hisls _ s
  constructor
  · rintro ⟨⟨data, s', hrun, -⟩, -, -⟩
    exact hphase.fits ⟨data, s', hrun⟩
  · intro hfits
    obtain ⟨data, s', hreturns⟩ := hphase.returns hfits
    refine ⟨⟨data, s', hreturns.run, ?_⟩, ⟨sweepAt args osl, ?_, hreturns.requests⟩, ?_⟩
    · obtain rfl := profileDecodePoints_done (hreturns.exec fun _ _ => False)
      exact decodeAligned_extend
    · exact fun isl hisl => sweeps_sweepAt hosl hgranularity (hisls isl hisl)
    · intro e he
      have hmem : e.1 ∈ decodeSweep args osl (sweepAt args osl) isls :=
        hreturns.requests ▸ List.mem_map_of_mem he
      exact inRange_sweep hosl hgranularity hisls e.1 hmem

/-- Whatever the benchmarks answer, each phase returns lists that are aligned and
in range exactly when doubles hold the integers that its results bring into
float arithmetic. -/
theorem profiles_aligned_iff (hgpus : 1 ≤ args.numGpus) (hosl : 1 ≤ osl)
    (hgranularity : 2 ≤ args.decodeGranularity) (hisls : ∀ isl ∈ isls, 0 ≤ isl) {σ : Type}
    (serve : (op : ProfilerOp) → σ → ProfilerResp op × σ) (s : σ) :
    (PrefillProfiled serve s args numPrompts osl isls ↔
      ∀ e ∈ (ExceptT.run (profilePrefill args numPrompts osl isls)).trace serve s,
        PrefillFits args.numGpus e) ∧
    (DecodeProfiled serve s args osl isls ↔
      ∀ e ∈ (ExceptT.run (profileDecode args osl isls)).trace serve s,
        DecodeFits args.maxKvTokens args.numGpus e) :=
  ⟨prefillProfiled_iff hgpus serve s, decodeProfiled_iff hgpus hosl hgranularity hisls serve s⟩

/-! ## Two results -/

/-- One GPU and a small cache, with two input lengths of which the second is too long. -/
private def smallOptions : Options where
  baseUrl := "http://frontend:8000"
  modelName := "qwen"
  tokenizer := "qwen"
  numGpus := 1
  maxKvTokens := 4096
  maxContextLength := 2048
  namespaceName := "serving"
  outputConfigmap := "qwen-profiling"
  outputDir := "/tmp"
  updateConfigmap := false
  prefillIslPoints := "256,4096"
  decodeIslPoints := "256,4096"
  decodeGranularity := 2

/-- Single runs fail, all others answer. -/
theorem profiles_aligned_iff_small :
    let measure := fun bench : Bench => if bench.numPrompts = 1 then none else some healthy
    PrefillProfiled (endpoint measure) () smallOptions 5 500 [256, 4096] ∧
      DecodeProfiled (endpoint measure) () smallOptions 500 [256, 4096] := by
  intro measure
  obtain ⟨hprefill, hdecode⟩ := @profiles_aligned_iff smallOptions 5 500 [256, 4096] (by decide)
    (by decide) (by decide) (by decide) Unit (endpoint measure) ()
  exact ⟨hprefill.mpr (by decide +kernel), hdecode.mpr (by decide +kernel)⟩

/-- A throughput that no float holds. -/
private def immense : BenchResult :=
  [("mean_itl_ms", .int 10), ("output_throughput", .int (10 ^ 400))]

/-- The first run with such a throughput ends the decode phase. -/
theorem immense_throughput_raises :
    ((ExceptT.run (profileDecode smallOptions 500 [256])).run (endpoint fun _ => some immense)
      ()).1 = .error (.builtin .overflowError) ∧
    ¬ DecodeProfiled (endpoint fun _ => some immense) () smallOptions 500 [256] := by
  have hraise : ((ExceptT.run (profileDecode smallOptions 500 [256])).run
      (endpoint fun _ => some immense) ()).1 = .error (.builtin .overflowError) := by
    decide +kernel
  refine ⟨hraise, ?_⟩
  rintro ⟨⟨data, s', hrun, -⟩, -, -⟩
  rw [hrun] at hraise
  cases hraise

end RbgPlanner.Properties.AlignedProfile
