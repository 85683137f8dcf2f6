import RbgPlanner.Base.ProgramLogic
import RbgPlanner.Profiler.Sweep

/-!
# What a profile is made of

The data of a profile in terms of the benchmark runs: one point for each
usable prefill run, one sample for each usable decode run, in the order of the
runs.
-/

namespace RbgPlanner.Profiler

open Base Base.Rounding Planner Prog

/-- What the usable runs of an output length contribute. -/
def runSample {α : Type} (osl : ℤ) (extract : Bench → BenchResult → Option α) :
    ProfilerEvent → Option α
  | ⟨.runBench bench, some result⟩ =>
      if bench.outputLen = osl then extract bench result else none
  | _ => none

/-- A request that runs a benchmark of an output length. -/
def BenchAt (osl : ℤ) : ProfilerOp → Prop
  | .runBench bench => bench.outputLen = osl
  | _ => False

theorem runSample_eq_none {α : Type} {osl other : ℤ} (hne : other ≠ osl)
    {extract : Bench → BenchResult → Option α} {e : ProfilerEvent} (h : BenchAt other e.1) :
    runSample osl extract e = none := by
  obtain ⟨op, r⟩ := e
  cases op with
  | runBench bench =>
      cases r with
      | none => rfl
      | some result => exact if_neg (h ▸ hne)
  | _ => exact h.elim

/-! ## Prefill -/

/-- A usable prefill run: its input length and its time to first token. -/
structure PrefillPoint where
  isl : ℤ
  ttft : PyFloat
  deriving DecidableEq

/-- Prompt tokens per second of the engine. -/
def PrefillPoint.throughput (point : PrefillPoint) : PyFloat :=
  (PyFloat.ofInt point.isl).ieeeDiv point.ttft * .fin 1000

/-- The time to first token in a result that is not zero or negative. -/
def usableTtft (result : BenchResult) : Option PyFloat :=
  ((meanTtft result).map PyNumber.value).filter fun ttft => !ttft.le (.fin 0)

def prefillPoint (bench : Bench) (result : BenchResult) : Option PrefillPoint :=
  (usableTtft result).map fun ttft => { isl := bench.inputLen, ttft }

def prefillPoints (osl : ℤ) (tr : List ProfilerEvent) : List PrefillPoint :=
  tr.filterMap (runSample osl prefillPoint)

/-- The data with more points. -/
def extendPrefill (numGpus : ℤ) (data : PrefillRawData) (points : List PrefillPoint) :
    PrefillRawData where
  prefillIsl := data.prefillIsl ++ points.map fun point => (point.isl : ℚ)
  prefillTtft := data.prefillTtft ++ points.map fun point => point.ttft.roundDigits 2
  prefillThptPerGpu := data.prefillThptPerGpu ++
    points.map fun point => (point.throughput.ieeeDiv (.ofInt numGpus)).roundDigits 2

/-! ## Decode -/

/-- A usable decode run: its input length and concurrency, and what it measured. -/
structure DecodeSample where
  isl : ℤ
  concurrency : ℤ
  itl : PyFloat
  throughput : PyFloat
  deriving DecidableEq

/-- The concurrency of a run is its number of prompts. -/
def decodeSample (bench : Bench) (result : BenchResult) : Option DecodeSample :=
  (itlAndThroughput result).map fun measured =>
    { isl := bench.inputLen, concurrency := bench.numPrompts
      itl := measured.1.value, throughput := measured.2.value }

def decodeSamples (osl : ℤ) (tr : List ProfilerEvent) : List DecodeSample :=
  tr.filterMap (runSample osl decodeSample)

/-- Where a sample lies: its share of the KV cache and its context length. -/
def DecodeSample.node (osl maxKvTokens : ℤ) (sample : DecodeSample) : ℚ × ℚ :=
  (roundTo 6 ((sample.isl + osl / 2 : ℚ) * sample.concurrency / maxKvTokens),
    contextLength osl sample.isl)

/-- The data with more samples. -/
def extendDecode (osl maxKvTokens numGpus : ℤ) (data : DecodeRawData)
    (samples : List DecodeSample) : DecodeRawData :=
  { data with
    xKvUsage := data.xKvUsage ++ samples.map fun sample => (sample.node osl maxKvTokens).1
    yContextLength :=
      data.yContextLength ++ samples.map fun sample => (sample.node osl maxKvTokens).2
    zItl := data.zItl ++ samples.map fun sample => sample.itl.roundDigits 3
    zThptPerGpu := data.zThptPerGpu ++
      samples.map fun sample => (sample.throughput.ieeeDiv (.ofInt numGpus)).roundDigits 2 }

/-! ## Executions that return -/

variable {σ : Type} {answer : (op : ProfilerOp) → σ → ProfilerResp op → σ → Prop}
  {env : σ → σ → Prop} {s s' : σ} {tr : List ProfilerEvent} {args : Options}
  {numPrompts osl isl : ℤ}

theorem raising_done {α : Type} {x : Except PyExc α} {a : α}
    (h : (ExceptT.run (ProfilerCall.raising x)).Exec answer env s tr (.done (.ok a)) s') :
    x = .ok a ∧ tr = [] := by
  cases x with
  | error e => exact (Exec.throw_ok h).elim
  | ok b =>
      obtain ⟨rfl, -, htr⟩ := Exec.pure_done h
      exact ⟨rfl, htr⟩

theorem prefillThpt_eq_ok {ttft thpt : PyFloat} {numGpus : ℤ}
    (h : prefillThpt isl ttft numGpus = .ok thpt) :
    thpt = (PrefillPoint.throughput ⟨isl, ttft⟩).ieeeDiv (.ofInt numGpus) := by
  obtain ⟨islFloat, hisl, h⟩ := bind_eq_ok.mp h
  obtain ⟨perMs, hperMs, h⟩ := bind_eq_ok.mp h
  obtain ⟨gpus, hgpus, hdiv⟩ := bind_eq_ok.mp h
  obtain ⟨-, rfl⟩ := double_eq_ok hisl
  obtain ⟨-, rfl⟩ := double_eq_ok hgpus
  rw [PrefillPoint.throughput, PyFloat.ofInt, (PyFloat.div_eq_ok hperMs).2]
  exact (PyFloat.div_eq_ok hdiv).2.symm

theorem profilePrefillPoint_done {data data' : PrefillRawData}
    (h : (ExceptT.run (profilePrefillPoint args numPrompts osl isl data)).Exec answer env s tr
      (.done (.ok data')) s') :
    data' = extendPrefill args.numGpus data (prefillPoints osl tr) := by
  unfold profilePrefillPoint at h
  by_cases hskip : args.maxContextLength - 512 ≤ isl
  · rw [if_pos hskip] at h
    obtain ⟨rfl, -, rfl⟩ := Exec.pure_done h
    simp [extendPrefill, prefillPoints]
  · rw [if_neg hskip] at h
    obtain ⟨result, s₁, tr₁, tr₂, hrun, hrest, rfl⟩ := Exec.bind_ok h
    obtain ⟨-, -, -, -, -, rfl⟩ := Exec.lift_done hrun
    have hpoints : prefillPoints osl
        [⟨.runBench (prefillBench args numPrompts osl isl), result⟩] =
        ((result.bind usableTtft).map fun ttft => { isl, ttft }).toList := by
      cases result with
      | none => rfl
      | some result =>
          have hosl : (prefillBench args numPrompts osl isl).outputLen = osl := rfl
          simp only [prefillPoints, List.filterMap_cons, runSample, hosl, if_true]
          cases husable : usableTtft result <;> simp [prefillPoint, husable, prefillBench]
    have husable : result.bind usableTtft =
        ((result.bind meanTtft).map PyNumber.value).filter fun ttft => !ttft.le (.fin 0) := by
      cases result <;> rfl
    cases hmean : result.bind meanTtft with
    | none =>
        rw [hmean] at hrest
        obtain ⟨rfl, -, rfl⟩ := Exec.pure_done hrest
        rw [List.append_nil, hpoints, husable, hmean]
        simp [extendPrefill]
    | some ttft =>
        rw [hmean] at hrest
        obtain ⟨_, s₂, tr₃, tr₄, hconvert, hpoint, rfl⟩ := Exec.bind_ok hrest
        obtain ⟨hfloat, rfl⟩ := raising_done hconvert
        obtain ⟨-, rfl⟩ := PyNumber.toFloat_eq_ok hfloat
        rw [hmean, Option.map_some, Option.filter_some] at husable
        by_cases hle : ttft.value.le (.fin 0)
        · rw [if_pos hle] at hpoint
          obtain ⟨rfl, -, rfl⟩ := Exec.pure_done hpoint
          rw [List.append_nil, List.append_nil, hpoints]
          simp [extendPrefill, hle, husable]
        · rw [if_neg hle] at hpoint
          obtain ⟨thpt, s₃, tr₅, tr₆, hraise, hreturn, rfl⟩ := Exec.bind_ok hpoint
          obtain ⟨hthpt, rfl⟩ := raising_done hraise
          obtain ⟨rfl, -, rfl⟩ := Exec.pure_done hreturn
          simp only [List.append_nil]
          rw [hpoints, prefillThpt_eq_ok hthpt]
          simp [extendPrefill, appendPrefill, hle, husable]

theorem extendPrefill_append (numGpus : ℤ) (data : PrefillRawData)
    (points more : List PrefillPoint) :
    extendPrefill numGpus (extendPrefill numGpus data points) more =
      extendPrefill numGpus data (points ++ more) := by
  simp [extendPrefill]

theorem profilePrefillPoints_done {isls : List ℤ} {data data' : PrefillRawData}
    (h : (ExceptT.run (profilePrefillPoints args numPrompts osl isls data)).Exec answer env s tr
      (.done (.ok data')) s') :
    data' = extendPrefill args.numGpus data (prefillPoints osl tr) := by
  induction isls generalizing s tr data with
  | nil =>
      obtain ⟨rfl, -, rfl⟩ := Exec.pure_done h
      simp [extendPrefill, prefillPoints]
  | cons isl isls ih =>
      obtain ⟨data₁, s₁, tr₁, tr₂, hpoint, hrest, rfl⟩ := Exec.bind_ok h
      rw [ih hrest, profilePrefillPoint_done hpoint, extendPrefill_append, prefillPoints,
        prefillPoints, prefillPoints, List.filterMap_append]

theorem decodeThpt_eq_ok {throughput : PyNumber} {numGpus : ℤ} {thpt : PyFloat}
    (h : decodeThpt throughput numGpus = .ok thpt) :
    thpt = throughput.value.ieeeDiv (.ofInt numGpus) := by
  obtain ⟨measured, hmeasured, h⟩ := bind_eq_ok.mp h
  obtain ⟨gpus, hgpus, hdiv⟩ := bind_eq_ok.mp h
  obtain ⟨-, rfl⟩ := PyNumber.toFloat_eq_ok hmeasured
  obtain ⟨-, rfl⟩ := double_eq_ok hgpus
  exact (PyFloat.div_eq_ok hdiv).2.symm

theorem kvUsage_eq_ok {concurrency maxKvTokens : ℤ} {usage : ℚ}
    (h : kvUsage osl isl concurrency maxKvTokens = .ok usage) :
    usage = (isl + osl / 2 : ℚ) * concurrency / maxKvTokens := by
  obtain ⟨half, hhalf, h⟩ := bind_eq_ok.mp h
  obtain ⟨islFloat, hisl, h⟩ := bind_eq_ok.mp h
  obtain ⟨requests, hrequests, h⟩ := bind_eq_ok.mp h
  obtain ⟨tokens, htokens, h⟩ := bind_eq_ok.mp h
  obtain ⟨-, rfl⟩ := double_eq_ok hhalf
  obtain ⟨-, rfl⟩ := double_eq_ok hisl
  obtain ⟨-, rfl⟩ := double_eq_ok hrequests
  obtain ⟨-, rfl⟩ := double_eq_ok htokens
  split_ifs at h
  exact (Except.ok.inj h).symm

/-- One decode run that returns adds the samples of its trace. -/
theorem profileDecodeRun_done {concurrency : ℤ} {data data' : DecodeRawData}
    (h : (ExceptT.run (profileDecodeRun args osl isl concurrency data)).Exec answer env s tr
      (.done (.ok data')) s') :
    data' = extendDecode osl args.maxKvTokens args.numGpus data (decodeSamples osl tr) := by
  obtain ⟨result, s₁, tr₁, tr₂, hrun, hrest, rfl⟩ := Exec.bind_ok h
  obtain ⟨-, -, -, -, -, rfl⟩ := Exec.lift_done hrun
  have hsamples : decodeSamples osl [⟨.runBench (decodeBench args osl isl concurrency), result⟩] =
      ((result.bind itlAndThroughput).map fun measured =>
        { isl, concurrency, itl := measured.1.value, throughput := measured.2.value }).toList := by
    cases result with
    | none => rfl
    | some result =>
        have hosl : (decodeBench args osl isl concurrency).outputLen = osl := rfl
        simp only [decodeSamples, List.filterMap_cons, runSample, hosl, if_true]
        cases husable : itlAndThroughput result <;> simp [decodeSample, husable, decodeBench]
  cases husable : result.bind itlAndThroughput with
  | none =>
      rw [husable] at hrest
      obtain ⟨rfl, -, rfl⟩ := Exec.pure_done hrest
      rw [List.append_nil, hsamples, husable]
      simp [extendDecode]
  | some measured =>
      rw [husable] at hrest
      obtain ⟨itl, s₂, tr₃, tr₄, hconvert, hmeasured, rfl⟩ := Exec.bind_ok hrest
      obtain ⟨hfloat, rfl⟩ := raising_done hconvert
      obtain ⟨thpt, s₃, tr₅, tr₆, hdivide, hfile, rfl⟩ := Exec.bind_ok hmeasured
      obtain ⟨hthpt, rfl⟩ := raising_done hdivide
      obtain ⟨usage, s₄, tr₇, tr₈, hshare, hreturn, rfl⟩ := Exec.bind_ok hfile
      obtain ⟨husage, rfl⟩ := raising_done hshare
      obtain ⟨rfl, -, rfl⟩ := Exec.pure_done hreturn
      simp only [List.append_nil]
      rw [hsamples, husable, (PyNumber.toFloat_eq_ok hfloat).2, decodeThpt_eq_ok hthpt,
        kvUsage_eq_ok husage]
      rfl

theorem extendDecode_append (maxKvTokens numGpus : ℤ) (data : DecodeRawData)
    (samples more : List DecodeSample) :
    extendDecode osl maxKvTokens numGpus (extendDecode osl maxKvTokens numGpus data samples) more =
      extendDecode osl maxKvTokens numGpus data (samples ++ more) := by
  simp [extendDecode]

theorem profileDecodeRuns_done {points : List ℤ} {data data' : DecodeRawData}
    (h : (ExceptT.run (profileDecodeRuns args osl isl points data)).Exec answer env s tr
      (.done (.ok data')) s') :
    data' = extendDecode osl args.maxKvTokens args.numGpus data (decodeSamples osl tr) := by
  induction points generalizing s tr data with
  | nil =>
      obtain ⟨rfl, -, rfl⟩ := Exec.pure_done h
      simp [extendDecode, decodeSamples]
  | cons concurrency points ih =>
      obtain ⟨data₁, s₁, tr₁, tr₂, hrun, hrest, rfl⟩ := Exec.bind_ok h
      rw [ih hrest, profileDecodeRun_done hrun, extendDecode_append, decodeSamples, decodeSamples,
        decodeSamples, List.filterMap_append]

theorem profileDecodePoint_done {data data' : DecodeRawData}
    (h : (ExceptT.run (profileDecodePoint args osl isl data)).Exec answer env s tr
      (.done (.ok data')) s') :
    data' = extendDecode osl args.maxKvTokens args.numGpus data (decodeSamples osl tr) := by
  have hskip : ∀ {s : σ} {tr : List ProfilerEvent},
      (ExceptT.run (pure data : ProfilerCall DecodeRawData)).Exec answer env s tr
        (.done (.ok data')) s' →
      data' = extendDecode osl args.maxKvTokens args.numGpus data (decodeSamples osl tr) := by
    intro s tr h
    obtain ⟨rfl, -, rfl⟩ := Exec.pure_done h
    simp [extendDecode, decodeSamples]
  unfold profileDecodePoint at h
  by_cases hlong : args.maxContextLength ≤ isl + osl
  · rw [if_pos hlong] at h
    exact hskip h
  · rw [if_neg hlong] at h
    obtain ⟨fitting, s₁, tr₁, tr₂, hdivide, hrest, rfl⟩ := Exec.bind_ok h
    obtain ⟨-, rfl⟩ := raising_done hdivide
    by_cases hfull : min fitting 512 < 1
    · dsimp only at hrest
      rw [if_pos hfull] at hrest
      exact hskip hrest
    · dsimp only at hrest
      rw [if_neg hfull] at hrest
      obtain ⟨points, s₂, tr₃, tr₄, hsweep, hruns, rfl⟩ := Exec.bind_ok hrest
      obtain ⟨-, rfl⟩ := raising_done hsweep
      exact profileDecodeRuns_done hruns

theorem profileDecodePoints_done {isls : List ℤ} {data data' : DecodeRawData}
    (h : (ExceptT.run (profileDecodePoints args osl isls data)).Exec answer env s tr
      (.done (.ok data')) s') :
    data' = extendDecode osl args.maxKvTokens args.numGpus data (decodeSamples osl tr) := by
  induction isls generalizing s tr data with
  | nil =>
      obtain ⟨rfl, -, rfl⟩ := Exec.pure_done h
      simp [extendDecode, decodeSamples]
  | cons isl isls ih =>
      obtain ⟨data₁, s₁, tr₁, tr₂, hpoint, hrest, rfl⟩ := Exec.bind_ok h
      rw [ih hrest, profileDecodePoint_done hpoint, extendDecode_append, decodeSamples,
        decodeSamples, decodeSamples, List.filterMap_append]

/-! ## Executions that end in any way -/

/-- A program that only runs benchmarks of an output length. -/
abbrev AsksBench (osl : ℤ) {α : Type} (x : ProfilerCall α) : Prop :=
  AsksOk (BenchAt osl) (fun _ _ => True) (fun _ => True) x

/-- A benchmark of the decode sweep: one of the input lengths, at a concurrency
that the sweep of that length measures. -/
def SweepBench (args : Options) (osl : ℤ) (isls : List ℤ) : ProfilerOp → Prop
  | .runBench bench => bench.outputLen = osl ∧ bench.inputLen ∈ isls ∧
      ∃ fitting points, floorDiv args.maxKvTokens (bench.inputLen + osl) = .ok fitting ∧
        1 ≤ min fitting 512 ∧
          concurrencyPoints args.decodeGranularity (min fitting 512) = .ok points ∧
            bench.numPrompts ∈ points
  | _ => False

section Asks

variable {P : ProfilerOp → Prop}

theorem asks_raising {α : Type} {x : Except PyExc α} :
    AsksOk P (fun _ _ => True) (fun a => x = .ok a) (ProfilerCall.raising x) := by
  cases x with
  | error e => exact AsksOk.throw
  | ok a => exact AsksOk.pure rfl

theorem asks_runBench {bench : Bench} (h : P (.runBench bench)) :
    AsksOk P (fun _ _ => True) (fun _ => True) (ProfilerCall.runBench bench) :=
  ⟨h, fun _ _ _ _ => trivial⟩

theorem asks_profilePrefill {isls : List ℤ} :
    AsksBench osl (profilePrefill args numPrompts osl isls) := by
  unfold profilePrefill
  generalize (⟨[], [], []⟩ : PrefillRawData) = data
  induction isls generalizing data with
  | nil => exact AsksOk.pure trivial
  | cons isl isls ih =>
      refine AsksOk.bind (Q := fun _ => True) ?_ fun data₁ _ => ih data₁
      unfold profilePrefillPoint
      split_ifs
      · exact AsksOk.pure trivial
      · refine AsksOk.bind (asks_runBench rfl) fun result _ => ?_
        cases result.bind meanTtft with
        | none => exact AsksOk.pure trivial
        | some ttft =>
            refine AsksOk.bind asks_raising fun _ _ => ?_
            split_ifs
            · exact AsksOk.pure trivial
            · exact AsksOk.bind asks_raising fun _ _ => AsksOk.pure trivial

theorem asks_profileDecodeRuns {points : List ℤ} {data : DecodeRawData}
    (hP : ∀ concurrency ∈ points, P (.runBench (decodeBench args osl isl concurrency))) :
    AsksOk P (fun _ _ => True) (fun _ => True)
      (profileDecodeRuns args osl isl points data) := by
  induction points generalizing data with
  | nil => exact AsksOk.pure trivial
  | cons concurrency points ih =>
      obtain ⟨hfirst, hrest⟩ := List.forall_mem_cons.mp hP
      refine AsksOk.bind (Q := fun _ => True) ?_ fun data₁ _ => ih hrest
      refine AsksOk.bind (asks_runBench hfirst) fun result _ => ?_
      cases result.bind itlAndThroughput with
      | none => exact AsksOk.pure trivial
      | some measured =>
          exact AsksOk.bind asks_raising fun _ _ => AsksOk.bind asks_raising fun _ _ =>
            AsksOk.bind asks_raising fun _ _ => AsksOk.pure trivial

/-- The decode phase runs the benchmarks of its sweep. -/
theorem asks_sweep {isls : List ℤ} :
    AsksOk (SweepBench args osl isls) (fun _ _ => True) (fun _ => True)
      (profileDecode args osl isls) := by
  have hpoints : ∀ (rest : List ℤ) (data : DecodeRawData), (∀ isl ∈ rest, isl ∈ isls) →
      AsksOk (SweepBench args osl isls) (fun _ _ => True) (fun _ => True)
        (profileDecodePoints args osl rest data) := by
    intro rest
    induction rest with
    | nil => exact fun _ _ => AsksOk.pure trivial
    | cons isl rest ih =>
        intro data hmem
        obtain ⟨hisl, hrest⟩ := List.forall_mem_cons.mp hmem
        refine AsksOk.bind (Q := fun _ => True) ?_ fun data₁ _ => ih data₁ hrest
        unfold profileDecodePoint
        split_ifs
        · exact AsksOk.pure trivial
        · refine AsksOk.bind asks_raising fun fitting hfitting => ?_
          dsimp only
          split_ifs with hroom
          · exact AsksOk.pure trivial
          · refine AsksOk.bind asks_raising fun points hpoints => ?_
            exact asks_profileDecodeRuns fun concurrency hconcurrency =>
              ⟨rfl, hisl, fitting, points, hfitting, not_lt.mp hroom, hpoints, hconcurrency⟩
  exact hpoints isls _ fun _ h => h

theorem asks_profileDecode {isls : List ℤ} : AsksBench osl (profileDecode args osl isls) := by
  refine AsksOk.mono asks_sweep (fun op hop => ?_) fun _ _ => trivial
  cases op with
  | runBench bench => exact hop.1
  | _ => exact hop

end Asks

/-! ## What is published -/

/-- The data a request writes to a ConfigMap. -/
def written : ProfilerOp → Option (PrefillRawData × DecodeRawData)
  | .replaceConfigMap _ _ prefill decode => some (prefill, decode)
  | .createConfigMap _ _ prefill decode => some (prefill, decode)
  | _ => none

/-- The requests of `_update_configmap`. -/
def Publishes (prefill : PrefillRawData) (decode : DecodeRawData) : ProfilerOp → Prop
  | .runBench _ => False
  | op => ∀ data, written op = some data → data = (prefill, decode)

theorem asks_updateConfigmap {name namespaceName : String} {prefill : PrefillRawData}
    {decode : DecodeRawData} :
    AsksOk (Publishes prefill decode) (fun _ _ => True) (fun _ => True)
      (updateConfigmap name namespaceName prefill decode) := by
  have hcreate : AsksOk (Publishes prefill decode) (fun _ _ => True) (fun _ => True)
      (createConfigMap name namespaceName prefill decode) := by
    refine AsksOk.bind (AsksOk.lift fun _ hdata => (Option.some.inj hdata).symm) fun r _ => ?_
    cases r with
    | ok _ => exact AsksOk.pure trivial
    | error _ => exact AsksOk.throw
  refine AsksOk.bind (AsksOk.lift fun _ hdata => by cases hdata) fun r _ => ?_
  cases r with
  | ok _ =>
      refine AsksOk.bind (AsksOk.lift fun _ hdata => (Option.some.inj hdata).symm) fun r _ => ?_
      cases r with
      | ok _ => exact AsksOk.pure trivial
      | error status =>
          dsimp only
          split_ifs
          · exact hcreate
          · exact AsksOk.throw
  | error status =>
      dsimp only
      split_ifs
      · exact hcreate
      · exact AsksOk.throw

theorem runSample_of_publishes {α : Type} {extract : Bench → BenchResult → Option α}
    {prefill : PrefillRawData} {decode : DecodeRawData} {e : ProfilerEvent}
    (h : Publishes prefill decode e.1) : runSample osl extract e = none := by
  obtain ⟨op, r⟩ := e
  cases op with
  | runBench bench => exact h.elim
  | _ => rfl

theorem written_of_benchAt {op : ProfilerOp} (h : BenchAt osl op) : written op = none := by
  cases op with
  | runBench bench => rfl
  | _ => exact h.elim

/-- What is written is what is published. -/
theorem written_of_publishes {op : ProfilerOp} {data : PrefillRawData × DecodeRawData}
    {prefill : PrefillRawData} {decode : DecodeRawData} (h : Publishes prefill decode op)
    (hwritten : written op = some data) : data = (prefill, decode) := by
  cases op with
  | runBench bench => exact h.elim
  | _ => exact h data hwritten

/-- The two files of a profile in terms of its points and samples. -/
def prefillFile (args : Options) (points : List PrefillPoint) : PrefillRawData :=
  extendPrefill args.numGpus ⟨[], [], []⟩ points

def decodeFile (osl : ℤ) (args : Options) (samples : List DecodeSample) : DecodeRawData :=
  extendDecode osl args.maxKvTokens args.numGpus ⟨[], [], [], [], args.maxKvTokens⟩ samples

/-- After both phases, what is written is what they returned. -/
theorem written_phases {isls isls' : List ℤ} {s₁ s₂ : σ} {trPrefill trDecode trUpdate out}
    {prefill prefill' : PrefillRawData} {decode decode' : DecodeRawData} {e : ProfilerEvent}
    (hprefill : (ExceptT.run (profilePrefill args 5 5 isls)).Exec answer env s trPrefill
      (.done (.ok prefill')) s₁)
    (hdecode : (ExceptT.run (profileDecode args 500 isls')).Exec answer env s₁ trDecode
      (.done (.ok decode')) s₂)
    (hupdate : (ExceptT.run (if args.updateConfigmap then
      updateConfigmap args.outputConfigmap args.namespaceName prefill' decode'
        else return () : ProfilerCall Unit)).Exec answer env s₂ trUpdate out s')
    (he : e ∈ trPrefill ++ (trDecode ++ trUpdate))
    (hwritten : written e.1 = some (prefill, decode)) :
    prefill = prefillFile args (prefillPoints 5 (trPrefill ++ (trDecode ++ trUpdate))) ∧
      decode = decodeFile 500 args (decodeSamples 500 (trPrefill ++ (trDecode ++ trUpdate))) := by
  have hasks : AsksOk (Publishes prefill' decode') (fun _ _ => True) (fun _ => True)
      (if args.updateConfigmap then
        updateConfigmap args.outputConfigmap args.namespaceName prefill' decode'
          else return () : ProfilerCall Unit) := by
    split_ifs
    · exact asks_updateConfigmap
    · exact AsksOk.pure trivial
  have hprefillTrace := Asks.exec_trace asks_profilePrefill (fun _ _ _ _ _ => trivial) hprefill
  have hdecodeTrace := Asks.exec_trace asks_profileDecode (fun _ _ _ _ _ => trivial) hdecode
  have hupdateTrace := Asks.exec_trace hasks (fun _ _ _ _ _ => trivial) hupdate
  have hdata : (prefill, decode) = (prefill', decode') := by
    simp only [List.mem_append] at he
    rcases he with hmem | hmem | hmem
    · cases hwritten.symm.trans (written_of_benchAt (hprefillTrace e hmem))
    · cases hwritten.symm.trans (written_of_benchAt (hdecodeTrace e hmem))
    · exact written_of_publishes (hupdateTrace e hmem) hwritten
  obtain ⟨rfl, rfl⟩ := Prod.mk.inj hdata
  have hquiet : ∀ {α : Type} (osl : ℤ) (extract : Bench → BenchResult → Option α),
      trUpdate.filterMap (runSample osl extract) = [] := fun osl extract =>
    List.filterMap_eq_nil_iff.mpr fun e he => runSample_of_publishes (hupdateTrace e he)
  have hnoPoint : trDecode.filterMap (runSample 5 prefillPoint) = [] :=
    List.filterMap_eq_nil_iff.mpr fun e he => runSample_eq_none (by decide) (hdecodeTrace e he)
  have hnoSample : trPrefill.filterMap (runSample 500 decodeSample) = [] :=
    List.filterMap_eq_nil_iff.mpr fun e he => runSample_eq_none (by decide) (hprefillTrace e he)
  constructor
  · rw [prefillFile, profilePrefillPoints_done hprefill]
    simp only [prefillPoints, List.filterMap_append, hnoPoint, hquiet, List.append_nil]
  · rw [decodeFile, profileDecodePoints_done hdecode]
    simp only [decodeSamples, List.filterMap_append, hnoSample, hquiet, List.append_nil,
      List.nil_append]

/-- Whatever becomes of a run of the profiler, what it writes is the profile of
all its benchmark runs. -/
theorem written_runProfiling {out} {prefill : PrefillRawData} {decode : DecodeRawData}
    (h : (ExceptT.run (runProfiling args)).Exec answer env s tr out s') {e : ProfilerEvent}
    (he : e ∈ tr) (hwritten : written e.1 = some (prefill, decode)) :
    prefill = prefillFile args (prefillPoints 5 tr) ∧
      decode = decodeFile 500 args (decodeSamples 500 tr) := by
  -- programs that only run benchmarks write nothing
  have hbench : ∀ (osl : ℤ) {α : Type} {x : ProfilerCall α} {s tr out s'}, AsksBench osl x →
      (ExceptT.run x).Exec answer env s tr out s' → e ∉ tr := by
    intro osl α x s tr out s' hx hexec hmem
    have hop := Asks.exec_trace hx (fun _ _ _ _ _ => trivial) hexec e hmem
    cases hwritten.symm.trans (written_of_benchAt hop)
  rcases Exec.bind_cases h with ⟨isls, s₁, tr₁, tr₂, hparse, hrest, rfl⟩ | ⟨_, hraise⟩
  · obtain ⟨-, rfl⟩ := raising_done hparse
    rcases Exec.bind_cases hrest with ⟨isls', s₂, tr₃, tr₄, hparse', hphases, rfl⟩ | ⟨_, hraise⟩
    · obtain ⟨-, rfl⟩ := raising_done hparse'
      rcases Exec.bind_cases hphases with
        ⟨prefill', s₃, trPrefill, tr₅, hprefill, hrest', rfl⟩ | ⟨_, hstop⟩
      · rcases Exec.bind_cases hrest' with
          ⟨decode', s₄, trDecode, trUpdate, hdecode, hupdate, rfl⟩ | ⟨_, hstop⟩
        · have hfiles := written_phases hprefill hdecode hupdate he hwritten
          exact hfiles
        · have hmem : e ∈ trPrefill ++ tr₅ := he
          rcases List.mem_append.mp hmem with hmem | hmem
          · exact (hbench 5 asks_profilePrefill hprefill hmem).elim
          · exact (hbench 500 asks_profileDecode hstop hmem).elim
      · exact (hbench 5 asks_profilePrefill hstop he).elim
    · exact (hbench 5 (asks_raising.mono (fun _ h => h) fun _ _ => trivial) hraise he).elim
  · exact (hbench 5 (asks_raising.mono (fun _ h => h) fun _ _ => trivial) hraise he).elim

/-! ## A run against an endpoint -/

/-- An endpoint that measures each benchmark alike, in a cluster without the ConfigMap. -/
def endpoint (measure : Bench → Option BenchResult) :
    (op : ProfilerOp) → Unit → ProfilerResp op × Unit
  | .runBench bench, _ => (measure bench, ())
  | .readConfigMap _ _, _ => (.error 404, ())
  | .replaceConfigMap _ _ _ _, _ => (.ok (), ())
  | .createConfigMap _ _ _ _, _ => (.ok (), ())

def profilingTrace (args : Options) (measure : Bench → Option BenchResult) :
    List ProfilerEvent :=
  (ExceptT.run (runProfiling args)).trace (endpoint measure) ()

theorem profilingTrace_exec (args : Options) (measure : Bench → Option BenchResult) :
    (ExceptT.run (runProfiling args)).Exec (fun _ _ _ _ => True) (fun _ _ => False) ()
      (profilingTrace args measure)
      (.done ((ExceptT.run (runProfiling args)).run (endpoint measure) ()).1)
      ((ExceptT.run (runProfiling args)).run (endpoint measure) ()).2 :=
  Prog.exec_of_run (fun _ _ => trivial) _ _

/-- A prompt is processed in 100 ms, a token generated in 10 ms, and there are
1000 a second. -/
def healthy : BenchResult :=
  [("mean_ttft_ms", .float (.fin 100)), ("mean_itl_ms", .float (.fin 10)),
    ("output_throughput", .float (.fin 1000))]

end RbgPlanner.Profiler
