import RbgPlanner.Profiler.Bench

/-!
# Measured profiles

What a ConfigMap of the profiler is made of. Whatever the benchmarks of a run
do, the profile it writes comes from the runs before, and each result in it from
the last line that a successful execution of its own command left.
-/

namespace RbgPlanner.Properties.MeasuredProfile

open Base Base.Prog Planner Profiler

variable {python : Python} {args : Options}

/-- What happened on the host while the requests of `t` were answered one by one. -/
inductive Explains (python : Python) : List HostEvent → List ProfilerEvent → Prop
  | nil : Explains python [] []
  | bench {h t bench events result} (ht : Explains python h t)
      (hevents : Attempts python bench 3 events result) :
      Explains python (h ++ events) (t ++ [⟨.runBench bench, result⟩])
  | call {h t op r} (ht : Explains python h t) (hop : ∀ bench, op ≠ .runBench bench) :
      Explains python (h ++ [⟨.api op, r⟩]) (t ++ [⟨op, r⟩])

/-- The data that is written to a ConfigMap. -/
def published : HostOp → Option (PrefillRawData × DecodeRawData)
  | .api op => written op
  | _ => none

/-- The profile of the results in a history. -/
def profileOf (args : Options) (t : List ProfilerEvent) : PrefillRawData × DecodeRawData :=
  (prefillFile args (prefillPoints 5 t), decodeFile 500 args (decodeSamples 500 t))

/-- A request that writes measures nothing. -/
theorem profileOf_append {t : List ProfilerEvent} {e : ProfilerEvent}
    {data : PrefillRawData × DecodeRawData} (he : written e.1 = some data) :
    profileOf args (t ++ [e]) = profileOf args t := by
  have hnone : ∀ {α : Type} (osl : ℤ) (extract : Bench → BenchResult → Option α),
      runSample osl extract e = none := by
    intro α osl extract
    obtain ⟨op, r⟩ := e
    cases op with
    | runBench bench => cases he
    | _ => rfl
  simp only [profileOf, prefillPoints, decodeSamples, List.filterMap_append,
    List.filterMap_cons, hnone, List.filterMap_nil, List.append_nil]

/-- What the profiler writes is the profile of the results before. -/
theorem tells_runProfiling :
    (ExceptT.run (runProfiling args)).Tells (fun _ _ => True)
      (fun t e => ∀ data, written e.1 = some data → data = profileOf args t)
      (fun _ _ => True) [] := by
  refine tells_of_exec fun t e hexec data hdata => ?_
  have hfiles := written_runProfiling hexec (List.mem_append_right t (List.mem_singleton_self e))
    hdata
  rw [List.nil_append, ← profileOf_append hdata]
  exact Prod.ext hfiles.1 hfiles.2

/-- A write is that of the profile of a history which the host's explains. -/
def Measured (python : Python) (args : Options) (h : History HostOp HostResp)
    (e : HostEvent) : Prop :=
  ∀ data, published e.1 = some data → ∃ t, Explains python h t ∧ data = profileOf args t

theorem measured_of_local {h : History HostOp HostResp} {e : HostEvent} (he : Local e.1) :
    Measured python args h e := by
  obtain ⟨op, r⟩ := e
  cases op with
  | api op => exact he.elim
  | _ => exact nofun

/-- A call of the API server is answered by itself. -/
theorem tells_call {op : ProfilerOp} {h : List HostEvent} {t : List ProfilerEvent}
    (ht : Explains python h t) (hop : ∀ bench, op ≠ .runBench bench)
    (hevent : ProfilerResp op → ∀ data, written op = some data → data = profileOf args t) :
    (request (HostOp.api op) : HostProg (ProfilerResp op)).Tells (fun _ _ => True)
      (Measured python args)
      (fun h' r => True ∧ Explains python h' (t ++ [⟨op, r⟩])) h :=
  fun r _ => ⟨fun data hdata => ⟨t, ht, hevent r data hdata⟩, trivial, ht.call hop⟩

/-- Answering a request explains it, and keeps the writes measured. -/
theorem tells_hostAnswer (op : ProfilerOp) {h : List HostEvent} {t : List ProfilerEvent}
    (ht : Explains python h t)
    (hevent : ProfilerResp op → True → ∀ data, written op = some data → data = profileOf args t) :
    (hostAnswer python op).Tells (fun _ _ => True) (Measured python args)
      (fun h' r => True ∧ Explains python h' (t ++ [⟨op, r⟩])) h := by
  cases op with
  | runBench bench =>
      refine (tells_attempts (fun _ _ => measured_of_local) 3 h).mono (fun _ _ h => h) ?_
      rintro _ result ⟨events, rfl, hevents⟩
      exact ⟨trivial, ht.bench hevents⟩
  | readConfigMap name ns => exact tells_call ht nofun fun r => hevent r trivial
  | replaceConfigMap name ns prefill decode => exact tells_call ht nofun fun r => hevent r trivial
  | createConfigMap name ns prefill decode => exact tells_call ht nofun fun r => hevent r trivial

theorem tells_hostProfiling :
    (hostProfiling python args).Tells (fun _ _ => True) (Measured python args)
      (fun _ _ => True) [] :=
  (Tells.interp tells_runProfiling .nil fun op _ _ ht hevent =>
    tells_hostAnswer op ht hevent).mono (fun _ _ h => h) fun _ _ _ => trivial

/-- Every profile that a run of the profiler writes is measured in what it did before. -/
theorem published_measured {σ : Type} {answer : (op : HostOp) → σ → HostResp op → σ → Prop}
    {env : σ → σ → Prop} {s s' : σ} {tr pre post : List HostEvent} {e : HostEvent}
    {out : Outcome (Except ProfilerExc Unit)}
    (h : (hostProfiling python args).Exec answer env s tr out s') (htr : tr = pre ++ e :: post)
    {data : PrefillRawData × DecodeRawData} (hdata : published e.1 = some data) :
    ∃ t, Explains python pre t ∧ data = profileOf args t :=
  tells_hostProfiling.exec (fun _ _ _ _ _ => trivial) h htr data hdata

/-! ## A run on a host -/

/-- A host on which the first execution of all fails, and every file has a blank last line. -/
private def flakyServe : (op : HostOp) → ℕ → HostResp op × ℕ
  | .execute _, n => (if n = 0 then 1 else 0, n + 1)
  | .readlines _, n => (some ["{}\n", "\n"], n)
  | .sleep _, n => ((), n)
  | .api op, n => ((endpoint (fun _ => none) op ()).1, n)

private def flakyPython : Python where
  executable := "/usr/bin/python3"
  loads := fun line => if line = "{}" then some (some healthy) else none

/-- One input length for each phase, and two concurrencies. -/
private def flakyOptions : Options where
  baseUrl := "http://frontend:8000"
  modelName := "qwen"
  tokenizer := "qwen"
  numGpus := 1
  maxKvTokens := 4096
  maxContextLength := 2048
  namespaceName := "serving"
  outputConfigmap := "qwen-profiling"
  outputDir := "/tmp"
  updateConfigmap := true
  prefillIslPoints := "256"
  decodeIslPoints := "256"
  decodeGranularity := 2

private def flakyTrace : List HostEvent :=
  (hostProfiling flakyPython flakyOptions).trace flakyServe 0

private theorem flakyTrace_exec :
    (hostProfiling flakyPython flakyOptions).Exec (fun _ _ _ _ => True) (fun _ _ => False) 0
      flakyTrace (.done ((hostProfiling flakyPython flakyOptions).run flakyServe 0).1)
      ((hostProfiling flakyPython flakyOptions).run flakyServe 0).2 :=
  exec_of_run (fun _ _ => trivial) _ _

theorem published_measured_flaky :
    ∃ pre e post data, flakyTrace = pre ++ e :: post ∧ published e.1 = some data ∧
      ∃ t, Explains flakyPython pre t ∧ data = profileOf flakyOptions t := by
  have hwrites : (flakyTrace.any fun e => (published e.1).isSome) = true := by decide +kernel
  obtain ⟨e, he, hsome⟩ := List.any_eq_true.mp hwrites
  obtain ⟨data, hdata⟩ := Option.isSome_iff_exists.mp hsome
  obtain ⟨pre, post, htr⟩ := List.append_of_mem he
  exact ⟨pre, e, post, data, htr, hdata, published_measured flakyTrace_exec htr hdata⟩

/-! ## Bounded work -/

/-- However a run of the profiler goes, it executes no more than three commands
and sleeps no more than fifteen seconds for each benchmark it plans. -/
theorem work_le {σ : Type} {answer : (op : HostOp) → σ → HostResp op → σ → Prop}
    {env : σ → σ → Prop} {s s' : σ} {tr : List HostEvent} {out : Outcome (Except ProfilerExc Unit)}
    (h : (hostProfiling python args).Exec answer env s tr out s') :
    (tr.map (work 1 0)).sum ≤ 3 * planned args ∧ (tr.map (work 0 1)).sum ≤ 15 * planned args := by
  have hcosts : ∀ w v, (hostProfiling python args).Costs (work w v)
      (3 * (w + v * 5) * planned args) := fun w v =>
    costs_runProfiling.interp fun op _ hcredit => costs_hostAnswer op hcredit
  exact ⟨(hcosts 1 0).exec h, (hcosts 0 1).exec h⟩

/-- The flaky host is used for four executions and five seconds, of nine and forty-five. -/
theorem work_le_flaky :
    ((flakyTrace.map (work 1 0)).sum, (flakyTrace.map (work 0 1)).sum) = (4, 5) ∧
      (flakyTrace.map (work 1 0)).sum ≤ 3 * planned flakyOptions ∧
      (flakyTrace.map (work 0 1)).sum ≤ 15 * planned flakyOptions :=
  ⟨by decide +kernel, work_le flakyTrace_exec⟩

end RbgPlanner.Properties.MeasuredProfile
