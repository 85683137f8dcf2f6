import Mathlib.Data.List.Sort
import RbgPlanner.Base.Interaction
import RbgPlanner.Base.PyNumber
import RbgPlanner.Planner.PerfInterpolation
import RbgPlanner.Profiler.Arguments

/-!
# The profiler

`run_profiling` benchmarks an endpoint over a list of input lengths, first for
prefill, then for decode over a sweep of concurrencies, and publishes what it
measured. A benchmark is a request to the environment: it fails, or answers with
the numbers of its result file.
-/

namespace RbgPlanner.Profiler

open Base Base.Rounding Base.NumberText Planner

/-- The numeric fields of a benchmark's result. -/
abbrev BenchResult := List (String × PyNumber)

/-- The arguments of `run_bench`. The request rate is always infinite. -/
structure Bench where
  baseUrl : String
  model : String
  tokenizer : String
  numPrompts : ℤ
  inputLen : ℤ
  outputLen : ℤ
  resultFile : String
  deriving DecidableEq

inductive ProfilerOp
  | runBench (bench : Bench)
  | readConfigMap (name namespaceName : String)
  | replaceConfigMap (name namespaceName : String) (prefill : PrefillRawData)
      (decode : DecodeRawData)
  | createConfigMap (name namespaceName : String) (prefill : PrefillRawData)
      (decode : DecodeRawData)
  deriving DecidableEq

/-- A call of the API server that fails answers with its status code. -/
abbrev ProfilerResp : ProfilerOp → Type
  | .runBench _ => Option BenchResult
  | _ => Except ℕ Unit

abbrev ProfilerEvent := Prog.Event ProfilerOp ProfilerResp

inductive ProfilerExc
  | builtin (e : PyExc)
  | apiException (status : ℕ)
  deriving DecidableEq, Repr

/-- A program of the profiler that an exception ends. -/
abbrev ProfilerCall := ExceptT ProfilerExc (Prog ProfilerOp ProfilerResp)

namespace ProfilerCall

/-- `run_bench`. -/
def runBench (bench : Bench) : ProfilerCall (Option BenchResult) :=
  ExceptT.lift (Prog.request (ProfilerOp.runBench bench))

/-- A computation that may raise. -/
def raising {α : Type} : Except PyExc α → ProfilerCall α
  | .ok a => pure a
  | .error e => throw (.builtin e)

end ProfilerCall

/-! ## Python expressions -/

/-- `a or b` on a number that can be missing. -/
def pyOr (a b : Option PyNumber) : Option PyNumber :=
  match a with
  | some x => if x.truthy then some x else b
  | none => b

/-- `//` of two integers. -/
def floorDiv (a b : ℤ) : Except PyExc ℤ :=
  if b = 0 then .error .zeroDivisionError else .ok (a.fdiv b)

/-- `int` of a finite float. -/
def truncate (q : ℚ) : ℤ := if 0 ≤ q then ⌊q⌋ else ⌈q⌉

/-- `os.path.join` of a directory and a file name. -/
def joinPath (dir file : String) : String :=
  if dir = "" ∨ dir.toList.getLast? = some '/' then dir ++ file else dir ++ "/" ++ file

/-- `str.split(",")`. -/
def splitComma : List Char → List (List Char)
  | [] => [[]]
  | c :: cs =>
      if c = ',' then [] :: splitComma cs
      else match splitComma cs with
        | [] => [[c]]
        | word :: words => (c :: word) :: words

def parsePoints (s : String) : Except PyExc (List ℤ) :=
  (splitComma s.toList).mapM fun word => pyInt (String.ofList word)

/-! ## Prefill -/

/-- The time to first token in a result. -/
def meanTtft (result : BenchResult) : Option PyNumber :=
  match result.lookup "mean_ttft_ms" with
  | some ttft => some ttft
  | none => pyOr (result.lookup "avg_ttft_ms") (result.lookup "mean_ttft")

/-- Prompt tokens per second on one GPU. -/
def prefillThpt (isl : ℤ) (ttft : PyFloat) (numGpus : ℤ) : Except PyExc PyFloat := do
  let perMs ← (PyFloat.fin (← double isl)).div ttft
  (perMs * .fin 1000).div (.fin (← double numGpus))

def appendPrefill (data : PrefillRawData) (isl : ℤ) (ttft thpt : PyFloat) : PrefillRawData where
  prefillIsl := data.prefillIsl ++ [(isl : ℚ)]
  prefillTtft := data.prefillTtft ++ [ttft.roundDigits 2]
  prefillThptPerGpu := data.prefillThptPerGpu ++ [thpt.roundDigits 2]

section Prefill

variable (args : Options) (numPrompts osl : ℤ)

def prefillBench (isl : ℤ) : Bench where
  baseUrl := args.baseUrl
  model := args.modelName
  tokenizer := args.tokenizer
  numPrompts := numPrompts
  inputLen := isl
  outputLen := osl
  resultFile := joinPath args.outputDir ("prefill_isl" ++ itoa isl ++ ".json")

/-- One input length: a run, and a point when its result is usable. -/
def profilePrefillPoint (isl : ℤ) (data : PrefillRawData) : ProfilerCall PrefillRawData :=
  if args.maxContextLength - 512 ≤ isl then return data
  else do
    match (← ProfilerCall.runBench (prefillBench args numPrompts osl isl)).bind meanTtft with
    | none => return data
    | some ttft => do
        let ttft ← ProfilerCall.raising ttft.toFloat
        if ttft.le (.fin 0) then return data
        else do
          let thpt ← ProfilerCall.raising (prefillThpt isl ttft args.numGpus)
          return appendPrefill data isl ttft thpt

def profilePrefillPoints : List ℤ → PrefillRawData → ProfilerCall PrefillRawData
  | [], data => return data
  | isl :: isls, data => do
      profilePrefillPoints isls (← profilePrefillPoint args numPrompts osl isl data)

/-- `profile_prefill`. -/
def profilePrefill (islPoints : List ℤ) : ProfilerCall PrefillRawData :=
  profilePrefillPoints args numPrompts osl islPoints ⟨[], [], []⟩

end Prefill

/-! ## Decode -/

/-- Inter-token latency and output throughput, when a result has both. -/
def itlAndThroughput (result : BenchResult) : Option (PyNumber × PyNumber) := do
  let itl ← pyOr (pyOr (result.lookup "mean_itl_ms") (result.lookup "avg_itl_ms"))
    (result.lookup "mean_tpot_ms")
  let throughput ← result.lookup "output_throughput"
  return (itl, throughput)

/-- The concurrencies to measure up to a maximum. -/
def concurrencyPoints (granularity maxConcurrency : ℤ) : Except PyExc (List ℤ) :=
  if maxConcurrency ≤ granularity then
    .ok ((List.range maxConcurrency.toNat).map fun i => (i + 1 : ℤ))
  else do
    let step ← PyFloat.intDiv (maxConcurrency - 1) (granularity - 1)
    let points := (List.range granularity.toNat).map fun i => max 1 (truncate (1 + i * step))
    return points.dedup.insertionSort (· ≤ ·)

/-- Output tokens per second on one GPU. -/
def decodeThpt (throughput : PyNumber) (numGpus : ℤ) : Except PyExc PyFloat := do
  (← throughput.toFloat).div (.fin (← double numGpus))

/-- The share of the KV cache that a concurrency occupies. -/
def kvUsage (osl isl concurrency maxKvTokens : ℤ) : Except PyExc ℚ := do
  let half ← double (osl / 2 : ℚ)
  let tokens := (← double isl) + half
  let product := tokens * (← double concurrency)
  let maxKvTokens ← double maxKvTokens
  if maxKvTokens = 0 then .error .zeroDivisionError else .ok (product / maxKvTokens)

/-- The context length a decode run is filed under. -/
def contextLength (osl isl : ℤ) : ℤ := isl + osl.fdiv 2

def appendDecode (data : DecodeRawData) (kvUsage : ℚ) (contextLength : ℤ) (itl thpt : PyFloat) :
    DecodeRawData :=
  { data with
    xKvUsage := data.xKvUsage ++ [roundTo 6 kvUsage]
    yContextLength := data.yContextLength ++ [(contextLength : ℚ)]
    zItl := data.zItl ++ [itl.roundDigits 3]
    zThptPerGpu := data.zThptPerGpu ++ [thpt.roundDigits 2] }

section Decode

variable (args : Options) (osl : ℤ)

def decodeBench (isl concurrency : ℤ) : Bench where
  baseUrl := args.baseUrl
  model := args.modelName
  tokenizer := args.tokenizer
  numPrompts := concurrency
  inputLen := isl
  outputLen := osl
  resultFile := joinPath args.outputDir
    ("decode_isl" ++ itoa isl ++ "_conc" ++ itoa concurrency ++ ".json")

/-- One run at a concurrency, and a sample when its result is usable. -/
def profileDecodeRun (isl concurrency : ℤ) (data : DecodeRawData) : ProfilerCall DecodeRawData := do
  match (← ProfilerCall.runBench (decodeBench args osl isl concurrency)).bind itlAndThroughput with
  | none => return data
  | some (itl, throughput) => do
      let itl ← ProfilerCall.raising itl.toFloat
      let thpt ← ProfilerCall.raising (decodeThpt throughput args.numGpus)
      let usage ← ProfilerCall.raising (kvUsage osl isl concurrency args.maxKvTokens)
      return appendDecode data usage (contextLength osl isl) itl thpt

def profileDecodeRuns (isl : ℤ) : List ℤ → DecodeRawData → ProfilerCall DecodeRawData
  | [], data => return data
  | concurrency :: rest, data => do
      profileDecodeRuns isl rest (← profileDecodeRun args osl isl concurrency data)

/-- One input length: the sweep, when the context and the cache have room for it. -/
def profileDecodePoint (isl : ℤ) (data : DecodeRawData) : ProfilerCall DecodeRawData :=
  if args.maxContextLength ≤ isl + osl then return data
  else do
    let fitting ← ProfilerCall.raising (floorDiv args.maxKvTokens (isl + osl))
    let maxConcurrency := min fitting 512
    if maxConcurrency < 1 then return data
    else do
      let points ← ProfilerCall.raising (concurrencyPoints args.decodeGranularity maxConcurrency)
      profileDecodeRuns args osl isl points data

def profileDecodePoints : List ℤ → DecodeRawData → ProfilerCall DecodeRawData
  | [], data => return data
  | isl :: isls, data => do profileDecodePoints isls (← profileDecodePoint args osl isl data)

/-- `profile_decode`. -/
def profileDecode (islPoints : List ℤ) : ProfilerCall DecodeRawData :=
  profileDecodePoints args osl islPoints ⟨[], [], [], [], args.maxKvTokens⟩

end Decode

/-! ## Publishing -/

/-- `create_namespaced_config_map`. -/
def createConfigMap (name namespaceName : String) (prefill : PrefillRawData)
    (decode : DecodeRawData) : ProfilerCall Unit := do
  match ← ExceptT.lift (Prog.request
      (ProfilerOp.createConfigMap name namespaceName prefill decode)) with
  | .ok () => return ()
  | .error status => throw (.apiException status)

/-- `_update_configmap`: replace what is there, or create it. -/
def updateConfigmap (name namespaceName : String) (prefill : PrefillRawData)
    (decode : DecodeRawData) : ProfilerCall Unit := do
  match ← ExceptT.lift (Prog.request (ProfilerOp.readConfigMap name namespaceName)) with
  | .ok () =>
      match ← ExceptT.lift (Prog.request
          (ProfilerOp.replaceConfigMap name namespaceName prefill decode)) with
      | .ok () => return ()
      | .error status =>
          if status = 404 then createConfigMap name namespaceName prefill decode
          else throw (.apiException status)
  | .error status =>
      if status = 404 then createConfigMap name namespaceName prefill decode
      else throw (.apiException status)

/-- `run_profiling`. -/
def runProfiling (args : Options) : ProfilerCall Unit := do
  let prefillIslPoints ← ProfilerCall.raising (parsePoints args.prefillIslPoints)
  let decodeIslPoints ← ProfilerCall.raising (parsePoints args.decodeIslPoints)
  let prefill ← profilePrefill args 5 5 prefillIslPoints
  let decode ← profileDecode args 500 decodeIslPoints
  if args.updateConfigmap then
    updateConfigmap args.outputConfigmap args.namespaceName prefill decode
  else return ()

end RbgPlanner.Profiler
