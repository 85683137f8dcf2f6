import RbgPlanner.Base.Argparse
import RbgPlanner.Planner.Config

/-!
# The profiler's command line

The options that `main` declares, with their defaults from the environment.
-/

namespace RbgPlanner.Profiler

open Base Base.NumberText Base.Argparse Planner

/-- The namespace that `main` parses into. -/
structure Options where
  baseUrl : String
  modelName : String
  tokenizer : String
  numGpus : ℤ
  maxKvTokens : ℤ
  maxContextLength : ℤ
  namespaceName : String
  outputConfigmap : String
  outputDir : String
  updateConfigmap : Bool
  prefillIslPoints : String
  decodeIslPoints : String
  decodeGranularity : ℤ
  deriving DecidableEq, Repr

/-- The defaults, read from the environment while the options are declared. -/
def Options.fromEnviron (env : List EnvVar) : Except PyExc Options := do
  let get := environGet env
  let numGpus ← pyInt (get "NUM_GPUS" "1")
  let maxKvTokens ← pyInt (get "MAX_KV_TOKENS" "32768")
  let maxContextLength ← pyInt (get "MAX_CONTEXT_LENGTH" "32768")
  let decodeGranularity ← pyInt (get "DECODE_GRANULARITY" "6")
  return {
    baseUrl := get "BASE_URL" "http://localhost:8000"
    modelName := get "MODEL" ""
    tokenizer := get "TOKENIZER" ""
    numGpus, maxKvTokens, maxContextLength
    namespaceName := get "NAMESPACE" "default"
    outputConfigmap := get "CONFIGMAP_NAME" "profiling-results"
    outputDir := get "OUTPUT_DIR" "/tmp/profiling_results"
    updateConfigmap := isTrueWord (get "UPDATE_CONFIGMAP" "true")
    prefillIslPoints := get "PREFILL_ISL_POINTS" "128,256,512,1024,1536,2048,3072,4096"
    decodeIslPoints := get "DECODE_ISL_POINTS" "256,512,1024,2048,3072"
    decodeGranularity }

/-- An option of type `int`. -/
def storeInt (set : ℤ → Options → Options) : Action Options :=
  .store fun value ns => (pyInt value).toOption.map fun n => set n ns

/-- An option whose value is kept as it is. -/
def storeText (set : String → Options → Options) : Action Options :=
  .store fun value ns => some (set value ns)

/-- The options of `main`, and `argparse`'s own. -/
def parser : List (Opt Options) :=
  [⟨"-h", .help⟩, ⟨"--help", .help⟩,
   ⟨"--base-url", storeText fun v ns => { ns with baseUrl := v }⟩,
   ⟨"--model-name", storeText fun v ns => { ns with modelName := v }⟩,
   ⟨"--tokenizer", storeText fun v ns => { ns with tokenizer := v }⟩,
   ⟨"--num-gpus", storeInt fun n ns => { ns with numGpus := n }⟩,
   ⟨"--max-kv-tokens", storeInt fun n ns => { ns with maxKvTokens := n }⟩,
   ⟨"--max-context-length", storeInt fun n ns => { ns with maxContextLength := n }⟩,
   ⟨"--namespace", storeText fun v ns => { ns with namespaceName := v }⟩,
   ⟨"--output-configmap", storeText fun v ns => { ns with outputConfigmap := v }⟩,
   ⟨"--output-dir", storeText fun v ns => { ns with outputDir := v }⟩,
   ⟨"--update-configmap", .flag fun ns => { ns with updateConfigmap := true }⟩,
   ⟨"--prefill-isl-points", storeText fun v ns => { ns with prefillIslPoints := v }⟩,
   ⟨"--decode-isl-points", storeText fun v ns => { ns with decodeIslPoints := v }⟩,
   ⟨"--decode-granularity", storeInt fun n ns => { ns with decodeGranularity := n }⟩]

/-- How `main` ends before it profiles. -/
inductive MainExc
  | builtin (e : PyExc)
  | exit (e : ParseExit)
  deriving DecidableEq, Repr

/-- The half of `main` that parses its arguments. -/
def parseArguments (env : List EnvVar) (args : List String) : Except MainExc Options :=
  match Options.fromEnviron env with
  | .error e => .error (.builtin e)
  | .ok defaults =>
      match parseArgs parser defaults args with
      | .error e => .error (.exit e)
      | .ok ns => .ok ns

end RbgPlanner.Profiler
