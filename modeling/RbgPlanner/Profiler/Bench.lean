import RbgPlanner.Base.Cost
import RbgPlanner.Base.Layers
import RbgPlanner.Profiler.Samples

/-!
# Benchmark runs

`run_bench` executes a command and reads the last line of its result file, three
times at most. The profiler with this in place of its benchmarks is a program
over what it does to its host.
-/

namespace RbgPlanner.Profiler

open Base Base.Prog Base.NumberText Planner

/-- What the profiler does to its host: `subprocess.run` with its exit code, the
lines of a file unless there is none, `time.sleep`, and calls of the API server. -/
inductive HostOp
  | execute (cmd : List String)
  | readlines (path : String)
  | sleep (seconds : ℕ)
  | api (op : ProfilerOp)
  deriving DecidableEq

abbrev HostResp : HostOp → Type
  | .execute _ => ℤ
  | .readlines _ => Option (List String)
  | .sleep _ => Unit
  | .api op => ProfilerResp op

abbrev HostEvent := Event HostOp HostResp

abbrev HostProg := Prog HostOp HostResp

/-- The last line of a file with something on it. -/
def lastLine (lines : List String) : Option String :=
  ((lines.map fun line => String.ofList (strip line.toList)).filter (· ≠ "")).getLast?

/-- `sys.executable`, and `json.loads` on one line: nothing when it raises, and
inside, nothing for `null`. -/
structure Python where
  executable : String
  loads : String → Option (Option BenchResult)

namespace Bench

variable (python : Python) (bench : Bench)

def command : List String :=
  [python.executable, "-m", "sglang.bench_serving",
    "--backend", "sglang-oai",
    "--base-url", bench.baseUrl,
    "--model", bench.model,
    "--tokenizer", bench.tokenizer,
    "--dataset-name", "random-ids",
    "--random-input-len", itoa bench.inputLen,
    "--random-output-len", itoa bench.outputLen,
    "--random-range-ratio", "1.0",
    "--num-prompts", itoa bench.numPrompts,
    "--request-rate", "inf",
    "--disable-tqdm",
    "--output-file", bench.resultFile]

/-- One turn of the loop, with what `run_bench` returns in it. -/
def attempt : HostProg (Option (Option BenchResult)) := do
  let returncode ← request (HostOp.execute (bench.command python))
  if returncode = 0 then
    let lines ← request (HostOp.readlines bench.resultFile)
    return (lines.bind lastLine).bind python.loads
  else
    let () ← request (HostOp.sleep 5)
    return none

def attempts : ℕ → HostProg (Option BenchResult)
  | 0 => return none
  | n + 1 => do
      match ← bench.attempt python with
      | some result => return result
      | none => attempts n

/-- `run_bench`. -/
def run : HostProg (Option BenchResult) := bench.attempts python 3

end Bench

/-- How a request of the profiler is answered. -/
def hostAnswer (python : Python) : (op : ProfilerOp) → HostProg (ProfilerResp op)
  | .runBench bench => bench.run python
  | .readConfigMap name ns => request (HostOp.api (.readConfigMap name ns))
  | .replaceConfigMap name ns prefill decode =>
      request (HostOp.api (.replaceConfigMap name ns prefill decode))
  | .createConfigMap name ns prefill decode =>
      request (HostOp.api (.createConfigMap name ns prefill decode))

/-- `run_profiling` on a host. -/
def hostProfiling (python : Python) (args : Options) : HostProg (Except ProfilerExc Unit) :=
  (ExceptT.run (runProfiling args)).interp (hostAnswer python)

/-- The status that the interpreter or `argparse` exits with. -/
def MainExc.status : MainExc → ℤ
  | .builtin _ => 1
  | .exit .help => 0
  | .exit _ => 2

/-- `main`, with the exit status of the process. -/
def main (python : Python) (env : List EnvVar) (argv : List String) : HostProg ℤ :=
  match parseArguments env argv with
  | .error e => return e.status
  | .ok args => do
      match ← hostProfiling python args with
      | .ok () => return 0
      | .error _ => return 1

/-! ## Attempts -/

/-- The events of one attempt, and what it comes to. -/
inductive Attempt (python : Python) (bench : Bench) :
    List HostEvent → Option (Option BenchResult) → Prop
  | exited {returncode : ℤ} (h : returncode ≠ 0) :
      Attempt python bench
        [⟨.execute (bench.command python), returncode⟩, ⟨.sleep 5, ()⟩] none
  | read (lines : Option (List String)) :
      Attempt python bench
        [⟨.execute (bench.command python), (0 : ℤ)⟩, ⟨.readlines bench.resultFile, lines⟩]
        ((lines.bind lastLine).bind python.loads)

/-- The events of up to `n` attempts: the first that comes to something ends
them, and `n` that do not come to nothing. -/
inductive Attempts (python : Python) (bench : Bench) :
    ℕ → List HostEvent → Option BenchResult → Prop
  | exhausted : Attempts python bench 0 [] none
  | returned {n events result} (h : Attempt python bench events (some result)) :
      Attempts python bench (n + 1) events result
  | again {n events rest result} (h : Attempt python bench events none)
      (hrest : Attempts python bench n rest result) :
      Attempts python bench (n + 1) (events ++ rest) result

/-- An event on the host that is no call of the API server. -/
def Local : HostOp → Prop
  | .api _ => False
  | _ => True

section Tells

variable {python : Python} {bench : Bench} {Φ : History HostOp HostResp → HostEvent → Prop}
  (hΦ : ∀ h e, Local e.1 → Φ h e)
include hΦ

theorem tells_attempt (h : History HostOp HostResp) :
    (bench.attempt python).Tells (fun _ _ => True) Φ
      (fun h' result => ∃ events, h' = h ++ events ∧ Attempt python bench events result) h := by
  unfold Bench.attempt
  rw [request_bind]
  refine fun returncode _ => ⟨hΦ _ _ trivial, ?_⟩
  dsimp only
  by_cases hcode : returncode = 0
  · rw [if_pos hcode]
    obtain rfl := hcode
    intro lines _
    exact ⟨hΦ _ _ trivial, _, List.append_assoc .., .read lines⟩
  · rw [if_neg hcode]
    intro _ _
    exact ⟨hΦ _ _ trivial, _, List.append_assoc .., .exited hcode⟩

theorem tells_attempts (n : ℕ) (h : History HostOp HostResp) :
    (bench.attempts python n).Tells (fun _ _ => True) Φ
      (fun h' result => ∃ events, h' = h ++ events ∧ Attempts python bench n events result) h := by
  induction n generalizing h with
  | zero => exact ⟨[], (List.append_nil h).symm, .exhausted⟩
  | succ n ih =>
      refine (tells_attempt hΦ h).bind ?_
      rintro _ (_ | result) ⟨events, rfl, hattempt⟩
      · refine (ih _).mono (fun _ _ h => h) ?_
        rintro _ result ⟨rest, rfl, hrest⟩
        exact ⟨events ++ rest, List.append_assoc .., .again hattempt hrest⟩
      · exact ⟨events, rfl, .returned hattempt⟩

end Tells

/-! ## Work -/

/-- Prices on the host: `w` for an execution and `v` for a second of sleep. -/
def work (w v : ℕ) : HostEvent → ℕ
  | ⟨.execute _, _⟩ => w
  | ⟨.sleep seconds, _⟩ => v * seconds
  | _ => 0

/-- A price for a benchmark. -/
def benchPrice (k : ℕ) : ProfilerEvent → ℕ
  | ⟨.runBench _, _⟩ => k
  | _ => 0

/-- The benchmarks of a run at most. -/
def planned (args : Options) : ℕ :=
  ((parsePoints args.prefillIslPoints).toOption.getD []).length +
    args.decodeGranularity.toNat *
      ((parsePoints args.decodeIslPoints).toOption.getD []).length

section Costs

variable {python : Python} {bench : Bench} {args : Options} {numPrompts osl isl : ℤ} {w v k : ℕ}

theorem costs_attempt : (bench.attempt python).Costs (work w v) (w + v * 5) := by
  unfold Bench.attempt
  rw [request_bind]
  refine fun returncode => ⟨Nat.le_add_right .., ?_⟩
  dsimp only
  split_ifs
  · exact fun lines => ⟨Nat.zero_le _, trivial⟩
  · have hleft : w + v * 5 - work w v ⟨.execute (bench.command python), returncode⟩ = v * 5 :=
      Nat.add_sub_cancel_left ..
    rw [hleft]
    exact fun _ => ⟨le_refl (v * 5), trivial⟩

theorem costs_attempts (n : ℕ) :
    (bench.attempts python n).Costs (work w v) (n * (w + v * 5)) := by
  induction n with
  | zero => trivial
  | succ n ih =>
      rw [Nat.succ_mul, Nat.add_comm]
      refine costs_attempt.bind fun result => ?_
      cases result with
      | none => exact ih
      | some result => trivial

/-- What may raise costs nothing. -/
theorem costs_raising_bind {α β : Type} {x : Except PyExc α} {f : α → ProfilerCall β} {n : ℕ}
    (hf : ∀ a, (ExceptT.run (f a)).Costs (benchPrice k) n) :
    (ExceptT.run (ProfilerCall.raising x >>= f)).Costs (benchPrice k) n := by
  cases x with
  | error e => trivial
  | ok a => exact hf a

/-- A benchmark, and what is done with its result. -/
theorem costs_runBench_bind {α : Type} {f : Option BenchResult → ProfilerCall α}
    (hf : ∀ result, (ExceptT.run (f result)).Costs (benchPrice k) 0) :
    (ExceptT.run (ProfilerCall.runBench bench >>= f)).Costs (benchPrice k) k := by
  refine Affords.lift_bind (fun _ => le_refl k) fun result => ?_
  exact (hf result).mono (Nat.zero_le _)

theorem costs_profilePrefillPoint (data : PrefillRawData) :
    (ExceptT.run (profilePrefillPoint args numPrompts osl isl data)).Costs (benchPrice k) k := by
  unfold profilePrefillPoint
  split_ifs
  · trivial
  · refine costs_runBench_bind fun result => ?_
    cases result.bind meanTtft with
    | none => trivial
    | some ttft =>
        refine costs_raising_bind fun ttft => ?_
        split_ifs
        · trivial
        · exact costs_raising_bind fun thpt => trivial

theorem costs_profilePrefillPoints (isls : List ℤ) (data : PrefillRawData) :
    (ExceptT.run (profilePrefillPoints args numPrompts osl isls data)).Costs (benchPrice k)
      (k * isls.length) := by
  induction isls generalizing data with
  | nil => trivial
  | cons isl isls ih =>
      rw [List.length_cons, Nat.mul_succ, Nat.add_comm]
      exact (costs_profilePrefillPoint data).except_bind ih

theorem costs_profileDecodeRun (concurrency : ℤ) (data : DecodeRawData) :
    (ExceptT.run (profileDecodeRun args osl isl concurrency data)).Costs (benchPrice k) k := by
  refine costs_runBench_bind fun result => ?_
  cases result.bind itlAndThroughput with
  | none => trivial
  | some measured =>
      exact costs_raising_bind fun itl => costs_raising_bind fun thpt =>
        costs_raising_bind fun usage => trivial

theorem costs_profileDecodeRuns (points : List ℤ) (data : DecodeRawData) :
    (ExceptT.run (profileDecodeRuns args osl isl points data)).Costs (benchPrice k)
      (k * points.length) := by
  induction points generalizing data with
  | nil => trivial
  | cons concurrency points ih =>
      rw [List.length_cons, Nat.mul_succ, Nat.add_comm]
      exact (costs_profileDecodeRun concurrency data).except_bind ih

/-- A sweep has no more points than its granularity. -/
theorem length_concurrencyPoints_le {granularity maxConcurrency : ℤ} {points : List ℤ}
    (h : concurrencyPoints granularity maxConcurrency = .ok points) :
    points.length ≤ granularity.toNat := by
  unfold concurrencyPoints at h
  split_ifs at h with hsmall
  · cases h
    simpa using Int.toNat_le_toNat hsmall
  · obtain ⟨step, -, h⟩ := bind_eq_ok.mp h
    cases h
    rw [List.length_insertionSort]
    refine (List.dedup_sublist _).length_le.trans ?_
    simp

theorem costs_profileDecodePoint (data : DecodeRawData) :
    (ExceptT.run (profileDecodePoint args osl isl data)).Costs (benchPrice k)
      (k * args.decodeGranularity.toNat) := by
  unfold profileDecodePoint
  split_ifs
  · trivial
  · refine costs_raising_bind fun fitting => ?_
    dsimp only
    split_ifs
    · trivial
    · cases hpoints : concurrencyPoints args.decodeGranularity (min fitting 512) with
      | error e => trivial
      | ok points =>
          exact (costs_profileDecodeRuns points data).mono
            (Nat.mul_le_mul_left k (length_concurrencyPoints_le hpoints))

theorem costs_profileDecodePoints (isls : List ℤ) (data : DecodeRawData) :
    (ExceptT.run (profileDecodePoints args osl isls data)).Costs (benchPrice k)
      (k * (args.decodeGranularity.toNat * isls.length)) := by
  induction isls generalizing data with
  | nil => trivial
  | cons isl isls ih =>
      rw [List.length_cons, Nat.mul_succ, Nat.mul_add, Nat.add_comm]
      exact (costs_profileDecodePoint data).except_bind ih

theorem costs_runProfiling :
    (ExceptT.run (runProfiling args)).Costs (benchPrice k) (k * planned args) := by
  unfold runProfiling planned
  cases parsePoints args.prefillIslPoints with
  | error e => trivial
  | ok isls =>
      cases parsePoints args.decodeIslPoints with
      | error e => trivial
      | ok isls' =>
          rw [Nat.mul_add]
          refine (costs_profilePrefillPoints isls _).except_bind fun prefill => ?_
          refine (Costs.except_bind (n := 0) (costs_profileDecodePoints isls' _)
            fun decode => ?_).mono (Nat.add_zero _).le
          split_ifs
          · refine Asks.costs asks_updateConfigmap fun e he => ?_
            obtain ⟨op, r⟩ := e
            cases op with
            | runBench bench => exact he.elim
            | _ => rfl
          · trivial

theorem costs_hostAnswer (op : ProfilerOp) {credit : ℕ}
    (hcredit : ∀ r, benchPrice (3 * (w + v * 5)) ⟨op, r⟩ ≤ credit) :
    (hostAnswer python op).Affords (work w v)
      (fun r left => credit - benchPrice (3 * (w + v * 5)) ⟨op, r⟩ ≤ left) credit := by
  cases op with
  | runBench bench =>
      have hall : 3 * (w + v * 5) ≤ credit := hcredit none
      have hrun : (bench.run python).Costs (work w v) (3 * (w + v * 5)) := costs_attempts 3
      have hrest := hrun.frame (credit - 3 * (w + v * 5))
      rw [Nat.add_sub_cancel' hall] at hrest
      exact hrest.mono fun _ _ h => h.1
  | _ => exact fun r => ⟨Nat.zero_le _, le_refl _⟩

end Costs

end RbgPlanner.Profiler
