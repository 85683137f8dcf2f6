import RbgPlanner.Controller.Profiling
import RbgPlanner.Profiler.Arguments

/-!
# The profiler's command line

The operator passes four options that the profiler does not declare, so no
profiling Job it creates gets past its arguments.
-/

namespace RbgPlanner.Properties.ProfilerCommandLine

open Base Base.Argparse Controller Planner Profiler

/-- The profiler accepts the arguments of the Job, profiles the model of the spec, and publishes the
ConfigMap that `handleProfiling` waits for. -/
def Agrees (env : List EnvVar) (ras : AutoScaler) (spec : ParsedSpec) : Prop :=
  ∃ ns, parseArguments env (jobArgs ras spec) = .ok ns ∧ ns.modelName = spec.modelName ∧
    ns.namespaceName = ras.namespaceName ∧ ns.outputConfigmap = ras.profilingName

/-- Whatever the model is called, `--engine` is neither a value nor an option. -/
theorem engine_not_accepted (defaults : Options) (modelName : String) (after : List String)
    (ns : Options) :
    parseArgs parser defaults ("--model-name" :: modelName :: "--engine" :: after) ≠ .ok ns := by
  intro h
  obtain ⟨ns₁, -, hrest⟩ := parseKnownArgs_value (by decide) rfl rfl (parseArgs_eq_ok h)
  obtain ⟨rest, hextras, -⟩ := parseKnownArgs_extra (by decide) (.inr rfl) hrest
  cases hextras

/-- No Job agrees with the profiler. -/
theorem not_agrees (env : List EnvVar) (ras : AutoScaler) (spec : ParsedSpec) :
    ¬ Agrees env ras spec := by
  rintro ⟨ns, hparse, -⟩
  unfold parseArguments at hparse
  cases hdefaults : Options.fromEnviron env with
  | error e =>
      rw [hdefaults] at hparse
      cases hparse
  | ok defaults =>
      rw [hdefaults] at hparse
      dsimp only at hparse
      cases haccept : parseArgs parser defaults (jobArgs ras spec) with
      | error e =>
          rw [haccept] at hparse
          cases hparse
      | ok ns' => exact engine_not_accepted defaults _ _ ns' haccept

private def qwen : AutoScaler := ⟨{ key := ⟨"serving", "qwen"⟩ }, none, none⟩

private def qwenSpec : ParsedSpec := { ParsedSpec.fallback with modelName := "Qwen/Qwen3-0.6B" }

/-- What the profiler of a small model complains about. -/
private theorem qwen_exit :
    parseArguments [] (jobArgs qwen qwenSpec) = .error (.exit (.unrecognized
      ["--engine", "sglang", "--ttft-sla", "500.0", "--itl-sla", "50.0", "--rbg-name",
        "qwen"])) := by
  decide +kernel

theorem options_unrecognized :
    (∃ extras, parseArguments [] (jobArgs qwen qwenSpec) =
      .error (.exit (.unrecognized ("--engine" :: extras)))) ∧ ¬ Agrees [] qwen qwenSpec := by
  refine ⟨⟨_, qwen_exit⟩, ?_⟩
  rintro ⟨ns, hparse, -⟩
  cases qwen_exit.symm.trans hparse

end RbgPlanner.Properties.ProfilerCommandLine
