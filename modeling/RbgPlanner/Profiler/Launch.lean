import RbgPlanner.Controller.Profiling
import RbgPlanner.Profiler.Arguments

/-!
# Launching the profiler

What the profiler binds of the Job's arguments, taken as `parse_known_args`
takes them: three options it declares, and the number of GPUs is none of them.
-/

namespace RbgPlanner.Profiler

open Base Base.NumberText Base.Rounding Base.Argparse Controller Planner

/-- A printed number is an argument, with a sign too. -/
theorem parseOptional_fixedOne (q : ℚ) : parseOptional parser (fixedOne q) = .ok .argument := by
  have hlist := toList_fixedOne q
  generalize (roundHalfEven (q * 10)).natAbs / 10 = whole at hlist
  generalize (roundHalfEven (q * 10)).natAbs % 10 = tenth at hlist
  obtain ⟨d, ds, hwhole, hd⟩ := toDigits_eq_cons whole
  have hdigit : ∀ c : Char, c.isDigit = false →
      c ∉ Nat.toDigits 10 whole ∧ c ∉ Nat.toDigits 10 tenth := by
    intro c hc
    constructor
    · intro hmem
      exact isDigit_ne (isDigit_toDigits whole c hmem) hc rfl
    · intro hmem
      exact isDigit_ne (isDigit_toDigits tenth c hmem) hc rfl
  by_cases hq : q < 0
  · rw [if_pos hq] at hlist
    have hcons : (fixedOne q).toList =
        '-' :: d :: (ds ++ '.' :: Nat.toDigits 10 tenth) := by
      rw [hlist, hwhole]
      rfl
    refine parseOptional_negative hcons hd ?_ ?_ (by decide) (by decide)
    · have hequals := hdigit '=' (by decide)
      rw [hlist]
      simp [hequals]
    · have hdrop : (Nat.toDigits 10 whole ++ '.' :: Nat.toDigits 10 tenth).dropWhile Char.isDigit =
          '.' :: Nat.toDigits 10 tenth := by
        rw [List.dropWhile_append_of_pos (isDigit_toDigits whole)]
        rfl
      have hall : (Nat.toDigits 10 tenth).all Char.isDigit = true :=
        List.all_eq_true.mpr (isDigit_toDigits tenth)
      have hne : Nat.toDigits 10 tenth ≠ [] := Nat.toDigits_ne_nil
      rw [hlist]
      simp [isNegativeNumber, hdrop, hall, hne]
  · apply parseOptional_plain
    rw [hlist, if_neg hq, hwhole]
    simpa using isDigit_ne hd (by decide : '-'.isDigit = false)

theorem fixedOne_ne_separator (q : ℚ) : fixedOne q ≠ "--" := by
  intro h
  have hlist := toList_fixedOne q
  rw [h] at hlist
  have hmem : '.' ∈ "--".toList := by
    rw [hlist]
    simp
  exact absurd hmem (by decide)

variable {ras : AutoScaler} {spec : ParsedSpec} {defaults args : Options} {extras : List String}

/-- What the profiler binds of the Job's arguments. -/
theorem bound_of_jobArgs (hname : ras.name.toList.head? ≠ some '-')
    (hsource : spec.metricSource.toList.head? ≠ some '-')
    (h : parseKnownArgs parser defaults (jobArgs ras spec) = .ok (args, extras)) :
    args = { defaults with
      modelName := spec.modelName
      namespaceName := ras.namespaceName
      outputConfigmap := ras.profilingName } := by
  have hplain : ∀ s : String, s.toList.head? ≠ some '-' → s ≠ "--" := by
    rintro s hs rfl
    exact hs rfl
  change parseKnownArgs parser defaults ["--model-name", spec.modelName,
    "--engine", spec.metricSource, "--ttft-sla", fixedOne spec.ttft, "--itl-sla", fixedOne spec.itl,
    "--rbg-name", ras.name, "--namespace", ras.namespaceName,
    "--output-configmap", ras.profilingName] = _ at h
  obtain ⟨_, hmodel, h⟩ := parseKnownArgs_value (by decide) rfl rfl h
  cases hmodel
  obtain ⟨_, -, h⟩ := parseKnownArgs_extra (by decide) (.inr rfl) h
  obtain ⟨_, -, h⟩ :=
    parseKnownArgs_extra (hplain _ hsource) (.inl (parseOptional_plain hsource)) h
  obtain ⟨_, -, h⟩ := parseKnownArgs_extra (by decide) (.inr rfl) h
  obtain ⟨_, -, h⟩ :=
    parseKnownArgs_extra (fixedOne_ne_separator _) (.inl (parseOptional_fixedOne _)) h
  obtain ⟨_, -, h⟩ := parseKnownArgs_extra (by decide) (.inr rfl) h
  obtain ⟨_, -, h⟩ :=
    parseKnownArgs_extra (fixedOne_ne_separator _) (.inl (parseOptional_fixedOne _)) h
  obtain ⟨_, -, h⟩ := parseKnownArgs_extra (by decide) (.inr rfl) h
  obtain ⟨_, -, h⟩ := parseKnownArgs_extra (hplain _ hname) (.inl (parseOptional_plain hname)) h
  obtain ⟨_, hnamespace, h⟩ := parseKnownArgs_value (by decide) rfl rfl h
  cases hnamespace
  obtain ⟨_, hconfigmap, h⟩ := parseKnownArgs_value (by decide) rfl rfl h
  cases hconfigmap
  cases h
  rfl

/-- A profiler that runs with what it binds of the Job's arguments. The Job sets
no environment and the image leaves the number of GPUs unset; the name of an
object and an admitted metric source do not start with a dash. -/
structure Launched (env : List EnvVar) (ras : AutoScaler) (spec : ParsedSpec) (args : Options) :
    Prop where
  bound : ∃ defaults extras, Options.fromEnviron env = .ok defaults ∧
    parseKnownArgs parser defaults (jobArgs ras spec) = .ok (args, extras)
  unset : environGet env "NUM_GPUS" "1" = "1"
  name : ras.name.toList.head? ≠ some '-'
  metricSource : spec.metricSource.toList.head? ≠ some '-'

/-- It divides by one GPU. -/
theorem numGpus_of_launched {env : List EnvVar} (h : Launched env ras spec args) :
    args.numGpus = 1 := by
  obtain ⟨defaults, extras, hdefaults, hparse⟩ := h.bound
  rw [bound_of_jobArgs h.name h.metricSource hparse]
  obtain ⟨n, hn, hdefaults⟩ := bind_eq_ok.mp hdefaults
  obtain ⟨_, -, hdefaults⟩ := bind_eq_ok.mp hdefaults
  obtain ⟨_, -, hdefaults⟩ := bind_eq_ok.mp hdefaults
  obtain ⟨_, -, hdefaults⟩ := bind_eq_ok.mp hdefaults
  cases hdefaults
  rw [h.unset] at hn
  exact (Except.ok.inj ((pyInt_itoa 1).symm.trans hn)).symm

end RbgPlanner.Profiler
