import RbgPlanner.Properties.MeasuredProfile

/-!
# The profiler's exit status

Kubernetes sees of a profiling Job only how its process exits. A process that is
told to update its ConfigMap exits with zero exactly when the API server has
acknowledged the profile, and asks for nothing after that. A write that is
applied and answered with an error is not acknowledged.
-/

namespace RbgPlanner.Properties.ExitStatus

open Base Base.Prog Planner Profiler MeasuredProfile

variable {python : Python} {args : Options} {h : List HostEvent} {t : List ProfilerEvent}

/-! ## Stored profiles -/

/-- The profile of a write that the API server acknowledges. -/
def stored : ProfilerEvent → Option (PrefillRawData × DecodeRawData)
  | ⟨.replaceConfigMap _ _ prefill decode, .ok ()⟩ => some (prefill, decode)
  | ⟨.createConfigMap _ _ prefill decode, .ok ()⟩ => some (prefill, decode)
  | _ => none

/-- The same on the host. -/
def hostStored : HostEvent → Option (PrefillRawData × DecodeRawData)
  | ⟨.api op, r⟩ => stored ⟨op, r⟩
  | _ => none

/-- No write is acknowledged, or the last event is the one that is. -/
def Concludes (t : List ProfilerEvent) (success : Bool) : Prop :=
  if success then ∃ pre e, t = pre ++ [e] ∧ (stored e).isSome = true ∧ pre.filterMap stored = []
  else t.filterMap stored = []

theorem stored_of_benchAt {osl : ℤ} {e : ProfilerEvent} (he : BenchAt osl e.1) :
    stored e = none := by
  obtain ⟨op, r⟩ := e
  cases op with
  | runBench bench => rfl
  | _ => exact he.elim

theorem written_of_stored {e : ProfilerEvent} {data : PrefillRawData × DecodeRawData}
    (he : stored e = some data) : written e.1 = some data := by
  obtain ⟨op, r⟩ := e
  cases op with
  | runBench _ => cases he
  | readConfigMap _ _ => cases he
  | replaceConfigMap _ _ _ _ =>
      cases r with
      | ok _ => exact he
      | error _ => cases he
  | createConfigMap _ _ _ _ =>
      cases r with
      | ok _ => exact he
      | error _ => cases he

theorem published_of_hostStored {e : HostEvent} {data : PrefillRawData × DecodeRawData}
    (he : hostStored e = some data) : published e.1 = some data := by
  obtain ⟨op, r⟩ := e
  cases op with
  | api op => exact written_of_stored he
  | _ => cases he

/-! ## Before the write and after it -/

section Profiling

/-- A program that only runs benchmarks stores nothing. -/
theorem tells_bench {osl : ℤ} {α : Type} {x : ProfilerCall α} (hx : AsksBench osl x)
    (ht : t.filterMap stored = []) :
    (ExceptT.run x).Tells (fun _ _ => True) (fun _ _ => True)
      (fun t' _ => t'.filterMap stored = []) t := by
  refine (Asks.tells hx (fun _ _ _ => trivial) t).mono (fun _ _ h => h) ?_
  rintro _ r ⟨-, later, rfl, hlater⟩
  rw [List.filterMap_append, ht, List.nil_append, List.filterMap_eq_nil_iff]
  exact fun e he => stored_of_benchAt (hlater e he)

theorem filterMap_append_quiet {e : ProfilerEvent} (ht : t.filterMap stored = [])
    (he : stored e = none) : (t ++ [e]).filterMap stored = [] := by
  rw [List.filterMap_append, ht, List.filterMap_cons_none he]
  rfl

section Update

variable {name namespaceName : String} {prefill : PrefillRawData} {decode : DecodeRawData}

theorem tells_createConfigMap (ht : t.filterMap stored = []) :
    (ExceptT.run (createConfigMap name namespaceName prefill decode)).Tells (fun _ _ => True)
      (fun _ _ => True) (fun t' r => Concludes t' r.isOk) t := by
  refine Tells.lift_bind (fun _ _ => trivial) fun r _ => ?_
  cases r with
  | ok _ => exact ⟨t, _, rfl, rfl, ht⟩
  | error _ => exact filterMap_append_quiet ht rfl

/-- What follows on a call that fails. -/
theorem tells_failed {status : ℕ} (ht : t.filterMap stored = []) :
    (ExceptT.run (if status = 404 then createConfigMap name namespaceName prefill decode
      else throw (.apiException status))).Tells (fun _ _ => True)
      (fun _ _ => True) (fun t' r => Concludes t' r.isOk) t := by
  split_ifs
  · exact tells_createConfigMap ht
  · exact ht

/-- Each way through `_update_configmap` ends at a write that is taken, or raises. -/
theorem tells_updateConfigmap (ht : t.filterMap stored = []) :
    (ExceptT.run (updateConfigmap name namespaceName prefill decode)).Tells (fun _ _ => True)
      (fun _ _ => True) (fun t' r => Concludes t' r.isOk) t := by
  refine Tells.lift_bind (fun _ _ => trivial) fun r _ => ?_
  have hread := filterMap_append_quiet ht
    (rfl : stored ⟨.readConfigMap name namespaceName, r⟩ = none)
  cases r with
  | error status => exact tells_failed hread
  | ok _ =>
      refine Tells.lift_bind (fun _ _ => trivial) fun r' _ => ?_
      cases r' with
      | ok _ => exact ⟨_, _, rfl, rfl, hread⟩
      | error status => exact tells_failed (filterMap_append_quiet hread rfl)

end Update

/-- What may raise asks for nothing. -/
theorem tells_raising {α : Type} {x : Except PyExc α} (ht : t.filterMap stored = []) :
    (ExceptT.run (ProfilerCall.raising x)).Tells (fun _ _ => True) (fun _ _ => True)
      (fun t' _ => t'.filterMap stored = []) t := by
  cases x with
  | ok a => exact ht
  | error e => exact ht

theorem concludes_runProfiling (hupdate : args.updateConfigmap = true) :
    (ExceptT.run (runProfiling args)).Tells (fun _ _ => True) (fun _ _ => True)
      (fun t r => Concludes t r.isOk) [] := by
  refine Tells.bind_raising (tells_raising rfl) (fun t₁ isls ht₁ => ?_) fun _ _ ht => ht
  refine Tells.bind_raising (tells_raising ht₁) (fun t₂ isls' ht₂ => ?_) fun _ _ ht => ht
  refine Tells.bind_raising (tells_bench asks_profilePrefill ht₂) (fun t₃ prefill ht₃ => ?_)
    fun _ _ ht => ht
  refine Tells.bind_raising (tells_bench asks_profileDecode ht₃) (fun t₄ decode ht₄ => ?_)
    fun _ _ ht => ht
  rw [if_pos hupdate]
  exact tells_updateConfigmap ht₄

end Profiling

/-! ## The process -/

theorem hostStored_of_local {e : HostEvent} (he : Local e.1) : hostStored e = none := by
  obtain ⟨op, r⟩ := e
  cases op with
  | api op => exact he.elim
  | _ => rfl

theorem local_of_attempts {bench : Bench} {n : ℕ} {events : List HostEvent}
    {result : Option BenchResult} (h : Attempts python bench n events result) :
    ∀ e ∈ events, Local e.1 := by
  have hattempt : ∀ {events : List HostEvent} {r}, Attempt python bench events r →
      ∀ e ∈ events, Local e.1 := by
    rintro _ _ (_ | _) e he
    · rcases List.mem_pair.mp he with rfl | rfl <;> trivial
    · rcases List.mem_pair.mp he with rfl | rfl <;> trivial
  induction h with
  | exhausted => exact nofun
  | returned h => exact hattempt h
  | again h _ ih => exact List.forall_mem_append.mpr ⟨hattempt h, ih⟩

/-- What is stored is stored on the host. -/
theorem filterMap_explains (ht : Explains python h t) :
    h.filterMap hostStored = t.filterMap stored := by
  induction ht with
  | nil => rfl
  | bench _ hevents ih =>
      have hnone := List.filterMap_eq_nil_iff.mpr fun e he =>
        hostStored_of_local (local_of_attempts hevents e he)
      rw [List.filterMap_append, List.filterMap_append, ih, hnone]
      rfl
  | call _ _ ih =>
      rw [List.filterMap_append, List.filterMap_append, ih]
      rfl

/-- A last request that stores is the last one on the host. -/
theorem last_explains {pre : List ProfilerEvent} {e : ProfilerEvent}
    (ht : Explains python h (pre ++ [e])) (he : (stored e).isSome = true) :
    ∃ before, h = before ++ [⟨.api e.1, e.2⟩] ∧ Explains python before pre := by
  generalize hevents : pre ++ [e] = t at ht
  cases ht with
  | nil => simp at hevents
  | bench _ _ =>
      obtain ⟨-, hlast⟩ := List.append_inj' hevents rfl
      obtain rfl := List.singleton_inj.mp hlast
      cases he
  | call ht _ =>
      obtain ⟨rfl, hlast⟩ := List.append_inj' hevents rfl
      obtain rfl := List.singleton_inj.mp hlast
      exact ⟨_, rfl, ht⟩

/-- The status tells whether the run has stored its profile. -/
theorem tells_main {env : List EnvVar} {argv : List String}
    (hparse : parseArguments env argv = .ok args) (hupdate : args.updateConfigmap = true) :
    (main python env argv).Tells (fun _ _ => True) (Measured python args)
      (fun h status => (status = 0 ∨ status = 1) ∧
        ∃ t, Explains python h t ∧ Concludes t (status = 0)) [] := by
  have hprofiling : (hostProfiling python args).Tells (fun _ _ => True) (Measured python args)
      (fun h r => ∃ t, Explains python h t ∧ True ∧ Concludes t r.isOk) [] :=
    (tells_runProfiling.and (concludes_runProfiling hupdate)).interp .nil
      fun op _ _ ht hevent => tells_hostAnswer op ht fun r hr => (hevent r hr).1
  unfold main
  rw [hparse]
  refine hprofiling.bind fun h r hr => ?_
  obtain ⟨t, ht, -, hconcludes⟩ := hr
  cases r with
  | ok _ => exact ⟨.inl rfl, t, ht, hconcludes⟩
  | error _ => exact ⟨.inr rfl, t, ht, hconcludes⟩

/-- A profiler that is told to update its ConfigMap exits with zero after the API
server has acknowledged the measured profile in its last request, and with one
after a run in which it has acknowledged none. -/
theorem main_exits {σ : Type} {answer : (op : HostOp) → σ → HostResp op → σ → Prop}
    {others : σ → σ → Prop} {s s' : σ} {tr : List HostEvent} {env : List EnvVar}
    {argv : List String} {status : ℤ} (hparse : parseArguments env argv = .ok args)
    (hupdate : args.updateConfigmap = true)
    (h : (main python env argv).Exec answer others s tr (.done status) s') :
    (status = 0 ∧ ∃ before e t, tr = before ++ [e] ∧ before.filterMap hostStored = [] ∧
      Explains python before t ∧ hostStored e = some (profileOf args t)) ∨
      (status = 1 ∧ tr.filterMap hostStored = []) := by
  obtain ⟨hstatus, t, ht, hconcludes⟩ :=
    (tells_main hparse hupdate).exec_done (fun _ _ _ _ _ => trivial) h
  rw [List.nil_append] at ht
  rcases hstatus with rfl | rfl
  · obtain ⟨pre, e, rfl, hsome, hquiet⟩ := hconcludes
    obtain ⟨before, rfl, hbefore⟩ := last_explains ht hsome
    obtain ⟨data, hdata⟩ := Option.isSome_iff_exists.mp hsome
    obtain ⟨t', ht', rfl⟩ := (tells_main hparse hupdate).exec (fun _ _ _ _ _ => trivial) h rfl
      data (published_of_hostStored hdata)
    exact .inl ⟨rfl, before, _, t', rfl, (filterMap_explains hbefore).trans hquiet, ht', hdata⟩
  · exact .inr ⟨rfl, (filterMap_explains ht).trans hconcludes⟩

/-- A host without the ConfigMap, on which every benchmark succeeds. -/
private def freshServe : (op : HostOp) → Unit → HostResp op × Unit
  | .execute _, _ => (0, ())
  | .readlines _, _ => (some ["{}\n"], ())
  | .sleep _, _ => ((), ())
  | .api op, _ => ((endpoint (fun _ => none) op ()).1, ())

private def freshPython : Python where
  executable := "/usr/bin/python3"
  loads := fun line => if line = "{}" then some (some healthy) else none

private def freshArguments : List String :=
  ["--model-name", "olmo", "--tokenizer=olmo", "--max-kv-tokens", "4096",
    "--max-context-length", "2048", "--output-configmap", "olmo-profiling",
    "--prefill-isl-points", "256", "--decode-isl-points", "256", "--decode-granularity", "2"]

private def freshMain : HostProg ℤ := main freshPython [] freshArguments

theorem main_exits_fresh :
    ∃ args, parseArguments [] freshArguments = .ok args ∧ ∃ before e t,
      freshMain.trace freshServe () = before ++ [e] ∧ before.filterMap hostStored = [] ∧
        Explains freshPython before t ∧ hostStored e = some (profileOf args t) := by
  obtain ⟨args, hparse, hupdate⟩ : ∃ args, parseArguments [] freshArguments = .ok args ∧
      args.updateConfigmap = true := ⟨_, rfl, rfl⟩
  have hzero : (freshMain.run freshServe ()).1 = 0 := by decide +kernel
  have hexec : freshMain.Exec (fun _ _ _ _ => True) (fun _ _ => False) ()
      (freshMain.trace freshServe ()) (.done (freshMain.run freshServe ()).1) () :=
    exec_of_run (fun _ _ => trivial) freshMain ()
  rcases main_exits hparse hupdate hexec with ⟨-, hstored⟩ | ⟨hone, -⟩
  · exact ⟨args, hparse, hstored⟩
  · rw [hzero] at hone
    cases hone

end RbgPlanner.Properties.ExitStatus
