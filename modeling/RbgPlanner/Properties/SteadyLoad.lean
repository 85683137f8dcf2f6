import RbgPlanner.Properties.GovernedRuns
import RbgPlanner.Properties.PredictorWindow

/-!
# A steady load

Every query of metrics has the same answer each time, and the planner does not
correct. Then each cycle decides on the same counts, and the governed count of a
role changes once at most, from what it was to what the load needs.
-/

namespace RbgPlanner.Properties.SteadyLoad

open Base Base.Prog Planner LoadPredictor PredictorWindow

/-! ## Forecasts -/

section Forecasts

variable {forecasters : Forecasters} {x : PyFloat}

/-- A value that counts as zero leaves no history, any other one only itself. -/
theorem history_replicate (x : PyFloat) (n : ℕ) :
    history (List.replicate n x) =
      if cleanValue x = .fin 0 then [] else List.replicate n (cleanValue x) := by
  unfold history
  rw [List.map_replicate]
  split_ifs with hzero
  · rw [List.dropWhile_eq_nil_iff]
    intro y hy
    rw [List.eq_of_mem_replicate hy, hzero]
    rfl
  · cases n with
    | zero => rfl
    | succ n => simp [List.replicate_succ, hzero]

/-- A buffer of one value forecasts that value. -/
theorem predictNext_replicate {predictor : LoadPredictor} {y : PyFloat} {n : ℕ}
    (hpredictor : predictor = .constant (List.replicate (n + 1) y) ∨
      ∃ windowSize, predictor = .arima windowSize (List.replicate (n + 1) y)) :
    predictor.predictNext forecasters = y := by
  have hlast : (List.replicate (n + 1) y).getLastD (.fin 0) = y := by
    rw [List.getLastD_eq_getLast?, List.getLast?_replicate]
    simp
  rcases hpredictor with rfl | ⟨windowSize, rfl⟩
  · exact hlast
  · have hsingle : (List.replicate (n + 1) y).dedup.length = 1 := by
      rw [List.replicate_dedup (Nat.succ_ne_zero n)]
      rfl
    simp only [predictNext, hsingle, if_true]
    split_ifs
    · exact hlast
    · rfl

theorem feed_constant (xs : List PyFloat) :
    feed (.constant []) xs = .constant (history xs) := by
  induction xs using List.reverseRecOn with
  | nil => rfl
  | append_singleton xs x ih => rw [feed_concat, history_concat, ih, addDataPoint]

/-- What a predictor forecasts that was fed one value again and again. A window
below zero never holds it. -/
def steadyForecast : LoadPredictor → PyFloat → PyFloat
  | .arima windowSize _, x => if windowSize < 0 then .fin 0 else cleanValue x
  | _, x => cleanValue x

/-- A fresh predictor that does not fit a model to equal values. -/
def Plain (predictor : LoadPredictor) : Prop :=
  predictor = .constant [] ∨ ∃ windowSize, predictor = .arima windowSize []

theorem predictNext_steady {predictor : LoadPredictor} (h : Plain predictor) (n : ℕ) :
    (feed predictor (List.replicate (n + 1) x)).predictNext forecasters =
      steadyForecast predictor x := by
  rcases h with rfl | ⟨windowSize, rfl⟩
  · rw [feed_constant, history_replicate]
    split_ifs with hzero
    · exact hzero.symm
    · exact predictNext_replicate (.inl rfl)
  · rw [feed_arima, steadyForecast]
    rcases lt_trichotomy windowSize 0 with hneg | rfl | hpos
    · rw [buffered_of_neg hneg, if_pos hneg]
      rfl
    · rw [buffered_zero, history_replicate, if_neg (lt_irrefl 0)]
      split_ifs with hzero
      · exact hzero.symm
      · exact predictNext_replicate (.inr ⟨0, rfl⟩)
    · rw [buffered_of_pos hpos, history_replicate, if_neg hpos.not_gt]
      split_ifs with hzero
      · rw [List.rtake_nil]
        exact hzero.symm
      · have hlast : (List.replicate (n + 1) (cleanValue x)).rtake windowSize.toNat =
            List.replicate (min n (windowSize.toNat - 1) + 1) (cleanValue x) := by
          rw [List.rtake, List.drop_replicate, List.length_replicate]
          congr 1
          omega
        rw [hlast]
        exact predictNext_replicate (.inr ⟨windowSize, rfl⟩)

theorem plain_of_create {name : String} {windowSize : ℤ} {predictor : LoadPredictor}
    (hname : name ≠ "prophet") (h : LoadPredictor.create name windowSize = .ok predictor) :
    Plain predictor := by
  unfold LoadPredictor.create at h
  split_ifs at h
  · exact .inl (Except.ok.inj h).symm
  · exact .inr ⟨windowSize, (Except.ok.inj h).symm⟩

end Forecasts

/-! ## Steady planners -/

/-- The answer to each query. -/
abbrev Answers := String → Except PyExc (List PyFloat)

/-- A query has its answer. -/
def Always (answers : Answers) (query : String) (r : Except PyExc (List PyFloat)) : Prop :=
  r = answers query

/-- A connector that only metrics are asked of. -/
def serveAnswers (answers : Answers) : (op : PlannerOp) → Unit → PlannerResp op × Unit
  | .getRoleReadyReplicas _, _ => (.ok 0, ())
  | .setReplicas _ _, _ => (.ok (), ())
  | .customQuery query, _ => (answers query, ())

variable (planner : PlannerState) (answers : Answers) (forecasters : Forecasters)

/-- The readings of every cycle. -/
def readings : Metrics := (planner.readMetrics.run (serveAnswers answers) ()).1

/-- The counts that the first cycle decides on. -/
def steadyCounts : Option (ℤ × ℤ) :=
  if (readings planner answers).isValid then
    planner.nextReplicas (steadyForecast planner.numReqPredictor
        ((readings planner answers).numReq.getD .nan),
      steadyForecast planner.islPredictor ((readings planner answers).isl.getD .nan),
      steadyForecast planner.oslPredictor ((readings planner answers).osl.getD .nan))
  else none

/-- The planner after `n` cycles with these readings. -/
def after (m : Metrics) (n : ℕ) (lastMetrics : Metrics) (hours : PyFloat) : PlannerState :=
  { planner with
    numReqPredictor := feed planner.numReqPredictor (List.replicate n (m.numReq.getD .nan))
    islPredictor := feed planner.islPredictor (List.replicate n (m.isl.getD .nan))
    oslPredictor := feed planner.oslPredictor (List.replicate n (m.osl.getD .nan))
    lastMetrics
    cumulativeGpuHours := hours }

/-- A planner that has had these readings only. -/
def Steady (s : PlannerState) : Prop :=
  ∃ n lastMetrics hours, s = after planner (readings planner answers) n lastMetrics hours

/-- A planner whose predictors do not fit a model to equal values, and that does not correct. -/
structure Settling : Prop where
  numReq : Plain planner.numReqPredictor
  isl : Plain planner.islPredictor
  osl : Plain planner.oslPredictor
  noCorrection : planner.config.noCorrection = true

variable {planner answers forecasters}

@[simp] theorem after_config {m lastMetrics : Metrics} {n : ℕ} {hours : PyFloat} :
    (after planner m n lastMetrics hours).config = planner.config := rfl

@[simp] theorem after_lastMetrics {m lastMetrics : Metrics} {n : ℕ} {hours : PyFloat} :
    (after planner m n lastMetrics hours).lastMetrics = lastMetrics := rfl

theorem recordMetrics_after {m lastMetrics : Metrics} {n : ℕ} {hours : PyFloat} :
    (after planner m n lastMetrics hours).recordMetrics m = after planner m (n + 1) m hours := by
  simp only [after, PlannerState.recordMetrics, List.replicate_succ', feed_concat]

/-- Reading the metrics again reads the same. -/
theorem asks_readings {m lastMetrics : Metrics} {n : ℕ} {hours : PyFloat} :
    ((after planner m n lastMetrics hours).readMetrics).Asks
      (fun op => ∃ query, op = .customQuery query) (Hears (Always answers))
      fun m' => m' = readings planner answers := by
  refine (PlannerState.asks_readMetrics fun query => ⟨query, rfl⟩).determined
    (serveAnswers answers) ?_
  rintro _ r ⟨query, rfl⟩ hr
  exact hr


/-- The forecast of a planner that has had the readings. -/
theorem predictLoad_after (h : Settling planner) {m lastMetrics : Metrics} {n : ℕ}
    {hours : PyFloat} :
    (after planner m (n + 1) lastMetrics hours).predictLoad forecasters =
      (steadyForecast planner.numReqPredictor (m.numReq.getD .nan),
        steadyForecast planner.islPredictor (m.isl.getD .nan),
        steadyForecast planner.oslPredictor (m.osl.getD .nan)) := by
  unfold PlannerState.predictLoad
  exact Prod.ext (predictNext_steady h.numReq n)
    (Prod.ext (predictNext_steady h.isl n) (predictNext_steady h.osl n))

theorem steady_after {n : ℕ} {lastMetrics : Metrics} {hours : PyFloat} :
    Steady planner answers (after planner (readings planner answers) n lastMetrics hours) :=
  ⟨n, lastMetrics, hours, rfl⟩

variable (planner answers) in
/-- A step of a steady planner that decides on the steady counts. -/
abbrev PlansSteady (Q : Step → Prop) (p : PlannerProg Step) : Prop :=
  p.Asks (Planned planner.config fun counts => steadyCounts planner answers = some counts)
    (Hears (Always answers)) Q

/-- An observation that does not raise leaves the readings of every cycle. -/
theorem asks_steady_observe {n : ℕ} {lastMetrics : Metrics} {hours : PyFloat} :
    PlansSteady planner answers
      (fun step => Steady planner answers step.2 ∧ (step.1 = .ok () → ∃ hours,
        step.2 = after planner (readings planner answers) (n + 1) (readings planner answers) hours))
      (after planner (readings planner answers) n lastMetrics hours).observeMetrics := by
  refine Asks.bind (PlannerState.asks_getNumWorkers (.inl rfl)) fun prefill _ => ?_
  cases prefill with
  | error e => exact ⟨steady_after, nofun⟩
  | ok numP =>
      refine Asks.bind (PlannerState.asks_getNumWorkers (.inr rfl)) fun decode _ => ?_
      cases decode with
      | error e => exact ⟨steady_after, nofun⟩
      | ok numD =>
          refine Asks.bind (asks_readings.mono ?_ fun _ h => h) ?_
          · rintro _ ⟨query, rfl⟩
            trivial
          · rintro _ rfl
            rw [recordMetrics_after]
            unfold PlannerState.exportObservation
            split_ifs
            · split
              · exact ⟨steady_after, nofun⟩
              · exact ⟨steady_after, fun _ => ⟨_, rfl⟩⟩
            · exact ⟨steady_after, fun _ => ⟨hours, rfl⟩⟩

/-- Adjustments after the readings are for the steady counts. -/
theorem asks_steady_adjustments (hsettling : Settling planner) {n : ℕ} {hours : PyFloat} :
    PlansSteady planner answers (fun step => Steady planner answers step.2)
      ((after planner (readings planner answers) (n + 1) (readings planner answers)
        hours).makeAdjustments forecasters) := by
  unfold PlannerState.makeAdjustments
  rw [after_lastMetrics, after_config, if_pos hsettling.noCorrection]
  cases hvalid : (readings planner answers).isValid with
  | false => exact steady_after
  | true =>
      have hcounts : steadyCounts planner answers = (after planner (readings planner answers)
          (n + 1) (readings planner answers) hours).nextReplicas (steadyForecast _ _, _, _) :=
        if_pos hvalid
      unfold PlannerState.adjustReplicas
      dsimp only
      rw [if_neg (by decide), predictLoad_after hsettling, ← hcounts]
      split
      · exact steady_after
      · cases htarget : steadyCounts planner answers with
        | none => exact steady_after
        | some target =>
            dsimp only
            rw [after_config]
            split_ifs with hdry
            · exact steady_after
            · exact ⟨⟨by simpa using hdry, rfl, target, htarget, rfl⟩, fun _ _ => steady_after⟩

/-- A cycle of a steady planner decides on the steady counts, and leaves it steady. -/
theorem asks_steady_cycle (hsettling : Settling planner) {s : PlannerState}
    (hs : Steady planner answers s) :
    PlansSteady planner answers (fun step => Steady planner answers step.2)
      (s.cycle forecasters) := by
  obtain ⟨n, lastMetrics, hours, rfl⟩ := hs
  refine Asks.bind asks_steady_observe ?_
  rintro ⟨outcome, s⟩ ⟨hsteady, hobserved⟩
  cases outcome with
  | error e => exact hsteady
  | ok _ =>
      obtain ⟨hours, rfl⟩ := hobserved rfl
      exact asks_steady_adjustments hsettling

/-- A settling planner keeps to its steady counts. -/
theorem keeps_steady (hsettling : Settling planner) :
    Keeps (Always answers) forecasters planner.config (Steady planner answers)
      fun counts => steadyCounts planner answers = some counts where
  same := by
    rintro _ ⟨n, lastMetrics, hours, rfl⟩
    rfl
  cycle := fun _ hs => asks_steady_cycle hsettling hs

/-- A planner as it starts, with a predictor other than Prophet and without correction. -/
theorem settling_of_init {scipy : SciPy} {config : PlannerConfig} {prefillData : PrefillRawData}
    {decodeData : DecodeRawData} {serverStarts : Bool}
    (hpredictor : config.loadPredictor ≠ "prophet") (hcorrection : config.noCorrection = true)
    (h : PlannerState.init scipy config prefillData decodeData serverStarts = .ok planner) :
    Settling planner := by
  obtain ⟨client, -, h⟩ := bind_eq_ok.mp h
  obtain ⟨predictor, hcreate, h⟩ := bind_eq_ok.mp h
  obtain ⟨prefill, -, h⟩ := bind_eq_ok.mp h
  obtain ⟨decode, -, h⟩ := bind_eq_ok.mp h
  cases h
  have hplain := plain_of_create hpredictor hcreate
  exact ⟨hplain, hplain, hplain, hcorrection⟩

/-! ## Runs -/

/-- A count that is as at the start or what the load needs. -/
def Settles (start : ℤ) (needed : Option ℤ) (n : ℤ) : Prop := n = start ∨ needed = some n

/-- Under a steady load every scaling request of a run is for the steady counts,
and the governed count of each role is as at the start or the steady one. -/
theorem run_settles {connector : RBGConnector} {names : List String} {s s' : ScalingState}
    {turns : ℕ} {tr : List LoopEvent} {out} (hsettling : Settling planner)
    (hroles : planner.config.prefillRoleName ≠ planner.config.decodeRoleName)
    (hnamed : Named names s)
    (h : (ExceptT.run (planner.run connector forecasters turns)).Exec
      (LoopAnswers (Always answers)) (KeepsCounts connector names) s tr out s') :
    (∀ before e later, tr = before ++ loopEvent (serviceEvent e) :: later → Writes e.1 →
      Earned connector planner.config (fun counts => steadyCounts planner answers = some counts)
        before e) ∧
    KeepsRoles connector planner.config names s
      (Settles (connector.governed s planner.config.prefillRoleName)
        ((steadyCounts planner answers).map Prod.fst))
      (Settles (connector.governed s planner.config.decodeRoleName)
        ((steadyCounts planner answers).map Prod.snd)) s' := by
  have hsteady : Steady planner answers planner := ⟨0, planner.lastMetrics, _, rfl⟩
  have hkeeps : Keeps (Always answers) forecasters planner.config (Steady planner answers) _ :=
    keeps_steady hsettling
  constructor
  · intro before e later htr hwrites
    exact (tells_run hkeeps hsteady).exec (fun _ _ _ _ ha => loopHears_answers ha) h htr e rfl
      hwrites
  · refine run_keepsRoles hkeeps hsteady (fun counts hcounts => ?_) hroles
      ⟨hnamed, .inl rfl, .inl rfl, fun _ _ _ => rfl⟩ h
    rw [hcounts]
    exact ⟨.inr rfl, .inr rfl⟩

private def steadyPlanner : PlannerState :=
  .flat { PlannerConfig.default with noCorrection := true } (.arima 50 []) 100 1000 40 500

private def steadyRun : LoopProg (Except PlannerExc RunningPlanner) :=
  ExceptT.run (steadyPlanner.run (.ofConfig steadyPlanner.config "serving") .failing 22)

private def steadyAnswers : Answers := fun _ => .ok [.fin 2000]

/-- Two cycles under one load: the second one finds what the first has scaled. -/
theorem run_settles_two_cycles :
    steadyCounts steadyPlanner steadyAnswers = some (3, 5) ∧
      KeepsRoles (.ofConfig steadyPlanner.config "serving") steadyPlanner.config
        ["prefill", "decode"] Host.small.cluster (Settles 1 (some 3)) (Settles 1 (some 5))
        (steadyRun.run (Host.serve (.fin 2000)) Host.small).2.cluster ∧
      (steadyRun.run (Host.serve (.fin 2000)) Host.small).2.cluster.count "prefill" = some 3 := by
  have hcounts : steadyCounts steadyPlanner steadyAnswers = some (3, 5) := by decide +kernel
  have hsettling : Settling steadyPlanner := ⟨.inr ⟨50, rfl⟩, .inr ⟨50, rfl⟩, .inr ⟨50, rfl⟩, rfl⟩
  have hnamed : Named ["prefill", "decode"] Host.small.cluster := by
    rintro rbg hrbg
    obtain rfl := Option.some.inj hrbg
    rfl
  have hserve : ∀ op host, LoopAnswers (Always steadyAnswers) op host.cluster
      (Host.serve (.fin 2000) op host).1 (Host.serve (.fin 2000) op host).2.cluster :=
    loopAnswers_serve fun _ => rfl
  have hkept := (run_settles hsettling (by decide) hnamed
    (exec_of_run_seen hserve steadyRun Host.small)).2
  rw [hcounts] at hkept
  exact ⟨hcounts, hkept, by decide +kernel⟩

end RbgPlanner.Properties.SteadyLoad
