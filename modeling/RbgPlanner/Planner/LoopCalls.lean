import RbgPlanner.Base.Layers
import RbgPlanner.Planner.Loop

/-!
# The calls of the running planner

What a cycle asks of its connector and of Prometheus, what it spends, and what
it leaves alone of the planner: the configuration.
-/

namespace RbgPlanner.Planner

open Base Prog

/-! ## What a cycle asks -/

/-- The counts that a planner with a configuration can decide on. -/
def Decided (config : PlannerConfig) (target : ℤ × ℤ) : Prop :=
  ∃ (s : PlannerState) (forecast : PyFloat × PyFloat × PyFloat),
    s.config = config ∧ s.nextReplicas forecast = some target

/-- The requests of a cycle that decides on `D`. A dry run only queries metrics. -/
def Planned (config : PlannerConfig) (D : ℤ × ℤ → Prop) : PlannerOp → Prop
  | .getRoleReadyReplicas roleName => config.noOperation = false ∧
      (roleName = config.prefillRoleName ∨ roleName = config.decodeRoleName)
  | .setReplicas targets blocking => config.noOperation = false ∧ blocking = false ∧
      ∃ target, D target ∧ targets = config.targets target
  | .customQuery _ => True

/-- Answers in which each query of metrics has heard one of these. -/
def Hears (heard : String → Except PyExc (List PyFloat) → Prop) :
    (op : PlannerOp) → PlannerResp op → Prop
  | .customQuery query, r => heard query r
  | _, _ => True

theorem hears_true {op : PlannerOp} {r : PlannerResp op} : Hears (fun _ _ => True) op r := by
  cases op <;> trivial

namespace PlannerState

open PrometheusAdapter

variable {s : PlannerState} {forecasters : Forecasters} {config : PlannerConfig}
  {heard : String → Except PyExc (List PyFloat) → Prop} {D : ℤ × ℤ → Prop}

/-- A step of a planner with this configuration. -/
abbrev Plans (config : PlannerConfig) (p : PlannerProg Step) : Prop :=
  p.Asks (Planned config (Decided config)) (Hears fun _ _ => True) fun step =>
    step.2.config = config

theorem asks_getNumWorkers {roleName : String}
    (h : roleName = s.config.prefillRoleName ∨ roleName = s.config.decodeRoleName) :
    (s.getNumWorkers roleName).Asks (Planned s.config D) (Hears heard) fun _ => True := by
  unfold getNumWorkers
  split_ifs with hdry
  · trivial
  · exact ⟨⟨by simpa using hdry, h⟩, fun _ _ => trivial⟩

section Queries

variable {P : PlannerOp → Prop} {V : (op : PlannerOp) → PlannerResp op → Prop}
  (hquery : ∀ query, P (.customQuery query))
include hquery

theorem asks_execAvg {query : String} : (execAvg query).Asks P V fun _ => True :=
  ⟨hquery query, fun _ _ => trivial⟩

/-- The readings of a cycle are queries. -/
theorem asks_readMetrics : s.readMetrics.Asks P V fun _ => True := by
  have htokens : ∀ (adapter : PrometheusAdapter) interval model,
      (adapter.getAvgIsl interval model).Asks P V (fun _ => True) ∧
        (adapter.getAvgOsl interval model).Asks P V fun _ => True := by
    intro adapter interval model
    unfold getAvgIsl getAvgOsl
    split_ifs <;> exact ⟨asks_execAvg hquery, asks_execAvg hquery⟩
  refine Asks.bind (asks_execAvg hquery) fun ttft _ => ?_
  refine Asks.bind (asks_execAvg hquery) fun itl _ => ?_
  refine Asks.bind (Q := fun _ => True) ⟨hquery _, fun _ _ => trivial⟩ fun numReq _ => ?_
  refine Asks.bind (asks_execAvg hquery) fun duration _ => ?_
  refine Asks.bind (htokens _ _ _).1 fun isl _ => ?_
  exact Asks.bind (htokens _ _ _).2 fun osl _ => trivial

end Queries

theorem config_exportObservation {numP numD : ℤ} {numReq : PyFloat} :
    (s.exportObservation numP numD numReq).2.config = s.config := by
  unfold exportObservation
  split_ifs
  · split <;> rfl
  · rfl

theorem config_applyCorrection {numD : ℤ} : (s.applyCorrection numD).2.config = s.config := by
  unfold applyCorrection
  split_ifs
  · rfl
  · split
    · rfl
    · dsimp only
      split <;> rfl

theorem asks_observeMetrics : Plans s.config s.observeMetrics := by
  refine Asks.bind (asks_getNumWorkers (.inl rfl)) fun prefill _ => ?_
  cases prefill with
  | error e => rfl
  | ok numP =>
      refine Asks.bind (asks_getNumWorkers (.inr rfl)) fun decode _ => ?_
      cases decode with
      | error e => rfl
      | ok numD =>
          exact Asks.bind (asks_readMetrics fun _ => trivial) fun m _ => config_exportObservation

theorem asks_updateCorrectionFactors : Plans s.config s.updateCorrectionFactors := by
  refine Asks.bind (asks_getNumWorkers (.inr rfl)) fun workers _ => ?_
  cases workers with
  | error e => rfl
  | ok numD => exact config_applyCorrection

theorem asks_adjustReplicas : Plans s.config (s.adjustReplicas forecasters) := by
  unfold adjustReplicas
  dsimp only
  split
  · rfl
  · cases htarget : s.nextReplicas (s.predictLoad forecasters) with
    | none => rfl
    | some target =>
        dsimp only
        split_ifs with hdry
        · rfl
        · exact ⟨⟨by simpa using hdry, rfl, target, ⟨s, _, rfl, htarget⟩, rfl⟩, fun _ _ => rfl⟩

theorem asks_makeAdjustments : Plans s.config (s.makeAdjustments forecasters) := by
  unfold makeAdjustments
  split_ifs
  · rfl
  · exact asks_adjustReplicas
  · refine Asks.bind asks_updateCorrectionFactors ?_
    rintro ⟨outcome, s'⟩ hconfig
    cases outcome with
    | error e => exact hconfig
    | ok _ => exact hconfig ▸ asks_adjustReplicas

/-- A cycle asks for what its configuration allows and keeps the configuration. -/
theorem asks_cycle : Plans s.config (s.cycle forecasters) := by
  refine Asks.bind asks_observeMetrics ?_
  rintro ⟨outcome, s'⟩ hconfig
  cases outcome with
  | error e => exact hconfig
  | ok _ => exact hconfig ▸ asks_makeAdjustments

end PlannerState

/-- A planner in `I` stays there, as long as its queries hear such answers, and decides on `D`. -/
structure Keeps (heard : String → Except PyExc (List PyFloat) → Prop) (forecasters : Forecasters)
    (config : PlannerConfig) (I : PlannerState → Prop) (D : ℤ × ℤ → Prop) : Prop where
  same : ∀ s, I s → s.config = config
  cycle : ∀ s, I s →
    (s.cycle forecasters).Asks (Planned config D) (Hears heard) fun step => I step.2

/-- Whatever a planner hears, it keeps its configuration. -/
theorem keeps_config (forecasters : Forecasters) (config : PlannerConfig) :
    Keeps (fun _ _ => True) forecasters config (fun s => s.config = config) (Decided config) where
  same := fun _ h => h
  cycle := by
    rintro s rfl
    exact PlannerState.asks_cycle

/-! ## What a cycle spends -/

/-- Accepted writes and queries of metrics, with a price each. -/
def spent (perWrite perQuery : ℕ) : Event ApiOp ApiResp → ℕ
  | ⟨.rbg (.patchScale _ _), .ok _⟩ => perWrite
  | ⟨.rbg (.patchRole _ _), .ok _⟩ => perWrite
  | ⟨.query _, _⟩ => perQuery
  | _ => 0

/-- The same in a call of the connector. -/
def spentRbg (perWrite : ℕ) (e : RbgEvent) : ℕ := spent perWrite 0 ⟨.rbg e.1, e.2⟩

/-- What the requests of a cycle may spend: a write for each target. -/
def PlannerOp.price (perWrite perQuery : ℕ) : PlannerOp → ℕ
  | .getRoleReadyReplicas _ => 0
  | .setReplicas targets _ => perWrite * targets.length
  | .customQuery _ => perQuery

section Costs

variable {perWrite perQuery n : ℕ}

namespace RBGConnector

variable {connector : RBGConnector} {rbg : Rbg} {roleName : String} {replicas : ℤ}

/-- What a method of the connector spends at most. -/
abbrev Spends (perWrite n : ℕ) {α : Type} (x : RbgCall α) : Prop :=
  (ExceptT.run x).Costs (spentRbg perWrite) n

/-- Reads are free. -/
theorem affords_getRbg :
    (ExceptT.run connector.getRbg).Affords (spentRbg perWrite) (fun _ left => left = n) n := by
  refine Affords.lift_bind (fun r => Nat.zero_le n) fun r => ?_
  split <;> rfl

/-- Only an adapter that takes the replicas has been written. -/
theorem affords_tryScaleViaRbgsa :
    (ExceptT.run (connector.tryScaleViaRbgsa roleName replicas)).Affords (spentRbg perWrite)
      (fun r left => r = .ok false → left = perWrite) perWrite := by
  refine Affords.lift_bind (fun r => ?_) fun r => ?_
  · cases r with
    | ok _ => exact le_rfl
    | error _ => exact Nat.zero_le _
  · split
    · exact nofun
    · exact fun _ => rfl
    · exact nofun

theorem costs_patchRbgRoleReplicas :
    Spends perWrite perWrite (connector.patchRbgRoleReplicas roleName replicas) := by
  refine Affords.except_bind affords_getRbg ?_ fun _ _ _ => trivial
  rintro rbg left rfl
  split
  · trivial
  · refine Affords.lift_bind (fun r => ?_) fun r => ?_
    · cases r with
      | ok _ => exact le_rfl
      | error _ => exact Nat.zero_le _
    · split <;> trivial

/-- A role is written through its adapter or by a patch, not both. -/
theorem costs_scaleRole : Spends perWrite perWrite (connector.scaleRole roleName replicas) := by
  refine Affords.except_bind affords_tryScaleViaRbgsa ?_ fun _ _ _ => trivial
  rintro viaAdapter left hleft
  split_ifs with hvia
  · trivial
  · rw [hleft (by simpa using hvia)]
    exact costs_patchRbgRoleReplicas

theorem costs_scaleTarget {target : TargetReplica} :
    Spends perWrite perWrite (connector.scaleTarget rbg target) := by
  unfold scaleTarget getRoleFromRbg
  cases rbg.role? target.roleName with
  | none => trivial
  | some role =>
      change Spends perWrite perWrite (if role.replicas.getD 0 ≠ target.desiredReplicas then
        connector.scaleRole target.roleName target.desiredReplicas else pure ())
      split_ifs
      · exact costs_scaleRole
      · trivial

theorem costs_scaleTargets (targets : List TargetReplica) :
    Spends perWrite (perWrite * targets.length) (connector.scaleTargets rbg targets) := by
  induction targets with
  | nil => trivial
  | cons target targets ih =>
      rw [List.length_cons, Nat.mul_succ, Nat.add_comm]
      refine Costs.bind costs_scaleTarget fun r => ?_
      cases r with
      | error e => trivial
      | ok _ => exact ih

/-- Waiting spends nothing. -/
theorem costs_waitForReady {delaySeconds : ℕ} (attempts : ℕ) :
    Spends perWrite 0 (connector.waitForReady delaySeconds attempts) := by
  induction attempts with
  | zero => trivial
  | succ attempts ih =>
      refine Affords.lift_bind (fun r => le_rfl) fun _ => ?_
      refine Affords.except_bind affords_getRbg ?_ fun _ _ _ => trivial
      rintro rbg left rfl
      split_ifs
      · trivial
      · exact ih

theorem affords_getRoleFromRbg :
    (ExceptT.run (connector.getRoleFromRbg rbg roleName)).Affords (spentRbg perWrite)
      (fun _ left => left = n) n := by
  unfold getRoleFromRbg
  split <;> rfl

/-- Validating spends nothing. -/
theorem costs_validateDeployment : Spends perWrite 0 connector.validateDeployment := by
  refine Affords.except_bind affords_getRbg ?_ fun _ _ _ => trivial
  rintro rbg left rfl
  refine Affords.except_bind affords_getRoleFromRbg ?_ fun _ _ _ => trivial
  rintro _ left rfl
  exact Affords.except_bind affords_getRoleFromRbg (fun _ _ _ => trivial) fun _ _ _ => trivial

/-- Each target is written at most once. -/
theorem costs_setReplicas {targets : List TargetReplica} {blocking : Bool} :
    Spends perWrite (perWrite * targets.length) (connector.setReplicas targets blocking) := by
  unfold setReplicas
  by_cases hempty : targets.isEmpty = true
  · rw [if_pos hempty]
    trivial
  · rw [if_neg hempty]
    refine Affords.except_bind affords_getRbg ?_ fun _ _ _ => trivial
    rintro rbg left rfl
    change Spends perWrite _ (if !rbg.isReady then pure () else do
      connector.scaleTargets rbg targets
      if blocking then connector.waitForReady 10 180 else pure ())
    split_ifs
    · trivial
    · refine Costs.bind (m := perWrite * targets.length) (n := 0) (costs_scaleTargets targets) ?_
      rintro (e | _)
      · trivial
      · exact costs_waitForReady 180
    · refine Costs.bind (m := perWrite * targets.length) (n := 0) (costs_scaleTargets targets) ?_
      rintro (e | _) <;> trivial

theorem spent_rbg (e : RbgEvent) :
    spent perWrite perQuery ⟨.rbg e.1, e.2⟩ = spentRbg perWrite e := by
  rcases e with ⟨op, r⟩
  cases op with
  | getRbg => rfl
  | patchScale _ _ => cases r <;> rfl
  | patchRole _ _ => cases r <;> rfl
  | sleep _ => rfl

theorem costs_connectorCalls {α : Type} {p : RbgProg α} (hp : p.Costs (spentRbg perWrite) n) :
    (connectorCalls p).Costs (spent perWrite perQuery) n := by
  refine hp.interp fun op k hk r => ?_
  rw [spent_rbg ⟨op, r⟩]
  exact ⟨hk r, le_rfl⟩

/-- The connector spends at most the price of the request. -/
theorem costs_answer (op : PlannerOp) :
    (connector.answer op).Costs (spent perWrite perQuery) (op.price perWrite perQuery) := by
  cases op with
  | getRoleReadyReplicas roleName =>
      refine costs_connectorCalls (Affords.except_bind affords_getRbg ?_ fun _ _ _ => trivial)
      rintro rbg left rfl
      split <;> trivial
  | setReplicas targets blocking => exact costs_connectorCalls costs_setReplicas
  | customQuery query => exact fun r => ⟨le_rfl, trivial⟩

end RBGConnector

namespace PlannerState

open PrometheusAdapter

variable {s : PlannerState} {forecasters : Forecasters}

/-- What a step of the planner may spend. -/
abbrev Spends (perWrite perQuery n : ℕ) {α : Type} (p : PlannerProg α) : Prop :=
  p.Costs (fun e => e.1.price perWrite perQuery) n

theorem costs_getNumWorkers {roleName : String} :
    Spends perWrite perQuery 0 (s.getNumWorkers roleName) := by
  unfold getNumWorkers
  split_ifs
  · trivial
  · exact fun r => ⟨le_rfl, trivial⟩

theorem costs_execAvg {query : String} : Spends perWrite perQuery perQuery (execAvg query) :=
  fun _ => ⟨le_rfl, trivial⟩

/-- Six metrics. -/
theorem costs_readMetrics : Spends perWrite perQuery (6 * perQuery) s.readMetrics := by
  have htokens : ∀ (adapter : PrometheusAdapter) interval model,
      Spends perWrite perQuery perQuery (adapter.getAvgIsl interval model) ∧
        Spends perWrite perQuery perQuery (adapter.getAvgOsl interval model) := by
    intro adapter interval model
    unfold getAvgIsl getAvgOsl
    split_ifs <;> exact ⟨costs_execAvg, costs_execAvg⟩
  have hsix : 6 * perQuery =
      perQuery + (perQuery + (perQuery + (perQuery + (perQuery + (perQuery + 0))))) := by omega
  rw [hsix]
  refine Costs.bind costs_execAvg fun ttft => ?_
  refine Costs.bind costs_execAvg fun itl => ?_
  refine Costs.bind (fun _ => ⟨le_rfl, trivial⟩) fun numReq => ?_
  refine Costs.bind costs_execAvg fun duration => ?_
  refine Costs.bind (htokens _ _ _).1 fun isl => ?_
  exact Costs.bind (htokens _ _ _).2 fun osl => trivial

theorem costs_adjustReplicas :
    Spends perWrite perQuery (2 * perWrite) (s.adjustReplicas forecasters) := by
  unfold adjustReplicas
  dsimp only
  split
  · trivial
  · split
    · trivial
    · split_ifs
      · trivial
      · exact fun r => ⟨(Nat.mul_comm perWrite 2).le, trivial⟩

/-- A cycle queries six metrics and writes two targets at most. -/
theorem costs_cycle :
    Spends perWrite perQuery (6 * perQuery + 2 * perWrite) (s.cycle forecasters) := by
  have hobserve : Spends perWrite perQuery (0 + (0 + (6 * perQuery + 0))) s.observeMetrics := by
    refine Costs.bind costs_getNumWorkers ?_
    rintro (e | numP)
    · trivial
    · refine Costs.bind costs_getNumWorkers ?_
      rintro (e | numD)
      · trivial
      · exact Costs.bind costs_readMetrics fun m => trivial
  rw [Nat.zero_add, Nat.zero_add, Nat.add_zero] at hobserve
  refine Costs.bind hobserve ?_
  rintro ⟨e | _, s'⟩
  · trivial
  change Spends perWrite perQuery (2 * perWrite) (s'.makeAdjustments forecasters)
  unfold makeAdjustments
  split_ifs
  · trivial
  · exact costs_adjustReplicas
  · have hcorrect : Spends perWrite perQuery 0 s'.updateCorrectionFactors := by
      refine Costs.bind (n := 0) costs_getNumWorkers ?_
      rintro (e | numD) <;> trivial
    rw [← Nat.zero_add (2 * perWrite)]
    refine Costs.bind hcorrect ?_
    rintro ⟨e | _, s''⟩
    · trivial
    · exact costs_adjustReplicas

/-- A cycle over single calls. -/
theorem costs_cycle_interp {connector : RBGConnector} :
    ((s.cycle forecasters).interp connector.answer).Costs (spent perWrite perQuery)
      (6 * perQuery + 2 * perWrite) := by
  refine costs_cycle.interp fun op k hk => ?_
  have hprice : op.price perWrite perQuery ≤ k := by
    cases op with
    | getRoleReadyReplicas _ => exact hk (.error .emptyTargetReplicas)
    | setReplicas _ _ => exact hk (.error .emptyTargetReplicas)
    | customQuery _ => exact hk (.error .typeError)
  have hcost : (connector.answer op).Costs (spent perWrite perQuery)
    (op.price perWrite perQuery) := RBGConnector.costs_answer op
  have hmore := hcost.frame (k - op.price perWrite perQuery)
  rw [Nat.add_sub_cancel' hprice] at hmore
  exact hmore.mono fun _ _ h => h.1

end PlannerState

end Costs

end RbgPlanner.Planner
