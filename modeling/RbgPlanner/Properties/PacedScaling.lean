import Mathlib.Tactic.Linarith
import RbgPlanner.Planner.LoopCalls

/-!
# The pace of the planner

A cycle starts when an adjustment interval has gone by since the last one
started, and writes each of the two roles at most once. So whatever the API
server and Prometheus answer, and wherever the process ends, the accepted
writes are at most two and the queries at most six for each interval on the
clock.
-/

namespace RbgPlanner.Properties

open Base Base.Prog Planner

/-! ## The clock of a trace -/

/-- The readings of the clock, in order. -/
def readings (tr : List LoopEvent) : List ℚ :=
  tr.filterMap fun
    | ⟨.time, t⟩ => some t
    | _ => none

/-- A scaling request that the API server accepts. -/
def acceptedWrite : LoopEvent → Bool
  | ⟨.api (.rbg (.patchScale _ _)), .ok _⟩ => true
  | ⟨.api (.rbg (.patchRole _ _)), .ok _⟩ => true
  | _ => false

def metricsQuery : LoopEvent → Bool
  | ⟨.api (.query _), _⟩ => true
  | _ => false

/-- What an event of the running planner spends. -/
def spentLoop (perWrite perQuery : ℕ) : LoopEvent → ℕ
  | ⟨.api op, r⟩ => spent perWrite perQuery ⟨op, r⟩
  | _ => 0

variable {perWrite perQuery : ℕ} {connector : RBGConnector} {forecasters : Forecasters}
  {self : RunningPlanner} {σ : Type} {answer : (op : LoopOp) → σ → LoopResp op → σ → Prop}
  {env : σ → σ → Prop} {s s' : σ} {tr tr₁ tr₂ : List LoopEvent} {T : ℚ}

@[simp] theorem readings_append : readings (tr₁ ++ tr₂) = readings tr₁ ++ readings tr₂ :=
  List.filterMap_append

@[simp] theorem readings_time {t : LoopResp .time} :
    readings (⟨.time, t⟩ :: tr) = t :: readings tr := rfl

@[simp] theorem readings_sleep {seconds : ℚ} {r : LoopResp (.sleep seconds)} :
    readings (⟨.sleep seconds, r⟩ :: tr) = readings tr := rfl

@[simp] theorem readings_nil : readings [] = [] := rfl

/-- Counting events is spending a credit on each of them. -/
theorem countP_eq_sum {p : LoopEvent → Bool} {cost : LoopEvent → ℕ}
    (h : ∀ e, cost e = if p e then 1 else 0) : tr.countP p = (tr.map cost).sum := by
  induction tr with
  | nil => rfl
  | cons e tr ih => rw [List.countP_cons, List.map_cons, List.sum_cons, ih, h, Nat.add_comm]

theorem spentLoop_eq (e : LoopEvent) :
    spentLoop 1 0 e = (if acceptedWrite e then 1 else 0) ∧
      spentLoop 0 1 e = if metricsQuery e then 1 else 0 := by
  obtain ⟨op, r⟩ := e
  cases op with
  | time => exact ⟨rfl, rfl⟩
  | sleep _ => exact ⟨rfl, rfl⟩
  | api op =>
      cases op with
      | query _ => exact ⟨rfl, rfl⟩
      | rbg op =>
          cases op with
          | getRbg => exact ⟨rfl, rfl⟩
          | sleep _ => exact ⟨rfl, rfl⟩
          | patchScale _ _ => cases r <;> exact ⟨rfl, rfl⟩
          | patchRole _ _ => cases r <;> exact ⟨rfl, rfl⟩

/-! ## Programs that do not look at the clock -/

/-- Requests other than `time.time`. -/
def NoClock (op : LoopOp) : Prop := op ≠ .time

theorem readings_eq_nil {α : Type} {p : LoopProg α} {Q : α → Prop} {out}
    (hp : p.Asks NoClock (fun _ _ => True) Q) (h : p.Exec answer env s tr out s') :
    readings tr = [] := by
  have hall := Asks.exec_trace hp (fun _ _ _ _ _ => trivial) h
  rw [readings, List.filterMap_eq_nil_iff]
  rintro ⟨op, r⟩ he
  cases op with
  | time => exact absurd rfl (hall _ he)
  | api _ => rfl
  | sleep _ => rfl

theorem asks_serviceCalls {α : Type} {Q : α → Prop} {p : Prog ApiOp ApiResp α}
    (hp : p.Asks (fun _ => True) (fun _ _ => True) Q) :
    (serviceCalls p).Asks NoClock (fun _ _ => True) Q :=
  hp.interp fun _ _ => ⟨nofun, fun _ _ => trivial⟩

theorem costs_serviceCalls {α : Type} {n : ℕ} {p : Prog ApiOp ApiResp α}
    (hp : p.Costs (spent perWrite perQuery) n) :
    (serviceCalls p).Costs (spentLoop perWrite perQuery) n :=
  hp.interp fun _ _ hk r => ⟨hk r, le_rfl⟩

/-! ## One turn -/

/-- The credits of one cycle. -/
abbrev cycleCredits (perWrite perQuery : ℕ) : ℕ := 6 * perQuery + 2 * perWrite

theorem costs_adjust {planner : PlannerState} :
    (ExceptT.run (RunningPlanner.adjust connector forecasters planner)).Costs
      (spentLoop perWrite perQuery) (cycleCredits perWrite perQuery) := by
  refine Costs.except_bind (n := 0) (costs_serviceCalls PlannerState.costs_cycle_interp).lift ?_
  rintro ⟨_ | _, planner'⟩ <;> trivial

/-- An adjustment does not look at the clock and keeps the configuration. -/
theorem asks_adjust {planner : PlannerState} :
    AsksOk NoClock (fun _ _ => True) (fun planner' => planner'.config = planner.config)
      (RunningPlanner.adjust connector forecasters planner) := by
  have hcycle : (((planner.cycle forecasters).interp connector.answer)).Asks (fun _ => True)
      (fun _ _ => True) fun step => step.2.config = planner.config :=
    PlannerState.asks_cycle.interp fun op _ =>
      (asks_true _).mono (fun _ h => h) fun _ _ => hears_true
  refine AsksOk.bind (AsksOk.liftProg (asks_serviceCalls hcycle)) ?_
  rintro ⟨_ | _, planner'⟩ hconfig
  · exact AsksOk.throw
  · exact AsksOk.pure hconfig

theorem costs_turn :
    (ExceptT.run (self.turn connector forecasters)).Costs
      (spentLoop perWrite perQuery) (cycleCredits perWrite perQuery) := by
  refine Affords.lift_bind (fun _ => Nat.zero_le _) fun t => ?_
  split_ifs
  · refine Affords.lift_bind (fun _ => Nat.zero_le _) fun t' => ?_
    refine Costs.except_bind (n := 0) costs_adjust fun planner => ?_
    exact fun _ => ⟨le_rfl, trivial⟩
  · exact fun _ => ⟨Nat.zero_le _, trivial⟩

theorem costs_time : (ExceptT.run LoopCall.time).Costs (spentLoop perWrite perQuery) 0 :=
  fun _ => ⟨le_rfl, trivial⟩

/-- What a turn that ends has done: nothing yet, or a cycle when it was due. -/
theorem turn_done (perWrite perQuery : ℕ) {self' : RunningPlanner}
    (h : (ExceptT.run (self.turn connector forecasters)).Exec answer env s tr (.done (.ok self'))
      s') :
    (∃ t, readings tr = [t] ∧ (tr.map (spentLoop perWrite perQuery)).sum = 0 ∧ self' = self) ∨
    ∃ t, readings tr = [t, self'.lastAdjustmentTime] ∧
      self.interval ≤ t - self.lastAdjustmentTime ∧ self'.interval = self.interval := by
  obtain ⟨t, s₁, tr₁, tr₂, htime, hrest, rfl⟩ := Exec.bind_ok h
  obtain ⟨-, -, -, -, -, rfl⟩ := Exec.lift_done htime
  split_ifs at hrest with hdue
  · obtain ⟨t', s₂, tr₃, tr₄, htime', hcycle, rfl⟩ := Exec.bind_ok hrest
    obtain ⟨-, -, -, -, -, rfl⟩ := Exec.lift_done htime'
    obtain ⟨planner, s₃, tr₅, tr₆, hadjust, hend, rfl⟩ := Exec.bind_ok hcycle
    obtain ⟨_, s₄, tr₇, tr₈, hsleep, hreturn, rfl⟩ := Exec.bind_ok hend
    obtain ⟨-, -, -, -, -, rfl⟩ := Exec.lift_done hsleep
    obtain ⟨rfl, -, rfl⟩ := Exec.pure_done hreturn
    have hquiet := readings_eq_nil asks_adjust hadjust
    have hconfig := Asks.exec_done asks_adjust (fun _ _ _ _ _ => trivial) hadjust planner rfl
    refine .inr ⟨t, by simp [hquiet], hdue, ?_⟩
    simp only [RunningPlanner.interval, hconfig]
  · obtain ⟨_, s₂, tr₃, tr₄, hsleep, hreturn, rfl⟩ := Exec.bind_ok hrest
    obtain ⟨-, -, -, -, -, rfl⟩ := Exec.lift_done hsleep
    obtain ⟨rfl, -, rfl⟩ := Exec.pure_done hreturn
    exact .inl ⟨t, rfl, rfl, rfl⟩

/-- A turn, however it ends, spends nothing before a cycle is due. -/
theorem turn_spent {out} (h : (ExceptT.run (self.turn connector forecasters)).Exec answer env s tr
      out s') :
    (tr.map (spentLoop perWrite perQuery)).sum = 0 ∨
      ∃ t ∈ readings tr, self.interval ≤ t - self.lastAdjustmentTime := by
  rcases Exec.bind_cases h with ⟨t, s₁, tr₁, tr₂, htime, hrest, rfl⟩ | ⟨out', htime⟩
  · obtain ⟨-, -, -, -, -, rfl⟩ := Exec.lift_done htime
    split_ifs at hrest with hdue
    · exact .inr ⟨t, by simp, hdue⟩
    · have hsleep : (ExceptT.run (do
          LoopCall.sleep (self.interval / 10)
          return self : LoopCall RunningPlanner)).Costs (spentLoop perWrite perQuery) 0 :=
        fun _ => ⟨le_rfl, trivial⟩
      have hzero := Nat.le_zero.mp (Affords.exec hsleep hrest)
      exact .inl (by simpa [spentLoop] using hzero)
  · exact .inl (Nat.le_zero.mp (Affords.exec costs_time htime))

/-! ## The loop -/

/-- Credits of a cycle that is due, against the time since the last one. -/
theorem spent_le {spending credits : ℕ} {interval elapsed : ℚ} (hspending : spending ≤ credits)
    (hdue : spending = 0 ∨ interval ≤ elapsed) (helapsed : 0 ≤ elapsed) :
    spending * interval ≤ credits * elapsed := by
  have hcast : (spending : ℚ) ≤ credits := by exact_mod_cast hspending
  rcases hdue with rfl | hdue
  · rw [Nat.cast_zero, zero_mul]
    positivity
  · calc spending * interval ≤ spending * elapsed := by gcongr
      _ ≤ credits * elapsed := by gcongr

/-- The loop spends the credits of one cycle for each interval since its last cycle. -/
theorem loop_spent (perWrite perQuery : ℕ) {turns : ℕ} {out}
    (h : (ExceptT.run (RunningPlanner.loop connector forecasters turns self)).Exec answer env s tr
      out s')
    (hclock : (self.lastAdjustmentTime :: readings tr).Pairwise (· ≤ ·))
    (hT : ∀ t ∈ self.lastAdjustmentTime :: readings tr, t ≤ T) :
    (tr.map (spentLoop perWrite perQuery)).sum * self.interval ≤
      cycleCredits perWrite perQuery * (T - self.lastAdjustmentTime) := by
  have helapsed : 0 ≤ T - self.lastAdjustmentTime :=
    sub_nonneg.mpr (hT _ List.mem_cons_self)
  induction turns generalizing self s tr with
  | zero =>
      have hfree : (ExceptT.run (RunningPlanner.loop connector forecasters 0 self)).Costs
          (spentLoop perWrite perQuery) 0 := trivial
      exact spent_le ((Affords.exec hfree h).trans (Nat.zero_le _))
        (.inl (Nat.le_zero.mp (Affords.exec hfree h))) helapsed
  | succ turns ih =>
      rcases Exec.bind_cases h with ⟨self', s₁, tr₁, tr₂, hturn, hloop, rfl⟩ | ⟨out', hturn⟩
      · rw [readings_append] at hclock hT
        rw [List.map_append, List.sum_append]
        rcases turn_done perWrite perQuery hturn with
          ⟨t, hread, hzero, rfl⟩ | ⟨t, hread, hdue, hinterval⟩
        · rw [hread] at hclock hT
          rw [hzero, Nat.zero_add]
          have hlater := (List.sublist_cons_self t (readings tr₂)).cons_cons
            self'.lastAdjustmentTime
          exact ih hloop (hclock.sublist hlater) (fun u hu => hT u (hlater.subset hu)) helapsed
        · rw [hread] at hclock hT
          have hlater : (self'.lastAdjustmentTime :: readings tr₂).Sublist
              (self.lastAdjustmentTime :: ([t, self'.lastAdjustmentTime] ++ readings tr₂)) :=
            (List.sublist_cons_self t _).cons _
          have hnext : t ≤ self'.lastAdjustmentTime :=
            List.rel_of_pairwise_cons hclock.of_cons List.mem_cons_self
          have hcycle : ((tr₁.map (spentLoop perWrite perQuery)).sum : ℕ) * self.interval ≤
              (cycleCredits perWrite perQuery : ℕ) *
                (self'.lastAdjustmentTime - self.lastAdjustmentTime) :=
            spent_le (Affords.exec costs_turn hturn)
              (.inr (hdue.trans (sub_le_sub_right hnext _)))
              (sub_nonneg.mpr (List.rel_of_pairwise_cons hclock (by simp)))
          have hrest := ih hloop (hclock.sublist hlater) (fun u hu => hT u (hlater.subset hu))
            (sub_nonneg.mpr (hT _ (by simp)))
          rw [hinterval] at hrest
          push_cast at hcycle hrest ⊢
          linarith
      · refine spent_le (Affords.exec costs_turn hturn) ?_ helapsed
        refine (turn_spent hturn).imp_right ?_
        rintro ⟨t, ht, hdue⟩
        exact hdue.trans (sub_le_sub_right (hT t (List.mem_cons_of_mem _ ht)) _)

/-! ## The process -/

theorem costs_prepare {planner : PlannerState} :
    (ExceptT.run (planner.prepare connector)).Costs (spentLoop perWrite perQuery) 0 := by
  unfold PlannerState.prepare
  split_ifs
  · trivial
  · exact Costs.except_bind (m := 0) (n := 0)
      (costs_serviceCalls (RBGConnector.costs_connectorCalls
        RBGConnector.costs_validateDeployment)) fun _ =>
      costs_serviceCalls (RBGConnector.costs_connectorCalls (RBGConnector.costs_waitForReady 180))

theorem asks_prepare {planner : PlannerState} :
    AsksOk NoClock (fun _ _ => True) (fun _ => True) (planner.prepare connector) := by
  have hcalls : ∀ x : RbgCall Unit, AsksOk NoClock (fun _ _ => True) (fun _ => True)
      (ExceptT.mk (serviceCalls (connectorCalls (ExceptT.run x))) : LoopCall Unit) := fun x =>
    (asks_serviceCalls (asks_true _)).mono (fun _ h => h) fun _ _ _ _ => trivial
  unfold PlannerState.prepare
  split_ifs
  · exact AsksOk.pure trivial
  · exact AsksOk.bind (hcalls _) fun _ _ => hcalls _

/-- The credits that a run has spent, against the time it has run. -/
theorem run_spent {planner : PlannerState} {turns : ℕ} {out} {first last : ℚ}
    (h : (ExceptT.run (planner.run connector forecasters turns)).Exec answer env s tr out s')
    (hclock : (readings tr).Pairwise (· ≤ ·)) (hfirst : (readings tr).head? = some first)
    (hlast : (readings tr).getLast? = some last) :
    (tr.map (spentLoop perWrite perQuery)).sum * (planner.config.adjustmentInterval : ℚ) ≤
      cycleCredits perWrite perQuery * (last - first) := by
  have hbound : ∀ t ∈ readings tr, t ≤ last := by
    obtain ⟨earlier, htr⟩ := List.getLast?_eq_some_iff.mp hlast
    rw [htr] at hclock ⊢
    intro t ht
    rcases List.mem_append.mp ht with ht | ht
    · exact (List.pairwise_append.mp hclock).2.2 t ht last List.mem_cons_self
    · exact (List.mem_singleton.mp ht).le
  rcases Exec.bind_cases h with ⟨_, s₁, tr₁, tr₂, hprepare, hrest, rfl⟩ | ⟨out', hprepare⟩
  · have hquiet := readings_eq_nil asks_prepare hprepare
    have hfree : (tr₁.map (spentLoop perWrite perQuery)).sum = 0 :=
      Nat.le_zero.mp (Affords.exec costs_prepare hprepare)
    rw [readings_append, hquiet, List.nil_append] at hclock hfirst hbound
    rw [List.map_append, List.sum_append, hfree, Nat.zero_add]
    rcases Exec.bind_cases hrest with ⟨t, s₂, tr₃, tr₄, htime, hloop, rfl⟩ | ⟨out', htime⟩
    · obtain ⟨-, -, -, -, -, rfl⟩ := Exec.lift_done htime
      obtain rfl : t = first := by simpa using hfirst
      have hcycles := loop_spent perWrite perQuery hloop hclock hbound
      simpa [spentLoop, RunningPlanner.interval] using hcycles
    · have hzero : (tr₂.map (spentLoop perWrite perQuery)).sum = 0 :=
        Nat.le_zero.mp (Affords.exec costs_time htime)
      exact spent_le (hzero.le.trans (Nat.zero_le _)) (.inl hzero)
        (sub_nonneg.mpr (hbound _ (List.mem_of_head? hfirst)))
  · rw [readings_eq_nil asks_prepare hprepare] at hfirst
    cases hfirst

/-- However a run of the planner ends, on a clock that does not go back, the
accepted writes are at most two and the queries at most six for each adjustment
interval from its first to its last reading. -/
theorem paced {planner : PlannerState} {turns : ℕ} {out} {first last : ℚ}
    (h : (ExceptT.run (planner.run connector forecasters turns)).Exec answer env s tr out s')
    (hclock : (readings tr).Pairwise (· ≤ ·)) (hfirst : (readings tr).head? = some first)
    (hlast : (readings tr).getLast? = some last) :
    tr.countP acceptedWrite * (planner.config.adjustmentInterval : ℚ) ≤ 2 * (last - first) ∧
      tr.countP metricsQuery * (planner.config.adjustmentInterval : ℚ) ≤ 6 * (last - first) := by
  rw [countP_eq_sum fun e => (spentLoop_eq e).1, countP_eq_sum fun e => (spentLoop_eq e).2]
  exact ⟨run_spent h hclock hfirst hlast, run_spent h hclock hfirst hlast⟩

private def pacedRun : LoopProg (Except PlannerExc RunningPlanner) :=
  ExceptT.run ((PlannerState.flat .default (.constant []) 100 1000 40 500).run
    (.ofConfig .default "serving") .failing 11)

/-- The first cycle writes both roles, at the end of the first interval after a
wait of ten seconds. -/
theorem paced_first_cycle :
    (((pacedRun.trace (Host.serve (.fin 2000)) Host.small).countP acceptedWrite : ℚ) * (180 : ℤ) ≤
        2 * (190 - 10) ∧
      ((pacedRun.trace (Host.serve (.fin 2000)) Host.small).countP metricsQuery : ℚ) * (180 : ℤ) ≤
        6 * (190 - 10)) ∧
    (pacedRun.trace (Host.serve (.fin 2000)) Host.small).countP acceptedWrite = 2 ∧
      (pacedRun.trace (Host.serve (.fin 2000)) Host.small).countP metricsQuery = 6 := by
  have hreadings : readings (pacedRun.trace (Host.serve (.fin 2000)) Host.small) =
      [10, 10, 28, 46, 64, 82, 100, 118, 136, 154, 172, 190, 190] := by decide +kernel
  have hrun : pacedRun.Exec (fun op t r t' => Host.serve (.fin 2000) op t = (r, t'))
      (fun _ _ => False) Host.small (pacedRun.trace (Host.serve (.fin 2000)) Host.small) _ _ :=
    exec_of_run (fun _ _ => rfl) pacedRun Host.small
  refine ⟨paced hrun ?_ ?_ ?_, by decide +kernel, by decide +kernel⟩
  · rw [hreadings]
    decide
  · rw [hreadings]
    rfl
  · rw [hreadings]
    rfl

end RbgPlanner.Properties
