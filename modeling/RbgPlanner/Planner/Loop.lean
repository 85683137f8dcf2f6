import Mathlib.Algebra.Order.Ring.Rat
import RbgPlanner.Base.Cost
import RbgPlanner.Planner.CycleCalls

/-!
# The running planner

`run` validates the group, waits until it is ready and then looks at the clock
again and again: a cycle runs when an adjustment interval has gone by since the
last one started. An exception ends the process.
-/

namespace RbgPlanner.Planner

open Base Prog

/-! ## The calls -/

/-- The calls of the running planner: to the services it uses, `time.time`, and
the `asyncio.sleep` of its loop. -/
inductive LoopOp
  | api (op : ApiOp)
  | time
  | sleep (seconds : ℚ)
  deriving DecidableEq, Repr

abbrev LoopResp : LoopOp → Type
  | .api op => ApiResp op
  | .time => ℚ
  | .sleep _ => Unit

instance : (op : LoopOp) → DecidableEq (LoopResp op)
  | .api (.rbg .getRbg) => inferInstanceAs (DecidableEq (Except ℕ Rbg))
  | .api (.rbg (.patchScale _ _)) => inferInstanceAs (DecidableEq (Except ℕ Unit))
  | .api (.rbg (.patchRole _ _)) => inferInstanceAs (DecidableEq (Except ℕ Unit))
  | .api (.rbg (.sleep _)) => inferInstanceAs (DecidableEq Unit)
  | .api (.query _) => inferInstanceAs (DecidableEq (Except PyExc (List PyFloat)))
  | .time => inferInstanceAs (DecidableEq ℚ)
  | .sleep _ => inferInstanceAs (DecidableEq Unit)

abbrev LoopProg := Prog LoopOp LoopResp

abbrev LoopEvent := Event LoopOp LoopResp

/-- A program of the planner that an exception ends. -/
abbrev LoopCall := ExceptT PlannerExc LoopProg

namespace LoopCall

/-- `time.time`. -/
def time : LoopCall ℚ := ExceptT.lift (Prog.request LoopOp.time)

/-- `asyncio.sleep`. -/
def sleep (seconds : ℚ) : LoopCall Unit := ExceptT.lift (Prog.request (LoopOp.sleep seconds))

end LoopCall

/-- A program over the services, among the calls of the planner. -/
def serviceCalls {α : Type} (p : Prog ApiOp ApiResp α) : LoopProg α :=
  p.interp fun op => Prog.request (LoopOp.api op)

/-! ## The loop -/

/-- A planner in its loop, and when its last cycle started. -/
structure RunningPlanner where
  planner : PlannerState
  lastAdjustmentTime : ℚ

namespace RunningPlanner

variable (connector : RBGConnector) (forecasters : Forecasters)

/-- `observe_metrics` and `make_adjustments` over single calls. An exception leaves the loop. -/
def adjust (planner : PlannerState) : LoopCall PlannerState := do
  let (outcome, planner) ← ExceptT.lift
    (serviceCalls ((planner.cycle forecasters).interp connector.answer))
  match outcome with
  | .ok () => return planner
  | .error e => throw e

variable (self : RunningPlanner)

/-- `adjustment_interval`. -/
def interval : ℚ := self.planner.config.adjustmentInterval

/-- One turn of `while True`. -/
def turn : LoopCall RunningPlanner := do
  let currentTime ← LoopCall.time
  if self.interval ≤ currentTime - self.lastAdjustmentTime then
    let lastAdjustmentTime ← LoopCall.time
    let planner ← adjust connector forecasters self.planner
    LoopCall.sleep (self.interval / 10)
    return { planner, lastAdjustmentTime }
  else
    LoopCall.sleep (self.interval / 10)
    return self

/-- The loop for a number of turns. It has no other way to return. -/
def loop : ℕ → RunningPlanner → LoopCall RunningPlanner
  | 0, self => return self
  | turns + 1, self => do loop turns (← self.turn connector forecasters)

end RunningPlanner

namespace PlannerState

variable (connector : RBGConnector) (forecasters : Forecasters) (self : PlannerState)

/-- What `run` does before its loop: nothing in a dry run. -/
def prepare : LoopCall Unit :=
  if self.config.noOperation then return ()
  else do
    ExceptT.mk (serviceCalls (connectorCalls (ExceptT.run connector.validateDeployment)))
    ExceptT.mk (serviceCalls (connectorCalls (ExceptT.run (connector.waitForReady 10 180))))

/-- `Planner.run`, its loop cut off after a number of turns. -/
def run (turns : ℕ) : LoopCall RunningPlanner := do
  self.prepare connector
  let lastAdjustmentTime ← LoopCall.time
  RunningPlanner.loop connector forecasters turns { planner := self, lastAdjustmentTime }

end PlannerState

/-! ## A host -/

/-- A cluster and a clock. -/
structure Host where
  cluster : ScalingState
  clock : ℚ

/-- The seconds that a request of the connector waits. -/
def slept : RbgOp → ℚ
  | .sleep seconds => seconds
  | _ => 0

/-- Serve a planner: the cluster takes what it can, every query reads the same,
and time passes by sleeping, in the connector and in the loop. -/
def Host.serve (reading : PyFloat) : (op : LoopOp) → Host → LoopResp op × Host
  | .api (.rbg op), host =>
      ((host.cluster.serve op).1,
        { cluster := (host.cluster.serve op).2, clock := host.clock + slept op })
  | .api (.query _), host => (.ok [reading], host)
  | .time, host => (host.clock, host)
  | .sleep seconds, host => ((), { host with clock := host.clock + seconds })

/-- A Ready group with one engine for each role and no adapters, at time zero. -/
def Host.small : Host where
  cluster :=
    { rbg := some
        { roles := [⟨"prefill", some 1⟩, ⟨"decode", some 1⟩]
          roleStatuses := [⟨"prefill", some 1⟩, ⟨"decode", some 1⟩]
          conditions := [⟨"Ready", "True"⟩] }
      adapters := fun _ => none }
  clock := 0

end RbgPlanner.Planner
