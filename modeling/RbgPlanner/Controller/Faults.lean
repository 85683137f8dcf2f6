import RbgPlanner.Base.Pool
import RbgPlanner.Controller.History
import RbgPlanner.Controller.Reconcile

/-!
# Requests that fail

How requests are answered when the API server or the way to it is unreliable,
and what cached reads show. Passes on different AutoScalers run side by side.
-/

namespace RbgPlanner.Controller

open Base

/-- The answers that report the failure `e`. -/
def KubeOp.Fails (e : ApiError) : (op : KubeOp) → KubeResp op → Prop
  | .get _ _, r => r = .error e
  | .create _ _, r => r = .error e
  | .update _ _, r => r = .error e
  | .updateStatus _, r => r = .error e
  | .delete _ _, r => r = .error e
  | .event _ _ _, _ => False

/-- A request is served, fails without effect, or is served and reported as
failed. The API server alone says that an object is missing or in the way. -/
inductive Faulty (op : KubeOp) (s : Cluster) : KubeResp op → Cluster → Prop
  | served (now : String) : Faulty op s (serve now op s).1 (serve now op s).2
  | failed {e r} (hreason : e.reason = .other) (hr : op.Fails e r) : Faulty op s r s
  | unreported (now : String) {e r} (hreason : e.reason = .other) (hr : op.Fails e r) :
      Faulty op s r (serve now op s).2

/-- An answer is the API server's, or a failure that may hide an effect. -/
theorem Faulty.elim {op : KubeOp} {s s' : Cluster} {r : KubeResp op} (h : Faulty op s r s') :
    (∃ now, r = (serve now op s).1 ∧ s' = (serve now op s).2) ∨
      ∃ e : ApiError, e.reason = .other ∧ op.Fails e r ∧
        (s' = s ∨ ∃ now, s' = (serve now op s).2) := by
  cases h with
  | served now => exact .inl ⟨now, rfl, rfl⟩
  | failed hreason hr => exact .inr ⟨_, hreason, hr, .inl rfl⟩
  | unreported now hreason hr => exact .inr ⟨_, hreason, hr, .inr ⟨now, rfl⟩⟩

/-- A request has its effect or none. -/
theorem Faulty.state {op : KubeOp} {s s' : Cluster} {r : KubeResp op} (h : Faulty op s r s') :
    s' = s ∨ ∃ now, s' = (serve now op s).2 := by
  rcases h.elim with ⟨now, -, hs'⟩ | ⟨-, -, -, hs'⟩
  · exact .inr ⟨now, hs'⟩
  · exact hs'

/-- A failure is no answer about an object. -/
theorem KubeOp.Fails.keyed {e : ApiError} {op : KubeOp} {r : KubeResp op} (h : op.Fails e r) :
    op.Keyed r := by
  cases op with
  | event _ _ _ => trivial
  | delete _ _ => trivial
  | get _ _ => rintro o ho; cases h.symm.trans ho
  | create _ _ => rintro o ho; cases h.symm.trans ho
  | update _ _ => rintro o ho; cases h.symm.trans ho
  | updateStatus _ => rintro o ho; cases h.symm.trans ho

theorem Faulty.keyed {op : KubeOp} {s s' : Cluster} {r : KubeResp op} (h : Faulty op s r s') :
    op.Keyed r := by
  cases h with
  | served now => exact serve_keyed now op s
  | failed _ hr => exact hr.keyed
  | unreported _ _ hr => exact hr.keyed

/-! ## Cached reads -/

/-- The cluster and the states it has been in. -/
structure Cached where
  current : Cluster
  past : List Cluster

namespace Cached

/-- The cluster changes. -/
def advance (c : Cached) (next : Cluster) : Cached := ⟨next, c.current :: c.past⟩

/-- Anything changes the cluster. -/
def Changes (c c' : Cached) : Prop := ∃ next, c' = c.advance next

/-- A read may show the cluster as it was. -/
inductive Answers : (op : KubeOp) → Cached → KubeResp op → Cached → Prop
  | live {op c r s'} (h : Faulty op c.current r s') : Answers op c r (c.advance s')
  | cached {k key c s} (hs : s ∈ c.past) : Answers (.get k key) c (s.get k key) c

theorem Answers.keyed {op : KubeOp} {c c' : Cached} {r : KubeResp op} (h : Answers op c r c') :
    op.Keyed r := by
  cases h with
  | live h => exact h.keyed
  | cached _ => exact fun _ ho => ApiServer.keyOf_get ho

/-- Serving requests one after the other is one way to answer them. -/
def serve (now : String) (op : KubeOp) (c : Cached) : KubeResp op × Cached :=
  ((Controller.serve now op c.current).1, c.advance (Controller.serve now op c.current).2)

theorem answers_serve (now : String) (op : KubeOp) (c : Cached) :
    Answers op c (c.serve now op).1 (c.serve now op).2 :=
  .live (.served now)

end Cached

/-! ## Passes side by side -/

/-- Passes run under the key of their AutoScaler. -/
abbrev PassPool := Pool NamespacedName KubeOp KubeResp (Except ApiError ReconcileResult)

/-- A pass on the AutoScaler at `key` starts at some time. -/
def AutoScalerReconciler.Starts (r : AutoScalerReconciler) (key : NamespacedName)
    (p : KubeProg (Except ApiError ReconcileResult)) : Prop :=
  ∃ now, p = ExceptT.run (r.reconcile now key)

end RbgPlanner.Controller
