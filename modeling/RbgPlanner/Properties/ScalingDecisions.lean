import RbgPlanner.Planner.ScalingCalls

/-!
# Scaling decisions that arrive

`set_replicas` decides whether to write by the replicas of the role, and writes
to the adapter, whose value reaches the role later. Over runs of calls among
copies of the controller, this module decides which last targets arrive.
-/

namespace RbgPlanner.Properties.ScalingDecisions

open Base Planner Planner.RBGConnector

/-- One call of `set_replicas` in a run: the state it starts from, its arguments,
its calls with their answers, and how it ends. -/
structure Call where
  start : ScalingState
  targets : List TargetReplica
  blocking : Bool
  trace : List RbgEvent
  outcome : Prog.Outcome (Except PlannerExc Unit)

/-- The planner's calls, one after the other, with copies of the controller
before, during and after each. -/
inductive Run (self : RBGConnector) : ScalingState → List Call → ScalingState → Prop
  | done {s s'} (h : Relation.ReflTransGen self.Copies s s') : Run self s [] s'
  | call {s s₁ s' call calls} (hstart : Relation.ReflTransGen self.Copies s call.start)
      (h : self.Executes (self.setReplicas call.targets call.blocking) call.start call.trace
        call.outcome s₁) (rest : Run self s₁ calls s') : Run self s (call :: calls) s'

/-- In a call that returned, `n` is the last target of a role that no later call targets. -/
structure LastDecision (call : Call) (later : List Call) (roleName : String) (n : ℤ) : Prop where
  returned : call.outcome = .done (.ok ())
  target : lastTarget call.targets roleName = some n
  last : ∀ c ∈ later, ∀ target ∈ c.targets, target.roleName ≠ roleName

/-- Every last decision of the run is the count of its role. -/
def DecisionsArrive (calls : List Call) (s' : ScalingState) : Prop :=
  ∀ before call later, calls = before ++ call :: later →
    ∀ roleName n, LastDecision call later roleName n → s'.count roleName = some n

/-- The call sees what it decides about: either the role it reads is not at the
target yet, or no target of the call differs and the role's adapter, if it has
one, is at the target too. -/
def SeesDecision (self : RBGConnector) (call : Call) (roleName : String) (n : ℤ) : Prop :=
  ∀ rbg, call.trace.head? = some ⟨.getRbg, .ok rbg⟩ →
    rbg.replicas roleName ≠ n ∨
      (∀ target ∈ call.targets, target.roleName = roleName → target.desiredReplicas = n) ∧
        ∀ m, call.start.adapters (self.adapterName roleName) = some m → m = n

variable {self : RBGConnector} {names : List String} {s s' : ScalingState} {rbg : Rbg}
  {roleName : String} {n : ℤ}

/-! ## Runs -/

theorem Run.serves {calls : List Call} (h : Run self s calls s') (hs : Serves names s) :
    Serves names s' := by
  induction h with
  | done hcopies => exact (settles_star hcopies hs).serves
  | call hstart hcall _ ih => exact ih (serves_executes hcall (settles_star hstart hs).serves)

/-- Calls that do not target a role leave its governed count. -/
theorem Run.governed_frame {calls : List Call} (h : Run self s calls s') (hs : Serves names s)
    (hne : ∀ c ∈ calls, ∀ target ∈ c.targets, target.roleName ≠ roleName) :
    self.governed s' roleName = self.governed s roleName := by
  induction h with
  | done hcopies => exact (settles_star hcopies hs).governed roleName
  | @call s s₁ s' call calls hstart hcall _ ih =>
      have hsettled := settles_star hstart hs
      rw [ih (serves_executes hcall hsettled.serves) fun c hc => hne c (List.mem_cons_of_mem _ hc),
        setReplicas_frame hsettled.serves hcall (hne call List.mem_cons_self),
        hsettled.governed]

/-- A run around one of its calls. -/
theorem Run.split {before later : List Call} {call : Call}
    (h : Run self s (before ++ call :: later) s') (hs : Serves names s) :
    ∃ s₁, Serves names call.start ∧
      self.Executes (self.setReplicas call.targets call.blocking) call.start call.trace
        call.outcome s₁ ∧ Run self s₁ later s' := by
  induction before generalizing s with
  | nil =>
      cases h with
      | call hstart hcall hrest => exact ⟨_, (settles_star hstart hs).serves, hcall, hrest⟩
  | cons first before ih =>
      cases h with
      | call hstart hcall hrest =>
          exact ih hrest (serves_executes hcall (settles_star hstart hs).serves)

/-- In every run on a Ready RoleBasedGroup that ends with no copy pending, the
last decisions are the counts of their roles exactly when the calls that made
them saw what they decided about. -/
theorem decisionsArrive_iff {calls : List Call} (hs : Serves names s) (hrun : Run self s calls s')
    (hsettled : Settled self s') :
    DecisionsArrive calls s' ↔
      ∀ before call later, calls = before ++ call :: later →
        ∀ roleName n, LastDecision call later roleName n →
          SeesDecision self call roleName n := by
  refine forall₃_congr fun before call later => forall_congr' fun hcalls =>
    forall₂_congr fun roleName n => forall_congr' fun hlast => ?_
  subst hcalls
  obtain ⟨s₁, hstart, hcall, hlater⟩ := hrun.split hs
  rw [hlast.returned] at hcall
  obtain ⟨-, -, -, -, -, -, hserves, hmem, -⟩ := setReplicas_done hstart hcall
  have hrole : roleName ∈ names := by
    obtain ⟨target, htarget, -⟩ := Option.map_eq_some_iff.mp hlast.target
    have hfilter := List.mem_filter.mp (List.mem_of_getLast? htarget)
    have hname : target.roleName = roleName := by simpa using hfilter.2
    exact hname ▸ hmem target hfilter.1
  have hend : Serves names s' := hlater.serves hserves
  rw [hsettled.count hend hrole, Option.some.injEq,
    hlater.governed_frame hserves hlast.last, setReplicas_governed_iff hstart hcall hlast.target]
  exact Iff.rfl

/-! ## Two decisions and a late copy -/

private def scaler : RBGConnector := ⟨"qwen", "serving", "prefill", "decode"⟩

/-- A Ready RoleBasedGroup with one role and its adapter. -/
private def adapted (replicas adapter : ℤ) : ScalingState where
  rbg := some
    { roles := [{ name := "decode", replicas := some replicas }]
      roleStatuses := []
      conditions := [{ type := "Ready", status := "True" }] }
  adapters := fun name => if name = "qwen-decode" then some adapter else none

/-- The call for one target of the role. -/
private def decision (n : ℤ) : RbgProg (Except PlannerExc Unit) :=
  ExceptT.run (scaler.setReplicas [{ roleName := "decode", desiredReplicas := n }] false)

/-- The call served at once, without copies in between. -/
private def servedCall (s : ScalingState) (n : ℤ) : Call where
  start := s
  targets := [{ roleName := "decode", desiredReplicas := n }]
  blocking := false
  trace := (decision n).trace ScalingState.serve s
  outcome := .done ((decision n).run ScalingState.serve s).1

private theorem servedCall_executes (s : ScalingState) (n : ℤ) :
    scaler.Executes (scaler.setReplicas (servedCall s n).targets (servedCall s n).blocking)
      (servedCall s n).start (servedCall s n).trace (servedCall s n).outcome
      ((decision n).run ScalingState.serve s).2 :=
  Prog.exec_of_run answers_serve (decision n) s

/-- The state a call leaves, and the one after the adapter's replicas arrived. -/
private def afterCall (s : ScalingState) (n : ℤ) : ScalingState :=
  ((decision n).run ScalingState.serve s).2

private def afterCopy (s : ScalingState) (n : ℤ) : ScalingState :=
  { s with rbg := s.rbg.map fun rbg => rbg.copyReplicas "decode" n }

private theorem copies_afterCopy {s : ScalingState} {m n : ℤ}
    (hrbg : s.rbg = (adapted m n).rbg) (hadapter : s.adapters "qwen-decode" = some n) :
    scaler.Copies s (afterCopy s n) := by
  refine ⟨_, "decode", n, hrbg, List.mem_singleton_self _, hadapter, ?_⟩
  rw [afterCopy, hrbg]
  rfl

private theorem settled_afterCopy {s : ScalingState} {m n : ℤ}
    (hrbg : s.rbg = (adapted m n).rbg) (hadapter : s.adapters "qwen-decode" = some n) :
    Settled scaler (afterCopy s n) := by
  rintro rbg roleName k hafter hmem hk
  rw [afterCopy, hrbg] at hafter
  obtain rfl := Option.some.inj hafter
  obtain rfl : roleName = "decode" := List.mem_singleton.mp hmem
  obtain rfl := Option.some.inj (hadapter.symm.trans hk)
  rfl

/-- One decision among copies arrives. -/
theorem decisionsArrive_iff_single :
    DecisionsArrive [servedCall (adapted 2 2) 5] (afterCopy (afterCall (adapted 2 2) 5) 5) := by
  have hrbg : (afterCall (adapted 2 2) 5).rbg = (adapted 2 5).rbg := by decide +kernel
  have hadapter : (afterCall (adapted 2 2) 5).adapters "qwen-decode" = some 5 := by
    decide +kernel
  have hserves : Serves ["decode"] (adapted 2 2) := ⟨_, rfl, rfl, by decide⟩
  have hrun : Run scaler (adapted 2 2) [servedCall (adapted 2 2) 5]
      (afterCopy (afterCall (adapted 2 2) 5) 5) :=
    .call .refl (servedCall_executes _ _) (.done (.single (copies_afterCopy hrbg hadapter)))
  apply (decisionsArrive_iff hserves hrun (settled_afterCopy hrbg hadapter)).mpr
  intro before call later hcalls roleName n hlast
  obtain ⟨rfl, rfl, rfl⟩ : before = [] ∧ call = servedCall (adapted 2 2) 5 ∧ later = [] := by
    cases before with
    | nil =>
        obtain ⟨h₁, h₂⟩ := List.cons.inj hcalls
        exact ⟨rfl, h₁.symm, h₂.symm⟩
    | cons _ _ => simp at hcalls
  have htarget : lastTarget [{ roleName := "decode", desiredReplicas := 5 }] roleName = some n :=
    hlast.target
  obtain ⟨rfl, rfl⟩ : roleName = "decode" ∧ n = 5 := by
    by_cases hname : "decode" = roleName
    · exact ⟨hname.symm, by simpa [lastTarget, hname, eq_comm] using htarget⟩
    · simp [lastTarget, hname] at htarget
  intro rbg hread
  have hhead : (servedCall (adapted 2 2) 5).trace.head? = some ⟨.getRbg, .ok _⟩ := rfl
  cases hhead.symm.trans hread
  exact .inl (by decide)

/-- The second decision finds the role at its target because the first has not
arrived yet, writes nothing, and is overtaken by the first. -/
theorem late_copy_overtakes :
    ∃ s calls s', Serves ["decode"] s ∧ Run scaler s calls s' ∧ Settled scaler s' ∧
      (∀ call ∈ calls, call.outcome = .done (.ok ())) ∧ ¬ DecisionsArrive calls s' := by
  let s₁ := afterCall (adapted 2 2) 5
  let s₂ := afterCall s₁ 2
  have hrbg : s₂.rbg = (adapted 2 5).rbg := by decide +kernel
  have hadapter : s₂.adapters "qwen-decode" = some 5 := by decide +kernel
  refine ⟨adapted 2 2, [servedCall (adapted 2 2) 5, servedCall s₁ 2], afterCopy s₂ 5,
    ⟨_, rfl, rfl, by decide⟩, ?_, settled_afterCopy hrbg hadapter, ?_, ?_⟩
  · exact .call .refl (servedCall_executes _ _) (.call .refl (servedCall_executes _ _)
      (.done (.single (copies_afterCopy hrbg hadapter))))
  · decide +kernel
  · intro harrive
    have hcount := harrive [servedCall (adapted 2 2) 5] (servedCall s₁ 2) [] rfl "decode" 2
      ⟨rfl, rfl, nofun⟩
    rw [ScalingState.count, afterCopy, hrbg] at hcount
    exact absurd hcount (by decide)

end RbgPlanner.Properties.ScalingDecisions
