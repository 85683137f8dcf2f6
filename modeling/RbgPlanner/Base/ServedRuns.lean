import RbgPlanner.Base.ProgramLogic

/-!
# Runs of programs that can raise

A program that an exception ends, served by one server: the runs of a sequence,
and the requests of a run that returns.
-/

namespace RbgPlanner.Base.Prog

variable {Op : Type} {Resp : Op → Type} {α β σ ε : Type}
  {serve : (op : Op) → σ → Resp op × σ}

/-- A sequence runs its second program unless the first one raises. -/
theorem run_except_bind (x : ExceptT ε (Prog Op Resp) α) (f : α → ExceptT ε (Prog Op Resp) β)
    (s : σ) :
    (ExceptT.run (x >>= f)).run serve s =
      match (ExceptT.run x).run serve s with
      | (.ok a, s') => (ExceptT.run (f a)).run serve s'
      | (.error e, s') => (.error e, s') := by
  rw [ExceptT.run_bind, run_bind]
  rcases (ExceptT.run x).run serve s with ⟨_ | a, s'⟩ <;> rfl

/-- The requests of a sequence are those of the first program, and those of the
second unless the first one raises. -/
theorem trace_except_bind (x : ExceptT ε (Prog Op Resp) α) (f : α → ExceptT ε (Prog Op Resp) β)
    (s : σ) :
    (ExceptT.run (x >>= f)).trace serve s = (ExceptT.run x).trace serve s ++
      match (ExceptT.run x).run serve s with
      | (.ok a, s') => (ExceptT.run (f a)).trace serve s'
      | (.error _, _) => [] := by
  rw [ExceptT.run_bind, trace_bind]
  rcases (ExceptT.run x).run serve s with ⟨_ | a, s'⟩ <;> rfl

/-- A request that is followed by something. -/
theorem run_lift_bind {op : Op} {f : Resp op → ExceptT ε (Prog Op Resp) β} {s : σ} :
    (ExceptT.run (ExceptT.lift (Prog.request op) >>= f)).run serve s =
      (ExceptT.run (f (serve op s).1)).run serve (serve op s).2 := rfl

/-- The run of `x` from `s` does not raise. -/
def Succeeds (serve : (op : Op) → σ → Resp op × σ) (x : ExceptT ε (Prog Op Resp) α) (s : σ) :
    Prop :=
  ∃ a s', (ExceptT.run x).run serve s = (.ok a, s')

@[simp] theorem not_succeeds_throw {e : ε} {s : σ} :
    ¬ Succeeds serve (throw e : ExceptT ε (Prog Op Resp) α) s := nofun

/-- The run of `x` from `s` returns `a` and leaves `s'`, and its requests are `ops`. -/
structure Returns (serve : (op : Op) → σ → Resp op × σ) (x : ExceptT ε (Prog Op Resp) α) (s : σ)
    (ops : List Op) (a : α) (s' : σ) : Prop where
  run : (ExceptT.run x).run serve s = (.ok a, s')
  requests : ((ExceptT.run x).trace serve s).map Sigma.fst = ops

variable {s s' s'' : σ}

theorem Returns.pure (a : α) :
    Returns serve (Pure.pure a : ExceptT ε (Prog Op Resp) α) s [] a s := ⟨rfl, rfl⟩

theorem Returns.lift {op : Op} :
    Returns serve (ExceptT.lift (Prog.request op) : ExceptT ε (Prog Op Resp) (Resp op)) s [op]
      (serve op s).1 (serve op s).2 := ⟨rfl, rfl⟩

/-- In a sequence the requests of both programs follow each other. -/
theorem Returns.bind {x : ExceptT ε (Prog Op Resp) α} {f : α → ExceptT ε (Prog Op Resp) β}
    {ops ops' : List Op} {a : α} {b : β} (hx : Returns serve x s ops a s')
    (hf : Returns serve (f a) s' ops' b s'') :
    Returns serve (x >>= f) s (ops ++ ops') b s'' where
  run := by
    rw [run_except_bind, hx.run]
    exact hf.run
  requests := by
    rw [trace_except_bind, hx.run, List.map_append, hx.requests]
    exact congrArg (ops ++ ·) hf.requests

/-- A run that returns is an execution that does, in any environment. -/
theorem Returns.exec {x : ExceptT ε (Prog Op Resp) α} {ops : List Op} {a : α}
    (h : Returns serve x s ops a s') (env : σ → σ → Prop) :
    (ExceptT.run x).Exec (fun op s r s' => serve op s = (r, s')) env s
      ((ExceptT.run x).trace serve s) (.done (.ok a)) s' := by
  have hexec : (ExceptT.run x).Exec (fun op s r s' => serve op s = (r, s')) env s
      ((ExceptT.run x).trace serve s) _ _ := exec_of_run (fun _ _ => rfl) (ExceptT.run x) s
  rwa [h.run] at hexec

/-! ## Answers a program can use -/

/-- The run of `x` from `s` returns, and its requests are `ops`, when all that is
answered fits, and raises when something does not. -/
def ReturnsWhen (serve : (op : Op) → σ → Resp op × σ) (Fits : Event Op Resp → Prop)
    (x : ExceptT ε (Prog Op Resp) α) (s : σ) (ops : List Op) : Prop :=
  (∃ a s', Returns serve x s ops a s' ∧ ∀ e ∈ (ExceptT.run x).trace serve s, Fits e) ∨
    (∃ err s', (ExceptT.run x).run serve s = (.error err, s')) ∧
      ∃ e ∈ (ExceptT.run x).trace serve s, ¬ Fits e

section Fits

variable {Fits : Event Op Resp → Prop}

theorem ReturnsWhen.pure (a : α) :
    ReturnsWhen serve Fits (Pure.pure a : ExceptT ε (Prog Op Resp) α) s [] :=
  .inl ⟨a, s, .pure a, fun _ he => absurd he List.not_mem_nil⟩

/-- One request, and a decision on its answer. -/
theorem ReturnsWhen.request {op : Op} {f : Resp op → ExceptT ε (Prog Op Resp) β}
    (h : (∃ b, f (serve op s).1 = Pure.pure b ∧ Fits ⟨op, (serve op s).1⟩) ∨
      ∃ err, f (serve op s).1 = throw err ∧ ¬ Fits ⟨op, (serve op s).1⟩) :
    ReturnsWhen serve Fits (ExceptT.lift (Prog.request op) >>= f) s [op] := by
  rcases h with ⟨b, hreturn, hfits⟩ | ⟨err, hraise, hunfit⟩
  · have htail : Returns serve (f (serve op s).1) (serve op s).2 [] b (serve op s).2 := by
      rw [hreturn]
      exact .pure b
    have htrace : (ExceptT.run (ExceptT.lift (Prog.request op) >>= f)).trace serve s =
        [⟨op, (serve op s).1⟩] := by
      change ⟨op, (serve op s).1⟩ :: (ExceptT.run (f (serve op s).1)).trace serve (serve op s).2 = _
      rw [hreturn]
      rfl
    refine .inl ⟨b, (serve op s).2, Returns.lift.bind htail, ?_⟩
    rw [htrace]
    exact List.forall_mem_singleton.mpr hfits
  · refine .inr ⟨⟨err, (serve op s).2, ?_⟩, _, List.mem_cons_self, hunfit⟩
    rw [run_lift_bind, hraise]
    rfl

theorem ReturnsWhen.bind {x : ExceptT ε (Prog Op Resp) α} {f : α → ExceptT ε (Prog Op Resp) β}
    {ops ops' : List Op} (hx : ReturnsWhen serve Fits x s ops)
    (hf : ∀ a s', ReturnsWhen serve Fits (f a) s' ops') :
    ReturnsWhen serve Fits (x >>= f) s (ops ++ ops') := by
  unfold ReturnsWhen
  rcases hx with ⟨a, s₁, hreturns, hfits⟩ | ⟨⟨err, s₁, hraise⟩, e, he, hunfit⟩
  · have htrace : (ExceptT.run (x >>= f)).trace serve s =
        (ExceptT.run x).trace serve s ++ (ExceptT.run (f a)).trace serve s₁ := by
      rw [trace_except_bind, hreturns.run]
    rw [htrace]
    rcases hf a s₁ with ⟨b, s₂, hreturns', hfits'⟩ | ⟨⟨err, s₂, hraise⟩, e, he, hunfit⟩
    · exact .inl ⟨b, s₂, hreturns.bind hreturns', List.forall_mem_append.mpr ⟨hfits, hfits'⟩⟩
    · refine .inr ⟨⟨err, s₂, ?_⟩, e, List.mem_append_right _ he, hunfit⟩
      rw [run_except_bind, hreturns.run]
      exact hraise
  · refine .inr ⟨⟨err, s₁, ?_⟩, e, ?_, hunfit⟩
    · rw [run_except_bind, hraise]
    · rw [trace_except_bind]
      exact List.mem_append_left _ he

theorem ReturnsWhen.returns {x : ExceptT ε (Prog Op Resp) α} {ops : List Op}
    (h : ReturnsWhen serve Fits x s ops)
    (hfits : ∀ e ∈ (ExceptT.run x).trace serve s, Fits e) :
    ∃ a s', Returns serve x s ops a s' := by
  rcases h with ⟨a, s', hreturns, -⟩ | ⟨-, e, he, hunfit⟩
  · exact ⟨a, s', hreturns⟩
  · exact absurd (hfits e he) hunfit

theorem ReturnsWhen.fits {x : ExceptT ε (Prog Op Resp) α} {ops : List Op}
    (h : ReturnsWhen serve Fits x s ops) (hreturns : Succeeds serve x s) :
    ∀ e ∈ (ExceptT.run x).trace serve s, Fits e := by
  rcases h with ⟨-, -, -, hfits⟩ | ⟨⟨err, s', hraise⟩, -⟩
  · exact hfits
  · obtain ⟨a, s'', hrun⟩ := hreturns
    cases hrun.symm.trans hraise

end Fits

end RbgPlanner.Base.Prog
