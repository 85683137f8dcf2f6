import RbgPlanner.Base.ProgramLogic

/-!
# Weakest preconditions

What must hold before a program with nobody else at work, so that it ends as
wanted whatever it is answered. The precondition of a sequence is made of those
of its parts, and an execution that ends otherwise exists wherever it fails.
-/

namespace RbgPlanner.Base.Prog

variable {Op : Type} {Resp : Op → Type} {α β σ ε : Type}
  {answer : (op : Op) → σ → Resp op → σ → Prop}

/-- The environment that does nothing. -/
def Still (_ _ : σ) : Prop := False

theorem eq_of_still {s s' : σ} (h : Relation.ReflTransGen Still s s') : s = s' := by
  induction h with
  | refl => rfl
  | tail _ hstep _ => exact hstep.elim

/-- However its requests are answered, the program ends in `Q`. -/
def wp (answer : (op : Op) → σ → Resp op → σ → Prop) (Q : α → σ → Prop) :
    Prog Op Resp α → σ → Prop
  | ret a, s => Q a s
  | call op next, s => ∀ r s', answer op s r s' → (next r).wp answer Q s'

/-- The precondition is about all undisturbed executions, and no others. -/
theorem wp_iff_exec {Q : α → σ → Prop} {p : Prog Op Resp α} {s : σ} :
    p.wp answer Q s ↔ ∀ tr a s', p.Exec answer Still s tr (.done a) s' → Q a s' := by
  induction p generalizing s with
  | ret a =>
      constructor
      · intro h tr b s' hexec
        cases hexec with
        | ret hstill => exact eq_of_still hstill ▸ h
      · intro h
        exact h [] a s (.ret .refl)
  | call op next ih =>
      constructor
      · intro h tr b s' hexec
        cases hexec with
        | call hstill hanswer hnext =>
            obtain rfl := eq_of_still hstill
            exact ih _ |>.mp (h _ _ hanswer) _ _ _ hnext
      · intro h r s' hanswer
        apply (ih r).mpr
        intro tr b s'' hnext
        exact h _ _ _ (.call .refl hanswer hnext)

theorem wp_bind {Q : β → σ → Prop} {p : Prog Op Resp α} {f : α → Prog Op Resp β} {s : σ} :
    (p >>= f).wp answer Q s ↔ p.wp answer (fun a => (f a).wp answer Q) s := by
  induction p generalizing s with
  | ret a => exact Iff.rfl
  | call op next ih => exact forall₃_congr fun r s' _ => ih r

/-! ## Programs that can raise -/

/-- What ends a program: `Q` for its values and `R` for its exceptions. -/
def Ends (Q : α → σ → Prop) (R : ε → σ → Prop) : Except ε α → σ → Prop
  | .ok a => Q a
  | .error e => R e

/-- However its requests are answered, the program returns in `Q` or raises in `R`. -/
def wpRaise (answer : (op : Op) → σ → Resp op → σ → Prop) (Q : α → σ → Prop) (R : ε → σ → Prop)
    (x : ExceptT ε (Prog Op Resp) α) (s : σ) : Prop :=
  (ExceptT.run x).wp answer (Ends Q R) s

variable {Q : α → σ → Prop} {R : ε → σ → Prop} {s : σ}

/-- With nothing asked of its values, the precondition is about the executions that raise. -/
theorem wpRaise_true_iff_exec {x : ExceptT ε (Prog Op Resp) α} :
    wpRaise answer (fun _ _ => True) R x s ↔
      ∀ tr e s', (ExceptT.run x).Exec answer Still s tr (.done (.error e)) s' → R e s' := by
  refine wp_iff_exec.trans ⟨fun h tr e s' hexec => h tr (.error e) s' hexec, ?_⟩
  intro h tr r s' hexec
  cases r with
  | ok a => trivial
  | error e => exact h tr e s' hexec

/-- With nothing asked of its exceptions, the precondition is about the executions that return. -/
theorem wpRaise_ok_iff_exec {x : ExceptT ε (Prog Op Resp) α} :
    wpRaise answer Q (fun _ _ => True) x s ↔
      ∀ tr a s', (ExceptT.run x).Exec answer Still s tr (.done (.ok a)) s' → Q a s' := by
  refine wp_iff_exec.trans ⟨fun h tr a s' hexec => h tr (.ok a) s' hexec, ?_⟩
  intro h tr r s' hexec
  cases r with
  | ok a => exact h tr a s' hexec
  | error e => trivial

@[simp] theorem wpRaise_pure {a : α} :
    wpRaise answer Q R (pure a : ExceptT ε (Prog Op Resp) α) s ↔ Q a s := Iff.rfl

@[simp] theorem wpRaise_throw {e : ε} :
    wpRaise answer Q R (throw e : ExceptT ε (Prog Op Resp) α) s ↔ R e s := Iff.rfl

/-- A request lifted over exceptions. -/
theorem wpRaise_lift {op : Op} {Q : Resp op → σ → Prop} :
    wpRaise answer Q R (ExceptT.lift (Prog.request op)) s ↔
      ∀ r s', answer op s r s' → Q r s' := Iff.rfl

theorem wpRaise_bind {Q : β → σ → Prop} {x : ExceptT ε (Prog Op Resp) α}
    {f : α → ExceptT ε (Prog Op Resp) β} :
    wpRaise answer Q R (x >>= f) s ↔
      wpRaise answer (fun a => wpRaise answer Q R (f a)) R x s := by
  unfold wpRaise
  rw [ExceptT.run_bind, wp_bind]
  refine iff_of_eq (congrArg (fun q => wp answer q (ExceptT.run x) s) ?_)
  funext r
  cases r <;> rfl

end RbgPlanner.Base.Prog
