import Mathlib.Algebra.Order.Ring.Nat
import RbgPlanner.Base.Handlers

/-!
# What a program spends

`p.Affords cost Q n`: from `n` credits the program can pay for each of its
events, on every path, and a result and what is left satisfy `Q`. The judgement
is about the program text; executions inherit it.
-/

namespace RbgPlanner.Base.Prog

variable {Op Op' : Type} {Resp : Op → Type} {Resp' : Op' → Type} {α β σ ε : Type}
  {cost : Event Op Resp → ℕ} {m n : ℕ} {Q : α → ℕ → Prop}

/-- The judgement, by recursion on the program. -/
def Affords (cost : Event Op Resp → ℕ) (Q : α → ℕ → Prop) : ℕ → Prog Op Resp α → Prop
  | n, ret a => Q a n
  | n, call op next => ∀ r, cost ⟨op, r⟩ ≤ n ∧ (next r).Affords cost Q (n - cost ⟨op, r⟩)

/-- The credits suffice, whatever is left. -/
abbrev Costs (cost : Event Op Resp → ℕ) (n : ℕ) (p : Prog Op Resp α) : Prop :=
  p.Affords cost (fun _ _ => True) n

/-- Sequencing: the second program goes on with what the first one leaves. -/
theorem Affords.bind {R : β → ℕ → Prop} {p : Prog Op Resp α} {f : α → Prog Op Resp β}
    (hp : p.Affords cost Q n) (hf : ∀ a left, Q a left → (f a).Affords cost R left) :
    (p >>= f).Affords cost R n := by
  induction p generalizing n with
  | ret a => exact hf a n hp
  | call op next ih => exact fun r => ⟨(hp r).1, ih r (hp r).2⟩

/-- Credits that a program does not need are left. -/
theorem Affords.frame {p : Prog Op Resp α} (hp : p.Affords cost Q n) (k : ℕ) :
    p.Affords cost (fun a left => k ≤ left ∧ Q a (left - k)) (n + k) := by
  induction p generalizing n with
  | ret a => exact ⟨Nat.le_add_left k n, by rwa [Nat.add_sub_cancel]⟩
  | call op next ih =>
      intro r
      obtain ⟨hfirst, hrest⟩ := hp r
      refine ⟨hfirst.trans (Nat.le_add_right n k), ?_⟩
      rw [Nat.sub_add_comm hfirst]
      exact ih r hrest

theorem Affords.mono {R : α → ℕ → Prop} {p : Prog Op Resp α} (hp : p.Affords cost Q n)
    (hQ : ∀ a left, Q a left → R a left) : p.Affords cost R n := by
  induction p generalizing n with
  | ret a => exact hQ a n hp
  | call op next ih => exact fun r => ⟨(hp r).1, ih r (hp r).2⟩

/-- Sequencing adds what suffices. -/
theorem Costs.bind {p : Prog Op Resp α} {f : α → Prog Op Resp β} (hp : p.Costs cost m)
    (hf : ∀ a, (f a).Costs cost n) : (p >>= f).Costs cost (m + n) := by
  refine Affords.bind (hp.frame n) fun a left hleft => ?_
  have hmore := (hf a).frame (left - n)
  rw [Nat.add_sub_cancel' hleft.1] at hmore
  exact hmore.mono fun _ _ _ => trivial

theorem Costs.mono {p : Prog Op Resp α} (hp : p.Costs cost m) (h : m ≤ n) : p.Costs cost n := by
  have hmore := hp.frame (n - m)
  rw [Nat.add_sub_cancel' h] at hmore
  exact hmore.mono fun _ _ _ => trivial

/-- Requests that cost nothing need no credit. -/
theorem Asks.costs {P : Op → Prop} {R : α → Prop} {p : Prog Op Resp α}
    (hp : p.Asks P (fun _ _ => True) R) (hcost : ∀ e : Event Op Resp, P e.1 → cost e = 0) :
    p.Costs cost 0 := by
  induction p with
  | ret a => trivial
  | call op next ih =>
      intro r
      rw [hcost ⟨op, r⟩ hp.1]
      exact ⟨le_refl 0, ih r (hp.2 r trivial)⟩

/-- Answering requests by programs: each of them spends what its answer is priced at. -/
theorem Costs.interp {handler : (op : Op) → Prog Op' Resp' (Resp op)}
    {cost' : Event Op' Resp' → ℕ} {p : Prog Op Resp α} (hp : p.Costs cost n)
    (hhandler : ∀ op k, (∀ r, cost ⟨op, r⟩ ≤ k) →
      (handler op).Affords cost' (fun r left => k - cost ⟨op, r⟩ ≤ left) k) :
    (p.interp handler).Costs cost' n := by
  induction p generalizing n with
  | ret a => trivial
  | call op next ih =>
      exact (hhandler op n fun r => (hp r).1).bind fun r left hleft => (ih r (hp r).2).mono hleft

/-- An execution spends what its program affords. -/
theorem Affords.exec {answer : (op : Op) → σ → Resp op → σ → Prop} {env : σ → σ → Prop}
    {p : Prog Op Resp α} (hp : p.Affords cost Q n) {s tr out s'}
    (h : p.Exec answer env s tr out s') : (tr.map cost).sum ≤ n := by
  induction h generalizing n with
  | ret _ => exact Nat.zero_le n
  | stop _ => exact Nat.zero_le n
  | call _ _ _ ih =>
      obtain ⟨hfirst, hrest⟩ := hp _
      rw [List.map_cons, List.sum_cons]
      have htail := ih hrest
      omega

/-! ## Programs that can raise -/

theorem Affords.except_bind {x : ExceptT ε (Prog Op Resp) α}
    {f : α → ExceptT ε (Prog Op Resp) β} {R : Except ε β → ℕ → Prop}
    {Q : Except ε α → ℕ → Prop} (hx : (ExceptT.run x).Affords cost Q n)
    (hok : ∀ a left, Q (.ok a) left → (ExceptT.run (f a)).Affords cost R left)
    (herror : ∀ e left, Q (.error e) left → R (.error e) left) :
    (ExceptT.run (x >>= f)).Affords cost R n := by
  refine Affords.bind hx fun r left hr => ?_
  cases r with
  | error e => exact herror e left hr
  | ok a => exact hok a left hr

theorem Costs.except_bind {x : ExceptT ε (Prog Op Resp) α} {f : α → ExceptT ε (Prog Op Resp) β}
    (hx : (ExceptT.run x).Costs cost m) (hf : ∀ a, (ExceptT.run (f a)).Costs cost n) :
    (ExceptT.run (x >>= f)).Costs cost (m + n) := by
  refine Costs.bind hx fun r => ?_
  cases r with
  | error e => trivial
  | ok a => exact hf a

theorem Costs.lift {p : Prog Op Resp α} (hp : p.Costs cost n) :
    (ExceptT.run (ExceptT.lift p : ExceptT ε (Prog Op Resp) α)).Costs cost n :=
  Affords.bind hp fun _ _ _ => trivial

/-- A request that is followed by something. -/
theorem Affords.lift_bind {op : Op} {f : Resp op → ExceptT ε (Prog Op Resp) β}
    {R : Except ε β → ℕ → Prop} (hop : ∀ r, cost ⟨op, r⟩ ≤ n)
    (hf : ∀ r, (ExceptT.run (f r)).Affords cost R (n - cost ⟨op, r⟩)) :
    (ExceptT.run (ExceptT.lift (Prog.request op) >>= f)).Affords cost R n :=
  fun r => ⟨hop r, hf r⟩

end RbgPlanner.Base.Prog
