import Mathlib.Logic.Relation

/-!
# Programs that issue requests

A program is a tree of requests; each node continues with the response it
gets. The tree has two readings. `run` serves every request from one state,
with nobody else at work. `Exec` lets an environment step any number of times
before each request and after the last one, lets a request have several
answers, and may stop the program between two requests.
-/

namespace RbgPlanner.Base

/-- A sequence of raising computations returns when each of them does. -/
theorem bind_eq_ok {ε α β : Type} {x : Except ε α} {f : α → Except ε β} {b : β} :
    (x >>= f) = .ok b ↔ ∃ a, x = .ok a ∧ f a = .ok b := by
  cases x with
  | error e => simp [bind, Except.bind]
  | ok a => simp [bind, Except.bind]

/-- A sequence returns when its parts do. -/
theorem exists_bind_ok {ε α β : Type} {x : Except ε α} {f : α → Except ε β} :
    (∃ b, (x >>= f) = .ok b) ↔ ∃ a, x = .ok a ∧ ∃ b, f a = .ok b := by
  simp only [bind_eq_ok]
  exact ⟨fun ⟨b, a, ha, hb⟩ => ⟨a, ha, b, hb⟩, fun ⟨a, ha, b, hb⟩ => ⟨b, a, ha, hb⟩⟩

/-- A sequence raises in its first computation or in what follows. -/
theorem bind_eq_error {ε α β : Type} {x : Except ε α} {f : α → Except ε β} {e : ε} :
    (x >>= f) = .error e ↔ x = .error e ∨ ∃ a, x = .ok a ∧ f a = .error e := by
  cases x with
  | error e => simp [bind, Except.bind]
  | ok a => simp [bind, Except.bind]

/-- A program over requests `Op`, the answer to `op` being a `Resp op`. -/
inductive Prog (Op : Type) (Resp : Op → Type) (α : Type) : Type
  | ret (a : α)
  | call (op : Op) (next : Resp op → Prog Op Resp α)

namespace Prog

variable {Op : Type} {Resp : Op → Type} {α β σ : Type}

protected def bind : Prog Op Resp α → (α → Prog Op Resp β) → Prog Op Resp β
  | ret a, f => f a
  | call op next, f => call op fun r => (next r).bind f

instance : Monad (Prog Op Resp) where
  pure := ret
  bind := Prog.bind

/-- Issue one request and return its answer. -/
def request (op : Op) : Prog Op Resp (Resp op) := call op ret

@[simp] theorem pure_eq_ret (a : α) : (pure a : Prog Op Resp α) = ret a := rfl

@[simp] theorem ret_bind (a : α) (f : α → Prog Op Resp β) : (ret a >>= f) = f a := rfl

@[simp] theorem call_bind (op : Op) (next : Resp op → Prog Op Resp α)
    (f : α → Prog Op Resp β) : (call op next >>= f) = call op fun r => next r >>= f := rfl

@[simp] theorem request_bind (op : Op) (f : Resp op → Prog Op Resp β) :
    (request op >>= f) = call op f := rfl

/-- An issued request together with its answer. -/
abbrev Event (Op : Type) (Resp : Op → Type) := (op : Op) × Resp op

/-! ## One server, no interference -/

/-- Serve every request from the state, in order. -/
def run (serve : (op : Op) → σ → Resp op × σ) : Prog Op Resp α → σ → α × σ
  | ret a, s => (a, s)
  | call op next, s => (next (serve op s).1).run serve (serve op s).2

/-- The requests of a run with their answers, in order. -/
def trace (serve : (op : Op) → σ → Resp op × σ) : Prog Op Resp α → σ → List (Event Op Resp)
  | ret _, _ => []
  | call op next, s =>
      ⟨op, (serve op s).1⟩ :: (next (serve op s).1).trace serve (serve op s).2

section Run

variable (serve : (op : Op) → σ → Resp op × σ)

@[simp] theorem run_ret (a : α) (s : σ) : (ret a : Prog Op Resp α).run serve s = (a, s) := rfl

@[simp] theorem run_call (op : Op) (next : Resp op → Prog Op Resp α) (s : σ) :
    (call op next).run serve s = (next (serve op s).1).run serve (serve op s).2 := rfl

/-- Sequencing serves the second program from the state the first one leaves. -/
@[simp] theorem run_bind (p : Prog Op Resp α) (f : α → Prog Op Resp β) (s : σ) :
    (p >>= f).run serve s = (f (p.run serve s).1).run serve (p.run serve s).2 := by
  induction p generalizing s with
  | ret a => rfl
  | call op next ih => exact ih (serve op s).1 (serve op s).2

@[simp] theorem trace_ret (a : α) (s : σ) : (ret a : Prog Op Resp α).trace serve s = [] := rfl

@[simp] theorem trace_call (op : Op) (next : Resp op → Prog Op Resp α) (s : σ) :
    (call op next).trace serve s =
      ⟨op, (serve op s).1⟩ :: (next (serve op s).1).trace serve (serve op s).2 := rfl

@[simp] theorem trace_request (op : Op) (s : σ) :
    (request op : Prog Op Resp (Resp op)).trace serve s = [⟨op, (serve op s).1⟩] := rfl

/-- Sequencing concatenates the requests. -/
@[simp] theorem trace_bind (p : Prog Op Resp α) (f : α → Prog Op Resp β) (s : σ) :
    (p >>= f).trace serve s =
      p.trace serve s ++ (f (p.run serve s).1).trace serve (p.run serve s).2 := by
  induction p generalizing s with
  | ret a => rfl
  | call op next ih => exact congrArg (_ :: ·) (ih (serve op s).1 (serve op s).2)

end Run

/-! ## Interference and interruption -/

/-- How an execution ends. -/
inductive Outcome (α : Type)
  | done (a : α)
  | stopped
  deriving DecidableEq

section Exec

variable (answer : (op : Op) → σ → Resp op → σ → Prop) (env : σ → σ → Prop)

/-- `p.Exec answer env s tr out s'`: from `s` the program issues the requests of
`tr`, with environment steps in between, and ends as `out` in `s'`. -/
inductive Exec : Prog Op Resp α → σ → List (Event Op Resp) → Outcome α → σ → Prop
  | ret {a s s'} (he : Relation.ReflTransGen env s s') : Exec (.ret a) s [] (.done a) s'
  | call {op next r s s₁ s₂ s' tr out} (he : Relation.ReflTransGen env s s₁)
      (ha : answer op s₁ r s₂) (hk : Exec (next r) s₂ tr out s') :
      Exec (.call op next) s (⟨op, r⟩ :: tr) out s'
  | stop {p s s'} (he : Relation.ReflTransGen env s s') : Exec p s [] .stopped s'

variable {answer env}

/-- What every environment step preserves, any number of them preserves. -/
theorem star_preserves {I : σ → Prop} (henv : ∀ s s', env s s' → I s → I s') {s s' : σ}
    (h : Relation.ReflTransGen env s s') (hs : I s) : I s' := by
  induction h with
  | refl => exact hs
  | tail _ hstep ih => exact henv _ _ hstep ih

/-- What the environment and every answered request preserve, an execution preserves. -/
theorem Exec.preserves {I : σ → Prop} (henv : ∀ s s', env s s' → I s → I s')
    (hans : ∀ op s r s', answer op s r s' → I s → I s')
    {p : Prog Op Resp α} {s tr out s'} (h : p.Exec answer env s tr out s') (hs : I s) :
    I s' := by
  induction h with
  | ret he => exact star_preserves henv he hs
  | call he ha _ ih => exact ih (hans _ _ _ _ ha (star_preserves henv he hs))
  | stop he => exact star_preserves henv he hs

/-- A finished sequence splits at the value handed from the first program to the second. -/
theorem Exec.bind_done {p : Prog Op Resp α} {f : α → Prog Op Resp β} {s tr b s'}
    (h : (p >>= f).Exec answer env s tr (.done b) s') :
    ∃ a s₁ tr₁ tr₂, p.Exec answer env s tr₁ (.done a) s₁ ∧
      (f a).Exec answer env s₁ tr₂ (.done b) s' ∧ tr = tr₁ ++ tr₂ := by
  induction p generalizing s tr with
  | ret a => exact ⟨a, s, [], tr, .ret .refl, h, rfl⟩
  | call op next ih =>
      rw [call_bind] at h
      cases h with
      | @call _ _ r _ s₁ s₂ _ tr _ he ha hk =>
          obtain ⟨a, s₃, tr₁, tr₂, h₁, h₂, rfl⟩ := ih r hk
          exact ⟨a, s₃, ⟨op, r⟩ :: tr₁, tr₂, .call he ha h₁, h₂, rfl⟩

end Exec

end Prog

end RbgPlanner.Base
