import RbgPlanner.Base.Interaction

/-!
# What a program asks for

`p.Asks P V Q`: as long as answers satisfy `V`, every request of `p` satisfies
`P` and its result satisfies `Q`. The judgement is about the program text; runs
and interleaved executions inherit it.
-/

namespace RbgPlanner.Base.Prog

variable {Op : Type} {Resp : Op → Type} {α β σ : Type}
  {P : Op → Prop} {V : (op : Op) → Resp op → Prop}

/-- The judgement, by recursion on the program. -/
def Asks (P : Op → Prop) (V : (op : Op) → Resp op → Prop) (Q : α → Prop) :
    Prog Op Resp α → Prop
  | ret a => Q a
  | call op next => P op ∧ ∀ r, V op r → (next r).Asks P V Q

theorem Asks.request {op : Op} {Q : Resp op → Prop} (hop : P op) (hQ : ∀ r, V op r → Q r) :
    (request op : Prog Op Resp (Resp op)).Asks P V Q :=
  ⟨hop, hQ⟩

/-- Sequencing: the result of the first program is what the second one may assume. -/
theorem Asks.bind {Q : α → Prop} {R : β → Prop} {p : Prog Op Resp α} {f : α → Prog Op Resp β}
    (hp : p.Asks P V Q) (hf : ∀ a, Q a → (f a).Asks P V R) : (p >>= f).Asks P V R := by
  induction p with
  | ret a => exact hf a hp
  | call op next ih => exact ⟨hp.1, fun r hr => ih r (hp.2 r hr)⟩

/-- Requests and results may be described more loosely. -/
theorem Asks.mono {P' : Op → Prop} {Q Q' : α → Prop} {p : Prog Op Resp α} (hp : p.Asks P V Q)
    (hP : ∀ op, P op → P' op) (hQ : ∀ a, Q a → Q' a) : p.Asks P' V Q' := by
  induction p with
  | ret a => exact hQ a hp
  | call op next ih => exact ⟨hP op hp.1, fun r hr => ih r (hp.2 r hr)⟩

/-- With fewer answers to expect the judgement stays. -/
theorem Asks.assume {V' : (op : Op) → Resp op → Prop} {Q : α → Prop} {p : Prog Op Resp α}
    (hp : p.Asks P V Q) (hV : ∀ op r, V' op r → V op r) : p.Asks P V' Q := by
  induction p with
  | ret a => exact hp
  | call op next ih => exact ⟨hp.1, fun r hr => ih r (hp.2 r (hV op r hr))⟩

/-- A program whose answers are known has one result. -/
theorem Asks.determined {Q : α → Prop} {p : Prog Op Resp α} (hp : p.Asks P V Q)
    (serve : (op : Op) → Unit → Resp op × Unit)
    (hserve : ∀ op r, P op → V op r → r = (serve op ()).1) :
    p.Asks P V fun a => a = (p.run serve ()).1 := by
  induction p with
  | ret a => rfl
  | call op next ih =>
      refine ⟨hp.1, fun r hr => ?_⟩
      rw [run_call, ← hserve op r hp.1 hr]
      exact ih r (hp.2 r hr)

/-! ## Programs that can raise -/

section Raising

variable {ε : Type}

/-- The judgement for a program that an exception ends: `Q` is about its values. -/
def AsksOk (P : Op → Prop) (V : (op : Op) → Resp op → Prop) (Q : α → Prop)
    (x : ExceptT ε (Prog Op Resp) α) : Prop :=
  (ExceptT.run x).Asks P V fun r => ∀ a, r = .ok a → Q a

theorem AsksOk.pure {Q : α → Prop} {a : α} (h : Q a) :
    AsksOk P V Q (Pure.pure a : ExceptT ε (Prog Op Resp) α) :=
  fun _ hb => Except.ok.inj hb ▸ h

theorem AsksOk.throw {Q : α → Prop} {e : ε} :
    AsksOk P V Q (MonadExcept.throw e : ExceptT ε (Prog Op Resp) α) :=
  fun _ hb => by cases hb

theorem AsksOk.lift {op : Op} (hop : P op) :
    AsksOk P V (V op) (ExceptT.lift (Prog.request op) : ExceptT ε (Prog Op Resp) (Resp op)) :=
  ⟨hop, fun _ hr _ ha => Except.ok.inj ha ▸ hr⟩

theorem AsksOk.bind {Q : α → Prop} {R : β → Prop} {x : ExceptT ε (Prog Op Resp) α}
    {f : α → ExceptT ε (Prog Op Resp) β} (hx : AsksOk P V Q x)
    (hf : ∀ a, Q a → AsksOk P V R (f a)) : AsksOk P V R (x >>= f) := by
  refine Asks.bind hx fun r hr => ?_
  cases r with
  | error e => exact fun _ hb => by cases hb
  | ok a => exact hf a (hr a rfl)

theorem AsksOk.mono {P' : Op → Prop} {Q Q' : α → Prop} {x : ExceptT ε (Prog Op Resp) α}
    (hx : AsksOk P V Q x) (hP : ∀ op, P op → P' op) (hQ : ∀ a, Q a → Q' a) : AsksOk P' V Q' x :=
  Asks.mono hx hP fun _ h a ha => hQ a (h a ha)

end Raising

section Run

variable {serve : (op : Op) → σ → Resp op × σ} (hserve : ∀ op s, V op (serve op s).1)
include hserve

/-- The requests of a run are those the judgement allows. -/
theorem Asks.trace {Q : α → Prop} {p : Prog Op Resp α} (hp : p.Asks P V Q) (s : σ) :
    ∀ e ∈ p.trace serve s, P e.1 := by
  induction p generalizing s with
  | ret a => simp
  | call op next ih =>
      intro e he
      rw [trace_call, List.mem_cons] at he
      rcases he with rfl | he
      · exact hp.1
      · exact ih _ (hp.2 _ (hserve op s)) _ e he

/-- What the allowed requests preserve, the run preserves. -/
theorem Asks.preserves {Q : α → Prop} {p : Prog Op Resp α} (hp : p.Asks P V Q) {I : σ → Prop}
    (hI : ∀ op s, P op → I s → I (serve op s).2) {s : σ} (hs : I s) : I (p.run serve s).2 := by
  induction p generalizing s with
  | ret a => exact hs
  | call op next ih => exact ih _ (hp.2 _ (hserve op s)) (hI op s hp.1 hs)

end Run

/-! ## Interleaved executions -/

section Exec

variable {answer : (op : Op) → σ → Resp op → σ → Prop} {env : σ → σ → Prop} {I : σ → Prop}

/-- What the environment and the answers to allowed requests preserve, an
interleaved execution preserves, however it ends. -/
theorem Asks.exec_preserves {Q : α → Prop} {p : Prog Op Resp α} (hp : p.Asks P V Q)
    (henv : ∀ s s', env s s' → I s → I s')
    (hV : ∀ op s r s', I s → answer op s r s' → V op r)
    (hans : ∀ op s r s', P op → I s → answer op s r s' → I s')
    {s tr out s'} (h : p.Exec answer env s tr out s') (hs : I s) : I s' := by
  induction h with
  | ret he => exact star_preserves henv he hs
  | stop he => exact star_preserves henv he hs
  | call he ha _ ih =>
      have hs₁ := star_preserves henv he hs
      exact ih (hp.2 _ (hV _ _ _ _ hs₁ ha)) (hans _ _ _ _ hp.1 hs₁ ha)

/-- The requests of an execution are those the judgement allows. -/
theorem Asks.exec_trace {Q : α → Prop} {p : Prog Op Resp α} (hp : p.Asks P V Q)
    (hV : ∀ op s r s', answer op s r s' → V op r) {s tr out s'}
    (h : p.Exec answer env s tr out s') : ∀ e ∈ tr, P e.1 := by
  induction h with
  | ret _ => simp
  | stop _ => simp
  | call _ ha _ ih =>
      intro e he
      rcases List.mem_cons.mp he with rfl | he
      · exact hp.1
      · exact ih (hp.2 _ (hV _ _ _ _ ha)) e he

/-- The value of an execution that ends is one the judgement allows. -/
theorem Asks.exec_done {Q : α → Prop} {p : Prog Op Resp α} (hp : p.Asks P V Q)
    (hV : ∀ op s r s', answer op s r s' → V op r) {s tr a s'}
    (h : p.Exec answer env s tr (.done a) s') : Q a := by
  induction p generalizing s tr with
  | ret b =>
      cases h
      exact hp
  | call op next ih =>
      cases h with
      | call _ ha hk => exact ih _ (hp.2 _ (hV _ _ _ _ ha)) hk

variable {ε : Type}

/-- A sequence that succeeds splits into two programs that succeed. -/
theorem Exec.bind_ok {x : ExceptT ε (Prog Op Resp) α} {f : α → ExceptT ε (Prog Op Resp) β}
    {s tr b s'} (h : (ExceptT.run (x >>= f)).Exec answer env s tr (.done (.ok b)) s') :
    ∃ a s₁ tr₁ tr₂, (ExceptT.run x).Exec answer env s tr₁ (.done (.ok a)) s₁ ∧
      (ExceptT.run (f a)).Exec answer env s₁ tr₂ (.done (.ok b)) s' ∧ tr = tr₁ ++ tr₂ := by
  rw [ExceptT.run_bind] at h
  obtain ⟨r, s₁, tr₁, tr₂, h₁, h₂, htr⟩ := h.bind_done
  cases r with
  | error e => cases h₂
  | ok a => exact ⟨a, s₁, tr₁, tr₂, h₁, h₂, htr⟩

/-- Any execution of a sequence gets through the first program, or is one of it. -/
theorem Exec.bind_cases {x : ExceptT ε (Prog Op Resp) α} {f : α → ExceptT ε (Prog Op Resp) β}
    {s tr out s'} (h : (ExceptT.run (x >>= f)).Exec answer env s tr out s') :
    (∃ a s₁ tr₁ tr₂, (ExceptT.run x).Exec answer env s tr₁ (.done (.ok a)) s₁ ∧
      (ExceptT.run (f a)).Exec answer env s₁ tr₂ out s' ∧ tr = tr₁ ++ tr₂) ∨
    ∃ out', (ExceptT.run x).Exec answer env s tr out' s' := by
  rw [ExceptT.run_bind] at h
  generalize ExceptT.run x = p at h ⊢
  induction p generalizing s tr with
  | ret r =>
      cases r with
      | ok a => exact .inl ⟨a, s, [], tr, .ret .refl, h, rfl⟩
      | error e =>
          cases h with
          | ret he => exact .inr ⟨_, .ret he⟩
          | stop he => exact .inr ⟨_, .stop he⟩
  | call op next ih =>
      cases h with
      | call he ha hk =>
          rcases ih _ hk with ⟨a, s₁, tr₁, tr₂, h₁, h₂, rfl⟩ | ⟨out', h₁⟩
          · exact .inl ⟨a, s₁, _ :: tr₁, tr₂, .call he ha h₁, h₂, rfl⟩
          · exact .inr ⟨out', .call he ha h₁⟩
      | stop he => exact .inr ⟨_, .stop he⟩

/-- A request lifted over exceptions. -/
theorem Exec.lift_done {op : Op} {s tr} {r : Resp op} {s'}
    (h : (ExceptT.run (ExceptT.lift (Prog.request op) : ExceptT ε (Prog Op Resp) (Resp op))).Exec
      answer env s tr (.done (.ok r)) s') :
    ∃ s₁ s₂, Relation.ReflTransGen env s s₁ ∧ answer op s₁ r s₂ ∧
      Relation.ReflTransGen env s₂ s' ∧ tr = [⟨op, r⟩] := by
  cases h with
  | call he ha hk =>
      cases hk with
      | ret he' => exact ⟨_, _, he, ha, he', rfl⟩

/-- A program that only returns lets the environment go on. -/
theorem Exec.pure_done {a b : α} {s tr s'}
    (h : (ExceptT.run (pure a : ExceptT ε (Prog Op Resp) α)).Exec answer env s tr
      (.done (.ok b)) s') : b = a ∧ Relation.ReflTransGen env s s' ∧ tr = [] := by
  cases h with
  | ret he => exact ⟨rfl, he, rfl⟩

theorem Exec.throw_ok {e : ε} {b : α} {s tr s'}
    (h : (ExceptT.run (throw e : ExceptT ε (Prog Op Resp) α)).Exec answer env s tr
      (.done (.ok b)) s') : False := by
  cases h

/-- A served run is an interleaved execution in which the environment does nothing. -/
theorem exec_of_run {serve : (op : Op) → σ → Resp op × σ}
    (hserve : ∀ op s, answer op s (serve op s).1 (serve op s).2) (p : Prog Op Resp α) (s : σ) :
    p.Exec answer env s (p.trace serve s) (.done (p.run serve s).1) (p.run serve s).2 := by
  induction p generalizing s with
  | ret a => exact .ret .refl
  | call op next ih => exact .call .refl (hserve op s) (ih _ _)

end Exec

end RbgPlanner.Base.Prog
