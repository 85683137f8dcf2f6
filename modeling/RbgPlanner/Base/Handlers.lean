import RbgPlanner.Base.ServedRuns

/-!
# Programs that answer requests

The requests of one program answered by programs over other requests, and
programs that ask for nothing more once an answer is a failure.
-/

namespace RbgPlanner.Base.Prog

variable {Op Op' : Type} {Resp : Op → Type} {Resp' : Op' → Type} {α β σ ε : Type}

/-! ## Handlers -/

/-- Answer every request by a program over other requests. -/
def interp (handler : (op : Op) → Prog Op' Resp' (Resp op)) : Prog Op Resp α → Prog Op' Resp' α
  | ret a => ret a
  | call op next => handler op >>= fun r => (next r).interp handler

variable {handler : (op : Op) → Prog Op' Resp' (Resp op)}

@[simp] theorem interp_ret (a : α) : (ret a : Prog Op Resp α).interp handler = ret a := rfl

/-- After an answer in `F` the program returns at once, with a value in `E`. -/
def EndsAt (F : (op : Op) → Resp op → Prop) (E : α → Prop) : Prog Op Resp α → Prop
  | ret _ => True
  | call op next => ∀ r, (F op r → ∃ a, E a ∧ next r = ret a) ∧ (next r).EndsAt F E

variable {F : (op : Op) → Resp op → Prop} {F' : (op : Op') → Resp' op → Prop}

/-- Sequencing: the second program gives up on what the first one gives up with. -/
theorem EndsAt.bind {E : α → Prop} {E' : β → Prop} {p : Prog Op Resp α} {f : α → Prog Op Resp β}
    (hp : p.EndsAt F E) (hgives : ∀ a, E a → ∃ b, E' b ∧ f a = ret b)
    (hf : ∀ a, (f a).EndsAt F E') : (p >>= f).EndsAt F E' := by
  induction p with
  | ret a => exact hf a
  | call op next ih =>
      intro r
      obtain ⟨hfails, hnext⟩ := hp r
      refine ⟨fun hr => ?_, ih r hnext⟩
      obtain ⟨a, ha, hret⟩ := hfails hr
      obtain ⟨b, hb, hfa⟩ := hgives a ha
      refine ⟨b, hb, ?_⟩
      change next r >>= f = ret b
      rw [hret]
      exact hfa

/-- A program over programs ends at their failures when it ends at the answers
with which they end. -/
theorem EndsAt.interp {E : α → Prop} {p : Prog Op Resp α} (hp : p.EndsAt F E)
    (hhandler : ∀ op, (handler op).EndsAt F' (F op)) : (p.interp handler).EndsAt F' E := by
  induction p with
  | ret a => trivial
  | call op next ih =>
      refine (hhandler op).bind (fun r hr => ?_) fun r => ih r (hp r).2
      obtain ⟨a, ha, hret⟩ := (hp r).1 hr
      exact ⟨a, ha, by rw [hret]; rfl⟩

/-- In a run of such a program a failing answer is the last one. -/
theorem EndsAt.last {E : α → Prop} {p : Prog Op Resp α} (hp : p.EndsAt F E)
    {serve : (op : Op) → σ → Resp op × σ} {s : σ} {before later : List (Event Op Resp)}
    {e : Event Op Resp} (htrace : p.trace serve s = before ++ e :: later) (he : F e.1 e.2) :
    later = [] := by
  induction p generalizing s before with
  | ret a => simp at htrace
  | call op next ih =>
      obtain ⟨hfails, hnext⟩ := hp (serve op s).1
      rw [trace_call] at htrace
      cases before with
      | nil =>
          obtain ⟨rfl, rfl⟩ := List.cons.inj htrace
          obtain ⟨a, -, hret⟩ := hfails he
          rw [hret]
          rfl
      | cons first before =>
          obtain ⟨-, htail⟩ := List.cons.inj htrace
          exact ih _ hnext htail

/-! ## Raising at a failure -/

/-- An exception. -/
def Raised (r : Except ε α) : Prop := ∃ e, r = .error e

theorem EndsAt.except_bind {x : ExceptT ε (Prog Op Resp) α} {f : α → ExceptT ε (Prog Op Resp) β}
    (hx : (ExceptT.run x).EndsAt F Raised) (hf : ∀ a, (ExceptT.run (f a)).EndsAt F Raised) :
    (ExceptT.run (x >>= f)).EndsAt F Raised := by
  refine EndsAt.bind hx ?_ fun r => ?_
  · rintro r ⟨e, rfl⟩
    exact ⟨.error e, ⟨e, rfl⟩, rfl⟩
  · cases r with
    | error e => trivial
    | ok a => exact hf a

end RbgPlanner.Base.Prog
