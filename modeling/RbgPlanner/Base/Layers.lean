import RbgPlanner.Base.Handlers
import RbgPlanner.Base.History

/-!
# Histories through layers

A program whose requests are answered by programs over other requests: what is
known of the program and of the answers is known of the two together.
-/

namespace RbgPlanner.Base.Prog

variable {Op Op' : Type} {Resp : Op → Type} {Resp' : Op' → Type} {α : Type}
  {handler : (op : Op) → Prog Op' Resp' (Resp op)} {P : Op → Prop} {P' : Op' → Prop}
  {V : (op : Op) → Resp op → Prop} {V' : (op : Op') → Resp' op → Prop}
  {Φ : History Op Resp → Event Op Resp → Prop} {Φ' : History Op' Resp' → Event Op' Resp' → Prop}

/-- Programs that answer the requests `P` by requests `P'`. -/
theorem Asks.interp {Q : α → Prop} {p : Prog Op Resp α} (hp : p.Asks P V Q)
    (hhandler : ∀ op, P op → (handler op).Asks P' V' (V op)) :
    (p.interp handler).Asks P' V' Q := by
  induction p with
  | ret a => exact hp
  | call op next ih => exact (hhandler op hp.1).bind fun r hr => ih r (hp.2 r hr)

/-- Nothing is said of a program. -/
theorem asks_true (p : Prog Op Resp α) : p.Asks (fun _ => True) V fun _ => True := by
  induction p with
  | ret a => trivial
  | call op next ih => exact ⟨trivial, fun r _ => ih r⟩

/-- A program lifted over exceptions. -/
theorem AsksOk.liftProg {ε : Type} {Q : α → Prop} {p : Prog Op Resp α} (hp : p.Asks P V Q) :
    AsksOk P V Q (ExceptT.lift p : ExceptT ε (Prog Op Resp) α) :=
  Asks.bind hp fun _ ha _ hb => Except.ok.inj hb ▸ ha

/-- Programs that answer the requests `P`, each in a history with `J`, and leave it so. -/
theorem Asks.interp_tells {J : History Op' Resp' → Prop} {Q : α → Prop} {p : Prog Op Resp α}
    (hp : p.Asks P V Q)
    (hhandler : ∀ op h, P op → J h →
      (handler op).Tells V' Φ' (fun h' r => V op r ∧ J h') h)
    {h : History Op' Resp'} (hh : J h) :
    (p.interp handler).Tells V' Φ' (fun h' a => Q a ∧ J h') h := by
  induction p generalizing h with
  | ret a => exact ⟨hp, hh⟩
  | call op next ih =>
      exact (hhandler op h hp.1 hh).bind fun h' r hr => ih r (hp.2 r hr.1) hr.2

/-- Programs whose history stays related to the one of the program they answer. -/
theorem Tells.interp {R : History Op' Resp' → History Op Resp → Prop}
    {Q : History Op Resp → α → Prop} {p : Prog Op Resp α} {h : History Op' Resp'}
    {t : History Op Resp} (hp : p.Tells V Φ Q t) (hrel : R h t)
    (hhandler : ∀ op h t, R h t → (∀ r, V op r → Φ t ⟨op, r⟩) →
      (handler op).Tells V' Φ' (fun h' r => V op r ∧ R h' (t ++ [⟨op, r⟩])) h) :
    (p.interp handler).Tells V' Φ' (fun h' a => ∃ t', R h' t' ∧ Q t' a) h := by
  induction p generalizing h t with
  | ret a => exact ⟨t, hrel, hp⟩
  | call op next ih =>
      refine (hhandler op h t hrel fun r hr => (hp r hr).1).bind fun h' r hr => ?_
      exact ih r (hp r hr.1).2 hr.2

/-- A served run is an execution over what can be seen of its states. -/
theorem exec_of_run_seen {σ τ : Type} {answer : (op : Op) → σ → Resp op → σ → Prop}
    {env : σ → σ → Prop} {serve : (op : Op) → τ → Resp op × τ} {f : τ → σ}
    (hserve : ∀ op t, answer op (f t) (serve op t).1 (f (serve op t).2)) (p : Prog Op Resp α)
    (t : τ) :
    p.Exec answer env (f t) (p.trace serve t) (.done (p.run serve t).1) (f (p.run serve t).2) := by
  induction p generalizing t with
  | ret a => exact .ret .refl
  | call op next ih => exact .call .refl (hserve op t) (ih _ _)

end RbgPlanner.Base.Prog
