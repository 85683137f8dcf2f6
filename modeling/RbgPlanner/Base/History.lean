import RbgPlanner.Base.ProgramLogic

/-!
# What a program does in view of its history

`p.Tells V Φ Q h`: after the history `h`, as long as answers satisfy `V`, every
event of `p` satisfies `Φ` together with the history before it, and a result
satisfies `Q` together with the history it ends with. A history grows by one
event for each request.
-/

namespace RbgPlanner.Base.Prog

variable {Op : Type} {Resp : Op → Type} {α β σ : Type}

/-- Issued requests with their answers, the oldest first. -/
abbrev History (Op : Type) (Resp : Op → Type) := List (Event Op Resp)

variable {V : (op : Op) → Resp op → Prop} {Φ Ψ : History Op Resp → Event Op Resp → Prop}

/-- The judgement, by recursion on the program. -/
def Tells (V : (op : Op) → Resp op → Prop) (Φ : History Op Resp → Event Op Resp → Prop)
    (Q : History Op Resp → α → Prop) : Prog Op Resp α → History Op Resp → Prop
  | ret a, h => Q h a
  | call op next, h => ∀ r, V op r → Φ h ⟨op, r⟩ ∧ (next r).Tells V Φ Q (h ++ [⟨op, r⟩])

/-- Sequencing: the second program goes on with the history of the first. -/
theorem Tells.bind {Q : History Op Resp → α → Prop} {R : History Op Resp → β → Prop}
    {p : Prog Op Resp α} {f : α → Prog Op Resp β} {h : History Op Resp} (hp : p.Tells V Φ Q h)
    (hf : ∀ h' a, Q h' a → (f a).Tells V Φ R h') : (p >>= f).Tells V Φ R h := by
  induction p generalizing h with
  | ret a => exact hf h a hp
  | call op next ih => exact fun r hr => ⟨(hp r hr).1, ih r (hp r hr).2⟩

theorem Tells.mono {Q Q' : History Op Resp → α → Prop} {p : Prog Op Resp α}
    {h : History Op Resp} (hp : p.Tells V Φ Q h) (hΦ : ∀ h' e, Φ h' e → Ψ h' e)
    (hQ : ∀ h' a, Q h' a → Q' h' a) : p.Tells V Ψ Q' h := by
  induction p generalizing h with
  | ret a => exact hQ h a hp
  | call op next ih => exact fun r hr => ⟨hΦ _ _ (hp r hr).1, ih r (hp r hr).2⟩

/-- Two judgements about one program hold together. -/
theorem Tells.and {Q R : History Op Resp → α → Prop} {p : Prog Op Resp α} {h : History Op Resp}
    (hp : p.Tells V Φ Q h) (hp' : p.Tells V Ψ R h) :
    p.Tells V (fun h' e => Φ h' e ∧ Ψ h' e) (fun h' a => Q h' a ∧ R h' a) h := by
  induction p generalizing h with
  | ret a => exact ⟨hp, hp'⟩
  | call op next ih =>
      intro r hr
      exact ⟨⟨(hp r hr).1, (hp' r hr).1⟩, ih r (hp r hr).2 (hp' r hr).2⟩

/-- A history is never rewritten. -/
theorem Tells.grows {Q : History Op Resp → α → Prop} {p : Prog Op Resp α}
    {h : History Op Resp} (hp : p.Tells V Φ Q h) :
    p.Tells V Φ (fun h' a => Q h' a ∧ h <+: h') h := by
  induction p generalizing h with
  | ret a => exact ⟨hp, List.prefix_rfl⟩
  | call op next ih =>
      intro r hr
      refine ⟨(hp r hr).1, (ih r (hp r hr).2).mono (fun _ _ h => h) fun h' a ha => ?_⟩
      exact ⟨ha.1, (List.prefix_append h _).trans ha.2⟩

/-- With fewer answers to expect the judgement stays. -/
theorem Tells.assume {V' : (op : Op) → Resp op → Prop} {Q : History Op Resp → α → Prop}
    {p : Prog Op Resp α} {h : History Op Resp} (hp : p.Tells V Φ Q h)
    (hV : ∀ op r, V' op r → V op r) : p.Tells V' Φ Q h := by
  induction p generalizing h with
  | ret a => exact hp
  | call op next ih => exact fun r hr => ⟨(hp r (hV op r hr)).1, ih r (hp r (hV op r hr)).2⟩

/-- The answers in a history are those to expect. -/
theorem Tells.answered (p : Prog Op Resp α) {h : History Op Resp} (hh : ∀ e ∈ h, V e.1 e.2) :
    p.Tells V (fun h' _ => ∀ e ∈ h', V e.1 e.2) (fun h' _ => ∀ e ∈ h', V e.1 e.2) h := by
  induction p generalizing h with
  | ret a => exact hh
  | call op next ih =>
      refine fun r hr => ⟨hh, ih r fun e he => ?_⟩
      rcases List.mem_append.mp he with he | he
      · exact hh e he
      · rwa [List.mem_singleton.mp he]

/-- What longer histories keep holds at every event. -/
theorem Tells.keeps {J : History Op Resp → Prop} (hJ : ∀ h e, J h → J (h ++ [e]))
    (p : Prog Op Resp α) {h : History Op Resp} (hh : J h) :
    p.Tells V (fun h' _ => J h') (fun h' _ => J h') h := by
  induction p generalizing h with
  | ret a => exact hh
  | call op next ih => exact fun r _ => ⟨hh, ih r (hJ h _ hh)⟩

/-- A program whose requests all satisfy `P` adds events of such requests. -/
theorem Asks.tells {P : Op → Prop} {Q : α → Prop} {p : Prog Op Resp α} (hp : p.Asks P V Q)
    (hΦ : ∀ h e, P e.1 → Φ h e) (h : History Op Resp) :
    p.Tells V Φ (fun h' a => Q a ∧ ∃ t, h' = h ++ t ∧ ∀ e ∈ t, P e.1) h := by
  induction p generalizing h with
  | ret a => exact ⟨hp, [], (List.append_nil h).symm, nofun⟩
  | call op next ih =>
      intro r hr
      refine ⟨hΦ h ⟨op, r⟩ hp.1, (ih r (hp.2 r hr) _).mono (fun _ _ hΦ => hΦ) ?_⟩
      rintro h' a ⟨hQ, t, rfl, ht⟩
      refine ⟨hQ, ⟨op, r⟩ :: t, by simp, ?_⟩
      intro e he
      rcases List.mem_cons.mp he with rfl | he
      · exact hp.1
      · exact ht e he

/-! ## Programs that can raise -/

section Raising

variable {ε : Type}

/-- An exception ends a sequence with the history it was raised after. -/
theorem Tells.bind_raising {Q : History Op Resp → Except ε α → Prop}
    {R : History Op Resp → Except ε β → Prop} {x : ExceptT ε (Prog Op Resp) α}
    {f : α → ExceptT ε (Prog Op Resp) β} {h : History Op Resp}
    (hx : (ExceptT.run x).Tells V Φ Q h)
    (hok : ∀ h' a, Q h' (.ok a) → (ExceptT.run (f a)).Tells V Φ R h')
    (herror : ∀ h' e, Q h' (.error e) → R h' (.error e)) :
    (ExceptT.run (x >>= f)).Tells V Φ R h := by
  rw [ExceptT.run_bind]
  refine hx.bind fun h' r hr => ?_
  cases r with
  | error e => exact herror h' e hr
  | ok a => exact hok h' a hr

theorem Tells.lift {Q : History Op Resp → α → Prop} {p : Prog Op Resp α} {h : History Op Resp}
    (hp : p.Tells V Φ Q h) :
    (ExceptT.run (ExceptT.lift p : ExceptT ε (Prog Op Resp) α)).Tells V Φ
      (fun h' r => ∃ a, r = .ok a ∧ Q h' a) h :=
  hp.bind fun _ a ha => ⟨a, rfl, ha⟩

/-- A request that is followed by something. -/
theorem Tells.lift_bind {R : History Op Resp → Except ε β → Prop} {op : Op}
    {f : Resp op → ExceptT ε (Prog Op Resp) β} {h : History Op Resp}
    (hop : ∀ r, V op r → Φ h ⟨op, r⟩)
    (hf : ∀ r, V op r → (ExceptT.run (f r)).Tells V Φ R (h ++ [⟨op, r⟩])) :
    (ExceptT.run (ExceptT.lift (Prog.request op) >>= f)).Tells V Φ R h :=
  fun r hr => ⟨hop r hr, hf r hr⟩

end Raising

section Exec

variable {answer : (op : Op) → σ → Resp op → σ → Prop} {env : σ → σ → Prop}

/-- An execution keeps to the judgement at each of its events. -/
theorem Tells.exec {Q : History Op Resp → α → Prop} {p : Prog Op Resp α} {h : History Op Resp}
    (hp : p.Tells V Φ Q h) (hV : ∀ op s r s', answer op s r s' → V op r) {s tr out s'}
    (hx : p.Exec answer env s tr out s') {pre post : History Op Resp} {e : Event Op Resp}
    (htr : tr = pre ++ e :: post) : Φ (h ++ pre) e := by
  induction hx generalizing h pre with
  | ret _ => simp at htr
  | stop _ => simp at htr
  | call _ ha _ ih =>
      obtain ⟨hfirst, hrest⟩ := hp _ (hV _ _ _ _ ha)
      cases pre with
      | nil =>
          obtain ⟨rfl, -⟩ := List.cons.inj htr
          rwa [List.append_nil]
      | cons e' pre =>
          obtain ⟨rfl, htail⟩ := List.cons.inj htr
          have hlater := ih hrest htail
          rwa [List.append_assoc, List.singleton_append] at hlater

/-- An execution that ends returns what the judgement says of its history. -/
theorem Tells.exec_done {Q : History Op Resp → α → Prop} {p : Prog Op Resp α}
    {h : History Op Resp} (hp : p.Tells V Φ Q h) (hV : ∀ op s r s', answer op s r s' → V op r)
    {s tr a s'} (hx : p.Exec answer env s tr (.done a) s') : Q (h ++ tr) a := by
  induction p generalizing h s tr with
  | ret b =>
      cases hx
      rwa [List.append_nil]
  | call op next ih =>
      cases hx with
      | call _ ha hk =>
          have hlater := ih _ (hp _ (hV _ _ _ _ ha)).2 hk
          rwa [List.append_assoc, List.singleton_append] at hlater

/-- What holds at the last event of every cut-off execution is told of the program. -/
theorem tells_of_exec {p : Prog Op Resp α} {h : History Op Resp}
    (hp : ∀ pre e, p.Exec (fun op _ r _ => V op r) (fun _ _ => False) () (pre ++ [e]) .stopped () →
      Φ (h ++ pre) e) : p.Tells V Φ (fun _ _ => True) h := by
  induction p generalizing h with
  | ret a => trivial
  | call op next ih =>
      intro r hr
      have hfirst := hp [] ⟨op, r⟩ (.call .refl hr (.stop .refl))
      rw [List.append_nil] at hfirst
      refine ⟨hfirst, ih r fun pre e hexec => ?_⟩
      have hlater := hp (⟨op, r⟩ :: pre) e (.call .refl hr hexec)
      rwa [List.append_cons] at hlater

/-- What the environment and the answers to events of the judgement preserve, an
execution preserves. -/
theorem Tells.exec_preserves {Q : History Op Resp → α → Prop} {I : σ → Prop} {p : Prog Op Resp α}
    {h : History Op Resp} (hp : p.Tells V Φ Q h) (henv : ∀ s s', env s s' → I s → I s')
    (hV : ∀ op s r s', I s → answer op s r s' → V op r)
    (hans : ∀ h op s r s', Φ h ⟨op, r⟩ → I s → answer op s r s' → I s') {s tr out s'}
    (hx : p.Exec answer env s tr out s') (hs : I s) : I s' := by
  induction hx generalizing h with
  | ret he => exact star_preserves henv he hs
  | stop he => exact star_preserves henv he hs
  | call he ha _ ih =>
      have hs₁ := star_preserves henv he hs
      obtain ⟨hfirst, hrest⟩ := hp _ (hV _ _ _ _ hs₁ ha)
      exact ih hrest (hans _ _ _ _ _ hfirst hs₁ ha)

end Exec

end RbgPlanner.Base.Prog
