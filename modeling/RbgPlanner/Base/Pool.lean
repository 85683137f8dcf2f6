import Mathlib.Logic.Function.Basic
import RbgPlanner.Base.History

/-!
# Programs that run side by side

A pool has a shared state and at most one running program under each index. A
step answers one request of one program, starts or drops a program, or lets the
environment act. `Outline` is the proof rule: an invariant of the shared state
and, for each index, an assertion about its history that the others leave.
-/

namespace RbgPlanner.Base

open Prog

variable {ι Op : Type} {Resp : Op → Type} {α σ : Type}

/-- A running program: the events so far and what is left of it. -/
structure Thread (Op : Type) (Resp : Op → Type) (α : Type) where
  history : History Op Resp
  rest : Prog Op Resp α

structure Pool (ι Op : Type) (Resp : Op → Type) (α σ : Type) where
  shared : σ
  threads : ι → Option (Thread Op Resp α)

/-- An answered request: under which index and after which history, with the
shared state before and after it. -/
structure Occurrence (ι Op : Type) (Resp : Op → Type) (σ : Type) where
  index : ι
  history : History Op Resp
  event : Event Op Resp
  before : σ
  after : σ

namespace Pool

/-- A pool in which nothing runs yet. -/
def idle (s : σ) : Pool ι Op Resp α σ := ⟨s, fun _ => none⟩

section Step

variable [DecidableEq ι]

/-- Set what runs under an index. -/
def set (pool : Pool ι Op Resp α σ) (i : ι) (t : Option (Thread Op Resp α)) :
    Pool ι Op Resp α σ :=
  { pool with threads := Function.update pool.threads i t }

variable (start : ι → Prog Op Resp α → Prop)
  (answer : (op : Op) → σ → Resp op → σ → Prop) (env : σ → σ → Prop)

/-- The thread at `i` has one request answered. -/
inductive Acts (i : ι) (h : History Op Resp) (e : Event Op Resp) :
    Pool ι Op Resp α σ → Pool ι Op Resp α σ → Prop
  | mk {pool : Pool ι Op Resp α σ} {next s'} (hi : pool.threads i = some ⟨h, .call e.1 next⟩)
      (ha : answer e.1 pool.shared e.2 s') :
      Acts i h e pool ({ pool with shared := s' }.set i (some ⟨h ++ [e], next e.2⟩))

/-- A step that answers no request. A program may be dropped at any point,
finished or not. -/
inductive Quiet : Pool ι Op Resp α σ → Pool ι Op Resp α σ → Prop
  | start {pool i p} (hi : pool.threads i = none) (hp : start i p) :
      Quiet pool (pool.set i (some ⟨[], p⟩))
  | drop {pool i} : Quiet pool (pool.set i none)
  | env {pool s'} (he : env pool.shared s') : Quiet pool { pool with shared := s' }

/-- One step of a pool. -/
inductive Step : Pool ι Op Resp α σ → Pool ι Op Resp α σ → Prop
  | quiet {pool pool'} (hquiet : Quiet start env pool pool') : Step pool pool'
  | act {pool pool' i h e} (hact : Acts answer i h e pool pool') : Step pool pool'

/-- Any number of steps. -/
abbrev Reaches : Pool ι Op Resp α σ → Pool ι Op Resp α σ → Prop :=
  Relation.ReflTransGen (Step start answer env)

/-- A run with the requests it answers, the first one first. -/
inductive Run : Pool ι Op Resp α σ → List (Occurrence ι Op Resp σ) → Pool ι Op Resp α σ → Prop
  | refl {pool} : Run pool [] pool
  | quiet {pool pool' pool'' log} (hquiet : Quiet start env pool pool')
      (hrest : Run pool' log pool'') : Run pool log pool''
  | act {pool pool' pool'' log i h e} (hact : Acts answer i h e pool pool')
      (hrest : Run pool' log pool'') : Run pool (⟨i, h, e, pool.shared, pool'.shared⟩ :: log) pool''

end Step

/-! ## The proof rule -/

/-- An invariant `I` of the shared state, assertions `T` about the histories of
the threads, and what `Φ` allows each thread to do. -/
structure Outline (start : ι → Prog Op Resp α → Prop)
    (answer : (op : Op) → σ → Resp op → σ → Prop) (env : σ → σ → Prop)
    (V : (op : Op) → Resp op → Prop) (Φ : ι → History Op Resp → Event Op Resp → Prop)
    (I : σ → Prop) (T : ι → History Op Resp → σ → Prop) : Prop where
  starts : ∀ i p, start i p → p.Tells V (Φ i) (fun _ _ => True) []
  empty : ∀ i s, T i [] s
  valid : ∀ op s r s', I s → answer op s r s' → V op r
  env : ∀ s s', I s → env s s' → I s' ∧ ∀ i h, T i h s → T i h s'
  acts : ∀ i h e s s', I s → T i h s → Φ i h e → answer e.1 s e.2 s' →
    I s' ∧ T i (h ++ [e]) s' ∧ ∀ j ≠ i, ∀ h', T j h' s → T j h' s'

/-- A pool that the outline describes. -/
structure Sound (V : (op : Op) → Resp op → Prop)
    (Φ : ι → History Op Resp → Event Op Resp → Prop) (I : σ → Prop)
    (T : ι → History Op Resp → σ → Prop) (pool : Pool ι Op Resp α σ) : Prop where
  invariant : I pool.shared
  asserts : ∀ i t, pool.threads i = some t → T i t.history pool.shared
  tells : ∀ i t, pool.threads i = some t → t.rest.Tells V (Φ i) (fun _ _ => True) t.history

theorem sound_idle {V : (op : Op) → Resp op → Prop}
    {Φ : ι → History Op Resp → Event Op Resp → Prop} {I : σ → Prop}
    {T : ι → History Op Resp → σ → Prop} {s : σ} (hs : I s) :
    Sound V Φ I T (idle s : Pool ι Op Resp α σ) :=
  ⟨hs, nofun, nofun⟩

section Rule

variable [DecidableEq ι] {start : ι → Prog Op Resp α → Prop}
  {answer : (op : Op) → σ → Resp op → σ → Prop} {env : σ → σ → Prop}
  {V : (op : Op) → Resp op → Prop} {Φ : ι → History Op Resp → Event Op Resp → Prop}
  {I : σ → Prop} {T : ι → History Op Resp → σ → Prop} {pool pool' : Pool ι Op Resp α σ}

/-- What is known of a thread after the entry of one index was set. -/
theorem set_cases {i j : ι} {t : Option (Thread Op Resp α)} {u : Thread Op Resp α}
    (hu : (pool.set i t).threads j = some u) :
    (j = i ∧ t = some u) ∨ (j ≠ i ∧ pool.threads j = some u) := by
  by_cases hji : j = i
  · subst hji
    exact .inl ⟨rfl, by simpa [set] using hu⟩
  · exact .inr ⟨hji, by simpa [set, hji] using hu⟩

/-- The outline allows every event that a sound pool issues. -/
theorem Sound.allows (outline : Outline start answer env V Φ I T) (hsound : Sound V Φ I T pool)
    {i : ι} {h : History Op Resp} {e : Event Op Resp} (hact : Acts answer i h e pool pool') :
    Φ i h e := by
  cases hact with
  | mk hi ha => exact (hsound.tells i _ hi _ (outline.valid _ _ _ _ hsound.invariant ha)).1

/-- A step leaves a sound pool. -/
theorem Sound.step (outline : Outline start answer env V Φ I T) (hsound : Sound V Φ I T pool)
    (hstep : Step start answer env pool pool') : Sound V Φ I T pool' := by
  cases hstep with
  | quiet hquiet =>
      cases hquiet with
      | start hi hp =>
          refine ⟨hsound.invariant, fun j u hu => ?_, fun j u hu => ?_⟩
          · rcases set_cases hu with ⟨rfl, ht⟩ | ⟨-, hu⟩
            · obtain rfl := Option.some.inj ht
              exact outline.empty _ _
            · exact hsound.asserts j u hu
          · rcases set_cases hu with ⟨rfl, ht⟩ | ⟨-, hu⟩
            · obtain rfl := Option.some.inj ht
              exact outline.starts _ _ hp
            · exact hsound.tells j u hu
      | drop =>
          refine ⟨hsound.invariant, fun j u hu => ?_, fun j u hu => ?_⟩
          · rcases set_cases hu with ⟨-, ht⟩ | ⟨-, hu⟩
            · cases ht
            · exact hsound.asserts j u hu
          · rcases set_cases hu with ⟨-, ht⟩ | ⟨-, hu⟩
            · cases ht
            · exact hsound.tells j u hu
      | env he =>
          obtain ⟨hI, hT⟩ := outline.env _ _ hsound.invariant he
          exact ⟨hI, fun j u hu => hT _ _ (hsound.asserts j u hu), hsound.tells⟩
  | @act i h e hact =>
      have hallowed := hsound.allows outline hact
      cases hact with
      | mk hi ha =>
          obtain ⟨hI, hself, hothers⟩ :=
            outline.acts i h e _ _ hsound.invariant (hsound.asserts i _ hi) hallowed ha
          refine ⟨hI, fun j u hu => ?_, fun j u hu => ?_⟩
          · rcases set_cases hu with ⟨rfl, ht⟩ | ⟨hji, hu⟩
            · obtain rfl := Option.some.inj ht
              exact hself
            · exact hothers j hji _ (hsound.asserts j u hu)
          · rcases set_cases hu with ⟨rfl, ht⟩ | ⟨-, hu⟩
            · obtain rfl := Option.some.inj ht
              exact (hsound.tells _ _ hi _ (outline.valid _ _ _ _ hsound.invariant ha)).2
            · exact hsound.tells j u hu

/-- Every reachable pool is sound. -/
theorem Sound.reaches (outline : Outline start answer env V Φ I T) (hsound : Sound V Φ I T pool)
    (hreach : Reaches start answer env pool pool') : Sound V Φ I T pool' := by
  induction hreach with
  | refl => exact hsound
  | tail _ hstep ih => exact ih.step outline hstep

/-- A run in steps. -/
theorem Run.reaches {log : List (Occurrence ι Op Resp σ)}
    (hrun : Run start answer env pool log pool') : Reaches start answer env pool pool' := by
  induction hrun with
  | refl => exact .refl
  | quiet hquiet _ ih => exact .head (.quiet hquiet) ih
  | act hact _ ih => exact .head (.act hact) ih

/-- The outline allows every answered request of a run. -/
theorem Sound.run (outline : Outline start answer env V Φ I T) (hsound : Sound V Φ I T pool)
    {log : List (Occurrence ι Op Resp σ)} (hrun : Run start answer env pool log pool') :
    ∀ o ∈ log, Φ o.index o.history o.event := by
  induction hrun with
  | refl => exact nofun
  | quiet hquiet _ ih => exact ih (hsound.step outline (.quiet hquiet))
  | act hact _ ih =>
      intro o ho
      rcases List.mem_cons.mp ho with rfl | ho
      · exact hsound.allows outline hact
      · exact ih (hsound.step outline (.act hact)) o ho

/-- Programs that ask for nothing but `P` make no other requests side by side. -/
theorem asks_run {P : Op → Prop} (hstart : ∀ i p, start i p → p.Asks P V fun _ => True)
    (hvalid : ∀ op s r s', answer op s r s' → V op r) {s : σ}
    {log : List (Occurrence ι Op Resp σ)} (hrun : Run start answer env (idle s) log pool) :
    ∀ o ∈ log, P o.event.1 := by
  have outline : Outline start answer env V (fun _ _ e => P e.1) (fun _ => True)
      fun _ _ _ => True :=
    { starts := fun i p hp => ((hstart i p hp).tells (fun _ _ h => h) []).mono (fun _ _ h => h)
        fun _ _ _ => trivial
      empty := fun _ _ => trivial
      valid := fun op s r s' _ h => hvalid op s r s' h
      env := fun _ _ _ _ => ⟨trivial, fun _ _ _ => trivial⟩
      acts := fun _ _ _ _ _ _ _ _ _ => ⟨trivial, trivial, fun _ _ _ _ => trivial⟩ }
  exact (sound_idle trivial).run outline hrun

end Rule

/-! ## Whole programs -/

section Serve

variable [DecidableEq ι] {start : ι → Prog Op Resp α → Prop}
  {answer : (op : Op) → σ → Resp op → σ → Prop} {env : σ → σ → Prop}
  {serve : (op : Op) → σ → Resp op × σ}

/-- The answered requests of a program that is served after a history. -/
def occurrences (serve : (op : Op) → σ → Resp op × σ) (i : ι) :
    Prog Op Resp α → History Op Resp → σ → List (Occurrence ι Op Resp σ)
  | .ret _, _, _ => []
  | .call op next, h, s =>
      ⟨i, h, ⟨op, (serve op s).1⟩, s, (serve op s).2⟩ ::
        occurrences serve i (next (serve op s).1) (h ++ [⟨op, (serve op s).1⟩]) (serve op s).2

/-- A program that is served without interruption goes through in steps of the pool. -/
theorem run_served (hserve : ∀ op s, answer op s (serve op s).1 (serve op s).2) {i : ι}
    {p : Prog Op Resp α} {h : History Op Resp} {pool : Pool ι Op Resp α σ}
    (hi : pool.threads i = some ⟨h, p⟩) :
    Run start answer env pool (occurrences serve i p h pool.shared)
      ({ pool with shared := (p.run serve pool.shared).2 }.set i none) := by
  induction p generalizing h pool with
  | ret a => exact .quiet .drop .refl
  | call op next ih =>
      let e : Event Op Resp := ⟨op, (serve op pool.shared).1⟩
      let served : Pool ι Op Resp α σ := { pool with shared := (serve op pool.shared).2 }
      let after : Pool ι Op Resp α σ := served.set i (some ⟨h ++ [e], next e.2⟩)
      have hact : Acts answer i h e pool after := .mk hi (hserve op pool.shared)
      have hafter : after.threads i = some ⟨h ++ [e], next e.2⟩ := by simp [after, set]
      refine .act hact ?_
      simpa [after, set, served, e] using ih e.2 hafter

/-- A program that may start where nothing runs can be served to its end. -/
theorem run_start (hserve : ∀ op s, answer op s (serve op s).1 (serve op s).2) {i : ι}
    {p : Prog Op Resp α} (hp : start i p) (s : σ) :
    Run start answer env (idle s) (occurrences serve i p [] s) (idle (p.run serve s).2) := by
  let started : Pool ι Op Resp α σ := (idle s).set i (some ⟨[], p⟩)
  have hstarted : started.threads i = some ⟨[], p⟩ := by simp [started, set]
  have hrest : Run start answer env started _ _ := run_served hserve hstarted
  have hidle : Function.update (fun _ : ι => (none : Option (Thread Op Resp α))) i none =
      fun _ => none := Function.update_eq_self i _
  refine .quiet (.start rfl hp) ?_
  simpa [started, set, idle, hidle] using hrest

end Serve

section Exec

variable [DecidableEq ι] {start : ι → Prog Op Resp α → Prop}
  {answer : (op : Op) → σ → Resp op → σ → Prop} {env : σ → σ → Prop}

theorem reaches_env {threads : ι → Option (Thread Op Resp α)} {s s' : σ}
    (he : Relation.ReflTransGen env s s') :
    Reaches start answer env ⟨s, threads⟩ ⟨s', threads⟩ := by
  induction he with
  | refl => exact .refl
  | tail _ henv ih => exact ih.tail (.quiet (.env henv))

/-- An execution of one program goes through in steps of the pool. -/
theorem reaches_exec {i : ι} {p : Prog Op Resp α} {h : History Op Resp} {s s' : σ} {tr out}
    (hexec : p.Exec answer env s tr out s') {threads : ι → Option (Thread Op Resp α)}
    (hi : threads i = some ⟨h, p⟩) :
    Reaches start answer env ⟨s, threads⟩ (set ⟨s', threads⟩ i none) := by
  induction hexec generalizing h threads with
  | ret he => exact (reaches_env he).tail (.quiet .drop)
  | stop he => exact (reaches_env he).tail (.quiet .drop)
  | @call op next r s s₁ s₂ s' tr out he ha _ ih =>
      let threads' := Function.update threads i (some ⟨h ++ [⟨op, r⟩], next r⟩)
      have hact : Step start answer env ⟨s₁, threads⟩ ⟨s₂, threads'⟩ :=
        .act (e := ⟨op, r⟩) (.mk hi ha)
      have hthread : threads' i = some ⟨h ++ [⟨op, r⟩], next r⟩ := Function.update_self ..
      have hrest : Reaches start answer env ⟨s₂, threads'⟩ (set ⟨s', threads'⟩ i none) := ih hthread
      have hdrop : set ⟨s', threads'⟩ i none = set ⟨s', threads⟩ i none := by
        simp [set, threads']
      exact ((reaches_env he).tail hact).trans (hdrop ▸ hrest)

/-- A program may be started, executed and dropped where nothing runs. -/
theorem reaches_start {i : ι} {p : Prog Op Resp α} (hp : start i p) {s s' : σ} {tr out}
    (hexec : p.Exec answer env s tr out s') :
    Reaches start answer env (idle s) (idle s') := by
  let started : Pool ι Op Resp α σ := (idle s).set i (some ⟨[], p⟩)
  have hstarted : started.threads i = some ⟨[], p⟩ := by simp [started, set]
  have hrest : Reaches start answer env started _ := reaches_exec hexec hstarted
  have hidle : Function.update (fun _ : ι => (none : Option (Thread Op Resp α))) i none =
      fun _ => none := Function.update_eq_self i _
  refine .head (.quiet (.start rfl hp)) ?_
  simpa [started, set, idle, hidle] using hrest

end Exec

end Pool

end RbgPlanner.Base
