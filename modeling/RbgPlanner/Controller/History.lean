import RbgPlanner.Base.History
import RbgPlanner.Controller.Kube

/-!
# The history of a pass

Rules for programs of the operator in view of the requests they have issued
and the answers they got. A rule for a request asks for the event it records;
the rules for sequences hand the history on.
-/

namespace RbgPlanner.Controller

open Base

/-- The requests of a pass so far, with their answers. -/
abbrev KubeHistory := Prog.History KubeOp KubeResp

namespace Kube

variable {α β : Type} {Φ : KubeHistory → KubeEvent → Prop} {h : KubeHistory}

/-- With keyed answers every event satisfies `Φ` after the history before it,
and `Q` holds of the whole history and the result. -/
def Tells (Φ : KubeHistory → KubeEvent → Prop) (Q : KubeHistory → Except ApiError α → Prop)
    (x : Kube α) (h : KubeHistory) : Prop :=
  (ExceptT.run x).Tells KubeOp.Keyed Φ Q h

variable {Q : KubeHistory → Except ApiError α → Prop} {R : KubeHistory → Except ApiError β → Prop}

theorem Tells.pure {a : α} (ha : Q h (.ok a)) : Tells Φ Q (Pure.pure a) h := ha

theorem Tells.throw {e : ApiError} (he : Q h (.error e)) :
    Tells Φ Q (MonadExcept.throw e : Kube α) h := he

theorem Tells.bind {x : Kube α} {f : α → Kube β} (hx : Tells Φ Q x h)
    (hok : ∀ h' a, Q h' (.ok a) → Tells Φ R (f a) h')
    (herror : ∀ h' e, Q h' (.error e) → R h' (.error e)) : Tells Φ R (x >>= f) h :=
  Prog.Tells.bind_raising hx hok herror

theorem Tells.mono {Q' : KubeHistory → Except ApiError α → Prop} {x : Kube α}
    (hx : Tells Φ Q x h) (hQ : ∀ h' r, Q h' r → Q' h' r) : Tells Φ Q' x h :=
  Prog.Tells.mono hx (fun _ _ hΦ => hΦ) hQ

/-- A history is never rewritten. -/
theorem Tells.grows {x : Kube α} (hx : Tells Φ Q x h) :
    Tells Φ (fun h' r => Q h' r ∧ h <+: h') x h :=
  Prog.Tells.grows hx

theorem Tells.attempt {x : Kube α} (hx : Tells Φ Q x h) :
    Tells Φ (fun h' r => ∃ a, r = .ok a ∧ Q h' a) (Kube.attempt x) h :=
  Prog.Tells.bind hx fun _ r hr => ⟨r, rfl, hr⟩

/-- A sequence that looks at the error of its first part. -/
theorem Tells.bind_attempt {x : Kube α} {f : Except ApiError α → Kube β} (hx : Tells Φ Q x h)
    (hf : ∀ h' r, Q h' r → Tells Φ R (f r) h') : Tells Φ R (Kube.attempt x >>= f) h := by
  apply (Tells.attempt hx).bind
  · rintro h' r ⟨_, hr, hQ⟩
    exact hf h' r (Except.ok.inj hr ▸ hQ)
  · rintro h' e ⟨_, he, -⟩
    cases he

theorem Tells.wrap {context : String} {x : Kube α}
    (hx : Tells Φ (fun h' r => Q h' (r.mapError (ApiError.wrap context))) x h) :
    Tells Φ Q (Kube.wrap context x) h :=
  Prog.Tells.bind hx fun _ _ hr => hr

/-- A program whose requests all satisfy `P` adds events of such requests. -/
theorem Asks.tells {P : KubeOp → Prop} {Q : α → Prop} {x : Kube α} (hx : Asks P Q x)
    (hΦ : ∀ h e, P e.1 → Φ h e) (h : KubeHistory) :
    Tells Φ (fun h' r => (∀ a, r = .ok a → Q a) ∧ ∃ t, h' = h ++ t ∧ ∀ e ∈ t, P e.1) x h :=
  Prog.Asks.tells hx hΦ h

section Requests

theorem Tells.get {k : Kind} {key : NamespacedName}
    {Q : KubeHistory → Except ApiError (Resource k) → Prop}
    (hr : ∀ r : Except ApiError (Resource k), (∀ o, r = .ok o → ApiServer.keyOf o = key) →
      Φ h ⟨.get k key, r⟩ ∧ Q (h ++ [⟨.get k key, r⟩]) r) : Tells Φ Q (Kube.get k key) h :=
  hr

theorem Tells.create {k : Kind} {obj : Resource k}
    {Q : KubeHistory → Except ApiError (Resource k) → Prop}
    (hr : ∀ r : Except ApiError (Resource k),
      (∀ o, r = .ok o → ApiServer.keyOf o = ApiServer.keyOf obj) →
        Φ h ⟨.create k obj, r⟩ ∧ Q (h ++ [⟨.create k obj, r⟩]) r) :
    Tells Φ Q (Kube.create k obj) h :=
  hr

theorem Tells.update {k : Kind} {obj : Resource k}
    {Q : KubeHistory → Except ApiError (Resource k) → Prop}
    (hr : ∀ r : Except ApiError (Resource k),
      (∀ o, r = .ok o → ApiServer.keyOf o = ApiServer.keyOf obj) →
        Φ h ⟨.update k obj, r⟩ ∧ Q (h ++ [⟨.update k obj, r⟩]) r) :
    Tells Φ Q (Kube.update k obj) h :=
  hr

theorem Tells.updateStatus {obj : AutoScaler}
    {Q : KubeHistory → Except ApiError AutoScaler → Prop}
    (hr : ∀ r : Except ApiError AutoScaler,
      (∀ o, r = .ok o → o.metadata.key = obj.metadata.key) →
        Φ h ⟨.updateStatus obj, r⟩ ∧ Q (h ++ [⟨.updateStatus obj, r⟩]) r) :
    Tells Φ Q (Kube.updateStatus obj) h :=
  hr

theorem Tells.delete {k : Kind} {key : NamespacedName}
    {Q : KubeHistory → Except ApiError Unit → Prop}
    (hr : ∀ r : Except ApiError Unit,
      Φ h ⟨.delete k key, r⟩ ∧ Q (h ++ [⟨.delete k key, r⟩]) r) :
    Tells Φ Q (Kube.delete k key) h :=
  fun r _ => hr r

end Requests

/-! ## Programs that succeed -/

/-- The judgement with a condition on the values only. -/
def TellsOk (Φ : KubeHistory → KubeEvent → Prop) (P : KubeHistory → α → Prop) (x : Kube α)
    (h : KubeHistory) : Prop :=
  Tells Φ (fun h' r => ∀ a, r = .ok a → P h' a) x h

variable {P : KubeHistory → α → Prop} {T : KubeHistory → β → Prop}

theorem TellsOk.pure {a : α} (ha : P h a) : TellsOk Φ P (Pure.pure a) h :=
  Tells.pure fun _ hb => Except.ok.inj hb ▸ ha

theorem TellsOk.throw {e : ApiError} : TellsOk Φ P (MonadExcept.throw e : Kube α) h :=
  Tells.throw nofun

/-- The second program starts with a longer history. -/
theorem TellsOk.bind {x : Kube α} {f : α → Kube β} (hx : TellsOk Φ P x h)
    (hf : ∀ h' a, h <+: h' → P h' a → TellsOk Φ T (f a) h') : TellsOk Φ T (x >>= f) h :=
  Tells.bind (Tells.grows hx) (fun h' a ha => hf h' a ha.2 (ha.1 a rfl)) nofun

theorem TellsOk.mono {P' : KubeHistory → α → Prop} {x : Kube α} (hx : TellsOk Φ P x h)
    (hP : ∀ h' a, P h' a → P' h' a) : TellsOk Φ P' x h :=
  Tells.mono hx fun h' _ hr a ha => hP h' a (hr a ha)

/-- The sequence goes on whether or not its first part succeeds. -/
theorem TellsOk.bind_attempt {x : Kube α} {f : Except ApiError α → Kube β} (hx : TellsOk Φ P x h)
    (hok : ∀ h' a, h <+: h' → P h' a → TellsOk Φ T (f (.ok a)) h')
    (herror : ∀ h' e, h <+: h' → TellsOk Φ T (f (.error e)) h') :
    TellsOk Φ T (Kube.attempt x >>= f) h := by
  refine Tells.bind_attempt (Tells.grows hx) fun h' r hr => ?_
  cases r with
  | ok a => exact hok h' a hr.2 (hr.1 a rfl)
  | error e => exact herror h' e hr.2

theorem TellsOk.wrap {context : String} {x : Kube α} (hx : TellsOk Φ P x h) :
    TellsOk Φ P (Kube.wrap context x) h := by
  refine Tells.wrap (Tells.mono hx fun h' r hr a ha => ?_)
  cases r with
  | error e => cases ha
  | ok b => exact hr a ha

end Kube

end RbgPlanner.Controller
