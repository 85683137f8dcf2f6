import RbgPlanner.Base.ProgramLogic
import RbgPlanner.Controller.Resources

/-!
# Requests of the operator

A reconcile pass is a program over the requests of the Kubernetes client. A
failed request ends it unless the caller looks at the error.
-/

namespace RbgPlanner.Controller

open Base

/-- The requests the operator issues. -/
inductive KubeOp
  | get (k : Kind) (key : NamespacedName)
  | create (k : Kind) (obj : Resource k)
  | update (k : Kind) (obj : Resource k)
  | updateStatus (obj : AutoScaler)
  | delete (k : Kind) (key : NamespacedName)
  | event (eventType reason message : String)

abbrev KubeResp : KubeOp → Type
  | .get k _ => Except ApiError (Resource k)
  | .create k _ => Except ApiError (Resource k)
  | .update k _ => Except ApiError (Resource k)
  | .updateStatus _ => Except ApiError AutoScaler
  | .delete _ _ => Except ApiError Unit
  | .event _ _ _ => Unit

abbrev KubeProg := Prog KubeOp KubeResp

abbrev KubeEvent := Prog.Event KubeOp KubeResp

/-- A program that an error ends. -/
abbrev Kube := ExceptT ApiError KubeProg

namespace Kube

def get (k : Kind) (key : NamespacedName) : Kube (Resource k) :=
  ExceptT.mk (Prog.request (KubeOp.get k key))

def create (k : Kind) (obj : Resource k) : Kube (Resource k) :=
  ExceptT.mk (Prog.request (KubeOp.create k obj))

def update (k : Kind) (obj : Resource k) : Kube (Resource k) :=
  ExceptT.mk (Prog.request (KubeOp.update k obj))

def updateStatus (obj : AutoScaler) : Kube AutoScaler :=
  ExceptT.mk (Prog.request (KubeOp.updateStatus obj))

def delete (k : Kind) (key : NamespacedName) : Kube Unit :=
  ExceptT.mk (Prog.request (KubeOp.delete k key))

/-- `Recorder.Event`. -/
def event (eventType reason message : String) : Kube Unit :=
  ExceptT.mk (Prog.request (KubeOp.event eventType reason message) >>= fun _ => pure (.ok ()))

/-- Run a program and look at its error. -/
def attempt {α : Type} (x : Kube α) : Kube (Except ApiError α) :=
  ExceptT.mk (ExceptT.run x >>= fun r => pure (.ok r))

/-- Give the error of a program a context. -/
def wrap {α : Type} (context : String) (x : Kube α) : Kube α :=
  ExceptT.mk (ExceptT.run x >>= fun r => pure (r.mapError (ApiError.wrap context)))

/-! ## Running a program -/

variable {α β σ : Type} (serve : (op : KubeOp) → σ → KubeResp op × σ)

/-- Serve a program from a state. -/
def exec (x : Kube α) (s : σ) : Except ApiError α × σ := (ExceptT.run x).run serve s

/-- The requests a program issues when it is served. -/
def requests (x : Kube α) (s : σ) : List KubeEvent := (ExceptT.run x).trace serve s

@[simp] theorem exec_pure (a : α) (s : σ) : exec serve (pure a) s = (.ok a, s) := rfl

@[simp] theorem exec_throw (e : ApiError) (s : σ) :
    exec serve (throw e : Kube α) s = (.error e, s) := rfl

/-- An error ends a sequence. -/
@[simp] theorem exec_bind (x : Kube α) (f : α → Kube β) (s : σ) :
    exec serve (x >>= f) s =
      match exec serve x s with
      | (.ok a, s') => exec serve (f a) s'
      | (.error e, s') => (.error e, s') := by
  simp only [exec, ExceptT.run_bind, Prog.run_bind]
  rcases h : (ExceptT.run x).run serve s with ⟨_ | a, s'⟩ <;> rfl

@[simp] theorem exec_attempt (x : Kube α) (s : σ) :
    exec serve (attempt x) s = (.ok (exec serve x s).1, (exec serve x s).2) := by
  simp [exec, attempt]

@[simp] theorem exec_wrap (context : String) (x : Kube α) (s : σ) :
    exec serve (wrap context x) s =
      ((exec serve x s).1.mapError (ApiError.wrap context), (exec serve x s).2) := by
  simp [exec, wrap]

@[simp] theorem exec_get (k : Kind) (key : NamespacedName) (s : σ) :
    exec (α := no_index (Resource k)) serve (get k key) s = serve (.get k key) s := rfl

@[simp] theorem exec_create (k : Kind) (obj : Resource k) (s : σ) :
    exec (α := no_index (Resource k)) serve (create k obj) s = serve (.create k obj) s := rfl

@[simp] theorem exec_update (k : Kind) (obj : Resource k) (s : σ) :
    exec (α := no_index (Resource k)) serve (update k obj) s = serve (.update k obj) s := rfl

@[simp] theorem exec_updateStatus (obj : AutoScaler) (s : σ) :
    exec serve (updateStatus obj) s = serve (.updateStatus obj) s := rfl

@[simp] theorem exec_delete (k : Kind) (key : NamespacedName) (s : σ) :
    exec serve (delete k key) s = serve (.delete k key) s := rfl

@[simp] theorem exec_event (eventType reason message : String) (s : σ) :
    exec serve (event eventType reason message) s =
      (.ok (), (serve (.event eventType reason message) s).2) := rfl

section Requests

variable (x : Kube α) (f : α → Kube β) (s : σ)

@[simp] theorem requests_pure (a : α) : requests serve (pure a) s = [] := rfl

@[simp] theorem requests_throw (e : ApiError) : requests serve (throw e : Kube α) s = [] := rfl

/-- A sequence goes on after its first part returns. -/
@[simp] theorem requests_bind :
    requests serve (x >>= f) s = requests serve x s ++
      match exec serve x s with
      | (.ok a, s') => requests serve (f a) s'
      | (.error _, _) => [] := by
  simp only [requests, exec, ExceptT.run_bind, Prog.trace_bind]
  rcases h : (ExceptT.run x).run serve s with ⟨_ | a, s'⟩ <;> rfl

@[simp] theorem requests_attempt : requests serve (attempt x) s = requests serve x s := by
  simp [requests, attempt]

@[simp] theorem requests_wrap (context : String) :
    requests serve (wrap context x) s = requests serve x s := by
  simp [requests, wrap]

@[simp] theorem requests_get (k : Kind) (key : NamespacedName) :
    requests (α := no_index (Resource k)) serve (get k key) s =
      [⟨.get k key, (serve (.get k key) s).1⟩] := rfl

@[simp] theorem requests_create (k : Kind) (obj : Resource k) :
    requests (α := no_index (Resource k)) serve (create k obj) s =
      [⟨.create k obj, (serve (.create k obj) s).1⟩] := rfl

@[simp] theorem requests_update (k : Kind) (obj : Resource k) :
    requests (α := no_index (Resource k)) serve (update k obj) s =
      [⟨.update k obj, (serve (.update k obj) s).1⟩] := rfl

@[simp] theorem requests_updateStatus (obj : AutoScaler) :
    requests serve (updateStatus obj) s =
      [⟨.updateStatus obj, (serve (.updateStatus obj) s).1⟩] := rfl

@[simp] theorem requests_delete (k : Kind) (key : NamespacedName) :
    requests serve (delete k key) s = [⟨.delete k key, (serve (.delete k key) s).1⟩] := rfl

@[simp] theorem requests_event (eventType reason message : String) :
    requests serve (event eventType reason message) s =
      [⟨.event eventType reason message, ()⟩] := rfl

end Requests

end Kube

/-- Answers about an object carry its key. -/
def KubeOp.Keyed : (op : KubeOp) → KubeResp op → Prop
  | .get _ key, r => ∀ o, r = .ok o → ApiServer.keyOf o = key
  | .create _ obj, r => ∀ o, r = .ok o → ApiServer.keyOf o = ApiServer.keyOf obj
  | .update _ obj, r => ∀ o, r = .ok o → ApiServer.keyOf o = ApiServer.keyOf obj
  | .updateStatus obj, r => ∀ o : AutoScaler, r = .ok o → o.metadata.key = obj.metadata.key
  | .delete _ _, _ => True
  | .event _ _ _, _ => True

/-! ## What a program asks for -/

namespace Kube

variable {α β : Type} {P : KubeOp → Prop}

/-- With keyed answers every request satisfies `P`, and a result satisfies `Q`. -/
def Asks (P : KubeOp → Prop) (Q : α → Prop) (x : Kube α) : Prop :=
  Prog.AsksOk P KubeOp.Keyed Q x

theorem Asks.pure {Q : α → Prop} {a : α} (h : Q a) : Asks P Q (Pure.pure a) :=
  Prog.AsksOk.pure h

theorem Asks.throw {Q : α → Prop} {e : ApiError} : Asks P Q (MonadExcept.throw e : Kube α) :=
  Prog.AsksOk.throw

theorem Asks.bind {Q : α → Prop} {R : β → Prop} {x : Kube α} {f : α → Kube β}
    (hx : Asks P Q x) (hf : ∀ a, Q a → Asks P R (f a)) : Asks P R (x >>= f) :=
  Prog.AsksOk.bind hx hf

theorem Asks.mono {P' : KubeOp → Prop} {Q Q' : α → Prop} {x : Kube α} (hx : Asks P Q x)
    (hP : ∀ op, P op → P' op) (hQ : ∀ a, Q a → Q' a) : Asks P' Q' x :=
  Prog.AsksOk.mono hx hP hQ

theorem Asks.attempt {Q : α → Prop} {x : Kube α} (hx : Asks P Q x) :
    Asks P (fun r : Except ApiError α => ∀ a, r = .ok a → Q a) (Kube.attempt x) :=
  Prog.Asks.bind hx fun _ hr _ hb => Except.ok.inj hb ▸ hr

theorem Asks.wrap {Q : α → Prop} {context : String} {x : Kube α} (hx : Asks P Q x) :
    Asks P Q (Kube.wrap context x) := by
  refine Prog.Asks.bind hx fun r hr a ha => ?_
  cases r with
  | error e => cases ha
  | ok b => exact hr a ha

theorem Asks.get {k : Kind} {key : NamespacedName} (h : P (.get k key)) :
    Asks P (fun o : Resource k => ApiServer.keyOf o = key) (Kube.get k key) :=
  Prog.Asks.request h fun _ hr => hr

theorem Asks.create {k : Kind} {obj : Resource k} (h : P (.create k obj)) :
    Asks P (fun o : Resource k => ApiServer.keyOf o = ApiServer.keyOf obj) (Kube.create k obj) :=
  Prog.Asks.request h fun _ hr => hr

theorem Asks.update {k : Kind} {obj : Resource k} (h : P (.update k obj)) :
    Asks P (fun o : Resource k => ApiServer.keyOf o = ApiServer.keyOf obj) (Kube.update k obj) :=
  Prog.Asks.request h fun _ hr => hr

theorem Asks.updateStatus {obj : AutoScaler} (h : P (.updateStatus obj)) :
    Asks P (fun o => o.metadata.key = obj.metadata.key) (Kube.updateStatus obj) :=
  Prog.Asks.request h fun _ hr => hr

theorem Asks.delete {k : Kind} {key : NamespacedName} (h : P (.delete k key)) :
    Asks P (fun _ => True) (Kube.delete k key) :=
  Prog.Asks.request h fun _ _ _ _ => trivial

theorem Asks.event {eventType reason message : String} (h : P (.event eventType reason message)) :
    Asks P (fun _ => True) (Kube.event eventType reason message) :=
  Prog.Asks.bind (Prog.Asks.request h fun _ _ => trivial) fun _ _ _ _ => trivial

end Kube

/-! ## The API server answers -/

/-- An AutoScaler with the status of another. -/
def AutoScaler.statusUpdated (version : ℕ) (stored submitted : AutoScaler) : AutoScaler :=
  { stored with
    metadata := { stored.metadata with resourceVersion := version }
    status := submitted.status }

/-- Replace the status of an AutoScaler unless it changed since it was read. -/
def updateStatus (s : Cluster) (obj : AutoScaler) : Except ApiError AutoScaler × Cluster :=
  match s.objects .autoScaler obj.metadata.key with
  | none => (.error (ApiServer.notFound obj.metadata.key), s)
  | some stored =>
      if stored.metadata.resourceVersion ≠ obj.metadata.resourceVersion then
        (.error (ApiServer.conflict obj.metadata.key), s)
      else (.ok (stored.statusUpdated s.version obj),
        s.put .autoScaler (stored.statusUpdated s.version obj))

/-- Every request answered by the API server at a time. -/
def serve (now : String) : (op : KubeOp) → Cluster → KubeResp op × Cluster
  | .get k key, s => (s.get k key, s)
  | .create k obj, s => s.create k obj
  | .update k obj, s => s.update k obj
  | .updateStatus obj, s => updateStatus s obj
  | .delete k key, s => s.delete now k key
  | .event _ _ _, s => ((), s)

/-- What a request can change: one object of one kind. -/
def KubeOp.target : KubeOp → Option (Kind × NamespacedName)
  | .create k obj => some (k, ApiServer.keyOf obj)
  | .update k obj => some (k, ApiServer.keyOf obj)
  | .updateStatus obj => some (.autoScaler, obj.metadata.key)
  | .delete k key => some (k, key)
  | .get _ _ => none
  | .event _ _ _ => none

theorem serve_keyed (now : String) (op : KubeOp) (s : Cluster) : op.Keyed (serve now op s).1 := by
  cases op with
  | get k key => exact fun o ho => ApiServer.keyOf_get ho
  | create k obj => exact fun o ho => ApiServer.keyOf_create ho
  | update k obj => exact fun o ho => ApiServer.keyOf_update ho
  | updateStatus obj =>
      intro o ho
      simp only [serve, updateStatus] at ho
      split at ho
      · cases ho
      · next stored hs =>
          have hkey : stored.metadata.key = obj.metadata.key := ApiServer.keyOf_stored hs
          split_ifs at ho
          rw [← Except.ok.inj ho]
          exact hkey
  | delete k key => trivial
  | event _ _ _ => trivial

theorem updateStatus_frame {s : Cluster} {obj : AutoScaler} {k : Kind} {key : NamespacedName}
    (h : ¬ (k = .autoScaler ∧ key = obj.metadata.key)) :
    (updateStatus s obj).2.objects k key = s.objects k key := by
  unfold updateStatus
  split
  · rfl
  · next stored hs =>
      split_ifs
      · rfl
      · have hkey : stored.metadata.key = obj.metadata.key := ApiServer.keyOf_stored hs
        refine ApiServer.put_of_ne fun ⟨hk, hput⟩ => h ⟨hk, hput.trans hkey⟩

/-- What a status update leaves is the stored AutoScaler, with another status or not. -/
theorem updateStatus_same {s : Cluster} {obj ras : AutoScaler}
    (hras : (updateStatus s obj).2.objects .autoScaler obj.metadata.key = some ras) :
    ∃ stored : AutoScaler, s.objects .autoScaler obj.metadata.key = some stored ∧
      (ras = stored ∨ ras = stored.statusUpdated s.version obj) := by
  unfold updateStatus at hras
  split at hras
  · exact ⟨ras, hras, .inl rfl⟩
  · next stored hstored =>
      refine ⟨stored, hstored, ?_⟩
      split_ifs at hras
      · exact .inl (Option.some.inj (hras.symm.trans hstored))
      · have hkey : (stored.statusUpdated s.version obj).metadata.key = obj.metadata.key :=
          ApiServer.keyOf_stored hstored
        have hput := @ApiServer.put_same _ Resource _ _ s .autoScaler
          (stored.statusUpdated s.version obj)
        rw [← hkey] at hras
        exact .inr (Option.some.inj (hras.symm.trans hput))

/-- A status update of the stored version is accepted. -/
theorem updateStatus_of_stored {s : Cluster} {key : NamespacedName} {ras : AutoScaler}
    (hras : s.objects .autoScaler key = some ras) (status : Option Json) :
    updateStatus s { ras with status := status } =
      (.ok (ras.statusUpdated s.version { ras with status := status }),
        s.put .autoScaler (ras.statusUpdated s.version { ras with status := status })) := by
  have hkey : ras.metadata.key = key := ApiServer.keyOf_stored hras
  simp [updateStatus, hkey, hras]

/-- A request leaves every object but its target. -/
theorem serve_frame {now : String} {op : KubeOp} {s : Cluster} {k : Kind} {key : NamespacedName}
    (h : op.target ≠ some (k, key)) : (serve now op s).2.objects k key = s.objects k key := by
  cases op with
  | get _ _ => rfl
  | create k' obj =>
      exact ApiServer.create_frame fun ⟨hk, hkey⟩ => h (by simp [KubeOp.target, hk, hkey])
  | update k' obj =>
      exact ApiServer.update_frame fun ⟨hk, hkey⟩ => h (by simp [KubeOp.target, hk, hkey])
  | updateStatus obj =>
      exact updateStatus_frame fun ⟨hk, hkey⟩ => h (by simp [KubeOp.target, hk, hkey])
  | delete k' key' =>
      exact ApiServer.delete_frame fun ⟨hk, hkey⟩ => h (by simp [KubeOp.target, hk, hkey])
  | event _ _ _ => rfl

end RbgPlanner.Controller
