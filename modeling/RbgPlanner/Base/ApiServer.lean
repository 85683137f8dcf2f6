import Mathlib.Data.Nat.Notation
import Mathlib.Logic.Function.Basic
import Mathlib.Tactic.SplitIfs

/-!
# An object store with optimistic concurrency

The part of a declarative API server a controller sees: typed objects under
namespaced names, versions that detect a stale update, and deletion that waits
for finalizers.
-/

namespace RbgPlanner.Base

/-- The key of an object within its kind; cluster-scoped kinds leave the namespace empty. -/
structure NamespacedName where
  namespaceName : String
  name : String
  deriving DecidableEq, Repr

/-- The reference of an object to its owner. -/
structure OwnerReference where
  apiVersion : String
  kind : String
  name : String
  uid : ℕ
  blockOwnerDeletion : Bool
  controller : Bool
  deriving DecidableEq, Repr

/-- The metadata every object carries. -/
structure ObjectMeta where
  key : NamespacedName
  uid : ℕ := 0
  resourceVersion : ℕ := 0
  deletionTimestamp : Option String := none
  finalizers : List String := []
  labels : List (String × String) := []
  ownerReferences : List OwnerReference := []
  deriving DecidableEq, Repr

/-- Objects with metadata. `complete` fills unset fields with the server's
defaults. `merge stored submitted` is what an update through the main endpoint
stores: a kind with a status endpoint keeps its status. -/
class ApiObject (R : Type) where
  metadata : R → ObjectMeta
  withMetadata : R → ObjectMeta → R
  complete : R → R := id
  merge : R → R → R := fun _ submitted => submitted
  metadata_withMetadata : ∀ o m, metadata (withMetadata o m) = m

attribute [simp] ApiObject.metadata_withMetadata

/-- Why a request fails. -/
inductive ApiReason
  | notFound
  | alreadyExists
  | conflict
  | other
  deriving DecidableEq, Repr

/-- A failed request. Wrapping changes the message and keeps the reason. -/
structure ApiError where
  reason : ApiReason
  message : String
  deriving DecidableEq, Repr

def ApiError.wrap (context : String) (e : ApiError) : ApiError :=
  { e with message := context ++ ": " ++ e.message }

section Store

variable {Kind : Type} (Resource : Kind → Type) [∀ k, ApiObject (Resource k)]

/-- The stored objects, each under its own key, and the version the next write gets. -/
structure ApiServer where
  objects : (k : Kind) → NamespacedName → Option (Resource k)
  version : ℕ
  keyed : ∀ k key o, objects k key = some o → (ApiObject.metadata o).key = key

end Store

namespace ApiServer

variable {Kind : Type} {Resource : Kind → Type} [∀ k, ApiObject (Resource k)]

/-- A server that stores nothing. -/
def empty : ApiServer Resource where
  objects := fun _ _ => none
  version := 1
  keyed := fun _ _ _ h => by cases h

/-- The key of an object. -/
def keyOf {k : Kind} (o : Resource k) : NamespacedName := (ApiObject.metadata o).key

/-- A new object as it is stored, under a fresh identity. -/
def created {k : Kind} (version : ℕ) (o : Resource k) : Resource k :=
  ApiObject.withMetadata (ApiObject.complete o)
    { ApiObject.metadata o with uid := version, resourceVersion := version }

/-- What an update stores. Identity and deletion mark are the server's. -/
def updated {k : Kind} (version : ℕ) (stored submitted : Resource k) : Resource k :=
  ApiObject.withMetadata (ApiObject.complete (ApiObject.merge stored submitted))
    { ApiObject.metadata submitted with
      uid := (ApiObject.metadata stored).uid
      deletionTimestamp := (ApiObject.metadata stored).deletionTimestamp
      resourceVersion := version }

/-- An object marked for deletion. -/
def marked {k : Kind} (version : ℕ) (now : String) (stored : Resource k) : Resource k :=
  ApiObject.withMetadata stored
    { ApiObject.metadata stored with
      deletionTimestamp := some now, resourceVersion := version }

section Keys

variable {k : Kind} (version : ℕ) (o stored : Resource k)

@[simp] theorem keyOf_created : keyOf (created version o) = keyOf o := by
  simp [keyOf, created]

@[simp] theorem keyOf_updated : keyOf (updated version stored o) = keyOf o := by
  simp [keyOf, updated]

@[simp] theorem keyOf_marked (now : String) : keyOf (marked version now stored) = keyOf stored := by
  simp [keyOf, marked]

end Keys

theorem keyOf_stored {s : ApiServer Resource} {k : Kind} {key : NamespacedName} {o : Resource k}
    (h : s.objects k key = some o) : keyOf o = key :=
  s.keyed k key o h

def notFound (key : NamespacedName) : ApiError := ⟨.notFound, "\"" ++ key.name ++ "\" not found"⟩

def alreadyExists (key : NamespacedName) : ApiError :=
  ⟨.alreadyExists, "\"" ++ key.name ++ "\" already exists"⟩

def conflict (key : NamespacedName) : ApiError :=
  ⟨.conflict, "Operation cannot be fulfilled on \"" ++ key.name ++ "\""⟩

/-- Read an object. -/
def get (s : ApiServer Resource) (k : Kind) (key : NamespacedName) :
    Except ApiError (Resource k) :=
  match s.objects k key with
  | some o => .ok o
  | none => .error (notFound key)

section Get

variable {s : ApiServer Resource} {k : Kind} {key : NamespacedName}

theorem get_of_some {o : Resource k} (h : s.objects k key = some o) : s.get k key = .ok o := by
  simp [get, h]

theorem get_of_none (h : s.objects k key = none) : s.get k key = .error (notFound key) := by
  simp [get, h]

theorem objects_of_get {o : Resource k} (h : s.get k key = .ok o) : s.objects k key = some o := by
  unfold get at h
  split at h
  · next x hx => rwa [← Except.ok.inj h]
  · cases h

theorem objects_of_get_error {e : ApiError} (h : s.get k key = .error e) :
    s.objects k key = none := by
  unfold get at h
  split at h
  · cases h
  · assumption

theorem keyOf_get {o : Resource k} (h : s.get k key = .ok o) : keyOf o = key :=
  keyOf_stored (objects_of_get h)

end Get

variable [DecidableEq Kind]

/-- Set what is stored under one key of one kind. -/
def assign (s : ApiServer Resource) (k : Kind) (key : NamespacedName) (o : Option (Resource k))
    (ho : ∀ x, o = some x → keyOf x = key) : ApiServer Resource where
  objects := Function.update s.objects k (Function.update (s.objects k) key o)
  version := s.version + 1
  keyed := by
    intro k' key' x hx
    by_cases hk : k' = k
    · subst hk
      rw [Function.update_self] at hx
      by_cases hkey : key' = key
      · subst hkey
        rw [Function.update_self] at hx
        exact ho x hx
      · rw [Function.update_of_ne hkey] at hx
        exact s.keyed _ _ x hx
    · rw [Function.update_of_ne hk] at hx
      exact s.keyed _ _ x hx

/-- Store an object under its key. -/
def put (s : ApiServer Resource) (k : Kind) (o : Resource k) : ApiServer Resource :=
  s.assign k (keyOf o) (some o) fun x hx => by rw [Option.some.inj hx]

/-- Remove what is stored under a key. -/
def erase (s : ApiServer Resource) (k : Kind) (key : NamespacedName) : ApiServer Resource :=
  s.assign k key none fun x hx => by cases hx

section Assign

variable {s : ApiServer Resource} {k k' : Kind} {key key' : NamespacedName}

@[simp] theorem assign_same {o : Option (Resource k)} {ho} :
    (s.assign k key o ho).objects k key = o := by
  simp [assign]

/-- Everything but one object of one kind stays. -/
theorem assign_of_ne {o : Option (Resource k)} {ho} (h : ¬ (k' = k ∧ key' = key)) :
    (s.assign k key o ho).objects k' key' = s.objects k' key' := by
  by_cases hk : k' = k
  · subst hk
    have hkey : key' ≠ key := fun hkey => h ⟨rfl, hkey⟩
    simp [assign, hkey]
  · simp [assign, hk]

@[simp] theorem put_same {o : Resource k} : (s.put k o).objects k (keyOf o) = some o :=
  assign_same

theorem put_of_ne {o : Resource k} (h : ¬ (k' = k ∧ key' = keyOf o)) :
    (s.put k o).objects k' key' = s.objects k' key' :=
  assign_of_ne h

@[simp] theorem erase_same : (s.erase k key).objects k key = none := assign_same

theorem erase_of_ne (h : ¬ (k' = k ∧ key' = key)) :
    (s.erase k key).objects k' key' = s.objects k' key' :=
  assign_of_ne h

end Assign

/-- Store a new object. -/
def create (s : ApiServer Resource) (k : Kind) (o : Resource k) :
    Except ApiError (Resource k) × ApiServer Resource :=
  match s.objects k (keyOf o) with
  | some _ => (.error (alreadyExists (keyOf o)), s)
  | none => (.ok (created s.version o), s.put k (created s.version o))

/-- Replace an object unless it changed since it was read. The last finalizer
of an object marked for deletion takes the object with it. -/
def update (s : ApiServer Resource) (k : Kind) (o : Resource k) :
    Except ApiError (Resource k) × ApiServer Resource :=
  match s.objects k (keyOf o) with
  | none => (.error (notFound (keyOf o)), s)
  | some stored =>
      if (ApiObject.metadata stored).resourceVersion ≠
          (ApiObject.metadata o).resourceVersion then
        (.error (conflict (keyOf o)), s)
      else if (ApiObject.metadata stored).deletionTimestamp.isSome &&
          (ApiObject.metadata o).finalizers.isEmpty then
        (.ok (updated s.version stored o), s.erase k (keyOf o))
      else (.ok (updated s.version stored o), s.put k (updated s.version stored o))

/-- Delete an object, or mark it when finalizers hold it. -/
def delete (s : ApiServer Resource) (now : String) (k : Kind) (key : NamespacedName) :
    Except ApiError Unit × ApiServer Resource :=
  match s.objects k key with
  | none => (.error (notFound key), s)
  | some stored =>
      if (ApiObject.metadata stored).finalizers.isEmpty then (.ok (), s.erase k key)
      else if (ApiObject.metadata stored).deletionTimestamp.isSome then (.ok (), s)
      else (.ok (), s.put k (marked s.version now stored))

/-! ## What requests do -/

section Requests

variable {s : ApiServer Resource} {k k' : Kind} {key key' : NamespacedName}

theorem create_of_none {o : Resource k} (h : s.objects k (keyOf o) = none) :
    s.create k o = (.ok (created s.version o), s.put k (created s.version o)) := by
  simp [create, h]

theorem create_of_some {o stored : Resource k} (h : s.objects k (keyOf o) = some stored) :
    s.create k o = (.error (alreadyExists (keyOf o)), s) := by
  simp [create, h]

/-- What a creation leaves under the key was there or is the new object. -/
theorem create_same {o x : Resource k} (hx : (s.create k o).2.objects k (keyOf o) = some x) :
    s.objects k (keyOf o) = some x ∨ x = created s.version o := by
  unfold create at hx
  split at hx
  · exact .inl hx
  · have hput := put_same (s := s) (o := created s.version o)
    rw [keyOf_created] at hput
    exact .inr (Option.some.inj (hx.symm.trans hput))

theorem keyOf_create {o x : Resource k} (h : (s.create k o).1 = .ok x) : keyOf x = keyOf o := by
  unfold create at h
  split at h
  · cases h
  · rw [← Except.ok.inj h, keyOf_created]

theorem keyOf_update {o x : Resource k} (h : (s.update k o).1 = .ok x) : keyOf x = keyOf o := by
  unfold update at h
  split at h
  · cases h
  · split_ifs at h
    · rw [← Except.ok.inj h, keyOf_updated]
    · rw [← Except.ok.inj h, keyOf_updated]

/-- What an accepted update answers. -/
theorem exists_of_update {o x : Resource k} (h : (s.update k o).1 = .ok x) :
    ∃ stored, s.objects k (keyOf o) = some stored ∧ x = updated s.version stored o := by
  unfold update at h
  split at h
  · cases h
  · next stored hstored =>
      refine ⟨stored, hstored, ?_⟩
      split_ifs at h
      · exact (Except.ok.inj h).symm
      · exact (Except.ok.inj h).symm

/-- An update of the current version is accepted. -/
theorem update_of_current {o stored : Resource k} (h : s.objects k (keyOf o) = some stored)
    (hversion : (ApiObject.metadata stored).resourceVersion =
      (ApiObject.metadata o).resourceVersion) :
    s.update k o = (.ok (updated s.version stored o),
      if (ApiObject.metadata stored).deletionTimestamp.isSome &&
        (ApiObject.metadata o).finalizers.isEmpty
      then s.erase k (keyOf o) else s.put k (updated s.version stored o)) := by
  simp only [update, h, hversion, ne_eq, not_true, if_false]
  split_ifs <;> rfl

theorem update_of_current_same {o stored : Resource k} (h : s.objects k (keyOf o) = some stored)
    (hversion : (ApiObject.metadata stored).resourceVersion =
      (ApiObject.metadata o).resourceVersion) {x : Resource k}
    (hx : (s.update k o).2.objects k (keyOf o) = some x) :
    x = updated s.version stored o := by
  rw [update_of_current h hversion] at hx
  dsimp only at hx
  split_ifs at hx
  · simp at hx
  · rw [← keyOf_updated s.version o stored, put_same] at hx
    exact (Option.some.inj hx).symm

/-- What an update leaves under the key is the stored object, updated or not. -/
theorem update_same {o x : Resource k} (hx : (s.update k o).2.objects k (keyOf o) = some x) :
    ∃ stored, s.objects k (keyOf o) = some stored ∧
      (x = stored ∨ x = updated s.version stored o) := by
  unfold update at hx
  split at hx
  · next hnone => cases hnone.symm.trans hx
  · next stored hstored =>
      refine ⟨stored, hstored, ?_⟩
      split_ifs at hx
      · exact .inl (Option.some.inj (hx.symm.trans hstored))
      · cases erase_same.symm.trans hx
      · have hput := put_same (s := s) (o := updated s.version stored o)
        rw [keyOf_updated] at hput
        exact .inr (Option.some.inj (hx.symm.trans hput))

/-- What a deletion leaves under its key is held by finalizers and marked. -/
theorem delete_same {now : String} {x : Resource k}
    (hx : (s.delete now k key).2.objects k key = some x) :
    (ApiObject.metadata x).deletionTimestamp.isSome = true ∧
      ∃ stored, s.objects k key = some stored ∧
        (ApiObject.metadata stored).finalizers.isEmpty = false ∧
          (x = stored ∨ x = marked s.version now stored) := by
  unfold delete at hx
  split at hx
  · next h => simp [h] at hx
  · next stored h =>
      split_ifs at hx with hheld hmarked
      · simp at hx
      · obtain rfl := Option.some.inj (h.symm.trans hx)
        exact ⟨hmarked, stored, h, by simpa using hheld, .inl rfl⟩
      · have hkey : keyOf (marked s.version now stored) = key := by
          rw [keyOf_marked, keyOf_stored h]
        rw [← hkey, put_same] at hx
        obtain rfl := Option.some.inj hx
        exact ⟨by simp [marked], stored, h, by simpa using hheld, .inr rfl⟩

theorem create_frame {o : Resource k} (h : ¬ (k' = k ∧ key' = keyOf o)) :
    (s.create k o).2.objects k' key' = s.objects k' key' := by
  unfold create
  split
  · rfl
  · exact put_of_ne (by rwa [keyOf_created])

theorem update_frame {o : Resource k} (h : ¬ (k' = k ∧ key' = keyOf o)) :
    (s.update k o).2.objects k' key' = s.objects k' key' := by
  unfold update
  split
  · rfl
  · split_ifs
    · rfl
    · exact erase_of_ne h
    · exact put_of_ne (by rwa [keyOf_updated])

theorem delete_frame {now : String} (h : ¬ (k' = k ∧ key' = key)) :
    (s.delete now k key).2.objects k' key' = s.objects k' key' := by
  unfold delete
  split
  · rfl
  · next stored hs =>
      split_ifs
      · exact erase_of_ne h
      · rfl
      · exact put_of_ne (by rwa [keyOf_marked, keyOf_stored hs])

end Requests

end ApiServer

end RbgPlanner.Base
