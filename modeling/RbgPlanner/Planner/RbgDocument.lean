import RbgPlanner.Base.JsonPatch
import RbgPlanner.Planner.ScalingWrites

/-!
# The RoleBasedGroup as a document

What the connector reads of the stored JSON document, and the server of a group
without scaling adapters, which patches the document.
-/

namespace RbgPlanner.Planner

open Base Json

/-! ## Reading the document -/

/-- `role.get("name")` and `role.get("replicas")`. -/
def RbgRole.ofJson (role : Json) : RbgRole where
  name := (role.nestedString ["name"]).getD ""
  replicas := role.nestedInt ["replicas"]

def RbgRoleStatus.ofJson (status : Json) : RbgRoleStatus where
  name := (status.nestedString ["name"]).getD ""
  readyReplicas := status.nestedInt ["readyReplicas"]

def RbgCondition.ofJson (condition : Json) : RbgCondition where
  type := (condition.nestedString ["type"]).getD ""
  status := (condition.nestedString ["status"]).getD ""

/-- `rbg.get("spec", {}).get("roles", [])`. -/
def roleObjects (doc : Json) : List Json := (doc.nestedSlice ["spec", "roles"]).getD []

/-- What the connector reads of a document. -/
def Rbg.ofJson (doc : Json) : Rbg where
  roles := (roleObjects doc).map RbgRole.ofJson
  roleStatuses := ((doc.nestedSlice ["status", "roleStatuses"]).getD []).map RbgRoleStatus.ofJson
  conditions := ((doc.nestedSlice ["status", "conditions"]).getD []).map RbgCondition.ofJson

/-- Every role has a name and replicas. -/
def Complete (doc : Json) : Prop :=
  ∀ role ∈ roleObjects doc,
    (role.nestedString ["name"]).isSome = true ∧ (role.nestedInt ["replicas"]).isSome = true

/-! ## Patching the document -/

/-- `/spec/roles/{role_index}/replicas`. -/
def replicasPointer (index : ℕ) : Pointer :=
  [.field "spec", .field "roles", .index index, .field "replicas"]

/-- An API server that stores the document, with no scaling adapters. -/
def serveDocument : (op : RbgOp) → Json → RbgResp op × Json
  | .getRbg, doc => (.ok (Rbg.ofJson doc), doc)
  | .patchScale _ _, doc => (.error 404, doc)
  | .patchRole index n, doc =>
      match replace (.int n) (replicasPointer index) doc with
      | some doc' => (.ok (), doc')
      | none => (.error 422, doc)
  | .sleep _, doc => ((), doc)

variable {doc doc' : Json} {index : ℕ} {n : ℤ}

/-- Replacing the replicas of a role keeps its name. -/
theorem ofJson_replace_role {role role' : Json}
    (h : replace (.int n) [.field "replicas"] role = some role') :
    RbgRole.ofJson role' = { RbgRole.ofJson role with replicas := some n } := by
  have hreplicas : at? (["replicas"].map .field) role' = some (.int n) := at?_replace h
  have hname : at? (["name"].map .field) role' = at? (["name"].map .field) role := by
    apply at?_replace_of_apart h
    simp [apart_cons]
  simp only [RbgRole.ofJson, nestedString, nestedInt, nested_eq_at?, hreplicas, hname]

/-- A patch that is accepted replaces the replicas of one role object. -/
theorem roleObjects_replace (h : replace (.int n) (replicasPointer index) doc = some doc') :
    ∃ role role', (roleObjects doc)[index]? = some role ∧
      replace (.int n) [.field "replicas"] role = some role' ∧
        roleObjects doc' = (roleObjects doc).set index role' := by
  obtain ⟨roles, roles', hroles, hreplaced, hroles'⟩ :=
    @replace_append doc doc' (.int n) (["spec", "roles"].map .field)
      [.index index, .field "replicas"] h
  obtain ⟨elems, role, role', rfl, rfl, hrole, hreplaced⟩ := replace_index hreplaced
  rw [← nested_eq_at?] at hroles hroles'
  refine ⟨role, role', ?_, hreplaced, ?_⟩
  · simpa [roleObjects, nestedSlice, hroles] using hrole
  · simp [roleObjects, nestedSlice, hroles, hroles']

/-- Values outside the roles are where they were. -/
theorem nestedSlice_status_replace {name : String}
    (h : replace (.int n) (replicasPointer index) doc = some doc') :
    doc'.nestedSlice ["status", name] = doc.nestedSlice ["status", name] := by
  have hkept : at? (["status", name].map .field) doc' = at? (["status", name].map .field) doc := by
    apply at?_replace_of_apart h
    simp [replicasPointer, apart_cons]
  simp only [nestedSlice, nested_eq_at?, hkept]

/-- For the connector the patch of the document is the patch of what it reads. -/
theorem ofJson_replace (h : replace (.int n) (replicasPointer index) doc = some doc') :
    Rbg.ofJson doc' = (Rbg.ofJson doc).patchReplicas index n := by
  obtain ⟨role, role', hrole, hreplaced, hroles⟩ := roleObjects_replace h
  have hmodified : ((roleObjects doc).set index role').map RbgRole.ofJson =
      ((roleObjects doc).map RbgRole.ofJson).modify index
        fun role => { role with replicas := some n } := by
    rw [List.map_set, ofJson_replace_role hreplaced]
    apply List.ext_getElem?
    intro i
    rw [List.getElem?_modify, List.getElem?_set, List.length_map]
    split_ifs with hi hlength
    · subst hi
      simp [hrole]
    · subst hi
      exact absurd (List.getElem?_eq_some_iff.mp hrole).1 hlength
    · simp
  simp only [Rbg.ofJson, Rbg.patchReplicas, hroles, nestedSlice_status_replace h, hmodified]

/-- A patch that is accepted leaves every role complete. -/
theorem complete_replace (h : replace (.int n) (replicasPointer index) doc = some doc')
    (hcomplete : Complete doc) : Complete doc' := by
  obtain ⟨role, role', hrole, hreplaced, hroles⟩ := roleObjects_replace h
  intro other hother
  rw [hroles] at hother
  rcases List.mem_or_eq_of_mem_set hother with hmem | rfl
  · exact hcomplete other hmem
  · have hname : at? (["name"].map .field) other = at? (["name"].map .field) role := by
      apply at?_replace_of_apart hreplaced
      simp [apart_cons]
    have hreplicas : at? (["replicas"].map .field) other = some (.int n) := at?_replace hreplaced
    have hold := (hcomplete role (List.mem_of_getElem? hrole)).1
    simp only [nestedString, nestedInt, nested_eq_at?, hreplicas, hname] at hold ⊢
    exact ⟨hold, rfl⟩

/-- A pointer into a role leads where it leads from the role object. -/
theorem at?_role {role : Json} (hrole : (roleObjects doc)[index]? = some role) (path : Pointer) :
    at? (["spec", "roles"].map .field ++ .index index :: path) doc = at? path role := by
  rw [at?_append, ← nested_eq_at?]
  unfold roleObjects nestedSlice at hrole
  split at hrole
  · next elems hroles =>
      have hrole : elems[index]? = some role := hrole
      rw [hroles, Option.bind_some, at?, hrole, Option.bind_some]
  · cases hrole

/-- The replicas of a complete role can be replaced. -/
theorem exists_replace (n : ℤ) (hcomplete : Complete doc)
    (hindex : index < (Rbg.ofJson doc).roles.length) :
    ∃ doc', replace (.int n) (replicasPointer index) doc = some doc' := by
  have hlength : index < (roleObjects doc).length := by simpa [Rbg.ofJson] using hindex
  have hrole := List.getElem?_eq_getElem hlength
  have hreplicas := (hcomplete _ (List.getElem_mem hlength)).2
  apply Option.isSome_iff_exists.mp
  rw [isSome_replace]
  refine (congrArg Option.isSome (at?_role hrole (["replicas"].map .field))).trans ?_
  rw [← nested_eq_at?]
  generalize (roleObjects doc)[index] = role at hreplicas ⊢
  unfold nestedInt at hreplicas
  split at hreplicas
  · next hnested => rw [hnested]; rfl
  · cases hreplicas

/-! ## The document as a scaling state -/

/-- The group that a document holds, without scaling adapters. -/
def ScalingState.ofDocument (doc : Json) : ScalingState := ⟨some (Rbg.ofJson doc), fun _ => none⟩

/-- The server of the document answers as an API server does for what it holds. -/
theorem answers_serveDocument (hcomplete : Complete doc) (op : RbgOp) :
    Answers op (.ofDocument doc) (serveDocument op doc).1
      (.ofDocument (serveDocument op doc).2) := by
  cases op with
  | getRbg => exact .read rfl
  | patchScale name n => exact .noAdapter rfl
  | patchRole index n =>
      cases hreplaced : replace (.int n) (replicasPointer index) doc with
      | none =>
          simp only [serveDocument, hreplaced]
          exact .patchFailed
      | some doc' =>
          obtain ⟨role, role', hrole, -, -⟩ := roleObjects_replace hreplaced
          have hread : (Rbg.ofJson doc).roles[index]? = some (RbgRole.ofJson role) := by
            simp [Rbg.ofJson, hrole]
          simp only [serveDocument, hreplaced, ScalingState.ofDocument, ofJson_replace hreplaced]
          exact .patched rfl hread (hcomplete role (List.mem_of_getElem? hrole)).2
  | sleep seconds => exact .slept

end RbgPlanner.Planner
