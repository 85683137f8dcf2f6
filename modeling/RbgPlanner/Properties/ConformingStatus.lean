import RbgPlanner.Api.AutoScalerStatus
import RbgPlanner.Controller.Faults
import RbgPlanner.Controller.Footprint
import RbgPlanner.Controller.Status

/-!
# Statuses that the API server takes

The operator writes a status field by field, over the one it has read, and the
API server holds it against the schema. Nothing in it but the text of an error
can be refused.
-/

namespace RbgPlanner.Properties.ConformingStatus

open Base Base.Json Base.ValueSchema Api Controller
open Base.Schema (present)

/-! ## Statuses -/

/-- The message of the `Ready` condition. -/
def messageOf (status : Option Json) : Option Json :=
  lookup (asMap (readyConditionOf status)) "message"

/-- The message has no more characters than the schema allows. -/
def Short (status : Json) : Prop :=
  ∃ text, messageOf (some status) = some (.str text) ∧ text.length ≤ maxMessage

/-- A status is taken, unless its message is too long. -/
def Admissible (dateTime : String → Bool) (status : Option Json) : Prop :=
  ∃ v, status = some v ∧ ((autoScalerStatus dateTime).admits v = true ↔ Short v)

/-- What the schema says of the fields next to the conditions. -/
def FieldsConform (dateTime : String → Bool) (status : Option Json) : Prop :=
  ∀ v, status = some v → (object (statusFields dateTime) []).admits v = true

variable {dateTime : String → Bool} {now : String}

/-! ## Written statuses -/

section Written

variable {fields : Fields} {key : String} {value : Json} {property : String × ValueSchema}

theorem present_setField_of_ne (h : property.1 ≠ key) :
    present (setField fields key value) property.1 = present fields property.1 := by
  have hlookup : (setField fields key value).lookup property.1 = fields.lookup property.1 :=
    lookup_setField_of_ne h
  simp only [present, hlookup]

theorem lookup_setField : (setField fields key value).lookup key = some value :=
  lookup_setField_same

theorem present_setField_same {v : Json} (h : present (setField fields key value) key = some v) :
    v = value := by
  simp only [present, lookup_setField] at h
  cases value <;> simp_all

theorem fieldAdmits_setField (hother : property.1 ≠ key → FieldAdmits fields property)
    (hsame : property.1 = key → property.2.admits value = true) :
    FieldAdmits (setField fields key value) property := by
  intro v hv
  by_cases h : property.1 = key
  · obtain rfl := present_setField_same (h ▸ hv)
    exact hsame h
  · rw [present_setField_of_ne h] at hv
    exact hother h v hv

/-- The fields of a status that conforms. -/
theorem fieldAdmits_of_conform {status : Option Json} (h : FieldsConform dateTime status) :
    ∀ property ∈ statusFields dateTime, FieldAdmits ((asMap status).getD []) property := by
  intro property hproperty
  cases status with
  | none => exact nofun
  | some v =>
      have hv := h v rfl
      cases v with
      | obj fields => exact (admits_object_iff.mp hv).2 property hproperty
      | _ => exact nofun

theorem fieldsConform_iff :
    FieldsConform dateTime (some (.obj fields)) ↔
      ∀ property ∈ statusFields dateTime, FieldAdmits fields property := by
  constructor
  · exact fieldAdmits_of_conform
  · rintro h v hv
    obtain rfl := Option.some.inj hv
    exact admits_object_iff.mpr ⟨nofun, h⟩

variable {ready : Bool} {reason message : String}

/-- A condition with a valid reason is valid when its message is short. -/
theorem admits_readyCondition (hnow : dateTime now = true)
    (hlength : 1 ≤ reason.length ∧ reason.length ≤ 1024) (hreason : isReason reason = true) :
    (condition dateTime).admits
        (readyCondition (boolToConditionStatus ready) now reason message) = true ↔
      message.length ≤ maxMessage := by
  have htype : "Ready".length ≤ 316 ∧ isConditionType "Ready" = true := by decide +kernel
  cases ready <;>
    simp [boolToConditionStatus, condition, readyCondition, admits, admitsFields, present,
      List.lookup_cons, hnow, hlength, hreason, htype]

/-- What is written next to valid fields. -/
theorem admissible_of_fields (hnow : dateTime now = true)
    (hlength : 1 ≤ reason.length ∧ reason.length ≤ 1024) (hreason : isReason reason = true)
    (hfields : ∀ property ∈ statusFields dateTime, FieldAdmits fields property)
    (hconditions : fields.lookup "conditions" =
      some (.arr [readyCondition (boolToConditionStatus ready) now reason message])) :
    Admissible dateTime (some (.obj fields)) := by
  have htype : (readyCondition (boolToConditionStatus ready) now reason message).nestedString
      ["type"] = some "Ready" := rfl
  have hcondition : readyConditionOf (some (.obj fields)) =
      some (readyCondition (boolToConditionStatus ready) now reason message) := by
    simp [readyConditionOf, lookup, hconditions, htype]
  have hmessage : messageOf (some (.obj fields)) = some (.str message) := by
    rw [messageOf, hcondition]
    rfl
  have hpresent : present fields "conditions" =
      some (.arr [readyCondition (boolToConditionStatus ready) now reason message]) := by
    simp only [present, hconditions]
  refine ⟨_, rfl, ?_⟩
  rw [autoScalerStatus, admits_object_iff, List.forall_mem_cons]
  constructor
  · rintro ⟨-, hvalid, -⟩
    have hone := hvalid _ hpresent
    rw [admits, List.all_cons, List.all_nil, Bool.and_true,
      admits_readyCondition hnow hlength hreason] at hone
    exact ⟨message, hmessage, hone⟩
  · rintro ⟨text, htext, hshort⟩
    obtain rfl : message = text := by simpa using hmessage.symm.trans htext
    refine ⟨fun _ hkey => absurd hkey List.not_mem_nil, fun v hv => ?_, hfields⟩
    obtain rfl := Option.some.inj (hpresent.symm.trans hv)
    rw [admits, List.all_cons, List.all_nil, Bool.and_true,
      admits_readyCondition hnow hlength hreason]
    exact hshort

/-- The two ways to write a status. -/
theorem phaseStatus_conforms {old : Option Json} {phase : String}
    (hold : FieldsConform dateTime old) (hnow : dateTime now = true) (hphase : phase ∈ phases)
    (hlength : 1 ≤ reason.length ∧ reason.length ≤ 1024) (hreason : isReason reason = true) :
    FieldsConform dateTime (some (phaseStatus now old phase reason message)) ∧
      Admissible dateTime (some (phaseStatus now old phase reason message)) := by
  have hfields : ∀ property ∈ statusFields dateTime, FieldAdmits
      (setField (setField ((asMap old).getD []) "phase" (.str phase)) "conditions"
        (.arr [readyCondition (boolToConditionStatus (phase == "Ready")) now reason message]))
      property := by
    intro property hproperty
    have hne : property.1 ≠ "conditions" := by
      revert property
      simp [statusFields]
    refine fieldAdmits_setField (fun _ => fieldAdmits_setField
      (fun _ => fieldAdmits_of_conform hold property hproperty) fun hname => ?_)
      fun hname => absurd hname hne
    simp only [statusFields, List.mem_cons, List.not_mem_nil, or_false] at hproperty
    rcases hproperty with rfl | rfl | rfl | rfl | rfl | rfl <;>
      simp_all [admits]
  have hconditions : List.lookup "conditions"
      (setField (setField ((asMap old).getD []) "phase" (.str phase)) "conditions"
        (.arr [readyCondition (boolToConditionStatus (phase == "Ready")) now reason message])) =
      some (.arr [readyCondition (boolToConditionStatus (phase == "Ready")) now reason message]) :=
    lookup_setField
  exact ⟨fieldsConform_iff.mpr hfields,
    admissible_of_fields hnow hlength hreason hfields hconditions⟩

theorem inInt32_toInt32 (n : ℤ) : Schema.inInt32 (toInt32 n) = true := by
  unfold Schema.inInt32 toInt32
  rw [decide_eq_true_iff]
  have hlow := Int.le_bmod (x := n) (m := 2 ^ 32) (by decide)
  have hhigh := Int.bmod_lt (x := n) (m := 2 ^ 32) (by decide)
  omega

theorem readyStatus_conforms {ras : AutoScaler} {rbg : RoleBasedGroup} {spec : ParsedSpec}
    {profilingCM : String} (hnow : dateTime now = true) :
    FieldsConform dateTime (some (readyStatus now ras rbg spec profilingCM)) ∧
      Admissible dateTime (some (readyStatus now ras rbg spec profilingCM)) := by
  have hreplicas : ∀ roleName, Schema.inInt32 (getRoleReadyReplicas rbg roleName) = true := by
    intro roleName
    unfold getRoleReadyReplicas
    split
    · rfl
    · split
      · rfl
      · exact inInt32_toInt32 _
  have hfields : FieldsConform dateTime (some (readyStatus now ras rbg spec profilingCM)) := by
    rintro v hv
    obtain rfl := Option.some.inj hv
    simp [statusFields, readyStatus, admits, admitsFields, present, List.lookup_cons, hnow,
      hreplicas, phases]
  have hlength : 1 ≤ "PlannerRunning".length ∧ "PlannerRunning".length ≤ 1024 := by decide
  have hreason : isReason "PlannerRunning" = true := by decide +kernel
  refine ⟨hfields, ?_⟩
  exact @admissible_of_fields _ _ _ true _ _ hnow hlength hreason (fieldsConform_iff.mp hfields) rfl

end Written

/-! ## Requests of a pass -/

/-- A request that stores no status but one whose fields conform. -/
def Conforming (dateTime : String → Bool) (op : KubeOp) : Prop :=
  ∀ obj : AutoScaler, op = .updateStatus obj →
    FieldsConform dateTime obj.status ∧ Admissible dateTime obj.status

def Allowed (dateTime : String → Bool) (key : NamespacedName) (op : KubeOp) : Prop :=
  Permitted key op ∧ Conforming dateTime op

/-- The statuses that an answer shows. -/
def Shows (dateTime : String → Bool) : (op : KubeOp) → KubeResp op → Prop
  | .get .autoScaler _, r => ∀ ras : AutoScaler, r = .ok ras → FieldsConform dateTime ras.status
  | .update .autoScaler _, r => ∀ ras : AutoScaler, r = .ok ras → FieldsConform dateTime ras.status
  | _, _ => True

def Expects (dateTime : String → Bool) (op : KubeOp) (r : KubeResp op) : Prop :=
  op.Keyed r ∧ Shows dateTime op r

abbrev StatusAsks (dateTime : String → Bool) (key : NamespacedName) {α : Type} (Q : α → Prop)
    (x : Kube α) : Prop :=
  Prog.AsksOk (Allowed dateTime key) (Expects dateTime) Q x

section Passes

variable {key : NamespacedName} {ras : AutoScaler} {α β : Type} {Q : α → Prop} {R : β → Prop}

/-- A part of a pass that writes no status. -/
theorem asks_within {x : Kube α} {accesses : List Access}
    (hx : Kube.Asks (Within key accesses) Q x) (hstatus : Access.status ∉ accesses) :
    StatusAsks dateTime key Q x := by
  refine Prog.Asks.assume (Kube.Asks.mono hx (fun op hop => ⟨hop.1, ?_⟩) fun _ h => h)
    fun _ _ h => h.1
  rintro obj rfl
  exact absurd hop.2 hstatus

theorem asks_attempt {x : Kube α} {f : Except ApiError α → Kube β}
    (hx : StatusAsks dateTime key Q x)
    (hf : ∀ r, (∀ a, r = .ok a → Q a) → StatusAsks dateTime key R (f r)) :
    StatusAsks dateTime key R (Kube.attempt x >>= f) :=
  Prog.AsksOk.bind (Q := fun r => ∀ a, r = .ok a → Q a)
    (Prog.Asks.bind hx fun _ hr _ hb => Except.ok.inj hb ▸ hr) hf

/-- A status update, when its status conforms. -/
theorem asks_updateStatus {obj : AutoScaler} (hkey : obj.metadata.key = key)
    (hstatus : FieldsConform dateTime obj.status ∧ Admissible dateTime obj.status) :
    StatusAsks dateTime key (fun _ => True) (do let _ ← Kube.updateStatus obj; return ()) := by
  refine Prog.AsksOk.bind (Q := fun _ => True) ⟨⟨hkey, ?_⟩, fun _ _ _ _ => trivial⟩
    fun _ _ => .pure trivial
  rintro _ ⟨⟩
  exact hstatus

variable (hkey : ras.metadata.key = key) (hras : FieldsConform dateTime ras.status)
  (hnow : dateTime now = true)
include hkey hras hnow

theorem asks_setPhase {phase reason message : String} (hphase : phase ∈ phases)
    (hlength : 1 ≤ reason.length ∧ reason.length ≤ 1024) (hreason : isReason reason = true) :
    StatusAsks dateTime key (fun _ => True) (setPhase now ras phase reason message) :=
  asks_updateStatus hkey (phaseStatus_conforms hras hnow hphase hlength hreason)

theorem asks_reconcileWorkload (spec : ParsedSpec) (rbg : RoleBasedGroup)
    (prefillGPUs decodeGPUs : ℤ) :
    StatusAsks dateTime key (fun _ => True)
      (reconcileWorkload now ras spec rbg prefillGPUs decodeGPUs) := by
  refine asks_attempt (asks_within (asks_handleProfiling hkey spec) (by decide)) fun r _ => ?_
  match r with
  | .error e =>
      refine asks_attempt (Q := fun _ => True) ?_ fun _ _ => .throw
      exact asks_setPhase hkey hras hnow (by decide) (by decide) (by decide +kernel)
  | .ok (_, false) =>
      refine asks_attempt (Q := fun _ => True) ?_ fun _ _ => .pure trivial
      exact asks_setPhase hkey hras hnow (by decide) (by decide) (by decide +kernel)
  | .ok (cm, true) =>
      refine Prog.AsksOk.bind (asks_within
        (asks_ensurePlannerDeployment hkey spec cm _ _) (by decide)) fun _ _ => ?_
      refine Prog.AsksOk.bind (asks_updateStatus hkey (readyStatus_conforms hnow))
        fun _ _ => .pure trivial

theorem asks_targetMissing (e : ApiError) :
    StatusAsks dateTime key (fun _ => True) (targetMissing now ras e) := by
  unfold targetMissing
  split_ifs
  · have hevent : Kube.Asks (Within key [.event]) (fun _ => True)
        (Kube.event "Warning" "RBGNotFound"
          ("RoleBasedGroup " ++ ras.namespaceName ++ "/" ++ ras.name ++ " not found")) :=
      .event ⟨trivial, .head _⟩
    refine Prog.AsksOk.bind (asks_within hevent (by decide)) fun _ _ => ?_
    refine asks_attempt (Q := fun _ => True) ?_ fun _ _ => .pure trivial
    exact asks_setPhase hkey hras hnow (by decide) (by decide) (by decide +kernel)
  · exact .throw

omit hnow in
/-- The object with the finalizer has a status that conforms too. -/
theorem asks_holdFinalizer :
    StatusAsks dateTime key (fun held => held.metadata.key = key ∧
      FieldsConform dateTime held.status) (holdFinalizer ras) := by
  unfold holdFinalizer
  split_ifs
  · exact .pure ⟨hkey, hras⟩
  · refine ⟨⟨⟨.inl rfl, congrArg some hkey.symm⟩, nofun⟩, ?_⟩
    rintro _ ⟨hkeyed, hshows⟩ held rfl
    exact ⟨(hkeyed held rfl).trans hkey, hshows held rfl⟩

theorem asks_reconcileLive (spec : ParsedSpec) :
    StatusAsks dateTime key (fun _ => True) (reconcileLive now ras spec) := by
  refine Prog.AsksOk.bind (asks_holdFinalizer hkey hras) ?_
  rintro held ⟨hheld, hstatus⟩
  have hget : Kube.Asks (Within key [.read .roleBasedGroup]) (fun _ => True)
      (Kube.get .roleBasedGroup (held.sibling held.name)) :=
    (Kube.Asks.get ⟨trivial, .head _⟩).mono (fun _ h => h) fun _ _ => trivial
  refine asks_attempt (asks_within hget (by decide)) fun target _ => ?_
  cases target with
  | error e => exact asks_targetMissing hheld hstatus hnow e
  | ok rbg =>
      refine Prog.AsksOk.bind (asks_within (asks_ensureRBAC hheld) (by decide)) fun _ _ => ?_
      exact asks_reconcileWorkload hheld hstatus hnow spec rbg _ _

omit hkey hras in
theorem asks_pass (r : AutoScalerReconciler) :
    StatusAsks dateTime key (fun _ => True) (r.reconcile now key) := by
  have hget : StatusAsks dateTime key
      (fun ras : AutoScaler => ras.metadata.key = key ∧ FieldsConform dateTime ras.status)
      (Kube.get .autoScaler key) := by
    refine ⟨⟨trivial, nofun⟩, ?_⟩
    rintro _ ⟨hkeyed, hshows⟩ ras rfl
    exact ⟨hkeyed ras rfl, hshows ras rfl⟩
  refine asks_attempt hget fun found hfound => ?_
  cases found with
  | error e =>
      dsimp only
      split_ifs
      · exact .pure trivial
      · exact .throw
  | ok ras =>
      obtain ⟨hkey, hras⟩ := hfound ras rfl
      dsimp only
      split
      · refine Prog.AsksOk.bind (Q := fun _ => True) ?_ fun _ _ => .pure trivial
        exact asks_setPhase hkey hras hnow (by decide) (by decide) (by decide +kernel)
      · split_ifs
        · exact asks_within (asks_finishDeletion hkey) (by decide)
        · exact asks_reconcileLive hkey hras hnow _

end Passes

/-! ## Every run -/

/-- The stored AutoScalers have statuses that conform. -/
def Conforms (dateTime : String → Bool) (s : Cluster) : Prop :=
  ∀ key, ∀ ras : AutoScaler, s.objects .autoScaler key = some ras →
    FieldsConform dateTime ras.status

/-- So it is in every state that can still be seen. -/
def AllConform (dateTime : String → Bool) (c : Cached) : Prop :=
  ∀ s ∈ c.current :: c.past, Conforms dateTime s

/-- The API server lets nobody store another status. All else may change. -/
def Changes (dateTime : String → Bool) (c c' : Cached) : Prop :=
  ∃ next, c' = c.advance next ∧ Conforms dateTime next

/-- A pass starts at a time that is of the format. -/
def Starts (dateTime : String → Bool) (r : AutoScalerReconciler) (key : NamespacedName)
    (p : KubeProg (Except ApiError ReconcileResult)) : Prop :=
  ∃ now, dateTime now = true ∧ p = ExceptT.run (r.reconcile now key)

variable {key : NamespacedName} {c c' : Cached} {s : Cluster}

theorem AllConform.advance {next : Cluster} (hc : AllConform dateTime c)
    (hnext : Conforms dateTime next) : AllConform dateTime (c.advance next) :=
  List.forall_mem_cons.mpr ⟨hnext, hc⟩

/-- What the request of a pass leaves conforms. -/
theorem conforms_serve {op : KubeOp} (hs : Conforms dateTime s) (hop : Allowed dateTime key op) :
    Conforms dateTime (serve now op s).2 := by
  intro place ras hras
  by_cases htarget : op.target = some (.autoScaler, place)
  · cases op with
    | get _ _ => cases htarget
    | event _ _ _ => cases htarget
    | delete k _ =>
        obtain ⟨rfl, -⟩ := Prod.mk.inj (Option.some.inj htarget)
        exact absurd hop.1.1 (by decide)
    | create k obj =>
        obtain ⟨rfl, -⟩ := Prod.mk.inj (Option.some.inj htarget)
        exact absurd rfl hop.1.1
    | update k obj =>
        obtain ⟨rfl, rfl⟩ := Prod.mk.inj (Option.some.inj htarget)
        obtain ⟨stored, hstored, rfl | rfl⟩ := ApiServer.update_same hras
        · exact hs _ _ hstored
        · exact hs _ stored hstored
    | updateStatus obj =>
        obtain rfl : obj.metadata.key = place := congrArg Prod.snd (Option.some.inj htarget)
        obtain ⟨stored, hstored, rfl | rfl⟩ := updateStatus_same hras
        · exact hs _ _ hstored
        · exact (hop.2 obj rfl).1
  · rw [serve_frame htarget] at hras
    exact hs place ras hras

/-- What an answer shows conforms. -/
theorem shows_of_answers (hc : AllConform dateTime c) {op : KubeOp} {r : KubeResp op}
    (hanswer : Cached.Answers op c r c') : Shows dateTime op r := by
  have hget : ∀ s ∈ c.current :: c.past, ∀ place, Shows dateTime (.get .autoScaler place)
      (s.get .autoScaler place) := fun s hs place ras hras =>
    hc s hs place ras (ApiServer.objects_of_get hras)
  cases hanswer with
  | @cached k place _ s hs =>
      cases k with
      | autoScaler => exact hget s (List.mem_cons_of_mem _ hs) place
      | _ => trivial
  | live h =>
      rcases h.elim with ⟨now, rfl, -⟩ | ⟨e, -, hfails, -⟩
      · cases op with
        | get k place =>
            cases k with
            | autoScaler => exact hget _ (List.mem_cons_self ..) place
            | _ => trivial
        | update k obj =>
            cases k with
            | autoScaler =>
                intro ras hras
                obtain ⟨stored, hstored, rfl⟩ := ApiServer.exists_of_update hras
                exact hc _ (List.mem_cons_self ..) _ stored hstored
            | _ => trivial
        | _ => trivial
      · cases op with
        | get k place =>
            cases k with
            | autoScaler =>
                intro ras hras
                cases hfails.symm.trans hras
            | _ => trivial
        | update k obj =>
            cases k with
            | autoScaler =>
                intro ras hras
                cases hfails.symm.trans hras
            | _ => trivial
        | _ => trivial

theorem outline (r : AutoScalerReconciler) :
    Pool.Outline (Starts dateTime r) Cached.Answers (Changes dateTime) (Expects dateTime)
      (fun key _ e => Allowed dateTime key e.1) (AllConform dateTime) fun _ _ _ => True where
  starts := by
    rintro key p ⟨now, hnow, rfl⟩
    have hasks : Prog.Asks (Allowed dateTime key) (Expects dateTime) _
        (ExceptT.run (r.reconcile now key)) := asks_pass hnow r
    exact (hasks.tells (fun _ _ hop => hop) []).mono (fun _ _ h => h) fun _ _ _ => trivial
  empty := fun _ _ => trivial
  valid := fun _ _ _ _ hc hanswer => ⟨hanswer.keyed, shows_of_answers hc hanswer⟩
  env := by
    rintro c _ hc ⟨next, rfl, hnext⟩
    exact ⟨hc.advance hnext, fun _ _ _ => trivial⟩
  acts := by
    rintro key h ⟨op, answer⟩ c c' hc - hallowed hanswer
    refine ⟨?_, trivial, fun _ _ _ _ => trivial⟩
    cases hanswer with
    | cached _ => exact hc
    | live hlive =>
        rcases hlive.state with rfl | ⟨now, rfl⟩
        · exact hc.advance (hc _ (List.mem_cons_self ..))
        · exact hc.advance (conforms_serve (hc _ (List.mem_cons_self ..)) hallowed)

/-- In every run of passes side by side, each status that the operator writes is
one that the API server takes, unless the message of an error is too long for it. -/
theorem statuses_admissible {r : AutoScalerReconciler} {log} {pool : PassPool Cached}
    (hc : AllConform dateTime c)
    (hrun : Pool.Run (Starts dateTime r) Cached.Answers (Changes dateTime) (.idle c) log pool) :
    ∀ o ∈ log, ∀ obj : AutoScaler, o.event.1 = .updateStatus obj →
      Admissible dateTime obj.status :=
  fun o ho obj hobj =>
    (((Pool.sound_idle hc).run (outline r) hrun o ho).2 obj hobj).2

private def falcon : NamespacedName := ⟨"serving", "falcon"⟩

/-- An AutoScaler whose group does not exist. -/
private def falconScaler : AutoScaler where
  metadata := { key := falcon }
  spec := some (.obj [("pattern", .obj [("PDDisaggregated", .obj [])]),
    ("implementation", .obj [("DynamoPlanner", .obj [])])])
  status := none

private def falconCluster : Cluster := ApiServer.empty.put .autoScaler falconScaler

private def falconLog : List (Occurrence NamespacedName KubeOp KubeResp Cached) :=
  Pool.occurrences (Cached.serve "2025-06-01T00:00:00Z") falcon
    (ExceptT.run ((⟨"", "", ""⟩ : AutoScalerReconciler).reconcile "2025-06-01T00:00:00Z" falcon))
    [] ⟨falconCluster, []⟩

private def falconTime (text : String) : Bool := text == "2025-06-01T00:00:00Z"

/-- It is told so by a status that is taken. -/
theorem statuses_admissible_falcon : ∃ o ∈ falconLog, ∃ (obj : AutoScaler) (status : Json),
    o.event.1 = .updateStatus obj ∧ obj.status = some status ∧
      phaseOf obj.status = some (.str "Pending") ∧
        (autoScalerStatus falconTime).admits status = true := by
  have hnew : AllConform falconTime ⟨falconCluster, []⟩ := by
    intro s hs place ras hras
    obtain rfl := List.mem_singleton.mp hs
    by_cases hplace : place = falcon
    · subst hplace
      have hput := @ApiServer.put_same _ Resource _ _ ApiServer.empty .autoScaler falconScaler
      obtain rfl := Option.some.inj (hput.symm.trans hras)
      exact nofun
    · have hempty : falconCluster.objects .autoScaler place = none :=
        ApiServer.put_of_ne fun h => hplace h.2
      cases hempty.symm.trans hras
  have hrun : Pool.Run (Starts falconTime ⟨"", "", ""⟩) Cached.Answers (Changes falconTime)
      (.idle ⟨falconCluster, []⟩) falconLog _ :=
    Pool.run_start (Cached.answers_serve _) ⟨_, by decide, rfl⟩ _
  obtain ⟨o, ho, obj, hobj, hphase, htext⟩ : ∃ o ∈ falconLog, ∃ obj : AutoScaler,
      o.event.1 = .updateStatus obj ∧ phaseOf obj.status = some (.str "Pending") ∧
        messageOf obj.status = some (.str "Waiting for RoleBasedGroup falcon to exist") :=
    ⟨_, List.mem_of_getElem? (rfl : falconLog[4]? = some _), _, rfl, rfl, rfl⟩
  obtain ⟨status, hstatus, hadmits⟩ := statuses_admissible hnew hrun o ho obj hobj
  rw [hstatus] at htext
  exact ⟨o, ho, obj, status, hobj, hstatus, hphase, hadmits.mpr ⟨_, htext, by decide⟩⟩

end RbgPlanner.Properties.ConformingStatus
