import RbgPlanner.Controller.Reconcile

/-!
# Reading a status

The fields of a status that say in which phase an AutoScaler is and since when,
and what they are in the two statuses the operator writes.
-/

namespace RbgPlanner.Controller

open Base Json

/-! ## Fields of a map -/

section Fields

variable {fields : Fields} {key other : String} {value : Json}

@[simp] theorem lookup_setField_same :
    lookup (some (setField fields key value)) key = some value := by
  simp [lookup, setField]

@[simp] theorem lookup_setField_of_ne (h : other ≠ key) :
    lookup (some (setField fields key value)) other = lookup (some fields) other := by
  have hother : (other == key) = false := by simpa using h
  simp only [lookup, setField, Option.bind_some, List.lookup_cons, hother]
  induction fields with
  | nil => rfl
  | cons field fields ih =>
      obtain ⟨name, v⟩ := field
      by_cases hname : name = key
      · simp [hname, hother, List.lookup_cons, ih]
      · have hkept : (name != key) = true := by simpa using hname
        simp only [List.filter_cons, hkept, if_true, List.lookup_cons, ih]

end Fields

/-! ## Fields of a status -/

section Readers

variable (status : Option Json)

def phaseOf : Option Json := lookup (asMap status) "phase"

def lastTransitionTimeOf : Option Json := lookup (asMap status) "lastTransitionTime"

/-- The first condition of type `Ready`. -/
def readyConditionOf : Option Json :=
  match lookup (asMap status) "conditions" with
  | some (.arr conditions) => conditions.find? fun condition =>
      condition.nestedString ["type"] == some "Ready"
  | _ => none

/-- The status of the `Ready` condition. -/
def readyStatusOf : Option Json := lookup (asMap (readyConditionOf status)) "status"

/-- Since when the `Ready` condition has its status. -/
def readyTimeOf : Option Json := lookup (asMap (readyConditionOf status)) "lastTransitionTime"

/-- Why the `Ready` condition has its status. -/
def reasonOf : Option Json := lookup (asMap (readyConditionOf status)) "reason"

end Readers

/-! ## The statuses of the operator -/

section Written

variable (now : String) (old : Option Json) (phase reason message : String)

@[simp] theorem phaseOf_phaseStatus :
    phaseOf (some (phaseStatus now old phase reason message)) = some (.str phase) := by
  simp [phaseOf, phaseStatus]

@[simp] theorem lastTransitionTimeOf_phaseStatus :
    lastTransitionTimeOf (some (phaseStatus now old phase reason message)) =
      lastTransitionTimeOf old := by
  cases h : asMap old with
  | none =>
      have hnil : lookup (some []) "lastTransitionTime" = none := rfl
      simp [lastTransitionTimeOf, phaseStatus, h, hnil]
  | some fields => simp [lastTransitionTimeOf, phaseStatus, h]

@[simp] theorem readyConditionOf_phaseStatus :
    readyConditionOf (some (phaseStatus now old phase reason message)) =
      some (readyCondition (boolToConditionStatus (phase == "Ready")) now reason message) := by
  have htype : (readyCondition (boolToConditionStatus (phase == "Ready")) now reason
      message).nestedString ["type"] = some "Ready" := rfl
  simp [readyConditionOf, phaseStatus, htype]

@[simp] theorem readyStatusOf_phaseStatus :
    readyStatusOf (some (phaseStatus now old phase reason message)) =
      some (.str (boolToConditionStatus (phase == "Ready"))) := by
  rw [readyStatusOf, readyConditionOf_phaseStatus]
  rfl

@[simp] theorem readyTimeOf_phaseStatus :
    readyTimeOf (some (phaseStatus now old phase reason message)) = some (.str now) := by
  rw [readyTimeOf, readyConditionOf_phaseStatus]
  rfl

@[simp] theorem reasonOf_phaseStatus :
    reasonOf (some (phaseStatus now old phase reason message)) = some (.str reason) := by
  rw [reasonOf, readyConditionOf_phaseStatus]
  rfl

/-- Writing the same phase once more at the same time changes nothing. -/
theorem phaseStatus_phaseStatus :
    phaseStatus now (some (phaseStatus now old phase reason message)) phase reason message =
      phaseStatus now old phase reason message := by
  have hfilter : ∀ fields : Fields, List.filter (fun field => field.1 != "conditions" &&
      (field.1 != "phase" && (field.1 != "conditions" && field.1 != "phase"))) fields =
        List.filter (fun field => field.1 != "conditions" && field.1 != "phase") fields := by
    intro fields
    refine List.filter_congr fun field _ => ?_
    cases field.1 != "conditions" <;> cases field.1 != "phase" <;> rfl
  simp [phaseStatus, setField, List.filter_filter, hfilter]

variable (ras : AutoScaler) (rbg : RoleBasedGroup) (spec : ParsedSpec) (profilingCM : String)

@[simp] theorem phaseOf_readyStatus :
    phaseOf (some (readyStatus now ras rbg spec profilingCM)) = some (.str "Ready") := rfl

@[simp] theorem lastTransitionTimeOf_readyStatus :
    lastTransitionTimeOf (some (readyStatus now ras rbg spec profilingCM)) = some (.str now) := rfl

@[simp] theorem readyStatusOf_readyStatus :
    readyStatusOf (some (readyStatus now ras rbg spec profilingCM)) = some (.str "True") := rfl

@[simp] theorem readyTimeOf_readyStatus :
    readyTimeOf (some (readyStatus now ras rbg spec profilingCM)) = some (.str now) := rfl

end Written

end RbgPlanner.Controller
