import Mathlib.Data.Rat.Defs

/-!
# JSON values

Decoded JSON as a Kubernetes client holds it: integers apart from other
numbers, objects as maps. A map that is absent is `none`, as a nil map is, and
reading it finds nothing.
-/

namespace RbgPlanner.Base

/-- A decoded JSON value. Of two fields with one name the first one counts. -/
inductive Json
  | null
  | bool (b : Bool)
  | int (n : ℤ)
  | float (q : ℚ)
  | str (s : String)
  | arr (elems : List Json)
  | obj (fields : List (String × Json))
  deriving Repr

namespace Json

/-- The content of an object. -/
abbrev Fields := List (String × Json)

/-- `v.(map[string]interface{})`. -/
def asMap : Option Json → Option Fields
  | some (obj fields) => some fields
  | _ => none

/-- `m[key]`. -/
def lookup (m : Option Fields) (key : String) : Option Json := m.bind (List.lookup key)

@[simp] theorem asMap_obj (fields : Fields) : asMap (some (obj fields)) = some fields := rfl
@[simp] theorem asMap_none : asMap none = none := rfl
@[simp] theorem lookup_none (key : String) : lookup none key = none := rfl

theorem asMap_eq_some {v : Option Json} {fields : Fields} :
    asMap v = some fields ↔ v = some (obj fields) := by
  rcases v with _ | v
  · simp
  · cases v <;> simp [asMap]

/-- The value under a path of field names, in an object. -/
def nested : Json → List String → Option Json
  | v, [] => some v
  | obj fields, key :: path => (List.lookup key fields).bind fun v => nested v path
  | _, _ :: _ => none

/-- `unstructured.NestedSlice`; a value of another kind counts as not found. -/
def nestedSlice (v : Json) (path : List String) : Option (List Json) :=
  match v.nested path with
  | some (arr elems) => some elems
  | _ => none

/-- `unstructured.NestedString`. -/
def nestedString (v : Json) (path : List String) : Option String :=
  match v.nested path with
  | some (str s) => some s
  | _ => none

/-- `unstructured.NestedInt64`. -/
def nestedInt (v : Json) (path : List String) : Option ℤ :=
  match v.nested path with
  | some (int n) => some n
  | _ => none

end Json

end RbgPlanner.Base
