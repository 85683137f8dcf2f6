import RbgPlanner.Base.StructuralSchema

/-!
# Schemas of values

The part of structural schemas that describes a value as it is: lists, numbers
within a format, and strings within a format, a pattern or a length. Undeclared
fields are pruned and a null field is absent, so neither matters.
-/

namespace RbgPlanner.Base

/-- A schema without defaults. Strings and integers are described by what they may be. -/
inductive ValueSchema
  | string (accepts : String → Bool)
  | integer (accepts : ℤ → Bool)
  | array (items : ValueSchema)
  | object (properties : List (String × ValueSchema)) (required : List String)

namespace ValueSchema

open Schema (present)

mutual

/-- Validate a value. -/
def admits : ValueSchema → Json → Bool
  | string accepts, .str s => accepts s
  | integer accepts, .int n => accepts n
  | integer accepts, .float q => q.isInt && accepts q.num
  | array items, .arr values => values.all fun v => items.admits v
  | object properties required, .obj fields =>
      required.all (fun key => (present fields key).isSome) && admitsFields properties fields
  | _, _ => false

def admitsFields : List (String × ValueSchema) → Json.Fields → Bool
  | [], _ => true
  | (key, schema) :: properties, fields =>
      (match present fields key with
        | some v => schema.admits v
        | none => true) && admitsFields properties fields

end

/-- A field that is there has a value of its schema. -/
def FieldAdmits (fields : Json.Fields) (property : String × ValueSchema) : Prop :=
  ∀ v, present fields property.1 = some v → property.2.admits v = true

variable {properties : List (String × ValueSchema)} {required : List String}
  {fields : Json.Fields}

theorem admitsFields_iff :
    admitsFields properties fields = true ↔
      ∀ property ∈ properties, FieldAdmits fields property := by
  induction properties with
  | nil => simp [admitsFields]
  | cons property properties ih =>
      obtain ⟨key, schema⟩ := property
      rw [admitsFields, Bool.and_eq_true, ih, List.forall_mem_cons]
      refine and_congr_left fun _ => ?_
      cases h : present fields key with
      | none => simp [FieldAdmits, h]
      | some v => simp [FieldAdmits, h]

theorem admits_object_iff :
    (object properties required).admits (.obj fields) = true ↔
      (∀ key ∈ required, (present fields key).isSome = true) ∧
        ∀ property ∈ properties, FieldAdmits fields property := by
  rw [admits, Bool.and_eq_true, List.all_eq_true, admitsFields_iff]

end ValueSchema

end RbgPlanner.Base
