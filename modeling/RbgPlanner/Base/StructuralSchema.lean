import RbgPlanner.Base.Json

/-!
# Structural schemas

What an API server does with a custom resource before it stores it: fields
the schema does not declare are pruned, a null field counts as absent, an
absent field with a default takes it, and the result is validated.
-/

namespace RbgPlanner.Base

/-- A structural schema. A property has a name, a default, and a schema. -/
inductive Schema
  | string (enum : List String)
  | integer (int32 : Bool) (minimum : Option ℤ)
  | number
  | boolean
  | object (properties : List (String × Option Json × Schema)) (required : List String)

namespace Schema

/-- A property: its default and its schema. -/
abbrev Property := Option Json × Schema

/-- The value of a field that is neither absent nor null. -/
def present (fields : Json.Fields) (key : String) : Option Json :=
  match fields.lookup key with
  | some .null => none
  | v => v

mutual

/-- Prune and default a value. -/
def complete : Schema → Json → Json
  | object properties _, .obj fields => .obj (completeFields properties fields)
  | _, v => v

/-- The declared fields, each present or at its default. -/
def completeFields : List (String × Property) → Json.Fields → Json.Fields
  | [], _ => []
  | (key, default, schema) :: properties, fields =>
      match (present fields key).or default with
      | some v => (key, schema.complete v) :: completeFields properties fields
      | none => completeFields properties fields

end

def inInt32 (n : ℤ) : Bool := decide (-2147483648 ≤ n ∧ n ≤ 2147483647)

/-- An integral value of an integer field within its format and minimum. -/
def validInteger (int32 : Bool) (minimum : Option ℤ) (n : ℤ) : Bool :=
  (!int32 || inInt32 n) && minimum.all fun m => decide (m ≤ n)

mutual

/-- Validate a completed value. -/
def valid : Schema → Json → Bool
  | string enum, .str s => enum.isEmpty || enum.contains s
  | integer int32 minimum, .int n => validInteger int32 minimum n
  | integer int32 minimum, .float q => q.isInt && validInteger int32 minimum q.num
  | number, .int _ => true
  | number, .float _ => true
  | boolean, .bool _ => true
  | object properties required, .obj fields =>
      required.all (fun key => (fields.lookup key).isSome) && validFields properties fields
  | _, _ => false

def validFields : List (String × Property) → Json.Fields → Bool
  | [], _ => true
  | (key, _, schema) :: properties, fields =>
      (match fields.lookup key with
        | some v => schema.valid v
        | none => true) && validFields properties fields

end

mutual

/-- Whether every default of a schema passes validation. -/
def defaultsValid : Schema → Bool
  | object properties _ => defaultsValidFields properties
  | _ => true

def defaultsValidFields : List (String × Property) → Bool
  | [] => true
  | (_, default, schema) :: properties =>
      default.all schema.valid && schema.defaultsValid && defaultsValidFields properties

end

/-- The value as it is stored, when the server accepts it. -/
def admitted (schema : Schema) (v : Json) : Option Json :=
  if schema.valid (schema.complete v) then some (schema.complete v) else none

theorem admitted_eq_some {schema : Schema} {v stored : Json} :
    schema.admitted v = some stored ↔ schema.valid stored = true ∧ schema.complete v = stored := by
  unfold admitted
  split_ifs with h
  · constructor
    · rintro ⟨⟩
      exact ⟨h, rfl⟩
    · rintro ⟨-, rfl⟩
      rfl
  · constructor
    · rintro ⟨⟩
    · rintro ⟨hvalid, rfl⟩
      exact absurd hvalid h

section Properties

variable {properties : List (String × Property)} {key : String} {default : Option Json}
  {schema : Schema}

theorem lookup_completeFields_eq_none {fields : Json.Fields}
    (h : key ∉ properties.map Prod.fst) :
    (completeFields properties fields).lookup key = none := by
  induction properties with
  | nil => simp [completeFields]
  | cons property properties ih =>
      obtain ⟨name, d, s⟩ := property
      simp only [List.map_cons, List.mem_cons, not_or] at h
      have hname : (key == name) = false := by simpa using h.1
      simp only [completeFields]
      split
      · rw [List.lookup_cons, hname, ih h.2]
      · exact ih h.2

/-- A declared field of a completed object is the given one, or its default. -/
theorem lookup_completeFields {fields : Json.Fields}
    (hnodup : (properties.map Prod.fst).Nodup) (h : (key, default, schema) ∈ properties) :
    (completeFields properties fields).lookup key =
      ((present fields key).or default).map schema.complete := by
  induction properties with
  | nil => simp at h
  | cons property properties ih =>
      obtain ⟨name, d, s⟩ := property
      simp only [List.map_cons, List.nodup_cons] at hnodup
      rcases List.mem_cons.mp h with heq | hmem
      · obtain ⟨rfl, rfl, rfl⟩ : key = name ∧ default = d ∧ schema = s := by simpa using heq
        simp only [completeFields]
        split
        · next v hv => simp [hv]
        · next hv => rw [lookup_completeFields_eq_none hnodup.1, hv, Option.map_none]
      · have hne : (key == name) = false := by
          have hkey : key ∈ properties.map Prod.fst := List.mem_map.mpr ⟨_, hmem, rfl⟩
          simpa using fun heq : key = name => hnodup.1 (heq ▸ hkey)
        simp only [completeFields]
        split
        · rw [List.lookup_cons, hne, ih hnodup.2 hmem]
        · exact ih hnodup.2 hmem

/-- The fields of a valid object are valid. -/
theorem valid_of_lookup {fields : Json.Fields} {v : Json}
    (hvalid : validFields properties fields = true) (h : (key, default, schema) ∈ properties)
    (hv : fields.lookup key = some v) : schema.valid v = true := by
  induction properties with
  | nil => simp at h
  | cons property properties ih =>
      obtain ⟨name, d, s⟩ := property
      simp only [validFields, Bool.and_eq_true] at hvalid
      rcases List.mem_cons.mp h with heq | hmem
      · obtain ⟨rfl, rfl, rfl⟩ : key = name ∧ default = d ∧ schema = s := by simpa using heq
        simpa [hv] using hvalid.1
      · exact ih hvalid.2 hmem

end Properties

/-! ## Objects -/

/-- The field of a submitted value, when it is an object. -/
def presentField (v : Json) (key : String) : Option Json :=
  match v with
  | .obj fields => present fields key
  | _ => none

section Objects

variable {properties : List (String × Property)} {required : List String} {key : String}
  {default : Option Json} {schema : Schema}

/-- What is valid under an object schema is an object with its required fields. -/
theorem valid_object {v : Json} (h : (object properties required).valid v = true) :
    ∃ fields, v = .obj fields ∧ validFields properties fields = true ∧
      ∀ key ∈ required, ∃ w, fields.lookup key = some w := by
  cases v with
  | obj fields =>
      simp only [valid, Bool.and_eq_true, List.all_eq_true] at h
      exact ⟨fields, rfl, h.2, fun key hkey => Option.isSome_iff_exists.mp (h.1 key hkey)⟩
  | _ => simp [valid] at h

/-- A declared field of an accepted object is valid, and is the submitted one or its default. -/
theorem field_of_complete {v : Json} {fields : Json.Fields}
    (hnodup : (properties.map Prod.fst).Nodup) (h : (key, default, schema) ∈ properties)
    (hfields : (object properties required).complete v = .obj fields)
    (hvalid : (object properties required).valid (.obj fields) = true) :
    fields.lookup key = ((presentField v key).or default).map schema.complete ∧
      ∀ w, fields.lookup key = some w → schema.valid w = true := by
  obtain ⟨_, ⟨⟩, hvalidFields, -⟩ := valid_object hvalid
  cases v with
  | obj submitted =>
      obtain rfl : completeFields properties submitted = fields := by
        simpa [complete] using hfields
      exact ⟨lookup_completeFields hnodup h, fun w hw => valid_of_lookup hvalidFields h hw⟩
  | _ => simp [complete] at hfields

end Objects

end Schema

end RbgPlanner.Base
