import RbgPlanner.Base.Json

/-!
# Replacing a value of a document

Pointers into a JSON document, and the `replace` operation of a JSON patch: the
value that a pointer leads to gives way to another one, and nothing else does.
-/

namespace RbgPlanner.Base.Json

/-- One step of a pointer. -/
inductive Step
  | field (name : String)
  | index (i : ℕ)
  deriving DecidableEq, Repr

/-- The way to a value of a document, from its root. -/
abbrev Pointer := List Step

/-- The value that a pointer leads to. -/
def at? : Pointer → Json → Option Json
  | [], v => some v
  | .field name :: path, obj fields => (fields.lookup name).bind (at? path)
  | .index i :: path, arr elems => elems[i]?.bind (at? path)
  | _ :: _, _ => none

/-- Change the value of the field of that name, which must be there. -/
def modifyField (name : String) (f : Json → Option Json) : Fields → Option Fields
  | [] => none
  | (key, v) :: fields =>
      if name == key then (f v).map fun v' => (key, v') :: fields
      else (modifyField name f fields).map ((key, v) :: ·)

/-- Replace the value that a pointer leads to, which must be there. -/
def replace (new : Json) : Pointer → Json → Option Json
  | [], _ => some new
  | .field name :: path, obj fields => (modifyField name (replace new path) fields).map obj
  | .index i :: path, arr elems =>
      elems[i]?.bind fun elem => (replace new path elem).map fun elem' => arr (elems.set i elem')
  | _ :: _, _ => none

/-- Neither pointer leads into the value of the other. -/
def Apart (path other : Pointer) : Prop := ¬ path <+: other ∧ ¬ other <+: path

variable {doc doc' new : Json} {path other : Pointer} {step step' : Step}

@[simp] theorem at?_nil : at? [] doc = some doc := by
  cases doc <;> rfl

/-- A path of field names is a pointer. -/
theorem nested_eq_at? (v : Json) (names : List String) :
    v.nested names = at? (names.map .field) v := by
  induction names generalizing v with
  | nil => simp [nested]
  | cons name names ih =>
      cases v with
      | obj fields =>
          refine congrArg (List.lookup name fields).bind (funext fun v => ?_)
          exact ih v
      | _ => rfl

theorem at?_append (path rest : Pointer) (doc : Json) :
    at? (path ++ rest) doc = (at? path doc).bind (at? rest) := by
  induction path generalizing doc with
  | nil => simp
  | cons step path ih =>
      have ih : at? (path ++ rest) = fun v => (at? path v).bind (at? rest) := funext ih
      cases step with
      | field name => cases doc <;> simp [at?, ih, Option.bind_assoc]
      | index i => cases doc <;> simp [at?, ih, Option.bind_assoc]

/-! ## One field -/

theorem lookup_modifyField {name : String} {f : Json → Option Json} {fields fields' : Fields}
    (h : modifyField name f fields = some fields') (other : String) :
    fields'.lookup other =
      if other = name then (fields.lookup name).bind f else fields.lookup other := by
  induction fields generalizing fields' with
  | nil => cases h
  | cons entry fields ih =>
      obtain ⟨key, v⟩ := entry
      rw [modifyField] at h
      by_cases hkey : name = key
      · subst hkey
        rw [if_pos (beq_self_eq_true name), Option.map_eq_some_iff] at h
        obtain ⟨v', hv', rfl⟩ := h
        split_ifs with hother
        · simp [hother, hv']
        · have hother : (other == name) = false := by simpa using hother
          simp [List.lookup_cons, hother]
      · have hne : (name == key) = false := by simpa using hkey
        rw [hne, if_neg Bool.false_ne_true, Option.map_eq_some_iff] at h
        obtain ⟨rest, hrest, rfl⟩ := h
        rw [List.lookup_cons, List.lookup_cons, List.lookup_cons, ih hrest, hne]
        by_cases hother : other = name
        · subst hother
          simp [hne]
        · simp [hother]

theorem isSome_modifyField {name : String} {f : Json → Option Json} {fields : Fields} :
    (modifyField name f fields).isSome = ((fields.lookup name).bind f).isSome := by
  induction fields with
  | nil => rfl
  | cons entry fields ih =>
      obtain ⟨key, v⟩ := entry
      rw [modifyField, List.lookup_cons]
      cases hkey : name == key with
      | true => simp
      | false => simpa using ih

/-! ## The replaced value -/

/-- A value can be replaced exactly when it is there. -/
theorem isSome_replace : (replace new path doc).isSome = (at? path doc).isSome := by
  induction path generalizing doc with
  | nil => simp [replace]
  | cons step path ih =>
      cases step with
      | field name =>
          cases doc with
          | obj fields =>
              simp only [replace, at?, Option.isSome_map, isSome_modifyField]
              cases fields.lookup name with
              | none => rfl
              | some v => exact ih
          | _ => rfl
      | index i =>
          cases doc with
          | arr elems =>
              simp only [replace, at?]
              cases elems[i]? with
              | none => rfl
              | some elem => simpa using ih
          | _ => rfl

/-- Replacing below a field changes its value and keeps the other fields. -/
theorem replace_field {name : String} (h : replace new (.field name :: path) doc = some doc') :
    ∃ fields fields' v v', doc = obj fields ∧ doc' = obj fields' ∧
      fields.lookup name = some v ∧ replace new path v = some v' ∧
        ∀ other, fields'.lookup other = if other = name then some v' else fields.lookup other := by
  cases doc with
  | obj fields =>
      obtain ⟨fields', hfields, rfl⟩ := Option.map_eq_some_iff.mp h
      obtain ⟨v', hv'⟩ := Option.isSome_iff_exists.mp
        (isSome_modifyField.symm.trans (congrArg Option.isSome hfields))
      obtain ⟨v, hv, hreplaced⟩ := Option.bind_eq_some_iff.mp hv'
      refine ⟨fields, fields', v, v', rfl, rfl, hv, hreplaced, fun other => ?_⟩
      rw [lookup_modifyField hfields, hv']
  | _ => cases h

/-- Replacing below a position changes its element. -/
theorem replace_index {i : ℕ} (h : replace new (.index i :: path) doc = some doc') :
    ∃ elems elem elem', doc = arr elems ∧ doc' = arr (elems.set i elem') ∧
      elems[i]? = some elem ∧ replace new path elem = some elem' := by
  cases doc with
  | arr elems =>
      obtain ⟨elem, helem, hreplaced⟩ := Option.bind_eq_some_iff.mp h
      obtain ⟨elem', helem', rfl⟩ := Option.map_eq_some_iff.mp hreplaced
      exact ⟨elems, elem, elem', rfl, rfl, helem, helem'⟩
  | _ => cases h

/-- Replacing below a pointer is replacing in the value that it leads to. -/
theorem replace_append {rest : Pointer} (h : replace new (path ++ rest) doc = some doc') :
    ∃ v v', at? path doc = some v ∧ replace new rest v = some v' ∧ at? path doc' = some v' := by
  induction path generalizing doc doc' with
  | nil => exact ⟨doc, doc', at?_nil, h, at?_nil⟩
  | cons step path ih =>
      cases step with
      | field name =>
          obtain ⟨fields, fields', w, w', rfl, rfl, hw, hreplaced, hfields⟩ := replace_field h
          obtain ⟨v, v', hv, hnew, hv'⟩ := ih hreplaced
          refine ⟨v, v', ?_, hnew, ?_⟩
          · rw [at?, hw]
            exact hv
          · rw [at?, hfields, if_pos rfl]
            exact hv'
      | index i =>
          obtain ⟨elems, elem, elem', rfl, rfl, helem, hreplaced⟩ := replace_index h
          obtain ⟨v, v', hv, hnew, hv'⟩ := ih hreplaced
          have hi : i < elems.length := (List.getElem?_eq_some_iff.mp helem).1
          refine ⟨v, v', ?_, hnew, ?_⟩
          · rw [at?, helem]
            exact hv
          · rw [at?, List.getElem?_set_self hi]
            exact hv'

/-- The pointer leads to the new value. -/
theorem at?_replace (h : replace new path doc = some doc') : at? path doc' = some new := by
  rw [← List.append_nil path] at h
  obtain ⟨v, v', -, hnew, hv'⟩ := replace_append h
  exact hv'.trans hnew.symm

/-! ## The other values -/

theorem apart_cons : Apart (step :: path) (step' :: other) ↔ step = step' → Apart path other := by
  by_cases hstep : step = step'
  · subst hstep
    simp [Apart, List.cons_prefix_cons]
  · simp [Apart, List.cons_prefix_cons, hstep, Ne.symm hstep]

/-- Pointers that are apart lead to what they led to. -/
theorem at?_replace_of_apart (h : replace new path doc = some doc') (hapart : Apart path other) :
    at? other doc' = at? other doc := by
  induction path generalizing doc doc' other with
  | nil => exact absurd List.nil_prefix hapart.1
  | cons step path ih =>
      cases other with
      | nil => exact absurd List.nil_prefix hapart.2
      | cons step' other =>
          rw [apart_cons] at hapart
          cases step with
          | field name =>
              obtain ⟨fields, fields', v, v', rfl, rfl, hv, hreplaced, hfields⟩ := replace_field h
              cases step' with
              | index i => rfl
              | field name' =>
                  rw [at?, at?, hfields]
                  split_ifs with hname
                  · subst hname
                    rw [hv]
                    exact ih hreplaced (hapart rfl)
                  · rfl
          | index i =>
              obtain ⟨elems, elem, elem', rfl, rfl, helem, hreplaced⟩ := replace_index h
              cases step' with
              | field name => rfl
              | index j =>
                  rw [at?, at?]
                  by_cases hij : i = j
                  · subst hij
                    have hi : i < elems.length := (List.getElem?_eq_some_iff.mp helem).1
                    rw [List.getElem?_set_self hi, helem]
                    exact ih hreplaced (hapart rfl)
                  · rw [List.getElem?_set_ne hij]

end RbgPlanner.Base.Json
