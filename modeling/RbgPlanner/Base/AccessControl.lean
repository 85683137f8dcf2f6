import Mathlib.Data.List.DropRight

/-!
# Role-based access control

Rules name verbs, API groups and resources. A principal is allowed what one of
its rules allows, and may hand on a role only when it covers the rules of it.
-/

namespace RbgPlanner.Base.AccessControl

/-- What a request wants to do. A subresource is part of the name of the resource. -/
structure Attributes where
  verb : String
  apiGroup : String
  resource : String
  deriving DecidableEq, Repr

structure Rule where
  verbs : List String
  apiGroups : List String
  resources : List String
  deriving DecidableEq, Repr

/-- The list has the name, or the star that stands for every name. -/
def names (list : List String) (name : String) : Bool := list.contains "*" || list.contains name

/-- What stands for a resource in a list of resources: `*/status` for a
subresource of any resource, the star for what is no subresource. -/
def pattern (resource : String) : String :=
  String.ofList ('*' :: resource.toList.dropWhile (· ≠ '/'))

def namesResource (list : List String) (resource : String) : Bool :=
  names list resource || list.contains (pattern resource)

def Rule.allows (rule : Rule) (a : Attributes) : Bool :=
  names rule.verbs a.verb && names rule.apiGroups a.apiGroup &&
    namesResource rule.resources a.resource

def authorized (rules : List Rule) (a : Attributes) : Bool := rules.any fun rule => rule.allows a

/-- A rule in single permissions. -/
def Rule.breakdown (rule : Rule) : List Attributes :=
  rule.verbs.flatMap fun verb => rule.apiGroups.flatMap fun apiGroup =>
    rule.resources.map fun resource => ⟨verb, apiGroup, resource⟩

/-- Every single permission of the role is held. -/
def covers (held role : List Rule) : Bool :=
  role.all fun rule => rule.breakdown.all (authorized held)

theorem names_iff {list : List String} {name : String} :
    names list name = true ↔ "*" ∈ list ∨ name ∈ list := by
  simp [names]

theorem names_of_mem {list : List String} {name : String} (h : name ∈ list) :
    names list name = true :=
  names_iff.mpr (.inr h)

theorem mem_breakdown {rule : Rule} {a : Attributes} :
    a ∈ rule.breakdown ↔ a.verb ∈ rule.verbs ∧ a.apiGroup ∈ rule.apiGroups ∧
      a.resource ∈ rule.resources := by
  simp only [Rule.breakdown, List.mem_flatMap, List.mem_map]
  constructor
  · rintro ⟨verb, hverb, apiGroup, hgroup, resource, hresource, rfl⟩
    exact ⟨hverb, hgroup, hresource⟩
  · rintro ⟨hverb, hgroup, hresource⟩
    exact ⟨_, hverb, _, hgroup, _, hresource, rfl⟩

theorem authorized_iff {rules : List Rule} {a : Attributes} :
    authorized rules a = true ↔ ∃ rule ∈ rules, rule.allows a = true := by
  simp [authorized]

/-- The name, or the star, through which a list names something. -/
theorem exists_of_names {list : List String} {name : String} (h : names list name = true) :
    ∃ listed ∈ list, ∀ other, names other listed = true → names other name = true := by
  rcases names_iff.mp h with hstar | hname
  · refine ⟨"*", hstar, fun other hother => names_iff.mpr (.inl ?_)⟩
    exact (names_iff.mp hother).elim id id
  · exact ⟨name, hname, fun _ hother => hother⟩

theorem namesResource_iff {list : List String} {resource : String} :
    namesResource list resource = true ↔
      "*" ∈ list ∨ resource ∈ list ∨ pattern resource ∈ list := by
  simp [namesResource, names_iff, or_assoc]

theorem namesResource_of_mem {list : List String} {resource : String} (h : resource ∈ list) :
    namesResource list resource = true :=
  namesResource_iff.mpr (.inr (.inl h))

theorem pattern_star : pattern "*" = "*" := by decide

/-- A pattern stands for itself. -/
theorem pattern_pattern (resource : String) : pattern (pattern resource) = pattern resource := by
  unfold pattern
  rw [String.toList_ofList, List.dropWhile_cons_of_pos (by decide),
    List.dropWhile_idempotent]

/-- What is named through its pattern is named wherever the pattern is. -/
theorem exists_of_namesResource {list : List String} {resource : String}
    (h : namesResource list resource = true) :
    ∃ listed ∈ list, ∀ other, namesResource other listed = true →
      namesResource other resource = true := by
  rcases namesResource_iff.mp h with hstar | hname | hpattern
  · refine ⟨"*", hstar, fun other hother => namesResource_iff.mpr (.inl ?_)⟩
    rcases namesResource_iff.mp hother with h | h | h
    · exact h
    · exact h
    · rwa [pattern_star] at h
  · exact ⟨resource, hname, fun _ hother => hother⟩
  · refine ⟨_, hpattern, fun other hother => namesResource_iff.mpr ?_⟩
    rcases namesResource_iff.mp hother with h | h | h
    · exact .inl h
    · exact .inr (.inr h)
    · rw [pattern_pattern] at h
      exact .inr (.inr h)

/-- The check on single permissions is about all that a role allows. -/
theorem covers_iff {held role : List Rule} :
    covers held role = true ↔ ∀ a, authorized role a = true → authorized held a = true := by
  constructor
  · intro h a ha
    obtain ⟨rule, hrule, hallows⟩ := authorized_iff.mp ha
    simp only [Rule.allows, Bool.and_eq_true] at hallows
    obtain ⟨⟨hverb, hgroup⟩, hresource⟩ := hallows
    obtain ⟨verb, hverb, hverb'⟩ := exists_of_names hverb
    obtain ⟨group, hgroup, hgroup'⟩ := exists_of_names hgroup
    obtain ⟨resource, hresource, hresource'⟩ := exists_of_namesResource hresource
    have hheld : authorized held ⟨verb, group, resource⟩ = true :=
      List.all_eq_true.mp (List.all_eq_true.mp h rule hrule) _
        (mem_breakdown.mpr ⟨hverb, hgroup, hresource⟩)
    obtain ⟨holder, hholder, hallows⟩ := authorized_iff.mp hheld
    simp only [Rule.allows, Bool.and_eq_true] at hallows
    refine authorized_iff.mpr ⟨holder, hholder, ?_⟩
    simp only [Rule.allows, Bool.and_eq_true]
    exact ⟨⟨hverb' _ hallows.1.1, hgroup' _ hallows.1.2⟩, hresource' _ hallows.2⟩
  · intro h
    refine List.all_eq_true.mpr fun rule hrule => List.all_eq_true.mpr fun a ha => ?_
    obtain ⟨hverb, hgroup, hresource⟩ := mem_breakdown.mp ha
    refine h a (authorized_iff.mpr ⟨rule, hrule, ?_⟩)
    simp [Rule.allows, names_of_mem hverb, names_of_mem hgroup, namesResource_of_mem hresource]

end RbgPlanner.Base.AccessControl
