import RbgPlanner.Api.AutoScalerSchema
import RbgPlanner.Controller.Spec

/-!
# The parser on admitted AutoScalers

The schema's defaults and bounds, seen through `parseRASSpec`: what the parsed
role names and replica bounds are in terms of the submitted spec.
-/

namespace RbgPlanner.Controller

open Base Base.Schema Json Api

/-- The submitted configuration of a role. -/
def submittedRole (v : Json) (role : String) : Option Json :=
  ((presentField v "pattern").bind (presentField · "PDDisaggregated")).bind (presentField · role)

/-- The submitted name of a role. The schema gives both roles the same default. -/
def submittedRoleName (v : Json) (role : String) : String :=
  match (submittedRole v role).bind (presentField · "roleName") with
  | some (.str name) => name
  | _ => "prefill"

variable {v : Json} {fields : Fields}

/-- A map found in an accepted object is the submitted one, completed and accepted. -/
theorem map_of_complete {properties : List (String × Property)} {required : List String}
    {key : String} {child : Schema} {inner : Fields} (hnodup : (properties.map Prod.fst).Nodup)
    (h : (key, none, child) ∈ properties)
    (hfields : (object properties required).complete v = .obj fields)
    (hvalid : (object properties required).valid (.obj fields) = true)
    (hinner : asMap (fields.lookup key) = some inner) :
    ∃ w, presentField v key = some w ∧ child.complete w = .obj inner ∧
      child.valid (.obj inner) = true := by
  have hlookup : fields.lookup key = some (.obj inner) := asMap_eq_some.mp hinner
  obtain ⟨hfield, hfieldValid⟩ := field_of_complete hnodup h hfields hvalid
  rw [hlookup, Option.or_none] at hfield
  obtain ⟨w, hw, hcomplete⟩ := Option.map_eq_some_iff.mp hfield.symm
  exact ⟨w, hw, hcomplete, hfieldValid _ hlookup⟩

/-- The pattern of an admitted spec that parses is the submitted one, completed. -/
theorem pattern_of_admitted {pd : Fields} (hfields : autoScalerSpec.complete v = .obj fields)
    (hvalid : autoScalerSpec.valid (.obj fields) = true)
    (hpd : asMap (lookup (asMap (lookup fields "pattern")) "PDDisaggregated") = some pd) :
    ∃ w, (presentField v "pattern").bind (presentField · "PDDisaggregated") = some w ∧
      pdDisaggregatedPattern.complete w = .obj pd ∧
        pdDisaggregatedPattern.valid (.obj pd) = true := by
  cases hpattern : asMap (lookup fields "pattern") with
  | none => simp [hpattern] at hpd
  | some inner =>
      rw [hpattern] at hpd
      obtain ⟨w, hw, hcomplete, hinner⟩ :=
        map_of_complete (by decide) (by simp : (("pattern", none, pattern) : String × Property) ∈ _)
          hfields hvalid hpattern
      obtain ⟨w', hw', hcomplete', hinner'⟩ :=
        map_of_complete (by decide)
          (by simp : (("PDDisaggregated", none, pdDisaggregatedPattern) : String × Property) ∈ _)
          hcomplete hinner hpd
      exact ⟨w', by rw [hw]; exact hw', hcomplete', hinner'⟩

/-- Each role of such a pattern is the submitted one, completed. -/
theorem role_of_admitted {pd : Fields} (hfields : autoScalerSpec.complete v = .obj fields)
    (hvalid : autoScalerSpec.valid (.obj fields) = true)
    (hpd : asMap (lookup (asMap (lookup fields "pattern")) "PDDisaggregated") = some pd)
    {role : String} (hrole : role ∈ ["decode", "prefill"]) :
    ∃ w inner, submittedRole v role = some w ∧ asMap (lookup pd role) = some inner ∧
      roleScalingConfig.complete w = .obj inner ∧ roleScalingConfig.valid (.obj inner) = true := by
  obtain ⟨w, hw, hcomplete, hpdValid⟩ := pattern_of_admitted hfields hvalid hpd
  obtain ⟨_, ⟨⟩, hroles, hrequired⟩ := valid_object hpdValid
  have hmem : ((role, none, roleScalingConfig) : String × Property) ∈
      [("decode", none, roleScalingConfig), ("prefill", none, roleScalingConfig)] := by
    simpa using hrole
  obtain ⟨x, hx⟩ := hrequired role hrole
  obtain ⟨inner, rfl, -, -⟩ := valid_object (valid_of_lookup hroles hmem hx)
  obtain ⟨w', hw', hcomplete', hinner⟩ :=
    map_of_complete (by decide) hmem hcomplete hpdValid (congrArg asMap hx)
  exact ⟨w', inner, by rw [submittedRole, hw]; exact hw', by rw [lookup, Option.bind_some, hx]; rfl,
    hcomplete', hinner⟩

/-- The name of such a role is the submitted one or the schema's default, and
the parser's own default does not show. -/
theorem roleName_of_complete {w : Json} {inner : Fields}
    (hcomplete : roleScalingConfig.complete w = .obj inner)
    (hvalid : roleScalingConfig.valid (.obj inner) = true) (fallback : String) :
    getStrField (some inner) "roleName" fallback =
      match presentField w "roleName" with
      | some (.str name) => name
      | _ => "prefill" := by
  obtain ⟨hname, hnameValid⟩ := field_of_complete (by decide)
    (by simp : (("roleName", some (.str "prefill"), .string []) : String × Property) ∈ _)
    hcomplete hvalid
  unfold getStrField lookup
  rw [Option.bind_some]
  cases hsubmitted : presentField w "roleName" with
  | none =>
      rw [hname, hsubmitted]
      rfl
  | some x =>
      have hx : inner.lookup "roleName" = some x := by
        rw [hname, hsubmitted]
        simp [Schema.complete]
      have hxValid := hnameValid x hx
      rw [hx]
      cases x with
      | str name => rfl
      | _ => simp [Schema.valid] at hxValid

/-- The two bounds of such a role are at least one and fit 32 bits. -/
theorem replicas_of_valid {inner : Fields}
    (hvalid : roleScalingConfig.valid (.obj inner) = true) {key : String}
    (hkey : key ∈ ["maxReplicas", "minReplicas"]) (fallback : ℤ) :
    1 ≤ toInt32 (getIntField (some inner) key fallback) := by
  obtain ⟨_, ⟨⟩, hroles, hrequired⟩ := valid_object hvalid
  obtain ⟨x, hx⟩ := hrequired key (List.mem_append_left ["roleName"] hkey)
  have hxValid : (integer true (some 1)).valid x = true := by
    rcases List.mem_pair.mp hkey with rfl | rfl
    · exact valid_of_lookup hroles
        (by simp : (("maxReplicas", none, .integer true (some 1)) : String × Property) ∈ _) hx
    · exact valid_of_lookup hroles
        (by simp : (("minReplicas", some (.int 1), .integer true (some 1)) : String × Property) ∈ _)
        hx
  have hrange : ∀ n : ℤ, validInteger true (some 1) n = true → 1 ≤ n ∧ n ≤ 2147483647 := by
    intro n hn
    simp only [validInteger, Bool.not_true, Bool.false_or, inInt32, Option.all_some,
      Bool.and_eq_true, decide_eq_true_eq] at hn
    omega
  have hint : ∀ n : ℤ, 1 ≤ n ∧ n ≤ 2147483647 → 1 ≤ toInt32 n := by
    intro n hn
    have hn' : toInt32 n = n := Int.bmod_eq_of_le (by omega) (by omega)
    omega
  unfold getIntField lookup
  rw [Option.bind_some, hx]
  cases x with
  | int n => exact hint n (hrange n (by simpa [Schema.valid] using hxValid))
  | float q =>
      simp only [Schema.valid, Bool.and_eq_true] at hxValid
      have hq : q = q.num := Rat.eq_num_of_isInt hxValid.1
      have hnum := hrange q.num hxValid.2
      have hfloat : intOfFloat q = q.num := by
        have hnonneg : 0 ≤ q := by
          rw [hq]
          exact_mod_cast zero_le_one.trans hnum.1
        have hfloor : ⌊q⌋ = q.num := by
          rw [hq]
          simp
        simp only [intOfFloat, if_pos hnonneg, hfloor]
        exact if_pos (by omega)
      change 1 ≤ toInt32 (intOfFloat q)
      rw [hfloat]
      exact hint q.num hnum
  | _ => simp [Schema.valid] at hxValid

/-! ## The parsed spec -/

/-- What a spec that parses is made of. -/
theorem parseRASSpec_roles {r : AutoScalerReconciler} {stored : Option Json} {spec : ParsedSpec}
    (h : r.parseRASSpec stored = .ok spec) :
    ∃ fields pd, stored = some (.obj fields) ∧
      asMap (lookup (asMap (lookup fields "pattern")) "PDDisaggregated") = some pd ∧
      spec.scalingInterval = getIntField (some fields) "scalingInterval" 180 ∧
      spec.prefillRoleName = getStrField (asMap (lookup pd "prefill")) "roleName" "prefill" ∧
      spec.decodeRoleName = getStrField (asMap (lookup pd "decode")) "roleName" "decode" ∧
      spec.prefillMinReplicas =
        toInt32 (getIntField (asMap (lookup pd "prefill")) "minReplicas" 1) ∧
      spec.prefillMaxReplicas =
        toInt32 (getIntField (asMap (lookup pd "prefill")) "maxReplicas" 1) ∧
      spec.decodeMinReplicas =
        toInt32 (getIntField (asMap (lookup pd "decode")) "minReplicas" 1) ∧
      spec.decodeMaxReplicas =
        toInt32 (getIntField (asMap (lookup pd "decode")) "maxReplicas" 1) := by
  obtain ⟨fields, rfl, ⟨pd, hpd⟩, dp, hdp⟩ := (parseRASSpec_eq_ok_iff r).mp ⟨spec, h⟩
  refine ⟨fields, pd, rfl, hpd, ?_⟩
  simp only [AutoScalerReconciler.parseRASSpec, requiredMaps, asMap_obj, hpd, hdp, bind,
    Except.bind, pure, Except.pure, Except.ok.injEq] at h
  subst h
  exact ⟨rfl, rfl, rfl, rfl, rfl, rfl, rfl⟩

/-- The role names of an admitted AutoScaler are the submitted ones. -/
theorem roleNames_of_admitted {r : AutoScalerReconciler} {stored : Json} {spec : ParsedSpec}
    (hadmitted : autoScalerSpec.admitted v = some stored)
    (hparse : r.parseRASSpec (some stored) = .ok spec) :
    spec.prefillRoleName = submittedRoleName v "prefill" ∧
      spec.decodeRoleName = submittedRoleName v "decode" := by
  obtain ⟨hvalid, hcomplete⟩ := admitted_eq_some.mp hadmitted
  obtain ⟨fields, pd, hstored, hpd, -, hprefill, hdecode, -⟩ := parseRASSpec_roles hparse
  obtain rfl := Option.some.inj hstored
  have hname : ∀ role ∈ ["decode", "prefill"], ∀ fallback,
      getStrField (asMap (lookup pd role)) "roleName" fallback = submittedRoleName v role := by
    intro role hrole fallback
    obtain ⟨w, inner, hw, hinner, hwComplete, hinnerValid⟩ :=
      role_of_admitted hcomplete hvalid hpd hrole
    rw [hinner, roleName_of_complete hwComplete hinnerValid, submittedRoleName, hw,
      Option.bind_some]
  exact ⟨hprefill.trans (hname _ (by simp) _), hdecode.trans (hname _ (by simp) _)⟩

section Admitted

variable {r : AutoScalerReconciler} {stored : Json} {spec : ParsedSpec}

/-- Its replica bounds are at least one. -/
theorem replicas_of_admitted (hadmitted : autoScalerSpec.admitted v = some stored)
    (hparse : r.parseRASSpec (some stored) = .ok spec) :
    (1 ≤ spec.prefillMinReplicas ∧ 1 ≤ spec.prefillMaxReplicas) ∧
      1 ≤ spec.decodeMinReplicas ∧ 1 ≤ spec.decodeMaxReplicas := by
  obtain ⟨hvalid, hcomplete⟩ := admitted_eq_some.mp hadmitted
  obtain ⟨fields, pd, hstored, hpd, -, -, -, hprefillMin, hprefillMax, hdecodeMin, hdecodeMax⟩ :=
    parseRASSpec_roles hparse
  obtain rfl := Option.some.inj hstored
  have hbound : ∀ role ∈ ["decode", "prefill"], ∀ key ∈ ["maxReplicas", "minReplicas"],
      1 ≤ toInt32 (getIntField (asMap (lookup pd role)) key 1) := by
    intro role hrole key hkey
    obtain ⟨w, inner, -, hinner, -, hinnerValid⟩ := role_of_admitted hcomplete hvalid hpd hrole
    rw [hinner]
    exact replicas_of_valid hinnerValid hkey 1
  rw [hprefillMin, hprefillMax, hdecodeMin, hdecodeMax]
  exact ⟨⟨hbound _ (by simp) _ (by simp), hbound _ (by simp) _ (by simp)⟩,
    hbound _ (by simp) _ (by simp), hbound _ (by simp) _ (by simp)⟩

/-- The submitted scaling interval is zero. An absent one is not. -/
def SubmitsZeroInterval (v : Json) : Prop :=
  presentField v "scalingInterval" = some (.int 0) ∨
    presentField v "scalingInterval" = some (.float 0)

theorem intOfFloat_eq_zero {q : ℚ} (hq : q.isInt = true) : intOfFloat q = 0 ↔ q = 0 := by
  have hcast : q = q.num := Rat.eq_num_of_isInt hq
  rw [intOfFloat, hcast]
  simp only [Int.floor_intCast, Int.ceil_intCast, ite_self, Int.cast_eq_zero]
  split_ifs with hrange
  · rfl
  · constructor <;> intro h <;> omega

/-- The parsed interval of an admitted AutoScaler is zero only when zero was submitted. -/
theorem scalingInterval_of_admitted (hadmitted : autoScalerSpec.admitted v = some stored)
    (hparse : r.parseRASSpec (some stored) = .ok spec) :
    spec.scalingInterval = 0 ↔ SubmitsZeroInterval v := by
  obtain ⟨hvalid, hcomplete⟩ := admitted_eq_some.mp hadmitted
  obtain ⟨fields, pd, hstored, -, hinterval, -⟩ := parseRASSpec_roles hparse
  obtain rfl := Option.some.inj hstored
  obtain ⟨hfield, hfieldValid⟩ := field_of_complete (by decide)
    (by simp : (("scalingInterval", some (.int 180), .integer false none) : String × Property) ∈ _)
    hcomplete hvalid
  rw [hinterval, SubmitsZeroInterval, getIntField, lookup, Option.bind_some]
  cases hsubmitted : presentField v "scalingInterval" with
  | none => simp [hfield, hsubmitted, Schema.complete]
  | some x =>
      have hx : fields.lookup "scalingInterval" = some x := by
        rw [hfield, hsubmitted]
        simp [Schema.complete]
      have hxValid := hfieldValid x hx
      rw [hx]
      cases x with
      | int n => simp
      | float q =>
          simp only [Schema.valid, Bool.and_eq_true] at hxValid
          simpa using intOfFloat_eq_zero hxValid.1
      | _ => simp [Schema.valid] at hxValid

end Admitted

end RbgPlanner.Controller
