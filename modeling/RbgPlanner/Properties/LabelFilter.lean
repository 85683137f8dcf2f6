import RbgPlanner.Base.PromSelector
import RbgPlanner.Planner.Prometheus

/-!
# The model name in a label filter

The adapter writes the model name between the quotes of a matcher as it is. The
schema puts no pattern on the name, and in PromQL a quote ends the value, a
backslash opens an escape and a line break is an error. A filter that is no
selector makes the query fail, and a failed query reads as zero.
-/

namespace RbgPlanner.Properties.LabelFilter

open Base Base.PromSelector Planner

/-- The filter for a name reads as one equality matcher on the model label, for that name. -/
def SelectsName (adapter : PrometheusAdapter) (name : String) : Prop :=
  parse (adapter.buildLabelFilter (some name) none) =
    some [⟨adapter.metrics.modelLabel.toList, .equal, utf8 name.toList⟩]

/-- The filter has the name between double quotes. -/
theorem buildLabelFilter_eq_quoted (adapter : PrometheusAdapter) {name : String}
    (hname : name ≠ "") :
    adapter.buildLabelFilter (some name) none = quoted adapter.metrics.modelLabel name := by
  simp [PrometheusAdapter.buildLabelFilter, quoted, hname, String.append_assoc]

/-- The model label of every adapter is a label name. -/
theorem isLabel_modelLabel {source : String} {adapter : PrometheusAdapter}
    (h : createMetricsAdapter source = .ok adapter) :
    isLabel adapter.metrics.modelLabel = true := by
  have hmodelName : isLabel "model_name" = true := by decide
  have hmodel : isLabel "model" = true := by decide
  simp only [createMetricsAdapter] at h
  split_ifs at h <;> cases h
  · exact hmodelName
  · exact hmodelName
  · exact hmodel
  · exact hmodelName

/-- The filter selects a name exactly when the name has no double quote, no backslash and no
line break. -/
theorem selectsName_iff {source : String} {adapter : PrometheusAdapter} {name : String}
    (hsource : createMetricsAdapter source = .ok adapter) (hname : name ≠ "") :
    SelectsName adapter name ↔ ∀ c ∈ name.toList, c ≠ '"' ∧ c ≠ '\\' ∧ c ≠ '\n' := by
  rw [SelectsName, buildLabelFilter_eq_quoted adapter hname,
    parse_quoted_iff (isLabel_modelLabel hsource)]
  simp [isPlain, and_assoc]

theorem selectsName_iff_qwen :
    SelectsName sglangAdapter "Qwen/Qwen3-0.6B" ↔
      ∀ c ∈ "Qwen/Qwen3-0.6B".toList, c ≠ '"' ∧ c ≠ '\\' ∧ c ≠ '\n' :=
  @selectsName_iff "sglang" sglangAdapter "Qwen/Qwen3-0.6B" rfl (by decide)

/-- A name with quotes in it adds a matcher. -/
theorem quote_adds_matcher :
    parse (sglangAdapter.buildLabelFilter (some "a\",role!=\"b") none) =
        some [⟨"model_name".toList, .equal, utf8 ['a']⟩,
          ⟨"role".toList, .notEqual, utf8 ['b']⟩] ∧
      ¬ SelectsName sglangAdapter "a\",role!=\"b" := by
  have hparse : parse (sglangAdapter.buildLabelFilter (some "a\",role!=\"b") none) =
      some [⟨"model_name".toList, .equal, utf8 ['a']⟩,
        ⟨"role".toList, .notEqual, utf8 ['b']⟩] := by
    rw [buildLabelFilter_eq_quoted sglangAdapter (by decide)]
    decide
  refine ⟨hparse, fun h => ?_⟩
  rw [SelectsName, hparse, Option.some.injEq, List.cons.injEq] at h
  exact List.cons_ne_nil _ _ h.2

end RbgPlanner.Properties.LabelFilter
