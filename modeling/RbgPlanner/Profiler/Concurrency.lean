import RbgPlanner.Profiler.Sweep

/-!
# The concurrencies of a sweep

Up to the granularity every concurrency is measured. Above it the points are
spread evenly from one to the maximum, and cut to integers.
-/

namespace RbgPlanner.Profiler

open Base

/-- What a sweep of that granularity up to a maximum is meant to be. -/
structure SweepShape (granularity maxConcurrency : ℤ) (points : List ℤ) : Prop where
  increasing : points.Pairwise (· < ·)
  length : (points.length : ℤ) = min granularity maxConcurrency
  inRange : ∀ c ∈ points, 1 ≤ c ∧ c ≤ maxConcurrency
  first : 1 ∈ points
  last : 2 ≤ granularity → maxConcurrency ∈ points

variable {granularity maxConcurrency : ℤ}

/-- Mapping over a range of naturals that is read as a list of other numbers. -/
theorem map_castRange {R α : Type} [NatCast R] (f : R → α) (n : ℕ) :
    ((List.range n : List R).map f) = (List.range n).map fun i : ℕ => f i := by
  change ((List.range n).flatMap fun i : ℕ => [(i : R)]).map f = _
  rw [← List.map_eq_flatMap, List.map_map]
  rfl

/-! ## Every concurrency -/

theorem shape_all (hmax : 1 ≤ maxConcurrency) (hfew : maxConcurrency ≤ granularity) :
    SweepShape granularity maxConcurrency
      ((List.range maxConcurrency.toNat).map fun i : ℕ => (i + 1 : ℤ)) where
  increasing := by
    rw [List.pairwise_map]
    exact List.pairwise_lt_range.imp fun {i j} hij => by omega
  length := by
    rw [List.length_map, List.length_range, min_eq_right hfew]
    omega
  inRange := by
    intro c hc
    obtain ⟨i, hi, rfl⟩ := List.mem_map.mp hc
    rw [List.mem_range] at hi
    omega
  first := List.mem_map.mpr ⟨0, List.mem_range.mpr (by omega), rfl⟩
  last := fun _ => List.mem_map.mpr
    ⟨(maxConcurrency - 1).toNat, List.mem_range.mpr (by omega), by omega⟩

/-! ## Spread points -/

/-- The points before duplicates are dropped. -/
def spread (granularity maxConcurrency : ℤ) : List ℤ :=
  (List.range granularity.toNat).map fun i : ℕ =>
    max 1 (truncate (1 + i * ((maxConcurrency - 1 : ℤ) / (granularity - 1 : ℤ) : ℚ)))

theorem truncate_of_nonneg {q : ℚ} (h : 0 ≤ q) : truncate q = ⌊q⌋ := if_pos h

/-- Points that are at least one apart stay apart when they are cut. -/
theorem truncate_lt_truncate {step : ℚ} (hstep : 1 ≤ step) {i j : ℕ} (hij : i < j) :
    truncate (1 + i * step) < truncate (1 + j * step) := by
  have hj : (i : ℚ) + 1 ≤ j := by exact_mod_cast hij
  have hapart : 1 + (i : ℚ) * step + 1 ≤ 1 + j * step := by
    calc 1 + (i : ℚ) * step + 1 ≤ 1 + (i * step + 1 * step) := by linarith
      _ = 1 + (i + 1) * step := by ring
      _ ≤ 1 + j * step := by gcongr
  rw [truncate_of_nonneg (by positivity), truncate_of_nonneg (by positivity)]
  calc ⌊1 + (i : ℚ) * step⌋ < ⌊1 + (i : ℚ) * step⌋ + 1 := lt_add_one _
    _ = ⌊1 + (i : ℚ) * step + 1⌋ := (Int.floor_add_one _).symm
    _ ≤ ⌊1 + (j : ℚ) * step⌋ := Int.floor_le_floor hapart

section Spread

variable (hgranularity : 2 ≤ granularity) (hmany : granularity < maxConcurrency)
include hgranularity

/-- The last of the points is the maximum. -/
theorem truncate_last (hmax : 1 ≤ maxConcurrency) : truncate (1 + ((granularity - 1).toNat : ℚ) *
    ((maxConcurrency - 1 : ℤ) / (granularity - 1 : ℤ) : ℚ)) = maxConcurrency := by
  have hcast : ((granularity - 1).toNat : ℚ) = (granularity - 1 : ℤ) := by
    exact_mod_cast Int.toNat_of_nonneg (by omega : 0 ≤ granularity - 1)
  have hne : ((granularity - 1 : ℤ) : ℚ) ≠ 0 := by exact_mod_cast (by omega : granularity - 1 ≠ 0)
  have hlast : 1 + ((granularity - 1).toNat : ℚ) *
      ((maxConcurrency - 1 : ℤ) / (granularity - 1 : ℤ) : ℚ) = maxConcurrency := by
    rw [hcast, mul_div_cancel₀ _ hne]
    push_cast
    ring
  rw [hlast, truncate_of_nonneg (by exact_mod_cast (by omega : 0 ≤ maxConcurrency)),
    Int.floor_intCast]

include hmany

theorem one_le_step : 1 ≤ ((maxConcurrency - 1 : ℤ) / (granularity - 1 : ℤ) : ℚ) := by
  have hpos : (0 : ℚ) < (granularity - 1 : ℤ) := by exact_mod_cast (by omega : 0 < granularity - 1)
  rw [le_div_iff₀ hpos, one_mul]
  exact_mod_cast (by omega : granularity - 1 ≤ maxConcurrency - 1)

theorem spread_eq : spread granularity maxConcurrency = (List.range granularity.toNat).map
    fun i : ℕ => truncate (1 + i * ((maxConcurrency - 1 : ℤ) / (granularity - 1 : ℤ) : ℚ)) := by
  have hstep := one_le_step hgranularity hmany
  refine List.map_congr_left fun i _ => max_eq_right ?_
  rw [truncate_of_nonneg (by positivity), Int.le_floor]
  push_cast at hstep ⊢
  have : 0 ≤ (i : ℚ) * ((maxConcurrency - 1) / (granularity - 1)) := by positivity
  linarith

theorem shape_spread :
    SweepShape granularity maxConcurrency (spread granularity maxConcurrency) := by
  have hstep := one_le_step hgranularity hmany
  have hlast := truncate_last hgranularity (by omega : 1 ≤ maxConcurrency)
  rw [spread_eq hgranularity hmany]
  generalize ((maxConcurrency - 1 : ℤ) / (granularity - 1 : ℤ) : ℚ) = step at hstep hlast
  have hfirst : truncate (1 + (0 : ℕ) * step) = 1 := by simp [truncate]
  have hmono : ∀ {i j : ℕ}, i ≤ j → truncate (1 + i * step) ≤ truncate (1 + j * step) := by
    intro i j hij
    rcases hij.eq_or_lt with rfl | hlt
    · exact le_rfl
    · exact (truncate_lt_truncate hstep hlt).le
  refine ⟨?_, ?_, ?_, ?_, fun _ => ?_⟩
  · rw [List.pairwise_map]
    exact List.pairwise_lt_range.imp fun {i j} hij => truncate_lt_truncate hstep hij
  · rw [List.length_map, List.length_range, min_eq_left hmany.le]
    omega
  · intro c hc
    obtain ⟨i, hi, rfl⟩ := List.mem_map.mp hc
    rw [List.mem_range] at hi
    exact ⟨hfirst ▸ hmono (Nat.zero_le i), hlast ▸ hmono (by omega)⟩
  · exact List.mem_map.mpr ⟨0, List.mem_range.mpr (by omega), hfirst⟩
  · exact List.mem_map.mpr ⟨_, List.mem_range.mpr (by omega), hlast⟩

/-- Points that are spread over the range are in order and have no duplicates. -/
theorem concurrencyPoints_of_lt :
    concurrencyPoints granularity maxConcurrency = .ok (spread granularity maxConcurrency) := by
  have hincreasing := (shape_spread hgranularity hmany).increasing
  have hdedup : (spread granularity maxConcurrency).dedup = spread granularity maxConcurrency :=
    List.dedup_eq_self.mpr (hincreasing.imp ne_of_lt)
  have hsorted : (spread granularity maxConcurrency).insertionSort (· ≤ ·) =
      spread granularity maxConcurrency := List.Pairwise.insertionSort_eq (hincreasing.imp le_of_lt)
  have hstep : PyFloat.intDiv (maxConcurrency - 1) (granularity - 1) =
      .ok ((maxConcurrency - 1 : ℤ) / (granularity - 1 : ℤ)) := if_neg (by omega)
  have hpoints : concurrencyPoints granularity maxConcurrency =
      .ok ((spread granularity maxConcurrency).dedup.insertionSort (· ≤ ·)) := by
    unfold concurrencyPoints spread
    rw [if_neg (not_le.mpr hmany)]
    refine bind_eq_ok.mpr ⟨_, hstep, ?_⟩
    dsimp only
    rw [map_castRange]
    rfl
  rw [hpoints, hdedup, hsorted]

end Spread

/-- With a granularity from two on there is a sweep, and it has its shape. -/
theorem exists_concurrencyPoints (hgranularity : 2 ≤ granularity) (hmax : 1 ≤ maxConcurrency) :
    ∃ points, concurrencyPoints granularity maxConcurrency = .ok points ∧
      SweepShape granularity maxConcurrency points := by
  by_cases hfew : maxConcurrency ≤ granularity
  · refine ⟨_, ?_, shape_all hmax hfew⟩
    unfold concurrencyPoints
    rw [if_pos hfew, map_castRange]
  · have hmany := not_le.mp hfew
    exact ⟨_, concurrencyPoints_of_lt hgranularity hmany, shape_spread hgranularity hmany⟩

/-- The points of a sweep have its shape. -/
theorem shape_concurrencyPoints {points : List ℤ} (hgranularity : 2 ≤ granularity)
    (hmax : 1 ≤ maxConcurrency) (h : concurrencyPoints granularity maxConcurrency = .ok points) :
    SweepShape granularity maxConcurrency points := by
  obtain ⟨points', hpoints, hshape⟩ := exists_concurrencyPoints hgranularity hmax
  rwa [← Except.ok.inj (hpoints.symm.trans h)]

end RbgPlanner.Profiler
