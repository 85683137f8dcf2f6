import RbgPlanner.Profiler.Concurrency

/-!
# The shape of a sweep

The concurrencies that the profiler measures, for every granularity and every
maximum from one on. The step between them is divided by one less than the
granularity.
-/

namespace RbgPlanner.Properties.ConcurrencySweep

open Base Profiler

variable {granularity maxConcurrency : ℤ}

/-- There is a sweep, and it has its shape. -/
def WellSwept (granularity maxConcurrency : ℤ) : Prop :=
  ∃ points, concurrencyPoints granularity maxConcurrency = .ok points ∧
    SweepShape granularity maxConcurrency points

/-- With a granularity of one the step is divided by zero, unless the maximum is one too. -/
theorem concurrencyPoints_one (hmany : 1 < maxConcurrency) :
    concurrencyPoints 1 maxConcurrency = .error .zeroDivisionError := by
  unfold concurrencyPoints
  rw [if_neg (not_le.mpr hmany)]
  rfl

theorem wellSwept_one : WellSwept 1 1 :=
  ⟨[1], rfl, by decide, rfl, by decide, by decide, by decide⟩

/-- A sweep of at least one point up to at least one is well-shaped exactly when it
has at least two points or stops at one. -/
theorem wellSwept_iff (hgranularity : 1 ≤ granularity) (hmax : 1 ≤ maxConcurrency) :
    WellSwept granularity maxConcurrency ↔ 2 ≤ granularity ∨ maxConcurrency = 1 := by
  constructor
  · rintro ⟨points, hpoints, -⟩
    by_contra hsingle
    obtain ⟨hone, hmany⟩ := not_or.mp hsingle
    obtain rfl : granularity = 1 := by omega
    rw [concurrencyPoints_one (by omega)] at hpoints
    cases hpoints
  · rintro (htwo | rfl)
    · exact exists_concurrencyPoints htwo hmax
    · rcases hgranularity.eq_or_lt with rfl | htwo
      · exact wellSwept_one
      · exact exists_concurrencyPoints htwo le_rfl

/-- Six points up to the cap. -/
theorem wellSwept_iff_default : WellSwept 6 512 :=
  (wellSwept_iff (by decide) (by decide)).mpr (.inl (by decide))

/-- One point of two concurrencies cannot be chosen. -/
theorem one_of_two_raises :
    concurrencyPoints 1 2 = .error .zeroDivisionError ∧ ¬ WellSwept 1 2 := by
  have hraises := concurrencyPoints_one (by decide : (1 : ℤ) < 2)
  refine ⟨hraises, ?_⟩
  rintro ⟨points, hpoints, -⟩
  rw [hraises] at hpoints
  cases hpoints

end RbgPlanner.Properties.ConcurrencySweep
