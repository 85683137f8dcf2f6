import Mathlib.Algebra.Order.Floor.Ring
import Mathlib.Algebra.Order.Field.Basic

/-!
# Sizing a pool of equal units

How many units of one capacity cover a demand, when their number is bounded on
both sides. The demand and the capacity are numbers of any ordered field with
a ceiling.
-/

namespace RbgPlanner.Base.Sizing

variable {α : Type*} [Field α] [LinearOrder α]

/-- The admissible numbers of units whose total capacity covers the demand. -/
def Sufficient (lo hi : ℤ) (demand capacity : α) : Set ℤ :=
  {n | lo ≤ n ∧ n ≤ hi ∧ demand ≤ n * capacity}

/-- The least sufficient number of units, or the upper bound when none is sufficient. -/
def LeastSufficient (lo hi : ℤ) (demand capacity : α) (n : ℤ) : Prop :=
  IsLeast (Sufficient lo hi demand capacity) n ∨
    (Sufficient lo hi demand capacity = ∅ ∧ n = hi)

variable {lo hi n m : ℤ} {demand capacity : α}

/-- A demand has one size. -/
theorem LeastSufficient.unique (hn : LeastSufficient lo hi demand capacity n)
    (hm : LeastSufficient lo hi demand capacity m) : n = m := by
  rcases hn with hleast | ⟨hempty, rfl⟩
  · rcases hm with hleast' | ⟨hempty', -⟩
    · exact hleast.unique hleast'
    · exact absurd hleast.1 (hempty' ▸ Set.notMem_empty n)
  · rcases hm with hleast' | ⟨-, rfl⟩
    · exact absurd hleast'.1 (hempty ▸ Set.notMem_empty m)
    · rfl

variable [IsStrictOrderedRing α] [FloorRing α]

theorem mem_sufficient_iff (hcapacity : 0 < capacity) :
    n ∈ Sufficient lo hi demand capacity ↔ lo ≤ n ∧ n ≤ hi ∧ ⌈demand / capacity⌉ ≤ n := by
  rw [Int.ceil_le, div_le_iff₀ hcapacity]
  rfl

/-- The size is the rounded-up quotient, raised to the lower bound and cut at the upper. -/
theorem leastSufficient_clamp (hcapacity : 0 < capacity) :
    LeastSufficient lo hi demand capacity (min (max ⌈demand / capacity⌉ lo) hi) := by
  by_cases hfits : max ⌈demand / capacity⌉ lo ≤ hi
  · left
    rw [min_eq_left hfits]
    constructor
    · rw [mem_sufficient_iff hcapacity]
      exact ⟨le_max_right _ _, hfits, le_max_left _ _⟩
    · intro m hm
      rw [mem_sufficient_iff hcapacity] at hm
      exact max_le hm.2.2 hm.1
  · right
    refine ⟨Set.eq_empty_of_forall_notMem ?_, min_eq_right (le_of_not_ge hfits)⟩
    intro m hm
    rw [mem_sufficient_iff hcapacity] at hm
    exact hfits ((max_le hm.2.2 hm.1).trans hm.2.1)

theorem leastSufficient_iff (hcapacity : 0 < capacity) :
    LeastSufficient lo hi demand capacity n ↔ min (max ⌈demand / capacity⌉ lo) hi = n := by
  constructor
  · exact (leastSufficient_clamp hcapacity).unique
  · rintro rfl
    exact leastSufficient_clamp hcapacity

/-- The size grows with the quotient of demand and capacity. -/
theorem LeastSufficient.mono {demand' capacity' : α} (hn : LeastSufficient lo hi demand capacity n)
    (hm : LeastSufficient lo hi demand' capacity' m) (hcapacity : 0 < capacity)
    (hcapacity' : 0 < capacity') (hle : demand / capacity ≤ demand' / capacity') : n ≤ m := by
  rw [leastSufficient_iff hcapacity] at hn
  rw [leastSufficient_iff hcapacity'] at hm
  rw [← hn, ← hm]
  exact min_le_min_right _ (max_le_max_right _ (Int.ceil_mono hle))

theorem LeastSufficient.lower_le (hn : LeastSufficient lo hi demand capacity n)
    (hcapacity : 0 < capacity) (hbounds : lo ≤ hi) : lo ≤ n := by
  rw [leastSufficient_iff hcapacity] at hn
  exact hn ▸ le_min (le_max_right _ _) hbounds

/-- The size is the lower bound when that many units cover the demand, or no
other number is admissible. -/
theorem leastSufficient_lower_iff (hcapacity : 0 < capacity) (hbounds : lo ≤ hi) :
    LeastSufficient lo hi demand capacity lo ↔ demand ≤ lo * capacity ∨ hi = lo := by
  rw [leastSufficient_iff hcapacity, ← div_le_iff₀ hcapacity, ← Int.ceil_le]
  omega

/-- No demand has the lower bound for its size. -/
theorem LeastSufficient.eq_lower (hn : LeastSufficient lo hi demand capacity n)
    (hcapacity : 0 < capacity) (hbounds : lo ≤ hi) (hlo : 0 ≤ lo) (hdemand : demand ≤ 0) :
    n = lo := by
  have hcovered : demand ≤ lo * capacity :=
    hdemand.trans (mul_nonneg (by exact_mod_cast hlo) hcapacity.le)
  exact hn.unique ((leastSufficient_lower_iff hcapacity hbounds).mpr (.inl hcovered))

end RbgPlanner.Base.Sizing
