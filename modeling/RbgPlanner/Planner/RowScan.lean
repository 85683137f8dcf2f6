import Mathlib.Data.Nat.Find
import RbgPlanner.Planner.DecodeGrid

/-!
# The scan for an ITL target

`find_best_throughput_per_gpu` scans the row of a context length from high to
low KV usage and stops at the first node within the target. The node is the
greatest index that satisfies a predicate, or zero.
-/

namespace RbgPlanner.Planner

open Base

namespace DecodeInterpolator

variable (self : DecodeInterpolator)

/-- The node is within the target. -/
abbrev Meets (itl : PyFloat) (iy ix : ℕ) : Prop := (self.itlInterpolator iy ix).le itl

/-- The last column of a row within the target, or the first column when none is. -/
def bestColumn (itl : PyFloat) (iy : ℕ) : ℕ :=
  Nat.findGreatest (self.Meets itl iy) (self.resolution - 1)

variable {self} {itl itl' : PyFloat} {iy ix : ℕ} {contextLength : PyFloat}

theorem scanRow_succ (itl : PyFloat) (iy n : ℕ) :
    self.scanRow itl iy (n + 1) = self.nodeAt iy (Nat.findGreatest (self.Meets itl iy) n) := by
  induction n with
  | zero =>
      rw [scanRow, scanRow, Nat.findGreatest_zero]
      exact ite_self _
  | succ n ih =>
      rw [scanRow, ih, Nat.findGreatest_succ]
      split_ifs <;> rfl

/-- The search returns the best column of the row that the context length selects. -/
theorem findBestThroughputPerGpu_eq
    (h : self.axisIndex contextLength (self.yi 0) (self.yi 1) = .ok iy) :
    self.findBestThroughputPerGpu itl contextLength =
      .ok (self.nodeAt iy (self.bestColumn itl iy)) := by
  have hlt := axisIndex_lt h
  have hres := self.two_le_resolution
  have hrow : max 0 (min iy (self.resolution - 1)) = iy := by omega
  have hcolumns : self.resolution = self.resolution - 1 + 1 := by omega
  simp only [findBestThroughputPerGpu, h, bind, Except.bind, hrow]
  rw [hcolumns, scanRow_succ]
  rfl

theorem bestColumn_lt (itl : PyFloat) (iy : ℕ) : self.bestColumn itl iy < self.resolution := by
  have hle : self.bestColumn itl iy ≤ self.resolution - 1 := Nat.findGreatest_le _
  have hres := self.two_le_resolution
  omega

/-- A target that admits more has no earlier best column. -/
theorem bestColumn_mono (h : ∀ x : PyFloat, x.le itl → x.le itl') (iy : ℕ) :
    self.bestColumn itl iy ≤ self.bestColumn itl' iy :=
  Nat.findGreatest_mono_left (fun _ => h _) _

end DecodeInterpolator

end RbgPlanner.Planner
