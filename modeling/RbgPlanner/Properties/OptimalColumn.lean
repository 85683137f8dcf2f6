import RbgPlanner.Planner.RowScan

/-!
# The optimal column

`find_best_throughput_per_gpu` is documented to find the highest throughput
within the ITL target, and stops at the highest KV usage within it. This
module decides for which rows that is the same.
-/

namespace RbgPlanner.Properties.OptimalColumn

open Base Planner

variable {self : DecodeInterpolator} {target contextLength : PyFloat} {iy : ℕ}

end RbgPlanner.Properties.OptimalColumn
