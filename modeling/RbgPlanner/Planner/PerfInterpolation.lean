import Mathlib.Algebra.BigOperators.Group.List.Basic
import RbgPlanner.Base.Interaction
import RbgPlanner.Base.PyFloat

/-!
# Interpolation of profiling data

The two interpolators the planner builds from a profile. SciPy is a
parameter: what its interpolants return between the data points, and when
building them raises, is stated as a hypothesis where a result needs it.
-/

namespace RbgPlanner.Planner

open Base

/-- Interpolation method of `scipy.interpolate.griddata`. -/
inductive GridMethod
  | cubic
  | nearest
  deriving DecidableEq, Repr

/-- The SciPy functions the interpolators call. A call raises, or returns the
interpolant as a function of the query. -/
structure SciPy where
  interp1dCubic : List ℚ → List PyFloat → Except PyExc (PyFloat → PyFloat)
  griddata : GridMethod → List (ℚ × ℚ) → List PyFloat → Except PyExc (ℚ × ℚ → PyFloat)

/-- The built-in `min` of a list, which raises on the empty one. -/
def listMin : List ℚ → Except PyExc ℚ
  | [] => .error .valueError
  | x :: xs => .ok (xs.foldl min x)

/-- The built-in `max` of a list, which raises on the empty one. -/
def listMax : List ℚ → Except PyExc ℚ
  | [] => .error .valueError
  | x :: xs => .ok (xs.foldl max x)

/-! ## Prefill -/

/-- `prefill_raw_data.json`. -/
structure PrefillRawData where
  prefillIsl : List ℚ
  prefillTtft : List PyFloat
  prefillThptPerGpu : List PyFloat
  deriving DecidableEq, Repr

/-- `PrefillInterpolator`: throughput per GPU and TTFT for a given ISL. -/
structure PrefillInterpolator where
  minIsl : ℚ
  maxIsl : ℚ
  ttftInterpolator : PyFloat → PyFloat
  thptInterpolator : PyFloat → PyFloat

namespace PrefillInterpolator

/-- `PrefillInterpolator.__init__` on loaded data. -/
def init (scipy : SciPy) (data : PrefillRawData) : Except PyExc PrefillInterpolator := do
  let minIsl ← listMin data.prefillIsl
  let maxIsl ← listMax data.prefillIsl
  let ttftInterpolator ← scipy.interp1dCubic data.prefillIsl data.prefillTtft
  let thptInterpolator ← scipy.interp1dCubic data.prefillIsl data.prefillThptPerGpu
  return { minIsl, maxIsl, ttftInterpolator, thptInterpolator }

variable (self : PrefillInterpolator)

/-- The query, brought into the profiled range. -/
def clampIsl (isl : PyFloat) : PyFloat :=
  (PyFloat.fin self.minIsl).max (isl.min (.fin self.maxIsl))

def interpolateTtft (isl : PyFloat) : PyFloat := self.ttftInterpolator (self.clampIsl isl)

def interpolateThptPerGpu (isl : PyFloat) : PyFloat := self.thptInterpolator (self.clampIsl isl)

end PrefillInterpolator

/-! ## Decode -/

/-- `decode_raw_data.json`. -/
structure DecodeRawData where
  xKvUsage : List ℚ
  yContextLength : List ℚ
  zItl : List PyFloat
  zThptPerGpu : List PyFloat
  maxKvTokens : ℤ
  deriving DecidableEq, Repr

/-- `np.linspace(0, stop, n)` at index `i`. -/
def linspace (stop : ℚ) (n i : ℕ) : ℚ := stop * i / (n - 1)

/-- `DecodeInterpolator`: ITL and throughput per GPU on a square grid of KV
usage and context length. Surfaces are indexed by row, then column. -/
structure DecodeInterpolator where
  resolution : ℕ
  two_le_resolution : 2 ≤ resolution
  maxContextLength : ℚ
  maxKvTokens : ℤ
  itlInterpolator : ℕ → ℕ → PyFloat
  thptInterpolator : ℕ → ℕ → PyFloat

namespace DecodeInterpolator

/-- One surface: cubic on the grid, nearest at the nodes the cubic leaves as NaN. -/
def fillSurface (scipy : SciPy) (points : List (ℚ × ℚ)) (z : List PyFloat)
    (resolution : ℕ) (stop : ℚ) : Except PyExc (ℕ → ℕ → PyFloat) := do
  let node := fun iy ix => (linspace 1 resolution ix, linspace stop resolution iy)
  let cubic ← scipy.griddata .cubic points z
  let anyNan := (List.range resolution).any fun iy =>
    (List.range resolution).any fun ix => (cubic (node iy ix)).isNan
  if anyNan then
    let nearest ← scipy.griddata .nearest points z
    return fun iy ix =>
      if (cubic (node iy ix)).isNan then nearest (node iy ix) else cubic (node iy ix)
  else return fun iy ix => cubic (node iy ix)

/-- `DecodeInterpolator.__init__` on loaded data. -/
def init (scipy : SciPy) (resolution : ℕ) (two_le_resolution : 2 ≤ resolution)
    (data : DecodeRawData) : Except PyExc DecodeInterpolator := do
  let maxContextLength ← listMax data.yContextLength
  let points := data.xKvUsage.zip data.yContextLength
  let itlInterpolator ← fillSurface scipy points data.zItl resolution maxContextLength
  let thptInterpolator ← fillSurface scipy points data.zThptPerGpu resolution maxContextLength
  return { resolution, two_le_resolution, maxContextLength, maxKvTokens := data.maxKvTokens,
           itlInterpolator, thptInterpolator }

variable (self : DecodeInterpolator)

/-- Column coordinates of the grid. -/
def xi (ix : ℕ) : ℚ := linspace 1 self.resolution ix

/-- Row coordinates of the grid. -/
def yi (iy : ℕ) : ℚ := linspace self.maxContextLength self.resolution iy

/-- Index of the node nearest to `value` on an axis whose first two nodes are
`first` and `second`, clipped to the grid. The quotient is exact: half-way
between two nodes a float quotient can fall short and select the lower one. -/
def axisIndex (value : PyFloat) (first second : ℚ) : Except PyExc ℕ := do
  let steps := (value - .fin first).ieeeDiv (.fin (second - first))
  let index ← (steps.npRound.npClip 0 (self.resolution - 1)).toInt
  return index.toNat

def computeIdx (concurrency contextLength : PyFloat) : Except PyExc (ℕ × ℕ) := do
  let kvUsage ← (concurrency * contextLength).div (.ofInt self.maxKvTokens)
  let ix ← self.axisIndex kvUsage (self.xi 0) (self.xi 1)
  let iy ← self.axisIndex contextLength (self.yi 0) (self.yi 1)
  return (ix, iy)

def interpolateItl (concurrency contextLength : PyFloat) : Except PyExc PyFloat := do
  let (ix, iy) ← self.computeIdx concurrency contextLength
  return self.itlInterpolator iy ix

def interpolateThptPerGpu (concurrency contextLength : PyFloat) : Except PyExc PyFloat := do
  let (ix, iy) ← self.computeIdx concurrency contextLength
  return self.thptInterpolator iy ix

/-- Throughput, ITL and KV usage at one node. -/
def nodeAt (iy ix : ℕ) : PyFloat × PyFloat × ℚ :=
  (self.thptInterpolator iy ix, self.itlInterpolator iy ix, self.xi ix)

/-- The scan of a row over the columns below `n`, from the right; the first
column when none meets the target. -/
def scanRow (itl : PyFloat) (iy : ℕ) : ℕ → PyFloat × PyFloat × ℚ
  | 0 => self.nodeAt iy 0
  | n + 1 => if (self.itlInterpolator iy n).le itl then self.nodeAt iy n else scanRow itl iy n

def findBestThroughputPerGpu (itl contextLength : PyFloat) :
    Except PyExc (PyFloat × PyFloat × ℚ) := do
  let iy ← self.axisIndex contextLength (self.yi 0) (self.yi 1)
  let iy := max 0 (min iy (self.resolution - 1))
  return self.scanRow itl iy self.resolution

end DecodeInterpolator

/-! ## When the interpolators are built -/

/-- Twice the signed area of a triangle. -/
def cross (a b c : ℚ × ℚ) : ℚ := (b.1 - a.1) * (c.2 - a.2) - (c.1 - a.1) * (b.2 - a.2)

/-- Three of the points are not on one line. -/
def Triangulable (points : List (ℚ × ℚ)) : Prop :=
  ∃ a ∈ points, ∃ b ∈ points, ∃ c ∈ points, cross a b c ≠ 0

instance (points : List (ℚ × ℚ)) : Decidable (Triangulable points) :=
  inferInstanceAs (Decidable (∃ a ∈ points, ∃ b ∈ points, ∃ c ∈ points, cross a b c ≠ 0))

/-- When SciPy builds an interpolant: a cubic spline needs four points at
different places, the cubic surface a triangulation, the nearest neighbour a
point. -/
structure SciPy.Builds (scipy : SciPy) : Prop where
  interp1d : ∀ x y, x.length = y.length →
    ((∃ f, scipy.interp1dCubic x y = .ok f) ↔ 4 ≤ x.length ∧ x.Nodup)
  cubic : ∀ points z, points.length = z.length →
    ((∃ f, scipy.griddata .cubic points z = .ok f) ↔ Triangulable points)
  nearest : ∀ points z, points.length = z.length → points ≠ [] →
    ∃ f, scipy.griddata .nearest points z = .ok f

theorem listMin_eq_ok {xs : List ℚ} (h : xs ≠ []) : ∃ x, listMin xs = .ok x := by
  cases xs with
  | nil => exact (h rfl).elim
  | cons x xs => exact ⟨_, rfl⟩

theorem listMax_eq_ok {xs : List ℚ} (h : xs ≠ []) : ∃ x, listMax xs = .ok x := by
  cases xs with
  | nil => exact (h rfl).elim
  | cons x xs => exact ⟨_, rfl⟩

theorem PrefillInterpolator.init_iff {scipy : SciPy} (hscipy : scipy.Builds)
    {data : PrefillRawData} (httft : data.prefillIsl.length = data.prefillTtft.length)
    (hthpt : data.prefillIsl.length = data.prefillThptPerGpu.length) :
    (∃ p, PrefillInterpolator.init scipy data = .ok p) ↔
      4 ≤ data.prefillIsl.length ∧ data.prefillIsl.Nodup := by
  constructor
  · rintro ⟨p, hp⟩
    obtain ⟨_, -, hp⟩ := bind_eq_ok.mp hp
    obtain ⟨_, -, hp⟩ := bind_eq_ok.mp hp
    obtain ⟨f, hf, -⟩ := bind_eq_ok.mp hp
    exact (hscipy.interp1d _ _ httft).mp ⟨f, hf⟩
  · intro h
    have hne : data.prefillIsl ≠ [] := by
      intro hnil
      rw [hnil] at h
      exact absurd h.1 (by decide)
    obtain ⟨minIsl, hmin⟩ := listMin_eq_ok hne
    obtain ⟨maxIsl, hmax⟩ := listMax_eq_ok hne
    obtain ⟨ttft, hf⟩ := (hscipy.interp1d _ _ httft).mpr h
    obtain ⟨thpt, hg⟩ := (hscipy.interp1d _ _ hthpt).mpr h
    exact ⟨_, by rw [PrefillInterpolator.init, hmin, hmax, hf, hg]; rfl⟩

namespace DecodeInterpolator

theorem fillSurface_iff {scipy : SciPy} (hscipy : scipy.Builds) {points : List (ℚ × ℚ)}
    {z : List PyFloat} (hz : points.length = z.length) (resolution : ℕ) (stop : ℚ) :
    (∃ surface, fillSurface scipy points z resolution stop = .ok surface) ↔
      Triangulable points := by
  constructor
  · rintro ⟨surface, hsurface⟩
    obtain ⟨cubic, hcubic, -⟩ := bind_eq_ok.mp hsurface
    exact (hscipy.cubic _ _ hz).mp ⟨cubic, hcubic⟩
  · intro h
    obtain ⟨cubic, hcubic⟩ := (hscipy.cubic _ _ hz).mpr h
    obtain ⟨nearest, hnearest⟩ := hscipy.nearest points z hz
      (by obtain ⟨a, ha, -⟩ := h; exact List.ne_nil_of_mem ha)
    unfold fillSurface
    rw [hcubic, hnearest]
    simp only [bind, Except.bind, pure, Except.pure]
    split_ifs
    · exact ⟨_, rfl⟩
    · exact ⟨_, rfl⟩

theorem init_iff {scipy : SciPy} (hscipy : scipy.Builds) {resolution : ℕ}
    (two_le_resolution : 2 ≤ resolution) {data : DecodeRawData}
    (hy : data.xKvUsage.length = data.yContextLength.length)
    (hitl : data.xKvUsage.length = data.zItl.length)
    (hthpt : data.xKvUsage.length = data.zThptPerGpu.length) :
    (∃ d, init scipy resolution two_le_resolution data = .ok d) ↔
      Triangulable (data.xKvUsage.zip data.yContextLength) := by
  have hpoints : (data.xKvUsage.zip data.yContextLength).length = data.xKvUsage.length := by
    simp [← hy]
  constructor
  · rintro ⟨d, hd⟩
    obtain ⟨_, -, hd⟩ := bind_eq_ok.mp hd
    obtain ⟨surface, hsurface, -⟩ := bind_eq_ok.mp hd
    exact (fillSurface_iff hscipy (hpoints.trans hitl) _ _).mp ⟨surface, hsurface⟩
  · intro h
    have hne : data.yContextLength ≠ [] := by
      obtain ⟨a, ha, -⟩ := h
      exact List.ne_nil_of_mem (List.of_mem_zip ha).2
    obtain ⟨maxContextLength, hmax⟩ := listMax_eq_ok hne
    obtain ⟨itl, hf⟩ :=
      (fillSurface_iff hscipy (hpoints.trans hitl) resolution maxContextLength).mpr h
    obtain ⟨thpt, hg⟩ :=
      (fillSurface_iff hscipy (hpoints.trans hthpt) resolution maxContextLength).mpr h
    exact ⟨_, by simp only [init, hmax, hf, hg, bind, Except.bind]; rfl⟩

end DecodeInterpolator

/-! ## At the data points -/

/-- The interpolant of the data goes through the data. -/
def SciPy.ExactOn (scipy : SciPy) (x : List ℚ) (y : List PyFloat) : Prop :=
  ∀ f, scipy.interp1dCubic x y = .ok f → ∀ q z, (q, z) ∈ x.zip y → f (.fin q) = z

theorem foldl_min_le {α : Type} [LinearOrder α] (xs : List α) (a : α) :
    xs.foldl min a ≤ a ∧ ∀ x ∈ xs, xs.foldl min a ≤ x := by
  induction xs generalizing a with
  | nil => exact ⟨le_rfl, nofun⟩
  | cons y ys ih =>
      obtain ⟨hmin, hrest⟩ := ih (min a y)
      refine ⟨hmin.trans (min_le_left a y), ?_⟩
      intro x hx
      rcases List.mem_cons.mp hx with rfl | hx
      · exact hmin.trans (min_le_right a x)
      · exact hrest x hx

theorem listMin_le {xs : List ℚ} {m : ℚ} (h : listMin xs = .ok m) : ∀ x ∈ xs, m ≤ x := by
  cases xs with
  | nil => cases h
  | cons y ys =>
      cases h
      exact List.forall_mem_cons.mpr (foldl_min_le ys y)

theorem le_listMax {xs : List ℚ} {m : ℚ} (h : listMax xs = .ok m) : ∀ x ∈ xs, x ≤ m := by
  cases xs with
  | nil => cases h
  | cons y ys =>
      cases h
      -- the maximum is the minimum of the dual order
      exact List.forall_mem_cons.mpr (@foldl_min_le ℚᵒᵈ _ ys y)

theorem foldl_min_mem {α : Type} [LinearOrder α] (xs : List α) (a : α) :
    xs.foldl min a ∈ a :: xs := by
  induction xs generalizing a with
  | nil => exact List.mem_singleton_self a
  | cons y ys ih =>
      rw [List.foldl_cons]
      rcases List.mem_cons.mp (ih (min a y)) with hmin | hrest
      · rcases min_choice a y with hchoice | hchoice
        · rw [hmin, hchoice]
          exact List.mem_cons_self
        · rw [hmin, hchoice]
          exact List.mem_cons_of_mem a List.mem_cons_self
      · exact List.mem_cons_of_mem a (List.mem_cons_of_mem y hrest)

theorem listMin_mem {xs : List ℚ} {m : ℚ} (h : listMin xs = .ok m) : m ∈ xs := by
  cases xs with
  | nil => cases h
  | cons y ys =>
      cases h
      exact foldl_min_mem ys y

theorem listMax_mem {xs : List ℚ} {m : ℚ} (h : listMax xs = .ok m) : m ∈ xs := by
  cases xs with
  | nil => cases h
  | cons y ys =>
      cases h
      exact @foldl_min_mem ℚᵒᵈ _ ys y

/-- A data point is inside the profiled range and gives its own throughput. -/
theorem PrefillInterpolator.interpolateThptPerGpu_of_mem {scipy : SciPy} {data : PrefillRawData}
    {p : PrefillInterpolator} (hp : PrefillInterpolator.init scipy data = .ok p)
    (hexact : scipy.ExactOn data.prefillIsl data.prefillThptPerGpu) {q : ℚ} {z : PyFloat}
    (hmem : (q, z) ∈ data.prefillIsl.zip data.prefillThptPerGpu) :
    p.interpolateThptPerGpu (.fin q) = z := by
  obtain ⟨minIsl, hmin, hp⟩ := bind_eq_ok.mp hp
  obtain ⟨maxIsl, hmax, hp⟩ := bind_eq_ok.mp hp
  obtain ⟨_, -, hp⟩ := bind_eq_ok.mp hp
  obtain ⟨f, hf, hp⟩ := bind_eq_ok.mp hp
  cases hp
  have hq : q ∈ data.prefillIsl := (List.of_mem_zip hmem).1
  have hclamp : max minIsl (min q maxIsl) = q := by
    rw [min_eq_left (le_listMax hmax q hq), max_eq_right (listMin_le hmin q hq)]
  simp only [interpolateThptPerGpu, clampIsl, PyFloat.fin_min, PyFloat.fin_max, hclamp]
  exact hexact f hf q z hmem

/-! ## SciPy on small profiles -/

namespace SciPy

/-- The polynomial through the data: for four points, the cubic spline. -/
def polynomial (x : List ℚ) (y : List PyFloat) : PyFloat → PyFloat
  | .fin q => .sum (List.zipWith (fun xi yi =>
      yi * .fin ((x.filter (· ≠ xi)).map fun xj => (q - xj) / (xi - xj)).prod) x y)
  | _ => .nan

/-- The point is in a proper triangle: on one side of its three edges. -/
def inTriangle (a b c p : ℚ × ℚ) : Bool :=
  cross a b c ≠ 0 && ((0 ≤ cross a b p && 0 ≤ cross b c p && 0 ≤ cross c a p) ||
    (cross a b p ≤ 0 && cross b c p ≤ 0 && cross c a p ≤ 0))

/-- A surface that is the same at all points, within their convex hull. -/
def plateau (points : List (ℚ × ℚ)) (z : List PyFloat) (p : ℚ × ℚ) : PyFloat :=
  if points.any fun a => points.any fun b => points.any fun c => inTriangle a b c p then
    z.headD .nan
  else .nan

/-- The value at the nearest point. -/
def nearestValue (z : List PyFloat) (points : List (ℚ × ℚ)) (p : ℚ × ℚ) : PyFloat :=
  let distance := fun (a : ℚ × ℚ) => (a.1 - p.1) ^ 2 + (a.2 - p.2) ^ 2
  match (points.zip z).argmin fun a => distance a.1 with
  | some a => a.2
  | none => .nan

/-- SciPy on profiles with four prefill points and the same readings at every
decode sample. -/
def small : SciPy where
  interp1dCubic := fun x y =>
    if 4 ≤ x.length ∧ x.Nodup then .ok (polynomial x y) else .error .valueError
  griddata := fun
    | .cubic, points, z =>
        if Triangulable points then .ok (plateau points z) else .error .runtimeError
    | .nearest, points, z =>
        if points = [] then .error .valueError else .ok (nearestValue z points)

theorem small_builds : small.Builds where
  interp1d := by
    intro x y _
    by_cases h : 4 ≤ x.length ∧ x.Nodup
    · exact iff_of_true ⟨_, if_pos h⟩ h
    · refine iff_of_false ?_ h
      rintro ⟨f, hf⟩
      cases (if_neg h).symm.trans hf
  cubic := by
    intro points z _
    by_cases h : Triangulable points
    · exact iff_of_true ⟨_, if_pos h⟩ h
    · refine iff_of_false ?_ h
      rintro ⟨f, hf⟩
      cases (if_neg h).symm.trans hf
  nearest := fun points z _ h => ⟨_, if_neg h⟩

theorem small_exactOn {x : List ℚ} {y : List PyFloat}
    (h : ∀ node ∈ x.zip y, polynomial x y (.fin node.1) = node.2) : small.ExactOn x y := by
  intro f hf q z hmem
  change (if 4 ≤ x.length ∧ x.Nodup then .ok (polynomial x y) else _) = Except.ok f at hf
  split_ifs at hf
  cases hf
  exact h (q, z) hmem

end SciPy

end RbgPlanner.Planner
