import Mathlib.Data.List.Chain
import Mathlib.Data.List.Sort
import RbgPlanner.Base.CubicPositivity

/-!
# Cubic splines

Splines through given points, in Hermite form: a slope for each abscissa makes
every piece a cubic. The slopes of the not-a-knot spline are determined by the
points, and the spline is positive exactly when each of its pieces is.
-/

namespace RbgPlanner.Base.CubicSpline

open CubicPositivity

variable {α : Type*} [Field α] [LinearOrder α] [IsStrictOrderedRing α]

/-- The piece between two points. -/
def piece (slope : α → α) (a b : α × α) : Controls α :=
  .hermite (b.1 - a.1) a.2 (slope a.1) b.2 (slope b.1)

/-- The spline at a query, which no abscissa exceeds but the last. -/
def splineValue (slope : α → α) : List (α × α) → α → α
  | [], _ => 0
  | [a], _ => a.2
  | a :: b :: rest, q =>
      if q ≤ b.1 then (piece slope a b).value ((q - a.1) / (b.1 - a.1))
      else splineValue slope (b :: rest) q

/-- The second derivative at the left end of a piece, over six. -/
def leftCurvature (slope : α → α) (a b : α × α) : α :=
  (piece slope a b).leftCurvature / (b.1 - a.1) ^ 2

/-- The second derivative at the right end of a piece, over six. -/
def rightCurvature (slope : α → α) (a b : α × α) : α :=
  (piece slope a b).rightCurvature / (b.1 - a.1) ^ 2

/-- The third derivative of a piece, over six. -/
def jerk (slope : α → α) (a b : α × α) : α := (piece slope a b).jerk / (b.1 - a.1) ^ 3

/-- The second derivative is continuous at the inner points. -/
def Smooth (slope : α → α) : List (α × α) → Prop
  | a :: b :: c :: rest =>
      rightCurvature slope a b = leftCurvature slope b c ∧ Smooth slope (b :: c :: rest)
  | _ => True

/-- From one abscissa to a larger one. -/
abbrev Ascending (points : List (α × α)) : Prop := points.IsChain fun a b => a.1 < b.1

/-- The cubic spline whose third derivative is continuous at the second and at
the last but one point as well. -/
structure NotAKnot (slope : α → α) (points : List (α × α)) : Prop where
  ascending : Ascending points
  smooth : Smooth slope points
  first : ∀ a b c rest, points = a :: b :: c :: rest → jerk slope a b = jerk slope b c
  last : ∀ a b c rest, points = rest ++ [a, b, c] → jerk slope a b = jerk slope b c

/-- Every piece is positive. -/
def PositivePieces (slope : α → α) (points : List (α × α)) : Prop :=
  points.IsChain fun a b => (piece slope a b).Positive

variable {slope slope' : α → α} {a b c : α × α} {points rest : List (α × α)}

/-! ## Positivity -/

omit [IsStrictOrderedRing α] in
theorem splineValue_of_le {q : α} (h : q ≤ b.1) :
    splineValue slope (a :: b :: rest) q = (piece slope a b).value ((q - a.1) / (b.1 - a.1)) :=
  if_pos h

omit [IsStrictOrderedRing α] in
theorem splineValue_of_lt {q : α} (h : b.1 < q) :
    splineValue slope (a :: b :: rest) q = splineValue slope (b :: rest) q :=
  if_neg (not_le.mpr h)

omit [IsStrictOrderedRing α] in
/-- A spline goes through its first point. -/
theorem splineValue_head (hascending : Ascending (a :: rest)) :
    splineValue slope (a :: rest) a.1 = a.2 := by
  cases rest with
  | nil => rfl
  | cons b rest =>
      rw [splineValue_of_le hascending.rel.le, sub_self, zero_div, Controls.value_zero]
      rfl

/-- A piece between positive values is positive on its interval exactly when
its controls are. -/
theorem piece_pos_iff (hab : a.1 < b.1) (ha : 0 < a.2) (hb : 0 < b.2) :
    (∀ q, a.1 ≤ q → q ≤ b.1 → 0 < (piece slope a b).value ((q - a.1) / (b.1 - a.1))) ↔
      (piece slope a b).Positive := by
  have hstep : 0 < b.1 - a.1 := sub_pos.mpr hab
  rw [← Controls.value_pos_iff (c := piece slope a b) ha hb]
  constructor
  · intro hvalue t ht₀ ht₁
    have hquery : (a.1 + t * (b.1 - a.1) - a.1) / (b.1 - a.1) = t := by
      rw [add_sub_cancel_left, mul_div_cancel_right₀ t hstep.ne']
    have hlow : 0 ≤ t * (b.1 - a.1) := mul_nonneg ht₀ hstep.le
    have hhigh : t * (b.1 - a.1) ≤ b.1 - a.1 := mul_le_of_le_one_left hstep.le ht₁
    rw [← hquery]
    exact hvalue _ (by linarith) (by linarith)
  · intro hvalue q hq₀ hq₁
    exact hvalue _ (div_nonneg (by linarith) hstep.le) ((div_le_one hstep).mpr (by linarith))

/-- A spline through positive values is positive between its ends exactly when
its pieces are. -/
theorem splineValue_pos_iff (hascending : Ascending (a :: rest))
    (hpos : ∀ p ∈ a :: rest, 0 < p.2) :
    (∀ q, a.1 ≤ q → (∃ p ∈ a :: rest, q ≤ p.1) → 0 < splineValue slope (a :: rest) q) ↔
      PositivePieces slope (a :: rest) := by
  induction rest generalizing a with
  | nil =>
      refine iff_of_true ?_ (List.isChain_singleton a)
      intro q _ _
      exact hpos a (List.mem_singleton_self a)
  | cons b rest ih =>
      obtain ⟨hab, htail⟩ := List.isChain_cons_cons.mp hascending
      have ha := hpos a List.mem_cons_self
      have hb := hpos b (List.mem_cons_of_mem a List.mem_cons_self)
      have hrest := ih htail fun p hp => hpos p (List.mem_cons_of_mem a hp)
      rw [PositivePieces, List.isChain_cons_cons, ← piece_pos_iff hab ha hb]
      refine Iff.trans ?_ (and_congr_right' hrest)
      constructor
      · intro hvalue
        constructor
        · intro q hq₀ hq₁
          have hspline := hvalue q hq₀ ⟨b, List.mem_cons_of_mem a List.mem_cons_self, hq₁⟩
          rwa [splineValue_of_le hq₁] at hspline
        · rintro q hq₀ ⟨p, hp, hq₁⟩
          rcases hq₀.eq_or_lt with heq | hlt
          · rw [← heq, splineValue_head htail]
            exact hb
          · have hspline := hvalue q (hab.le.trans hq₀) ⟨p, List.mem_cons_of_mem a hp, hq₁⟩
            rwa [splineValue_of_lt hlt] at hspline
      · rintro ⟨hpiece, hspline⟩ q hq₀ ⟨p, hp, hq₁⟩
        rcases le_or_gt q b.1 with hle | hlt
        · rw [splineValue_of_le hle]
          exact hpiece q hq₀ hle
        · rw [splineValue_of_lt hlt]
          rcases List.mem_cons.mp hp with heq | hp
          · rw [heq] at hq₁
            exact absurd (hab.trans hlt) (not_lt.mpr hq₁)
          · exact hspline q hlt.le ⟨p, hp, hq₁⟩

/-! ## The slopes are determined -/

section Unique

variable (hab : a.1 < b.1) (hbc : b.1 < c.1)
include hab hbc

/-- Where two splines through the same points have continuous second
derivatives, their slopes differ by a solution of a homogeneous equation. -/
theorem curvature_difference (h : rightCurvature slope a b = leftCurvature slope b c)
    (h' : rightCurvature slope' a b = leftCurvature slope' b c) :
    (c.1 - b.1) * ((slope a.1 - slope' a.1) + 2 * (slope b.1 - slope' b.1)) +
      (b.1 - a.1) * (2 * (slope b.1 - slope' b.1) + (slope c.1 - slope' c.1)) = 0 := by
  have hleft : b.1 - a.1 ≠ 0 := (sub_pos.mpr hab).ne'
  have hright : c.1 - b.1 ≠ 0 := (sub_pos.mpr hbc).ne'
  simp only [rightCurvature, leftCurvature, piece, Controls.rightCurvature,
    Controls.leftCurvature, Controls.hermite] at h h'
  rw [div_eq_div_iff (pow_ne_zero 2 hleft) (pow_ne_zero 2 hright)] at h h'
  apply mul_left_cancel₀ (mul_ne_zero hleft hright)
  linear_combination 3 * h - 3 * h'

theorem jerk_difference (h : jerk slope a b = jerk slope b c)
    (h' : jerk slope' a b = jerk slope' b c) :
    (c.1 - b.1) ^ 2 * ((slope a.1 - slope' a.1) + (slope b.1 - slope' b.1)) =
      (b.1 - a.1) ^ 2 * ((slope b.1 - slope' b.1) + (slope c.1 - slope' c.1)) := by
  have hleft : b.1 - a.1 ≠ 0 := (sub_pos.mpr hab).ne'
  have hright : c.1 - b.1 ≠ 0 := (sub_pos.mpr hbc).ne'
  simp only [jerk, piece, Controls.jerk, Controls.hermite] at h h'
  rw [div_eq_div_iff (pow_ne_zero 3 hleft) (pow_ne_zero 3 hright)] at h h'
  apply mul_left_cancel₀ (mul_ne_zero hleft hright)
  linear_combination h - h'

end Unique

section Differences

variable {h k ea eb ec : α} (hh : 0 < h) (hk : 0 < k)
  (hcurvature : k * (ea + 2 * eb) + h * (2 * eb + ec) = 0)
include hh hk hcurvature

/-- At an inner point the differences do not shrink to the right if they did not before. -/
theorem abs_le_of_dominated (hdominated : |ea| ≤ |eb|) : |eb| ≤ |ec| := by
  have hscale : 0 < 2 * (h + k) := mul_pos two_pos (add_pos hh hk)
  have hmiddle : 2 * (h + k) * eb = -(k * ea) + -(h * ec) := by linear_combination hcurvature
  have hbound : 2 * (h + k) * |eb| ≤ k * |ea| + h * |ec| := by
    calc 2 * (h + k) * |eb| = |2 * (h + k) * eb| := by rw [abs_mul, abs_of_pos hscale]
      _ ≤ |-(k * ea)| + |-(h * ec)| := hmiddle ▸ abs_add_le _ _
      _ = k * |ea| + h * |ec| := by
          rw [abs_neg, abs_neg, abs_mul, abs_mul, abs_of_pos hh, abs_of_pos hk]
  have hleft : k * |ea| ≤ k * |eb| := mul_le_mul_of_nonneg_left hdominated hk.le
  have hrest : 0 ≤ (h + k) * |eb| := mul_nonneg (add_pos hh hk).le (abs_nonneg _)
  have hscaled : h * |eb| ≤ h * |ec| := by linarith
  exact le_of_mul_le_mul_left hscaled hh

variable (hjerk : k ^ 2 * (ea + eb) = h ^ 2 * (eb + ec))
include hjerk

/-- At the second point they do not shrink either. -/
theorem abs_le_of_first : |eb| ≤ |ec| := by
  have hsum : 0 < h + k := add_pos hh hk
  have hproportion : (h + k) * eb = -(h * ec) := by
    apply mul_left_cancel₀ hsum.ne'
    linear_combination k * hcurvature - hjerk
  have habs : (h + k) * |eb| = h * |ec| := by
    rw [← abs_of_pos hsum, ← abs_mul, hproportion, abs_neg, abs_mul, abs_of_pos hh]
  have hrest : 0 ≤ k * |eb| := mul_nonneg hk.le (abs_nonneg _)
  have hscaled : h * |eb| ≤ h * |ec| := by linarith
  exact le_of_mul_le_mul_left hscaled hh

/-- At the last but one point they shrink to the right, so they are zero. -/
theorem eq_zero_of_last (hdominated : |ea| ≤ |eb|) : eb = 0 ∧ ec = 0 := by
  have hsum : 0 < h + k := add_pos hh hk
  have hproportion : (h + k) * eb = -(k * ea) := by
    apply mul_left_cancel₀ hsum.ne'
    linear_combination h * hcurvature + hjerk
  have habs : (h + k) * |eb| = k * |ea| := by
    rw [← abs_of_pos hsum, ← abs_mul, hproportion, abs_neg, abs_mul, abs_of_pos hk]
  have hleft : k * |ea| ≤ k * |eb| := mul_le_mul_of_nonneg_left hdominated hk.le
  have hzero : eb = 0 := by
    have hscaled : h * |eb| ≤ 0 := by linarith
    exact abs_nonpos_iff.mp (nonpos_of_mul_nonpos_right hscaled hh)
  have hstart : ea = 0 := by
    rw [hzero, abs_zero] at hdominated
    exact abs_nonpos_iff.mp hdominated
  refine ⟨hzero, ?_⟩
  rw [hzero, hstart] at hcurvature
  have hend : h * ec = 0 := by linear_combination hcurvature
  exact (mul_eq_zero.mp hend).resolve_left hh.ne'

end Differences

/-- Slopes that agree at two neighbours agree at the point before. -/
theorem slope_eq_of_next (hab : a.1 < b.1) (hbc : b.1 < c.1)
    (h : rightCurvature slope a b = leftCurvature slope b c)
    (h' : rightCurvature slope' a b = leftCurvature slope' b c) (hb : slope b.1 = slope' b.1)
    (hc : slope c.1 = slope' c.1) : slope a.1 = slope' a.1 := by
  have hcurvature := curvature_difference hab hbc h h'
  rw [hb, hc, sub_self, sub_self] at hcurvature
  have hproduct : (c.1 - b.1) * (slope a.1 - slope' a.1) = 0 := by linear_combination hcurvature
  exact sub_eq_zero.mp ((mul_eq_zero.mp hproduct).resolve_left (sub_pos.mpr hbc).ne')

/-- From a point where the difference of the slopes does not shrink to the last
one, the slopes agree. -/
theorem slopes_eq_of_dominated (hascending : Ascending (a :: b :: c :: rest))
    (hsmooth : Smooth slope (a :: b :: c :: rest)) (hsmooth' : Smooth slope' (a :: b :: c :: rest))
    (hlast : ∀ x y z front, a :: b :: c :: rest = front ++ [x, y, z] →
      jerk slope x y = jerk slope y z)
    (hlast' : ∀ x y z front, a :: b :: c :: rest = front ++ [x, y, z] →
      jerk slope' x y = jerk slope' y z)
    (hdominated : |slope a.1 - slope' a.1| ≤ |slope b.1 - slope' b.1|) :
    ∀ p ∈ b :: c :: rest, slope p.1 = slope' p.1 := by
  obtain ⟨hab, htail⟩ := List.isChain_cons_cons.mp hascending
  have hbc := htail.rel
  have hcurvature := curvature_difference hab hbc hsmooth.1 hsmooth'.1
  induction rest generalizing a b c with
  | nil =>
      have hjerk := jerk_difference hab hbc (hlast a b c [] rfl) (hlast' a b c [] rfl)
      obtain ⟨hb, hc⟩ := eq_zero_of_last (sub_pos.mpr hab) (sub_pos.mpr hbc) hcurvature hjerk
        hdominated
      intro p hp
      rcases List.mem_pair.mp hp with heq | heq
      · rw [heq]
        exact sub_eq_zero.mp hb
      · rw [heq]
        exact sub_eq_zero.mp hc
  | cons d rest ih =>
      obtain ⟨-, htail'⟩ := List.isChain_cons_cons.mp htail
      have hrest := ih htail hsmooth.2 hsmooth'.2
        (fun x y z front hsplit => hlast x y z (a :: front) (congrArg _ hsplit))
        (fun x y z front hsplit => hlast' x y z (a :: front) (congrArg _ hsplit))
        (abs_le_of_dominated (sub_pos.mpr hab) (sub_pos.mpr hbc) hcurvature hdominated)
        hbc htail' htail'.rel (curvature_difference hbc htail'.rel hsmooth.2.1 hsmooth'.2.1)
      intro p hp
      rcases List.mem_cons.mp hp with heq | hp
      · rw [heq]
        exact slope_eq_of_next hbc htail'.rel hsmooth.2.1 hsmooth'.2.1 (hrest c List.mem_cons_self)
          (hrest d (List.mem_cons_of_mem c List.mem_cons_self))
      · exact hrest p hp

/-- The points of a not-a-knot spline determine its slopes. -/
theorem NotAKnot.slopes_eq (h : NotAKnot slope points) (h' : NotAKnot slope' points)
    (hlength : 4 ≤ points.length) : ∀ p ∈ points, slope p.1 = slope' p.1 := by
  obtain ⟨a, b, c, d, rest, rfl⟩ : ∃ a b c d rest, points = a :: b :: c :: d :: rest := by
    match points, hlength with
    | a :: b :: c :: d :: rest, _ => exact ⟨a, b, c, d, rest, rfl⟩
  obtain ⟨hab, htail⟩ := List.isChain_cons_cons.mp h.ascending
  have hbc := htail.rel
  have hcurvature := curvature_difference hab hbc h.smooth.1 h'.smooth.1
  have hjerk := jerk_difference hab hbc (h.first _ _ _ _ rfl) (h'.first _ _ _ _ rfl)
  have hrest := slopes_eq_of_dominated htail h.smooth.2 h'.smooth.2
    (fun x y z front hsplit => h.last x y z (a :: front) (congrArg _ hsplit))
    (fun x y z front hsplit => h'.last x y z (a :: front) (congrArg _ hsplit))
    (abs_le_of_first (sub_pos.mpr hab) (sub_pos.mpr hbc) hcurvature hjerk)
  have hc := hrest c List.mem_cons_self
  have hd := hrest d (List.mem_cons_of_mem c List.mem_cons_self)
  obtain ⟨-, htail'⟩ := List.isChain_cons_cons.mp htail
  have hb := slope_eq_of_next hbc htail'.rel h.smooth.2.1 h'.smooth.2.1 hc hd
  have ha := slope_eq_of_next hab hbc h.smooth.1 h'.smooth.1 hb hc
  intro p hp
  rcases List.mem_cons.mp hp with heq | hp
  · rw [heq]
    exact ha
  · rcases List.mem_cons.mp hp with heq | hp
    · rw [heq]
      exact hb
    · exact hrest p hp

/-! ## Slopes matter at the points only -/

omit [LinearOrder α] [IsStrictOrderedRing α] in
theorem piece_congr (ha : slope a.1 = slope' a.1) (hb : slope b.1 = slope' b.1) :
    piece slope a b = piece slope' a b := by
  simp only [piece, ha, hb]

omit [IsStrictOrderedRing α] in
theorem PositivePieces.congr (hslopes : ∀ p ∈ points, slope p.1 = slope' p.1)
    (h : PositivePieces slope points) : PositivePieces slope' points :=
  List.IsChain.imp_of_mem_imp
    (fun p q hp hq hpositive => piece_congr (hslopes p hp) (hslopes q hq) ▸ hpositive) h

/-! ## The order of the points -/

omit [Field α] [IsStrictOrderedRing α] in
theorem Ascending.pairwise (h : Ascending points) : points.Pairwise fun a b => a.1 < b.1 := by
  have : IsTrans (α × α) fun a b => a.1 < b.1 := ⟨fun _ _ _ => lt_trans⟩
  exact List.isChain_iff_pairwise.mp h

omit [Field α] [IsStrictOrderedRing α] in
/-- Two orders of the same points, both ascending, are equal. -/
theorem Ascending.eq_of_perm {points' : List (α × α)} (h : Ascending points)
    (h' : Ascending points') (hperm : points.Perm points') : points = points' :=
  hperm.eq_of_pairwise (fun _ _ _ _ hab hba => absurd hab hba.not_gt) h.pairwise h'.pairwise

omit [Field α] [IsStrictOrderedRing α] in
/-- The first abscissa is the least one. -/
theorem Ascending.head_le (h : Ascending (a :: rest)) : ∀ p ∈ a :: rest, a.1 ≤ p.1 := by
  intro p hp
  rcases List.mem_cons.mp hp with heq | hp
  · rw [heq]
  · exact (List.rel_of_pairwise_cons h.pairwise hp).le

/-! ## Points on one cubic -/

section Reproduction

variable {P : Cubic α} (hab : a.1 < b.1) (ha : a.2 = value P a.1) (hb : b.2 = value P b.1)
include hab ha hb

/-- A piece between points of a cubic, with its slopes, is the cubic. -/
theorem piece_value_of_cubic (q : α) :
    (piece (derivative P) a b).value ((q - a.1) / (b.1 - a.1)) = value P q := by
  have hstep : b.1 - a.1 ≠ 0 := (sub_pos.mpr hab).ne'
  simp only [piece, Controls.hermite, Controls.value, derivative, ha, hb, value]
  field_simp
  ring

theorem rightCurvature_of_cubic : rightCurvature (derivative P) a b = P.a * b.1 + P.b / 3 := by
  have hstep : b.1 - a.1 ≠ 0 := (sub_pos.mpr hab).ne'
  simp only [rightCurvature, piece, Controls.rightCurvature, Controls.hermite, derivative, ha, hb,
    value]
  field_simp
  ring

theorem leftCurvature_of_cubic : leftCurvature (derivative P) a b = P.a * a.1 + P.b / 3 := by
  have hstep : b.1 - a.1 ≠ 0 := (sub_pos.mpr hab).ne'
  simp only [leftCurvature, piece, Controls.leftCurvature, Controls.hermite, derivative, ha, hb,
    value]
  field_simp
  ring

theorem jerk_of_cubic : jerk (derivative P) a b = P.a := by
  have hstep : b.1 - a.1 ≠ 0 := (sub_pos.mpr hab).ne'
  simp only [jerk, piece, Controls.jerk, Controls.hermite, derivative, ha, hb, value]
  field_simp
  ring

end Reproduction

section OnCubic

variable {P : Cubic α}

theorem smooth_of_cubic (hascending : Ascending points)
    (hon : ∀ p ∈ points, p.2 = value P p.1) : Smooth (derivative P) points := by
  induction points with
  | nil => trivial
  | cons a rest ih =>
      cases rest with
      | nil => trivial
      | cons b rest =>
          cases rest with
          | nil => trivial
          | cons c rest =>
              obtain ⟨hab, htail⟩ := List.isChain_cons_cons.mp hascending
              have ha := hon a (by simp)
              have hb := hon b (by simp)
              have hc := hon c (by simp)
              refine ⟨?_, ih htail fun p hp => hon p (List.mem_cons_of_mem a hp)⟩
              rw [rightCurvature_of_cubic hab ha hb, leftCurvature_of_cubic htail.rel hb hc]

/-- Three neighbours have one third derivative. -/
theorem jerk_eq_of_cubic (hascending : Ascending points)
    (hon : ∀ p ∈ points, p.2 = value P p.1) (front back : List (α × α))
    (h : points = front ++ a :: b :: c :: back) :
    jerk (derivative P) a b = jerk (derivative P) b c := by
  have hsuffix : Ascending (a :: b :: c :: back) := (h ▸ hascending).right_of_append
  obtain ⟨hab, htail⟩ := List.isChain_cons_cons.mp hsuffix
  have ha := hon a (by simp [h])
  have hb := hon b (by simp [h])
  have hc := hon c (by simp [h])
  rw [jerk_of_cubic hab ha hb, jerk_of_cubic htail.rel hb hc]

/-- Points on one cubic have the cubic for their spline. -/
theorem notAKnot_of_cubic (hascending : Ascending points)
    (hon : ∀ p ∈ points, p.2 = value P p.1) : NotAKnot (derivative P) points where
  ascending := hascending
  smooth := smooth_of_cubic hascending hon
  first := fun _ _ _ rest h => jerk_eq_of_cubic hascending hon [] rest h
  last := fun _ _ _ rest h => jerk_eq_of_cubic hascending hon rest [] h

theorem splineValue_of_cubic (hascending : Ascending points)
    (hon : ∀ p ∈ points, p.2 = value P p.1) {q : α} (hfirst : ∃ p ∈ points, p.1 ≤ q)
    (hlast : ∃ p ∈ points, q ≤ p.1) : splineValue (derivative P) points q = value P q := by
  obtain ⟨p, hp, hq⟩ := hlast
  induction points with
  | nil => exact absurd hp List.not_mem_nil
  | cons a rest ih =>
      cases rest with
      | nil =>
          obtain ⟨p', hp', hq'⟩ := hfirst
          rw [List.mem_singleton.mp hp] at hq
          rw [List.mem_singleton.mp hp'] at hq'
          rw [le_antisymm hq hq']
          exact hon a (List.mem_singleton_self a)
      | cons b rest =>
          obtain ⟨hab, htail⟩ := List.isChain_cons_cons.mp hascending
          rcases le_or_gt q b.1 with hle | hlt
          · rw [splineValue_of_le hle]
            exact piece_value_of_cubic hab (hon a (by simp)) (hon b (by simp)) q
          · rw [splineValue_of_lt hlt]
            have hmem : p ∈ b :: rest := by
              rcases List.mem_cons.mp hp with heq | hp
              · rw [heq] at hq
                exact absurd (hab.trans hlt) (not_lt.mpr hq)
              · exact hp
            exact ih htail (fun p hp => hon p (List.mem_cons_of_mem a hp))
              ⟨b, List.mem_cons_self, hlt.le⟩ hmem

end OnCubic

end RbgPlanner.Base.CubicSpline
