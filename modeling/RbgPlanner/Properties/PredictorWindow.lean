import Mathlib.Data.List.DropRight
import RbgPlanner.Planner.LoadPredictor

/-!
# The window of a predictor

ARIMA and Prophet keep a window of the values that they are fed, trimmed by a
slice with a negative index. This module follows the buffer through a sequence
of data points, for every window size.
-/

namespace RbgPlanner.Properties.PredictorWindow

open Base Planner LoadPredictor

/-! ## The law -/

/-- The data points as they count: NaN is zero, and leading zeros are dropped. -/
def history (xs : List PyFloat) : List PyFloat := (xs.map cleanValue).dropWhile (· == .fin 0)

/-- The values that a window of that size is for. -/
def window (windowSize : ℤ) (xs : List PyFloat) : List PyFloat :=
  (history xs).rtake (max windowSize 0).toNat

/-- The predictor after a sequence of data points. -/
def feed (predictor : LoadPredictor) (xs : List PyFloat) : LoadPredictor :=
  xs.foldl addDataPoint predictor

/-- The entries have consecutive stamps, the last of them one before `currStep`,
which is the stamp that `predictNext` forecasts. -/
def Stamped (entries : List (ℤ × PyFloat)) (currStep : ℤ) : Prop :=
  entries.map Prod.fst =
    (List.range entries.length).map fun i : ℕ => currStep - entries.length + i

/-- Both predictors have the window in their buffers, and Prophet has it stamped. -/
structure WindowLaw (windowSize : ℤ) (xs : List PyFloat) : Prop where
  arima : feed (.arima windowSize []) xs = .arima windowSize (window windowSize xs)
  prophet : ∃ entries currStep, feed (.prophet windowSize [] 0) xs =
    .prophet windowSize entries currStep ∧ entries.map Prod.snd = window windowSize xs ∧
      Stamped entries currStep

/-! ## The history -/

theorem history_concat (xs : List PyFloat) (x : PyFloat) :
    history (xs ++ [x]) = appendValue (history xs) x := by
  unfold history appendValue
  rw [List.map_append, List.dropWhile_append]
  dsimp only
  cases hhistory : (xs.map cleanValue).dropWhile (· == .fin 0) with
  | nil =>
      simp only [List.isEmpty_nil, if_true, Bool.true_and, List.map_cons, List.map_nil,
        List.dropWhile_cons, List.dropWhile_nil, List.nil_append]
  | cons y ys => simp

/-- There is no history as long as nothing but NaN and zeros came. -/
theorem history_eq_nil_iff {xs : List PyFloat} :
    history xs = [] ↔ ∀ x ∈ xs, x = .nan ∨ x = .fin 0 := by
  have hclean : ∀ x : PyFloat, cleanValue x = .fin 0 ↔ x = .nan ∨ x = .fin 0 := by
    intro x
    cases x <;> simp [cleanValue, PyFloat.isNan]
  simp [history, List.dropWhile_eq_nil_iff, hclean]

/-! ## Trimming -/

section Trim

variable {α : Type} {windowSize : ℤ}

/-- A window that holds something keeps the last values. -/
theorem trimWindow_of_pos (h : 0 < windowSize) (buffer : List α) :
    trimWindow windowSize buffer = buffer.rtake windowSize.toNat := by
  unfold trimWindow sliceFrom List.rtake
  by_cases hlength : windowSize < buffer.length
  · have hkept : (buffer.length + -windowSize).toNat = buffer.length - windowSize.toNat := by omega
    rw [if_pos hlength, if_pos (by omega), hkept]
  · have hall : buffer.length - windowSize.toNat = 0 := by omega
    rw [if_neg hlength, hall, List.drop_zero]

/-- The slice from minus zero is everything. -/
theorem trimWindow_zero (buffer : List α) : trimWindow 0 buffer = buffer := by
  simp [trimWindow, sliceFrom]

/-- Below zero the slice drops values from the front, at least one. -/
theorem trimWindow_of_neg (h : windowSize < 0) (buffer : List α) :
    trimWindow windowSize buffer = buffer.drop (-windowSize).toNat := by
  unfold trimWindow sliceFrom
  rw [if_pos (by omega), if_neg (by omega)]

/-- Trimming is dropping from the front. -/
theorem trimWindow_eq_drop (windowSize : ℤ) (buffer : List α) :
    ∃ k, trimWindow windowSize buffer = buffer.drop k := by
  unfold trimWindow sliceFrom
  split_ifs
  · exact ⟨_, rfl⟩
  · exact ⟨_, rfl⟩
  · exact ⟨0, rfl⟩

theorem map_trimWindow {β : Type} (f : α → β) (buffer : List α) :
    (trimWindow windowSize buffer).map f = trimWindow windowSize (buffer.map f) := by
  unfold trimWindow sliceFrom
  rw [List.length_map]
  split_ifs <;> simp

theorem rtake_rtake_succ (buffer : List α) (n : ℕ) :
    (buffer.rtake (n + 1)).rtake n = buffer.rtake n := by
  simp [List.rtake_eq_reverse_take_reverse, List.take_take]

end Trim

/-! ## The buffer -/

/-- The values that are buffered after a sequence of data points. -/
def buffered (windowSize : ℤ) (xs : List PyFloat) : List PyFloat :=
  xs.foldl (fun buffer x => trimWindow windowSize (appendValue buffer x)) []

variable {windowSize : ℤ} {xs : List PyFloat}

theorem buffered_concat (windowSize : ℤ) (xs : List PyFloat) (x : PyFloat) :
    buffered windowSize (xs ++ [x]) =
      trimWindow windowSize (appendValue (buffered windowSize xs) x) := by
  rw [buffered, List.foldl_append]
  rfl

/-- What is appended to the end of a window is appended to the history. -/
theorem rtake_appendValue (buffer : List PyFloat) (x : PyFloat) (n : ℕ) :
    (appendValue (buffer.rtake (n + 1)) x).rtake (n + 1) =
      (appendValue buffer x).rtake (n + 1) := by
  cases buffer with
  | nil => rw [List.rtake_nil]
  | cons y ys =>
      have hnonempty : ((y :: ys).rtake (n + 1)).isEmpty = false := by
        simp only [List.rtake, List.isEmpty_eq_false_iff, ne_eq, List.drop_eq_nil_iff,
          List.length_cons]
        omega
      unfold appendValue
      rw [hnonempty]
      simp only [Bool.false_and, List.isEmpty_cons, Bool.false_eq_true, if_false]
      rw [List.rtake_concat_succ, List.rtake_concat_succ, rtake_rtake_succ]

/-- With a window above zero the buffer is the window. -/
theorem buffered_of_pos (h : 0 < windowSize) :
    buffered windowSize xs = (history xs).rtake windowSize.toNat := by
  obtain ⟨n, hn⟩ : ∃ n, windowSize.toNat = n + 1 := ⟨windowSize.toNat - 1, by omega⟩
  induction xs using List.reverseRecOn with
  | nil => exact (List.rtake_nil _).symm
  | append_singleton xs x ih =>
      rw [buffered_concat, history_concat, trimWindow_of_pos h, ih, hn, rtake_appendValue]

/-- With a window of zero nothing is ever trimmed. -/
theorem buffered_zero : buffered 0 xs = history xs := by
  induction xs using List.reverseRecOn with
  | nil => rfl
  | append_singleton xs x ih => rw [buffered_concat, history_concat, trimWindow_zero, ih]

/-- With a window below zero every value is trimmed at once. -/
theorem buffered_of_neg (h : windowSize < 0) : buffered windowSize xs = [] := by
  induction xs using List.reverseRecOn with
  | nil => rfl
  | append_singleton xs x ih =>
      rw [buffered_concat, ih, trimWindow_of_neg h, List.drop_eq_nil_iff]
      have hlength : (appendValue [] x).length ≤ 1 := by
        simp only [appendValue]
        split_ifs <;> simp
      omega

/-- The buffer is the window unless the window is zero and there is a history. -/
theorem buffered_eq_window_iff :
    buffered windowSize xs = window windowSize xs ↔ windowSize ≠ 0 ∨ history xs = [] := by
  unfold window
  rcases lt_trichotomy windowSize 0 with hneg | rfl | hpos
  · rw [buffered_of_neg hneg, max_eq_right hneg.le]
    simp [hneg.ne]
  · rw [buffered_zero]
    simp
  · rw [buffered_of_pos hpos, max_eq_left hpos.le]
    simp [hpos.ne']

/-! ## The predictors -/

theorem feed_concat (predictor : LoadPredictor) (xs : List PyFloat) (x : PyFloat) :
    feed predictor (xs ++ [x]) = (feed predictor xs).addDataPoint x := by
  rw [feed, List.foldl_append]
  rfl

theorem feed_arima (windowSize : ℤ) (xs : List PyFloat) :
    feed (.arima windowSize []) xs = .arima windowSize (buffered windowSize xs) := by
  induction xs using List.reverseRecOn with
  | nil => rfl
  | append_singleton xs x ih => rw [feed_concat, buffered_concat, ih, addDataPoint]

/-- An entry that is stamped with the current step keeps the stamps consecutive. -/
theorem Stamped.append {entries : List (ℤ × PyFloat)} {currStep : ℤ} (h : Stamped entries currStep)
    (value : PyFloat) : Stamped (entries ++ [(currStep, value)]) (currStep + 1) := by
  unfold Stamped at *
  rw [List.map_append, h, List.length_append, List.length_singleton, List.range_succ,
    List.map_append]
  congr 1
  · apply List.map_congr_left
    intro i _
    push_cast
    ring
  · simp

/-- Dropping entries from the front keeps the stamps consecutive. -/
theorem Stamped.drop {entries : List (ℤ × PyFloat)} {currStep : ℤ} (h : Stamped entries currStep)
    (k : ℕ) : Stamped (entries.drop k) currStep := by
  unfold Stamped at *
  rw [List.map_drop, h]
  apply List.ext_getElem
  · simp
  · intro i hi _
    rw [List.length_drop, List.length_map, List.length_range] at hi
    simp only [List.getElem_drop, List.getElem_map, List.getElem_range, List.length_drop]
    omega

/-- One data point: the values go through the same buffer, and stay stamped. -/
theorem addDataPoint_prophet {entries : List (ℤ × PyFloat)} {currStep : ℤ}
    (h : Stamped entries currStep) (x : PyFloat) :
    ∃ entries' currStep', (LoadPredictor.prophet windowSize entries currStep).addDataPoint x =
        .prophet windowSize entries' currStep' ∧
      entries'.map Prod.snd =
        trimWindow windowSize (appendValue (entries.map Prod.snd) x) ∧
      Stamped entries' currStep' := by
  unfold addDataPoint appendValue
  dsimp only
  rw [List.isEmpty_map]
  split_ifs with hskipped
  · have hempty : entries = [] := by
      simp only [Bool.and_eq_true, List.isEmpty_iff] at hskipped
      exact hskipped.1
    subst hempty
    exact ⟨[], currStep, rfl, by simp [trimWindow, sliceFrom], h⟩
  · refine ⟨_, _, rfl, ?_, ?_⟩
    · rw [map_trimWindow, List.map_append]
      rfl
    · obtain ⟨k, hk⟩ := trimWindow_eq_drop windowSize (entries ++ [(currStep, cleanValue x)])
      rw [hk]
      exact (h.append (cleanValue x)).drop k

theorem feed_prophet (windowSize : ℤ) (xs : List PyFloat) :
    ∃ entries currStep, feed (.prophet windowSize [] 0) xs = .prophet windowSize entries currStep ∧
      entries.map Prod.snd = buffered windowSize xs ∧ Stamped entries currStep := by
  induction xs using List.reverseRecOn with
  | nil => exact ⟨[], 0, rfl, rfl, rfl⟩
  | append_singleton xs x ih =>
      obtain ⟨entries, currStep, hfeed, hvalues, hstamped⟩ := ih
      obtain ⟨entries', currStep', hnext, hvalues', hstamped'⟩ :=
        @addDataPoint_prophet windowSize entries currStep hstamped x
      refine ⟨entries', currStep', ?_, ?_, hstamped'⟩
      · rw [feed_concat, hfeed, hnext]
      · rw [buffered_concat, hvalues', hvalues]

/-- The law holds exactly for windows other than zero, and for zero as long as
no data point but zeros and NaN came. -/
theorem windowLaw_iff (windowSize : ℤ) (xs : List PyFloat) :
    WindowLaw windowSize xs ↔ windowSize ≠ 0 ∨ ∀ x ∈ xs, x = .nan ∨ x = .fin 0 := by
  rw [← history_eq_nil_iff, ← buffered_eq_window_iff]
  constructor
  · intro h
    have harima := (feed_arima windowSize xs).symm.trans h.arima
    exact (LoadPredictor.arima.inj harima).2
  · intro h
    obtain ⟨entries, currStep, hfeed, hvalues, hstamped⟩ := feed_prophet windowSize xs
    exact ⟨by rw [feed_arima, h], entries, currStep, hfeed, hvalues.trans h, hstamped⟩

/-- A window of zero keeps the one value that it is fed. -/
theorem window_zero_keeps :
    feed (.arima 0 []) [.fin 5] = .arima 0 [.fin 5] ∧ window 0 [.fin 5] = [] ∧
      ¬ WindowLaw 0 [.fin 5] := by
  refine ⟨rfl, rfl, fun h => ?_⟩
  cases h.arima

end RbgPlanner.Properties.PredictorWindow
