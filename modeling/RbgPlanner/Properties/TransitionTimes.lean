import RbgPlanner.Base.Runs
import RbgPlanner.Controller.Outcomes
import RbgPlanner.Controller.Status

/-!
# Transition times

`updateReadyStatus` stamps both times of a status at every pass, and `setPhase`
stamps the time of the condition at every pass and never the other one. A watch
keeps, next to the status of an AutoScaler, when its phase and the status of its
Ready condition last changed.
-/

namespace RbgPlanner.Properties.TransitionTimes

open Base Controller

/-- `v.(string)`. -/
def text : Option Json → Option String
  | some (.str s) => some s
  | _ => none

@[simp] theorem text_str (s : String) : text (some (.str s)) = some s := rfl

/-- The status of an AutoScaler, and the times of the last passes that changed
its phase and the status of its Ready condition. -/
structure Watch where
  status : Option Json
  phaseSince : Option String
  readySince : Option String

/-- A pass at a time, on a cluster. -/
structure PassOn where
  now : String
  cluster : Cluster

namespace Watch

/-- An AutoScaler that has no status yet. -/
def initial : Watch := ⟨none, none, none⟩

/-- Note the status a pass leaves. -/
def observe (w : Watch) (now : String) (status : Option Json) : Watch where
  status := status
  phaseSince := if text (phaseOf status) = text (phaseOf w.status) then w.phaseSince else some now
  readySince :=
    if text (readyStatusOf status) = text (readyStatusOf w.status) then w.readySince else some now

/-- What is noted of the AutoScaler that is there: a new one has no status. -/
def found (key : NamespacedName) (w : Watch) (s : Cluster) : Watch :=
  match s.objects .autoScaler key with
  | some ras => if ras.status.isNone then initial else w
  | none => initial

/-- One pass. -/
def step (r : AutoScalerReconciler) (key : NamespacedName) (w : Watch) (pass : PassOn) : Watch :=
  match (Kube.exec (serve pass.now) (r.reconcile pass.now key) pass.cluster).2.objects
      .autoScaler key with
  | some ras => (w.found key pass.cluster).observe pass.now ras.status
  | none => initial

/-- Passes come on any clusters. Nobody but the operator writes the status. -/
def Possible (key : NamespacedName) (w : Watch) (pass : PassOn) : Prop :=
  ∀ ras : AutoScaler, pass.cluster.objects .autoScaler key = some ras →
    ras.status = w.status ∨ ras.status = none

/-- The times in the status are those of the last changes. -/
def Timely (w : Watch) : Prop :=
  ∀ status, w.status = some status →
    text (lastTransitionTimeOf (some status)) = w.phaseSince ∧
      text (readyTimeOf (some status)) = w.readySince

end Watch

/-- A pass that stores a status makes an AutoScaler Ready that was not, or comes
at the time of the last change of the phase. -/
def Punctual (r : AutoScalerReconciler) (key : NamespacedName) (w : Watch) (pass : PassOn) : Prop :=
  StoresStatus r pass.cluster key →
    (FindsAll r pass.cluster key ∧
        text (phaseOf (w.found key pass.cluster).status) ≠ some "Ready") ∨
      (w.found key pass.cluster).phaseSince = some pass.now

/-! ## One pass -/

/-- What holds of a watch whose statuses were timely so far: no status, or both
changes at one time and a condition that agrees with the phase. -/
inductive Settled (w : Watch) : Prop
  | absent (hstatus : w.status = none) (hphase : w.phaseSince = none) (hready : w.readySince = none)
  | present {status : Json} {t : String} (hstatus : w.status = some status)
      (hphase : w.phaseSince = some t) (hready : w.readySince = some t)
      (htime : text (lastTransitionTimeOf (some status)) = some t)
      (hreadyTime : text (readyTimeOf (some status)) = some t)
      (hagrees : text (readyStatusOf (some status)) =
        some (boolToConditionStatus (text (phaseOf (some status)) == some "Ready")))

variable {r : AutoScalerReconciler} {key : NamespacedName} {w : Watch} {pass : PassOn}
  {now : String}

theorem settled_initial : Settled .initial := .absent rfl rfl rfl

theorem Settled.found (hw : Settled w) (s : Cluster) : Settled (w.found key s) := by
  unfold Watch.found
  split
  · split_ifs
    · exact settled_initial
    · exact hw
  · exact settled_initial

theorem Settled.timely (hw : Settled w) : w.Timely := by
  intro status hstatus
  cases hw with
  | absent hnone _ _ => cases hnone.symm.trans hstatus
  | present hsome hphase hready htime hreadyTime _ =>
      obtain rfl := Option.some.inj (hsome.symm.trans hstatus)
      exact ⟨htime.trans hphase.symm, hreadyTime.trans hready.symm⟩

theorem timely_observe {status : Json} : (w.observe now (some status)).Timely ↔
    text (lastTransitionTimeOf (some status)) = (w.observe now (some status)).phaseSince ∧
      text (readyTimeOf (some status)) = (w.observe now (some status)).readySince := by
  constructor
  · exact fun h => h status rfl
  · rintro h _ ⟨⟩
    exact h

/-- The time of the last change is now when it was or there is a change. -/
theorem since_eq {α : Type} [DecidableEq α] {a b : α} {since : Option String}
    (h : a ≠ b ∨ since = some now) : (if a = b then since else some now) = some now := by
  split_ifs with heq
  · exact h.resolve_left (not_not.mpr heq)
  · rfl

section Ready

variable (held : AutoScaler) (rbg : RoleBasedGroup) (spec : ParsedSpec) (profilingCM : String)

theorem ready_of_timely
    (h : (w.observe now (some (readyStatus now held rbg spec profilingCM))).Timely) :
    text (phaseOf w.status) ≠ some "Ready" ∨ w.phaseSince = some now := by
  by_cases hphase : text (phaseOf w.status) = some "Ready"
  · have htime := (timely_observe.mp h).1
    simp only [lastTransitionTimeOf_readyStatus, text_str, Watch.observe, phaseOf_readyStatus,
      hphase, if_true] at htime
    exact .inr htime.symm
  · exact .inl hphase

/-- A Ready status stamps both times. -/
theorem settled_ready (hw : Settled w)
    (h : text (phaseOf w.status) ≠ some "Ready" ∨ w.phaseSince = some now) :
    Settled (w.observe now (some (readyStatus now held rbg spec profilingCM))) := by
  have hready : text (readyStatusOf w.status) ≠ some "True" ∨ w.readySince = some now := by
    cases hw with
    | absent hnone _ _ => exact .inl (by rw [hnone]; nofun)
    | present hstatus hphase hready _ _ hagrees =>
        rw [hstatus] at h ⊢
        rw [hagrees, hready, ← hphase]
        refine h.imp_left fun hphase' => ?_
        simp [boolToConditionStatus, hphase']
  refine .present rfl (since_eq ?_) (since_eq ?_) ?_ ?_ ?_
  · rw [phaseOf_readyStatus]
    exact h.imp_left Ne.symm
  · rw [readyStatusOf_readyStatus]
    exact hready.imp_left Ne.symm
  · rw [lastTransitionTimeOf_readyStatus, text_str]
  · rw [readyTimeOf_readyStatus, text_str]
  · rw [readyStatusOf_readyStatus, phaseOf_readyStatus]
    rfl

end Ready

section Phase

variable {phase : String} (reason message : String)

/-- A status of another phase keeps the time of the old one, which is none or
that of the last change. -/
theorem phase_of_timely (hw : Settled w)
    (h : (w.observe now (some (phaseStatus now w.status phase reason message))).Timely) :
    w.phaseSince = some now := by
  obtain ⟨htime, hready⟩ := timely_observe.mp h
  rw [lastTransitionTimeOf_phaseStatus] at htime
  rw [readyTimeOf_phaseStatus, text_str] at hready
  simp only [Watch.observe, phaseOf_phaseStatus, readyStatusOf_phaseStatus, text_str]
    at htime hready
  cases hw with
  | absent hnone hsince _ =>
      rw [hnone] at htime
      cases htime
  | present hstatus hsince hreadySince hold _ hagrees =>
      rw [hstatus, hold] at htime
      split_ifs at htime with hsame
      · have hfalse : text (readyStatusOf w.status) =
            some (boolToConditionStatus (phase == "Ready")) := by
          rw [hstatus, hagrees, ← hsame]
          simp
        rw [if_pos hfalse.symm, hreadySince] at hready
        rw [hsince, hready]
      · rw [hsince, htime]

/-- At the time of the last change it stamps the other time with that one. -/
theorem settled_phase (hw : Settled w) (h : w.phaseSince = some now) :
    Settled (w.observe now (some (phaseStatus now w.status phase reason message))) := by
  cases hw with
  | absent _ hnone _ => cases hnone.symm.trans h
  | present hstatus hsince hready htime hreadyTime hagrees =>
      have hnow : some now = some _ := h.symm.trans hsince
      refine .present rfl (since_eq (.inr h)) (since_eq (.inr (hready.trans hnow.symm))) ?_ ?_ ?_
      · rw [lastTransitionTimeOf_phaseStatus, hstatus, htime, hnow]
      · rw [readyTimeOf_phaseStatus, text_str]
      · rw [readyStatusOf_phaseStatus, phaseOf_phaseStatus]
        simp

end Phase

/-- The status a pass leaves settles the watch or is not timely. -/
theorem leaves_settled (hw : Settled w) {s : Cluster} {status : Option Json}
    (hleaves : Leaves r now s key w.status status) :
    ((w.observe now status).Timely → (FindsAll r s key ∧ text (phaseOf w.status) ≠ some "Ready") ∨
        w.phaseSince = some now) ∧
      ((FindsAll r s key ∧ text (phaseOf w.status) ≠ some "Ready") ∨ w.phaseSince = some now →
        Settled (w.observe now status)) := by
  cases hleaves with
  | ready hfinds held rbg spec profilingCM =>
      refine ⟨fun htimely => ?_, fun h => ?_⟩
      · exact (ready_of_timely held rbg spec profilingCM htimely).imp_left fun h => ⟨hfinds, h⟩
      · exact settled_ready held rbg spec profilingCM hw (h.imp_left And.right)
  | phase hfinds _ reason message =>
      refine ⟨fun htimely => .inr (phase_of_timely reason message hw htimely), fun h => ?_⟩
      exact settled_phase reason message hw (h.resolve_left fun h => hfinds h.1)

/-! ## One pass -/

theorem found_status (hpossible : w.Possible key pass) {ras : AutoScaler}
    (hras : pass.cluster.objects .autoScaler key = some ras) :
    (w.found key pass.cluster).status = ras.status := by
  unfold Watch.found
  rw [hras]
  dsimp only
  split_ifs with hnone
  · exact (Option.isNone_iff_eq_none.mp hnone).symm
  · rcases hpossible ras hras with h | h
    · exact h.symm
    · rw [h] at hnone
      exact absurd rfl hnone

/-- After a pass the watch is settled when the pass was punctual, and only then
the times are right. -/
theorem step_settled (hw : Settled w) (hpossible : w.Possible key pass) :
    ((w.step r key pass).Timely → Punctual r key w pass) ∧
      (Punctual r key w pass → Settled (w.step r key pass)) := by
  have hfound : Settled (w.found key pass.cluster) := hw.found pass.cluster
  by_cases hstores : StoresStatus r pass.cluster key
  · obtain ⟨ras, hras, -⟩ := id hstores
    obtain ⟨after, hafter, -, hleaves⟩ := leaves_of_storesStatus pass.now hras hstores
    have hstep : w.step r key pass =
        (w.found key pass.cluster).observe pass.now after.status := by
      simp only [Watch.step, hafter]
    rw [← found_status hpossible hras] at hleaves
    obtain ⟨honly, hsettles⟩ := leaves_settled hfound hleaves
    rw [hstep]
    exact ⟨fun htimely _ => honly htimely, fun hpunctual => hsettles (hpunctual hstores)⟩
  · refine ⟨fun _ h => absurd h hstores, fun _ => ?_⟩
    unfold Watch.step
    split
    · next after hafter =>
        obtain ⟨ras, hras, hsame⟩ := status_of_not_storesStatus hstores hafter
        have hkept : (w.found key pass.cluster).observe pass.now after.status =
            w.found key pass.cluster := by
          rw [hsame, ← found_status hpossible hras]
          simp [Watch.observe]
        rw [hkept]
        exact hfound
    · exact settled_initial

/-! ## Every run -/

/-- In every run of passes on any clusters, the times in the status are those of
the last changes exactly when every pass is punctual. -/
theorem timely_iff {run : List PassOn}
    (hrun : Along (Watch.step r key) (Watch.Possible key) .initial run) :
    Along (Watch.step r key) (fun w pass => (w.step r key pass).Timely) .initial run ↔
      Along (Watch.step r key) (Punctual r key) .initial run := by
  refine along_congr (fun w pass hw hpossible htimely => ?_) (fun w pass hw hpossible => ?_)
    settled_initial hrun
  · obtain ⟨honly, hsettles⟩ := step_settled (r := r) hw hpossible
    exact hsettles (honly htimely)
  · obtain ⟨honly, hsettles⟩ := step_settled (r := r) hw hpossible
    exact ⟨honly, fun hpunctual => (hsettles hpunctual).timely⟩

/-! ## Two first passes -/

private def phi : NamespacedName := ⟨"serving", "phi"⟩

private def phiScaler : AutoScaler where
  metadata := { key := phi }
  spec := some (.obj [("pattern", .obj [("PDDisaggregated", .obj [])]),
    ("implementation", .obj [("DynamoPlanner", .obj [])])])
  status := none

/-- A cluster in which the target is still missing. -/
private def phiAlone : Cluster := ApiServer.empty.put .autoScaler phiScaler

private def phiProfiled : Cluster :=
  (phiAlone.put .roleBasedGroup ⟨{ key := phi }, .obj []⟩).put .configMap
    ⟨{ key := profileKey phi }, []⟩

/-- A first pass that makes the AutoScaler Ready. -/
theorem timely_iff_first : (Watch.step ⟨"", "", ""⟩ phi .initial
    ⟨"2025-06-01T00:00:00Z", phiProfiled⟩).Timely := by
  have hpossible : Watch.Possible phi .initial ⟨"2025-06-01T00:00:00Z", phiProfiled⟩ := by
    rintro ras ⟨⟩
    exact .inl rfl
  have hfinds : FindsAll ⟨"", "", ""⟩ phiProfiled phi :=
    ⟨⟨phiScaler, _, _, rfl, rfl, rfl, rfl⟩, _, rfl⟩
  have hrun : Along (Watch.step ⟨"", "", ""⟩ phi) (Watch.Possible phi) .initial
      [⟨"2025-06-01T00:00:00Z", phiProfiled⟩] := ⟨hpossible, trivial⟩
  exact ((timely_iff hrun).mpr ⟨fun _ => .inl ⟨hfinds, nofun⟩, trivial⟩).1

/-- A first pass that finds no target stores a phase without a transition time. -/
theorem pending_not_timely :
    Along (Watch.step ⟨"", "", ""⟩ phi) (Watch.Possible phi) .initial
        [⟨"2025-06-01T00:00:00Z", phiAlone⟩] ∧
      (Watch.step ⟨"", "", ""⟩ phi .initial ⟨"2025-06-01T00:00:00Z", phiAlone⟩).phaseSince =
        some "2025-06-01T00:00:00Z" ∧
      text (lastTransitionTimeOf (Watch.step ⟨"", "", ""⟩ phi .initial
        ⟨"2025-06-01T00:00:00Z", phiAlone⟩).status) = none ∧
      ¬ Along (Watch.step ⟨"", "", ""⟩ phi)
        (fun w pass => (w.step ⟨"", "", ""⟩ phi pass).Timely) .initial
        [⟨"2025-06-01T00:00:00Z", phiAlone⟩] := by
  refine ⟨⟨?_, trivial⟩, rfl, rfl, fun h => ?_⟩
  · rintro ras ⟨⟩
    exact .inl rfl
  · have htime := (h.1 _ rfl).1
    cases htime

end RbgPlanner.Properties.TransitionTimes
