import RbgPlanner.Controller.Faults
import RbgPlanner.Controller.Footprint
import RbgPlanner.Controller.Status

/-!
# What ProfilingFailed rests on

The operator gives up on profiling when a pass cannot read or create the Job,
when it reads a succeeded Job and no profile, and when it reads a Job with a
failed pod. Only some of these mean that the Job will not publish a profile.
-/

namespace RbgPlanner.Properties.ProfilingFailure

open Base Controller
open Kube (Tells)

/-- The Job has failed more often than it may, or is done and there is no profile. -/
def JobLost (s : Cluster) (key : NamespacedName) : Prop :=
  ∃ job : Job, s.objects .job (profileKey key) = some job ∧
    (job.backoffLimit < job.failed ∨
      0 < job.succeeded ∧ s.objects .configMap (profileKey key) = none)

/-- A status that says profiling failed. -/
def ReportsFailure (status : Option Json) : Prop :=
  phaseOf status = some (.str "Failed") ∧ reasonOf status = some (.str "ProfilingFailed")

/-- The answers that make a pass give up on profiling. -/
inductive GivesUp (key : NamespacedName) (h : KubeHistory) : Prop
  | unreadable {e : ApiError} (hjob : (⟨.get .job (profileKey key), .error e⟩ : KubeEvent) ∈ h)
      (hreason : e.reason ≠ .notFound)
  | notCreated {job : Job} {e : ApiError} (hjob : (⟨.create .job job, .error e⟩ : KubeEvent) ∈ h)
  | unpublished {job : Job} (hjob : (⟨.get .job (profileKey key), .ok job⟩ : KubeEvent) ∈ h)
      (hsucceeded : 0 < job.succeeded)
      (hprofile : ∀ cm, (⟨.get .configMap (profileKey key), .ok cm⟩ : KubeEvent) ∉ h)
  | podFailed {job : Job} (hjob : (⟨.get .job (profileKey key), .ok job⟩ : KubeEvent) ∈ h)
      (hsucceeded : ¬ 0 < job.succeeded) (hfailed : 0 < job.failed)

/-- A status says that profiling failed exactly when the pass gave up on it. -/
def ReportsGivingUp (key : NamespacedName) (h : KubeHistory) : KubeEvent → Prop
  | ⟨.updateStatus obj, _⟩ => ReportsFailure obj.status ↔ GivesUp key h
  | _ => True

/-! ## Histories without profiling -/

def profilingAccesses : List Access := [.read .configMap, .read .job, .write .job]

/-- No request about the profile or the Job. -/
def Untold (h : KubeHistory) : Prop := ∀ e ∈ h, e.1.access ∉ profilingAccesses

variable {r : AutoScalerReconciler} {key : NamespacedName} {now : String} {h t : KubeHistory}

/-- Only requests about the profile and the Job count. -/
theorem GivesUp.congr {h' : KubeHistory}
    (hsame : ∀ e : KubeEvent, e.1.access ∈ profilingAccesses → (e ∈ h ↔ e ∈ h'))
    (hgives : GivesUp key h) : GivesUp key h' := by
  have hread : ∀ answer, (⟨.get .job (profileKey key), answer⟩ : KubeEvent) ∈ h →
      (⟨.get .job (profileKey key), answer⟩ : KubeEvent) ∈ h' :=
    fun answer => (hsame ⟨_, answer⟩ (.tail _ (.head _))).mp
  cases hgives with
  | unreadable hjob hreason => exact .unreadable (hread _ hjob) hreason
  | notCreated hjob => exact .notCreated ((hsame ⟨_, _⟩ (.tail _ (.tail _ (.head _)))).mp hjob)
  | unpublished hjob hsucceeded hprofile =>
      refine .unpublished (hread _ hjob) hsucceeded fun cm hcm => hprofile cm ?_
      exact (hsame ⟨_, _⟩ (.head _)).mpr hcm
  | podFailed hjob hsucceeded hfailed => exact .podFailed (hread _ hjob) hsucceeded hfailed

theorem givesUp_append (ht : Untold t) : GivesUp key (h ++ t) ↔ GivesUp key h := by
  have hsame : ∀ e : KubeEvent, e.1.access ∈ profilingAccesses → (e ∈ h ++ t ↔ e ∈ h) := by
    intro e he
    rw [List.mem_append]
    exact or_iff_left fun het => ht e het he
  exact ⟨.congr hsame, .congr fun e he => (hsame e he).symm⟩

theorem givesUp_prepend (hh : Untold h) : GivesUp key (h ++ t) ↔ GivesUp key t := by
  have hsame : ∀ e : KubeEvent, e.1.access ∈ profilingAccesses → (e ∈ h ++ t ↔ e ∈ t) := by
    intro e he
    rw [List.mem_append]
    exact or_iff_right fun heh => hh e heh he
  exact ⟨.congr hsame, .congr fun e he => (hsame e he).symm⟩

theorem Untold.not_givesUp (hh : Untold h) : ¬ GivesUp key h := by
  intro hgives
  rw [← List.append_nil h, givesUp_prepend hh] at hgives
  rcases hgives with ⟨hjob, -⟩ | ⟨hjob⟩ | ⟨hjob, -, -⟩ | ⟨hjob, -, -⟩ <;> cases hjob

theorem givesUp_iff : GivesUp key h ↔
    (∃ e : ApiError, (⟨.get .job (profileKey key), .error e⟩ : KubeEvent) ∈ h ∧
      e.reason ≠ .notFound) ∨
    (∃ (job : Job) (e : ApiError), (⟨.create .job job, .error e⟩ : KubeEvent) ∈ h) ∨
    (∃ job : Job, (⟨.get .job (profileKey key), .ok job⟩ : KubeEvent) ∈ h ∧
      if 0 < job.succeeded then
        ∀ cm, (⟨.get .configMap (profileKey key), .ok cm⟩ : KubeEvent) ∉ h
      else 0 < job.failed) := by
  constructor
  · rintro (⟨hjob, hreason⟩ | ⟨hjob⟩ | ⟨hjob, hsucceeded, hprofile⟩ | ⟨hjob, hsucceeded, hfailed⟩)
    · exact .inl ⟨_, hjob, hreason⟩
    · exact .inr (.inl ⟨_, _, hjob⟩)
    · exact .inr (.inr ⟨_, hjob, by rwa [if_pos hsucceeded]⟩)
    · exact .inr (.inr ⟨_, hjob, by rwa [if_neg hsucceeded]⟩)
  · rintro (⟨e, hjob, hreason⟩ | ⟨job, e, hjob⟩ | ⟨job, hjob, hstate⟩)
    · exact .unreadable hjob hreason
    · exact .notCreated hjob
    · split_ifs at hstate with hsucceeded
      · exact .unpublished hjob hsucceeded hstate
      · exact .podFailed hjob hsucceeded hstate

/-! ## One lemma for each function -/

theorem Untold.append (hh : Untold h) (ht : Untold t) : Untold (h ++ t) :=
  List.forall_mem_append.mpr ⟨hh, ht⟩

/-- A part of a pass that neither profiles nor writes a status. -/
theorem tells_elsewhere {α : Type} {Q : α → Prop} {accesses : List Access} {x : Kube α}
    (hx : Kube.Asks (Within key accesses) Q x)
    (hothers : ∀ access ∈ accesses, access ∉ Access.status :: profilingAccesses) :
    Tells (ReportsGivingUp key) (fun h' r => (∀ a, r = .ok a → Q a) ∧
      ∃ t, h' = h ++ t ∧ Untold t) x h := by
  refine (Kube.Asks.tells hx (fun h' e hop => ?_) h).mono ?_
  · obtain ⟨op, answer⟩ := e
    cases op with
    | updateStatus obj => exact absurd (.head _) (hothers _ hop.2)
    | get _ _ => trivial
    | create _ _ => trivial
    | update _ _ => trivial
    | delete _ _ => trivial
    | event _ _ _ => trivial
  · rintro h' r ⟨hQ, t, rfl, ht⟩
    exact ⟨hQ, t, rfl, fun e he hmem => hothers _ (ht e he).2 (.tail _ hmem)⟩

section Functions

variable {ras : AutoScaler}

theorem tells_setPhase {phase reason message : String}
    (hreports : (phase = "Failed" ∧ reason = "ProfilingFailed") ↔ GivesUp key h) :
    Tells (ReportsGivingUp key) (fun _ _ => True) (setPhase now ras phase reason message) h := by
  refine Tells.bind (Q := fun _ _ => True) (Tells.updateStatus fun answer _ => ⟨?_, trivial⟩)
    (fun _ _ _ => Tells.pure trivial) fun _ _ _ => trivial
  simpa [ReportsGivingUp, ReportsFailure] using hreports

theorem tells_updateReadyStatus {rbg : RoleBasedGroup} {spec : ParsedSpec} {profilingCM : String}
    (hgives : ¬ GivesUp key h) :
    Tells (ReportsGivingUp key) (fun _ _ => True)
      (updateReadyStatus now ras rbg spec profilingCM) h := by
  refine Tells.bind (Q := fun _ _ => True) (Tells.updateStatus fun answer _ => ⟨?_, trivial⟩)
    (fun _ _ _ => Tells.pure trivial) fun _ _ _ => trivial
  simpa [ReportsGivingUp, ReportsFailure] using hgives

/-- Creating the Job fails as its only request does. -/
theorem tells_createProfilingJob {spec : ParsedSpec} {jobName cmName : String} :
    Tells (ReportsGivingUp key) (fun h' r => ∃ answer,
        h' = h ++ [⟨.create .job (profilingJob ras spec jobName cmName), answer⟩] ∧
          ((∃ e, r = .error e) ↔ ∃ e, answer = .error e))
      (createProfilingJob ras spec jobName cmName) h := by
  refine Tells.bind (Q := fun h' answer =>
    h' = h ++ [⟨.create .job (profilingJob ras spec jobName cmName), answer⟩])
    (Tells.create fun _ _ => ⟨trivial, rfl⟩) ?_ ?_
  · rintro _ job rfl
    exact Tells.pure ⟨.ok job, rfl, by simp⟩
  · rintro _ e rfl
    exact ⟨.error e, rfl, by simp⟩

/-- After a profile and a Job that are missing, only the creation decides. -/
theorem tells_startProfiling {spec : ParsedSpec} {jobName cmName : String} {e₁ e₂ : ApiError}
    {place : NamespacedName} (hh : Untold h) (hreason : e₂.reason = .notFound) :
    Tells (ReportsGivingUp key) (fun h' made => (∃ e, made = .error e) ↔ GivesUp key h')
      (Kube.wrap "create profiling job" (createProfilingJob ras spec jobName cmName))
      (h ++ ([⟨.get .configMap place, .error e₁⟩] ++
        [⟨.get .job (profileKey key), .error e₂⟩])) := by
  refine Tells.wrap (tells_createProfilingJob.mono ?_)
  rintro _ made ⟨answer, rfl, hmade⟩
  rw [List.append_assoc, givesUp_prepend hh, givesUp_iff]
  have hwrapped : (∃ e, made.mapError (ApiError.wrap "create profiling job") = .error e) ↔
      ∃ e, answer = .error e := by
    rw [← hmade]
    cases made <;> simp [Except.mapError]
  rw [hwrapped]
  cases answer <;> simp [hreason]

variable (hkey : ras.metadata.key = key)
include hkey

/-- Profiling fails exactly when the pass gives up on it. -/
theorem tells_handleProfiling (spec : ParsedSpec) (hh : Untold h) :
    Tells (ReportsGivingUp key) (fun h' r => (∃ e, r = .error e) ↔ GivesUp key h')
      (handleProfiling ras spec) h := by
  subst hkey
  have hfirst : ∀ {k place}, Tells (ReportsGivingUp ras.metadata.key)
      (fun h' answer => h' = h ++ [⟨.get k place, answer⟩]) (Kube.get k place) h :=
    Tells.get fun _ _ => ⟨trivial, rfl⟩
  have hnext : ∀ {k place t}, Tells (ReportsGivingUp ras.metadata.key)
      (fun h' answer => h' = h ++ (t ++ [⟨.get k place, answer⟩])) (Kube.get k place) (h ++ t) :=
    Tells.get fun _ _ => ⟨trivial, List.append_assoc _ _ _⟩
  apply hfirst.bind_attempt
  rintro _ (e₁ | cm) rfl
  · apply hnext.bind_attempt
    rintro _ (e₂ | job) rfl
    · dsimp only
      split_ifs with hreason
      · refine (tells_startProfiling hh hreason).bind ?_ ?_
        · intro h' _ hmade
          apply Tells.pure
          simpa using hmade
        · intro h' e hmade
          simpa using hmade
      · apply Tells.throw
        rw [givesUp_prepend hh]
        exact iff_of_true ⟨e₂, rfl⟩ (.unreadable (.tail _ (.head _)) hreason)
    · dsimp only
      split_ifs with hsucceeded hfailed
      · apply hnext.bind_attempt
        rintro _ (e₃ | cm) rfl
        · apply Tells.throw
          rw [givesUp_prepend hh]
          refine iff_of_true ⟨_, rfl⟩ (.unpublished (.tail _ (.head _)) hsucceeded ?_)
          simp
        · apply Tells.pure
          rw [givesUp_prepend hh, givesUp_iff]
          simp [hsucceeded]
      · apply Tells.throw
        rw [givesUp_prepend hh]
        exact iff_of_true ⟨_, rfl⟩ (.podFailed (.tail _ (.head _)) hsucceeded hfailed)
      · apply Tells.pure
        rw [givesUp_prepend hh, givesUp_iff]
        simp [hsucceeded, hfailed]
  · apply Tells.pure
    rw [givesUp_prepend hh, givesUp_iff]
    simp

theorem tells_reconcileWorkload (spec : ParsedSpec) (rbg : RoleBasedGroup)
    (prefillGPUs decodeGPUs : ℤ) (hh : Untold h) :
    Tells (ReportsGivingUp key) (fun _ _ => True)
      (reconcileWorkload now ras spec rbg prefillGPUs decodeGPUs) h := by
  apply (tells_handleProfiling hkey spec hh).bind_attempt
  intro h₁ result hresult
  match result with
  | .error e =>
      have hgives : GivesUp key h₁ := hresult.mp ⟨e, rfl⟩
      exact (tells_setPhase (iff_of_true ⟨rfl, rfl⟩ hgives)).bind_attempt
        fun _ _ _ => Tells.throw trivial
  | .ok (_, false) =>
      have hgoes : ¬ GivesUp key h₁ := fun hgives => nomatch hresult.mpr hgives
      exact (tells_setPhase (iff_of_false (by simp) hgoes)).bind_attempt
        fun _ _ _ => Tells.pure trivial
  | .ok (profilingCM, true) =>
      have hgoes : ¬ GivesUp key h₁ := fun hgives => nomatch hresult.mpr hgives
      refine (tells_elsewhere (asks_ensurePlannerDeployment hkey spec profilingCM prefillGPUs
        decodeGPUs) (by decide)).bind ?_ fun _ _ _ => trivial
      rintro _ _ ⟨-, t, rfl, ht⟩
      refine (tells_updateReadyStatus ?_).bind (fun _ _ _ => Tells.pure trivial)
        fun _ _ _ => trivial
      rwa [givesUp_append ht]

theorem tells_reconcileLive (spec : ParsedSpec) (hh : Untold h) :
    Tells (ReportsGivingUp key) (fun _ _ => True) (reconcileLive now ras spec) h := by
  refine (tells_elsewhere (asks_holdFinalizer hkey) (by decide)).bind ?_
    fun _ _ _ => trivial
  rintro _ held ⟨hheld, t, rfl, ht⟩
  have hheld := hheld held rfl
  apply (tells_elsewhere asks_get (by decide)).bind_attempt
  rintro _ (e | rbg) ⟨-, t', rfl, ht'⟩
  · dsimp only
    unfold targetMissing
    split_ifs
    · have hevent : Kube.Asks (Within key [.event]) (fun _ => True)
          (Kube.event "Warning" "RBGNotFound" ("RoleBasedGroup " ++ held.namespaceName ++ "/" ++
            held.name ++ " not found")) := .event ⟨trivial, .head _⟩
      refine (tells_elsewhere hevent (by decide)).bind ?_ fun _ _ _ => trivial
      rintro _ _ ⟨-, t'', rfl, ht''⟩
      have hgoes : ¬ GivesUp key _ := (((hh.append ht).append ht').append ht'').not_givesUp
      exact (tells_setPhase (iff_of_false (by simp) hgoes)).bind_attempt
        fun _ _ _ => Tells.pure trivial
    · exact Tells.throw trivial
  · refine (tells_elsewhere (asks_ensureRBAC hheld) (by decide)).bind ?_
      fun _ _ _ => trivial
    rintro _ _ ⟨-, t'', rfl, ht''⟩
    exact tells_reconcileWorkload hheld spec rbg _ _ (((hh.append ht).append ht').append ht'')

end Functions

/-- In every pass. -/
theorem tells_reconcile :
    Tells (ReportsGivingUp key) (fun _ _ => True) (r.reconcile now key) [] := by
  apply (tells_elsewhere asks_get (by decide)).bind_attempt
  rintro _ (e | ras) ⟨hkey, t, rfl, ht⟩
  · dsimp only
    split_ifs
    · exact Tells.pure trivial
    · exact Tells.throw trivial
  · have hkey : ras.metadata.key = key := hkey ras rfl
    dsimp only
    split
    · refine (tells_setPhase (iff_of_false (by simp) ht.not_givesUp)).bind
        (fun _ _ _ => Tells.pure trivial) fun _ _ _ => trivial
    · split_ifs
      · exact (tells_elsewhere (asks_finishDeletion hkey) (by decide)).mono fun _ _ _ => trivial
      · exact tells_reconcileLive hkey _ ht

/-! ## Every run -/

/-- A request and its effect: the status is stored. -/
def Stores (o : Occurrence NamespacedName KubeOp KubeResp Cached) (obj : AutoScaler) : Prop :=
  o.event.1 = .updateStatus obj ∧ ∃ stored : AutoScaler,
    o.before.current.objects .autoScaler obj.metadata.key = some stored ∧
      o.after.current = o.before.current.put .autoScaler
        (stored.statusUpdated o.before.current.version obj)

/-- A stored status says that profiling failed only when the Job is lost. -/
def Truthful (o : Occurrence NamespacedName KubeOp KubeResp Cached) : Prop :=
  ∀ obj, Stores o obj → ReportsFailure obj.status → JobLost o.before.current o.index

/-- A pass that gave up on profiling stores a status only when the Job is lost. -/
def Informed (o : Occurrence NamespacedName KubeOp KubeResp Cached) : Prop :=
  ∀ obj, Stores o obj → GivesUp o.index o.history → JobLost o.before.current o.index

/-- Passes follow their text, whatever happens to the cluster. -/
theorem outline (r : AutoScalerReconciler) :
    Pool.Outline r.Starts Cached.Answers Cached.Changes KubeOp.Keyed ReportsGivingUp
      (fun _ => True) fun _ _ _ => True where
  starts := by
    rintro key p ⟨now, rfl⟩
    exact tells_reconcile
  empty := fun _ _ => trivial
  valid := fun _ _ _ _ _ h => h.keyed
  env := fun _ _ _ _ => ⟨trivial, fun _ _ _ => trivial⟩
  acts := fun _ _ _ _ _ _ _ _ _ => ⟨trivial, trivial, fun _ _ _ _ => trivial⟩

section Runs

variable {c : Cached} {pool : PassPool Cached}
  {log : List (Occurrence NamespacedName KubeOp KubeResp Cached)}

/-- In every run of passes side by side, with failing requests, cached reads and
any other changes of the cluster: statuses are truthful exactly when the passes
that give up on profiling are informed. -/
theorem failure_truthful_iff
    (hrun : Pool.Run r.Starts Cached.Answers Cached.Changes (.idle c) log pool) :
    (∀ o ∈ log, Truthful o) ↔ ∀ o ∈ log, Informed o := by
  have htold := (Pool.sound_idle trivial).run (outline r) hrun
  refine forall₂_congr fun o ho => forall₂_congr fun obj hstores => ?_
  have hreports : ReportsFailure obj.status ↔ GivesUp o.index o.history := by
    have hevent := htold o ho
    obtain ⟨index, history, ⟨op, answer⟩, before, after⟩ := o
    obtain rfl : op = .updateStatus obj := hstores.1
    exact hevent
  rw [hreports]

end Runs

/-! ## One pass on a Job with failed pods -/

private def mistral : NamespacedName := ⟨"serving", "mistral"⟩

private def mistralScaler : AutoScaler where
  metadata := { key := mistral, finalizers := [finalizerName] }
  spec := some (.obj [("pattern", .obj [("PDDisaggregated", .obj [])]),
    ("implementation", .obj [("DynamoPlanner", .obj [])])])
  status := none

/-- The Job of the operator after some of its pods have failed. -/
private def profiling (failed : ℤ) : Job :=
  { profilingJob mistralScaler .fallback "mistral-profiling" "mistral-profiling" with
    failed := failed }

private def profilingCluster (failed : ℤ) : Cached where
  current := ((ApiServer.empty.put .autoScaler mistralScaler).put .roleBasedGroup
    ⟨{ key := mistral }, .obj []⟩).put .job (profiling failed)
  past := []

/-- The requests of one pass. -/
private def passLog (failed : ℤ) : List (Occurrence NamespacedName KubeOp KubeResp Cached) :=
  Pool.occurrences (Cached.serve "2025-06-01T00:00:00Z") mistral
    (ExceptT.run ((⟨"", "", ""⟩ : AutoScalerReconciler).reconcile "2025-06-01T00:00:00Z" mistral))
    [] (profilingCluster failed)

private theorem run_passLog (failed : ℤ) : ∃ pool : PassPool Cached,
    Pool.Run (AutoScalerReconciler.Starts ⟨"", "", ""⟩) Cached.Answers Cached.Changes
      (.idle (profilingCluster failed)) (passLog failed) pool :=
  ⟨_, Pool.run_start (Cached.answers_serve _) ⟨_, rfl⟩ _⟩

/-- The status that a pass stores when it finds failed pods. -/
private def failedScaler : AutoScaler :=
  { mistralScaler with
    status := some (phaseStatus "2025-06-01T00:00:00Z" none "Failed" "ProfilingFailed"
      "profiling job mistral-profiling failed") }

private theorem reports_failedScaler : ReportsFailure failedScaler.status :=
  ⟨phaseOf_phaseStatus _ _ _ _ _, reasonOf_phaseStatus _ _ _ _ _⟩

private theorem stores_passLog {failed : ℤ} (h : failed = 1 ∨ failed = 2) :
    ∃ o ∈ passLog failed, Stores o failedScaler ∧ o.index = mistral ∧
      o.before.current.objects .job (profileKey mistral) = some (profiling failed) := by
  have hlast : ∃ history answer before after,
      (passLog failed)[9]? =
          some ⟨mistral, history, ⟨.updateStatus failedScaler, answer⟩, before, after⟩ ∧
        before.current.objects .autoScaler mistral = some mistralScaler ∧
        after.current = before.current.put .autoScaler
          (mistralScaler.statusUpdated before.current.version failedScaler) ∧
        before.current.objects .job (profileKey mistral) = some (profiling failed) := by
    rcases h with rfl | rfl
    · exact ⟨_, _, _, _, rfl, rfl, rfl, rfl⟩
    · exact ⟨_, _, _, _, rfl, rfl, rfl, rfl⟩
  obtain ⟨_, _, _, _, hlast, hstored, hafter, hjob⟩ := hlast
  exact ⟨_, List.mem_of_getElem? hlast, ⟨rfl, mistralScaler, hstored, hafter⟩, rfl, hjob⟩

/-- A Job that failed twice has used up its one retry. -/
theorem failure_truthful_iff_lost :
    (∃ o ∈ passLog 2, ∃ obj, Stores o obj ∧ ReportsFailure obj.status) ∧
      ∀ o ∈ passLog 2, Truthful o := by
  constructor
  · obtain ⟨o, ho, hstores, -⟩ := stores_passLog (.inr rfl)
    exact ⟨o, ho, failedScaler, hstores, reports_failedScaler⟩
  · obtain ⟨pool, hrun⟩ := run_passLog 2
    refine (failure_truthful_iff hrun).mpr fun o ho obj _ _ => ?_
    have hjobs : (passLog 2).map (fun o => (o.index,
        o.before.current.objects .job (profileKey mistral))) =
          List.replicate 10 (mistral, some (profiling 2)) := rfl
    have hjob := List.eq_of_mem_replicate (hjobs ▸ List.mem_map_of_mem ho)
    obtain ⟨hindex, hstored⟩ := Prod.mk.inj hjob
    rw [hindex]
    exact ⟨profiling 2, hstored, .inl (by decide)⟩

/-- A Job whose first pod failed has a retry left, and the pass that sees it
says that profiling failed. -/
theorem first_pod_failure_reported :
    (∃ pool : PassPool Cached,
      Pool.Run (AutoScalerReconciler.Starts ⟨"", "", ""⟩) Cached.Answers Cached.Changes
        (.idle (profilingCluster 1)) (passLog 1) pool) ∧
      ¬ ∀ o ∈ passLog 1, Truthful o := by
  refine ⟨run_passLog 1, fun htruthful => ?_⟩
  obtain ⟨o, ho, hstores, hindex, hjob⟩ := stores_passLog (.inl rfl)
  obtain ⟨job, hlost, hfailed⟩ := htruthful o ho failedScaler hstores reports_failedScaler
  rw [hindex, hjob] at hlost
  obtain rfl := Option.some.inj hlost
  rcases hfailed with hfailed | ⟨hsucceeded, -⟩
  · exact absurd hfailed (by decide)
  · exact absurd hsucceeded (by decide)

end RbgPlanner.Properties.ProfilingFailure
