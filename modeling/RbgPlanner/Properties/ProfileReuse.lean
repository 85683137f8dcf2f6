import RbgPlanner.Controller.Profiling

/-!
# Reusing a profile

A ConfigMap of the profile's name, wherever it comes from, has to keep the
operator from profiling again. The reads of a pass can fail or be answered
from an old cache, and the operator treats a failed read as a missing profile.
-/

namespace RbgPlanner.Properties.ProfileReuse

open Base Controller

/-- The outcome of each read of a pass, by its position, where it is not what is stored. -/
abbrev ReadPlan := ℕ → (k : Kind) → Option (Except ApiError (Resource k))

/-- Reads follow the plan; the other requests are served. -/
def servePlanned (plan : ReadPlan) (now : String) :
    (op : KubeOp) → Cluster × ℕ → KubeResp op × Cluster × ℕ
  | .get k key, (s, n) => ((plan n k).getD (s.get k key), s, n + 1)
  | .create k obj, (s, n) => ((s.create k obj).1, (s.create k obj).2, n)
  | .update k obj, (s, n) => ((s.update k obj).1, (s.update k obj).2, n)
  | .updateStatus obj, (s, n) => ((updateStatus s obj).1, (updateStatus s obj).2, n)
  | .delete k key, (s, n) => ((s.delete now k key).1, (s.delete now k key).2, n)
  | .event _ _ _, s => ((), s)

section Profiling

variable (plan : ReadPlan) (now : String) (ras : AutoScaler) (spec : ParsedSpec) (s : Cluster)

/-- A profile of the AutoScaler is stored. -/
def Profiled : Prop := (s.objects .configMap (ras.sibling ras.profilingName)).isSome

/-- `handleProfiling` creates a Job. -/
def CreatesJob : Prop :=
  ∃ job created : Job, (⟨.create .job job, .ok created⟩ : KubeEvent) ∈
    Kube.requests (servePlanned plan now) (handleProfiling ras spec) (s, 0)

/-- The first read finds the profile, or there is a Job, or the second read
neither finds the stored state nor reports a missing Job. -/
def Respected : Prop :=
  (∀ e, plan 0 .configMap ≠ some (.error e)) ∨
    (s.objects .job (ras.sibling ras.profilingName)).isSome ∨
      ∃ answer, plan 1 .job = some answer ∧ ∀ e, answer = .error e → e.reason ≠ .notFound

end Profiling

variable {plan : ReadPlan} {now : String} {ras : AutoScaler} {spec : ParsedSpec} {s : Cluster}

/-- A read that succeeds ends the matter. -/
theorem not_createsJob_of_found {cm : ConfigMap}
    (hread : (plan 0 .configMap).getD (s.get .configMap (ras.sibling ras.profilingName)) = .ok cm) :
    ¬ CreatesJob plan now ras spec s := by
  rintro ⟨job, created, hmem⟩
  simp [handleProfiling, servePlanned, hread] at hmem

/-- The requests of the creating branch. -/
theorem requests_of_missing {e e' : ApiError}
    (hprofile : (plan 0 .configMap).getD (s.get .configMap (ras.sibling ras.profilingName)) =
      .error e)
    (hjob : (plan 1 .job).getD (s.get .job (ras.sibling ras.profilingName)) = .error e')
    (hreason : e'.reason = .notFound) :
    Kube.requests (servePlanned plan now) (handleProfiling ras spec) (s, 0) =
      [⟨.get .configMap (ras.sibling ras.profilingName), .error e⟩,
       ⟨.get .job (ras.sibling ras.profilingName), .error e'⟩,
       ⟨.create .job (profilingJob ras spec ras.profilingName ras.profilingName),
         (s.create .job (profilingJob ras spec ras.profilingName ras.profilingName)).1⟩] := by
  rcases hcreate : (s.create .job
    (profilingJob ras spec ras.profilingName ras.profilingName)).1 with e'' | job
  · simp [handleProfiling, createProfilingJob, servePlanned, hprofile, hjob, hreason, hcreate,
      Except.mapError]
  · simp [handleProfiling, createProfilingJob, servePlanned, hprofile, hjob, hreason, hcreate,
      Except.mapError]

/-- After a failed read, the answer to the second one and the stored Job decide. -/
theorem createsJob_iff_of_missed {e : ApiError}
    (hprofile : (plan 0 .configMap).getD (s.get .configMap (ras.sibling ras.profilingName)) =
      .error e) :
    CreatesJob plan now ras spec s ↔
      s.objects .job (ras.sibling ras.profilingName) = none ∧
        ∃ e', (plan 1 .job).getD (s.get .job (ras.sibling ras.profilingName)) = .error e' ∧
          e'.reason = .notFound := by
  cases hjob : (plan 1 .job).getD (s.get .job (ras.sibling ras.profilingName)) with
  | ok job =>
      refine iff_of_false ?_ (by simp)
      rintro ⟨desired, created, hmem⟩
      by_cases hsucceeded : 0 < Job.succeeded job
      · rcases hagain : (plan 2 .configMap).getD
            (s.get .configMap (ras.sibling ras.profilingName)) with e' | cm
        · simp [handleProfiling, servePlanned, hprofile, hjob, hsucceeded, hagain] at hmem
        · simp [handleProfiling, servePlanned, hprofile, hjob, hsucceeded, hagain] at hmem
      · by_cases hfailed : 0 < Job.failed job
        · simp [handleProfiling, servePlanned, hprofile, hjob, hsucceeded, hfailed] at hmem
        · simp [handleProfiling, servePlanned, hprofile, hjob, hsucceeded, hfailed] at hmem
  | error e' =>
      by_cases hreason : e'.reason = .notFound
      · have hkey : @ApiServer.keyOf _ Resource _ .job
            (profilingJob ras spec ras.profilingName ras.profilingName) =
              ras.sibling ras.profilingName := rfl
        simp only [CreatesJob, requests_of_missing hprofile hjob hreason]
        cases hstored : s.objects .job (ras.sibling ras.profilingName) with
        | none =>
            rw [← hkey] at hstored
            simp [ApiServer.create_of_none hstored, hreason]
        | some job =>
            rw [← hkey] at hstored
            simp [ApiServer.create_of_some hstored]
      · refine iff_of_false ?_ (by simpa using fun _ => hreason)
        rintro ⟨desired, created, hmem⟩
        simp [handleProfiling, servePlanned, hprofile, hjob, hreason] at hmem

/-- While a profile is stored no Job is created, unless the read of the profile
fails, no Job is stored, and the read of the Job says so. -/
theorem reuses_iff (h : Profiled ras s) :
    ¬ CreatesJob plan now ras spec s ↔ Respected plan ras s := by
  obtain ⟨cm, hcm⟩ := Option.isSome_iff_exists.mp h
  cases hplan : plan 0 .configMap with
  | none =>
      refine iff_of_true ?_ (.inl (by simp [hplan]))
      have hread : (plan 0 .configMap).getD (s.get .configMap (ras.sibling ras.profilingName)) =
          .ok cm := by simp [hplan, ApiServer.get_of_some hcm]
      exact not_createsJob_of_found hread
  | some answer =>
      cases answer with
      | ok found =>
          refine iff_of_true ?_ (.inl (by simp [hplan]))
          have hread : (plan 0 .configMap).getD
              (s.get .configMap (ras.sibling ras.profilingName)) = .ok found := by simp [hplan]
          exact not_createsJob_of_found hread
      | error e =>
          rw [createsJob_iff_of_missed (e := e) (by simp [hplan]), Respected, hplan]
          cases hjob : s.objects .job (ras.sibling ras.profilingName) with
          | some job => simp
          | none =>
              rw [ApiServer.get_of_none hjob]
              cases plan 1 .job with
              | none => simp [ApiServer.notFound]
              | some answer => simp

/-! ## Two outcomes of the first read -/

private def profiledScaler : AutoScaler := ⟨{ key := ⟨"serving", "deepseek"⟩ }, none, none⟩

/-- A cluster with a profile that a user supplied. -/
private def suppliedProfile : Cluster :=
  ApiServer.empty.put .configMap ⟨{ key := ⟨"serving", "deepseek-profiling"⟩ }, []⟩

private theorem suppliedProfile_profiled : Profiled profiledScaler suppliedProfile := by
  have hput : suppliedProfile.objects .configMap ⟨"serving", "deepseek-profiling"⟩ = some _ :=
    ApiServer.put_same
  have hkey : profiledScaler.sibling profiledScaler.profilingName =
      ⟨"serving", "deepseek-profiling"⟩ := by decide
  rw [Profiled, hkey, hput]
  rfl

/-- The plan whose first read times out. -/
private def timeoutFirst : ReadPlan
  | 0, _ => some (.error ⟨.other, "context deadline exceeded"⟩)
  | _, _ => none

/-- Reads that are all served find the profile. -/
theorem reuses_served :
    ¬ CreatesJob (fun _ _ => none) "2025-06-01T00:00:00Z" profiledScaler .fallback
      suppliedProfile :=
  (reuses_iff suppliedProfile_profiled).mpr (.inl (by simp))

/-- One read that times out starts a profiling run over the supplied profile. -/
theorem timeout_profiles_again :
    Profiled profiledScaler suppliedProfile ∧
      CreatesJob timeoutFirst "2025-06-01T00:00:00Z" profiledScaler .fallback
        suppliedProfile := by
  have hnone : suppliedProfile.objects .job
      (profiledScaler.sibling profiledScaler.profilingName) = none :=
    ApiServer.put_of_ne (by simp)
  refine ⟨suppliedProfile_profiled, ?_⟩
  rw [createsJob_iff_of_missed (e := ⟨.other, "context deadline exceeded"⟩) rfl]
  exact ⟨hnone, _, ApiServer.get_of_none hnone, rfl⟩

end RbgPlanner.Properties.ProfileReuse
