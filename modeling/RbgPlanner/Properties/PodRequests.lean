import RbgPlanner.Controller.Environment

/-!
# GPU requests of a pod

The operator takes the GPUs of an engine from the pod template of its role. What
it takes is the first request that it can read, and a pod may have others.
-/

namespace RbgPlanner.Properties.PodRequests

open Base Base.NumberText Controller

/-! ## What a pod requests -/

/-- What a container says about GPUs. -/
def gpuField (container : Json) : Option Json :=
  container.nested ["resources", "requests", "nvidia.com/gpu"]

/-- The digits of a numeral. -/
def digitsOf (s : String) : List Char := (readSign s.toList).2

/-- A non-negative number as a text or as an integer, or nothing. -/
inductive IsRequest : Option Json → Prop
  | absent : IsRequest none
  | int {n : ℤ} (hn : 0 ≤ n) : IsRequest (some (.int n))
  | text {s : String} (hsign : (readSign s.toList).1 = false) (hne : digitsOf s ≠ [])
      (hdigits : (digitsOf s).all Char.isDigit = true) : IsRequest (some (.str s))

/-- The number that is requested. -/
def amount : Option Json → ℤ
  | some (.int n) => n
  | some (.str s) => digitsValue (digitsOf s)
  | _ => 0

/-- The GPUs that the containers of a pod request together. -/
def requested (containers : List Json) : ℤ :=
  (containers.map fun container => amount (gpuField container)).sum

/-- The containers in the template of a role. -/
def containersOf (role : Json) : List Json :=
  (role.nestedSlice ["template", "spec", "containers"]).getD []

def rolesOf (rbg : RoleBasedGroup) : List Json := (rbg.object.nestedSlice ["spec", "roles"]).getD []

def roleNameOf (role : Json) : String := (role.nestedString ["name"]).getD ""

/-- The containers of the role of that name; none when there is no such role. -/
def containersNamed (rbg : RoleBasedGroup) (roleName : String) : List Json :=
  (((rolesOf rbg).find? fun role => roleNameOf role = roleName).map containersOf).getD []

/-- Roles with distinct names whose containers request GPUs or do not. -/
structure RequestsGPUs (rbg : RoleBasedGroup) : Prop where
  objects : ∀ role ∈ rolesOf rbg, ∃ fields, role = .obj fields
  distinct : ((rolesOf rbg).map roleNameOf).Nodup
  requests : ∀ role ∈ rolesOf rbg, ∀ container ∈ containersOf role,
    IsRequest (gpuField container)

/-- The GPUs of an engine whose pod requests so many. -/
def engineGPUs (total : ℤ) : ℤ := if total = 0 then 1 else total

/-- Both engines get what their pods request. -/
def SumsRequests (rbg : RoleBasedGroup) (prefillRole decodeRole : String) : Prop :=
  getGPUsFromRBG rbg prefillRole decodeRole =
    (engineGPUs (requested (containersNamed rbg prefillRole)),
      engineGPUs (requested (containersNamed rbg decodeRole)))

/-- The number fits a 64-bit integer. -/
def Fits : Option Json → Prop
  | some (.str s) => digitsValue (digitsOf s) < 2 ^ 63
  | _ => True

/-- One container requests all GPUs, and none before it mentions any. -/
def OneContainer (containers : List Json) : Prop :=
  ∃ before container after, containers = before ++ container :: after ∧
    (∀ other ∈ before, gpuField other = none) ∧
    (∀ other ∈ after, amount (gpuField other) = 0) ∧ Fits (gpuField container)

/-- The pod requests at most one GPU, or all of them for one container. -/
def Counted (containers : List Json) : Prop :=
  requested containers ≤ 1 ∨ OneContainer containers

/-! ## One container -/

section Container

variable {container : Json} {containers : List Json}

theorem IsRequest.amount_nonneg {field : Option Json} (h : IsRequest field) : 0 ≤ amount field := by
  cases h with
  | absent => exact le_rfl
  | int hn => exact hn
  | text _ _ _ => exact Int.natCast_nonneg _

/-- What is read of a text or an integer. -/
def readRequest : Option Json → Option ℤ
  | some (.int n) => some n
  | some (.str s) => atoi s
  | _ => none

theorem containerGPURequest_eq (container : Json) :
    containerGPURequest container = readRequest (gpuField container) := by
  unfold containerGPURequest Json.nestedString Json.nestedInt gpuField
  rcases container.nested ["resources", "requests", "nvidia.com/gpu"] with _ | value
  · rfl
  · cases value with
    | str s =>
        simp only [Option.bind_some, readRequest]
        cases atoi s <;> rfl
    | _ => rfl

/-- A numeral is read when it fits. -/
theorem atoi_numeral {s : String} (hsign : (readSign s.toList).1 = false) (hne : digitsOf s ≠ [])
    (hdigits : (digitsOf s).all Char.isDigit = true) :
    atoi s =
      if digitsValue (digitsOf s) < 2 ^ 63 then some (digitsValue (digitsOf s)) else none := by
  have hlow : -2 ^ 63 ≤ digitsValue (digitsOf s) := by
    have hnonneg := Int.natCast_nonneg (Nat.ofDigitChars 10 (digitsOf s) 0)
    unfold digitsValue
    omega
  unfold digitsOf at *
  simp only [atoi, applySign, hsign, Bool.false_eq_true, if_false, ne_eq, hne, not_false_iff,
    hdigits, hlow, true_and]

/-- What is said about GPUs is nothing, or read, or too large to be read. -/
theorem IsRequest.read_cases {field : Option Json} (h : IsRequest field) :
    (field = none ∧ readRequest field = none ∧ amount field = 0) ∨
      (field ≠ none ∧ Fits field ∧ readRequest field = some (amount field)) ∨
      (field ≠ none ∧ ¬ Fits field ∧ readRequest field = none ∧ 2 ^ 63 ≤ amount field) := by
  cases h with
  | absent => exact .inl ⟨rfl, rfl, rfl⟩
  | int _ => exact .inr (.inl ⟨by simp, trivial, rfl⟩)
  | @text s hsign hne hdigits =>
      have hread := atoi_numeral hsign hne hdigits
      by_cases hfits : digitsValue (digitsOf s) < 2 ^ 63
      · rw [if_pos hfits] at hread
        exact .inr (.inl ⟨by simp, hfits, hread⟩)
      · rw [if_neg hfits] at hread
        exact .inr (.inr ⟨by simp, hfits, hread, not_lt.mp hfits⟩)

end Container

/-! ## The containers of a pod -/

section Pod

variable {container : Json} {containers : List Json}

/-- The first request that is read, or 0. -/
def firstRequest (containers : List Json) : ℤ :=
  (containers.findSome? containerGPURequest).getD 0

theorem extractGPURequest_eq (role : Json) :
    extractGPURequest role = firstRequest (containersOf role) := by
  unfold extractGPURequest firstRequest containersOf
  cases role.nestedSlice ["template", "spec", "containers"] <;> rfl

theorem firstRequest_cons : firstRequest (container :: containers) =
    (readRequest (gpuField container)).getD (firstRequest containers) := by
  unfold firstRequest
  rw [List.findSome?_cons, containerGPURequest_eq]
  cases readRequest (gpuField container) <;> rfl

theorem requested_cons : requested (container :: containers) =
    amount (gpuField container) + requested containers := by
  simp [requested]

theorem requested_nonneg (h : ∀ container ∈ containers, IsRequest (gpuField container)) :
    0 ≤ requested containers := by
  apply List.sum_nonneg
  intro n hn
  obtain ⟨container, hmem, rfl⟩ := List.mem_map.mp hn
  exact (h container hmem).amount_nonneg

theorem requested_eq_zero_iff (h : ∀ container ∈ containers, IsRequest (gpuField container)) :
    requested containers = 0 ↔ ∀ container ∈ containers, amount (gpuField container) = 0 := by
  induction containers with
  | nil => simp [requested]
  | cons container containers ih =>
      have hhead := (h container (by simp)).amount_nonneg
      have htail := fun c hc => h c (List.mem_cons_of_mem container hc)
      have hnonneg := requested_nonneg htail
      rw [requested_cons, List.forall_mem_cons, ← ih htail]
      omega

/-- What is read first is one of the requests. -/
theorem firstRequest_le (h : ∀ container ∈ containers, IsRequest (gpuField container)) :
    firstRequest containers ≤ requested containers := by
  induction containers with
  | nil => exact le_rfl
  | cons container containers ih =>
      have hfield := h container (by simp)
      have htail := fun c hc => h c (List.mem_cons_of_mem container hc)
      have hnonneg := requested_nonneg htail
      have hamount := hfield.amount_nonneg
      have hrest := ih htail
      rw [requested_cons, firstRequest_cons]
      rcases hfield.read_cases with ⟨-, hread, -⟩ | ⟨-, -, hread⟩ | ⟨-, -, hread, -⟩
      · rw [hread, Option.getD_none]
        omega
      · rw [hread, Option.getD_some]
        omega
      · rw [hread, Option.getD_none]
        omega

/-- The container that requests all GPUs is the first one, or the first one says
nothing about them. -/
theorem oneContainer_cons : OneContainer (container :: containers) ↔
    ((∀ other ∈ containers, amount (gpuField other) = 0) ∧ Fits (gpuField container)) ∨
      (gpuField container = none ∧ OneContainer containers) := by
  constructor
  · rintro ⟨before, chosen, after, hsplit, hbefore, hafter, hfits⟩
    cases before with
    | nil =>
        obtain ⟨rfl, rfl⟩ := List.cons.inj hsplit
        exact .inl ⟨hafter, hfits⟩
    | cons first before =>
        obtain ⟨rfl, rfl⟩ := List.cons.inj hsplit
        rw [List.forall_mem_cons] at hbefore
        exact .inr ⟨hbefore.1, before, chosen, after, rfl, hbefore.2, hafter, hfits⟩
  · rintro (⟨hafter, hfits⟩ | ⟨hnone, before, chosen, after, rfl, hbefore, hafter, hfits⟩)
    · exact ⟨[], container, containers, rfl, by simp, hafter, hfits⟩
    · refine ⟨container :: before, chosen, after, rfl, ?_, hafter, hfits⟩
      exact List.forall_mem_cons.mpr ⟨hnone, hbefore⟩

/-- The first request stands for all of them exactly in a pod that is counted. -/
theorem max_firstRequest_iff (h : ∀ container ∈ containers, IsRequest (gpuField container)) :
    max (firstRequest containers) 1 = max (requested containers) 1 ↔ Counted containers := by
  unfold Counted
  induction containers with
  | nil => exact iff_of_true rfl (.inl (by decide))
  | cons container containers ih =>
      have hfield := h container (by simp)
      have htail := fun c hc => h c (List.mem_cons_of_mem container hc)
      have hnonneg := requested_nonneg htail
      have hle := firstRequest_le htail
      rw [requested_cons, firstRequest_cons, oneContainer_cons, ← requested_eq_zero_iff htail]
      rcases hfield.read_cases with ⟨hnone, hread, hamount⟩ | ⟨hsome, hfits, hread⟩ |
        ⟨hsome, hfits, hread, hlarge⟩
      · rw [hread, Option.getD_none, hamount, zero_add, ih htail, hnone]
        constructor
        · rintro (hone | hcontainer)
          · exact .inl hone
          · exact .inr (.inr ⟨rfl, hcontainer⟩)
        · rintro (hone | ⟨hzero, -⟩ | ⟨-, hcontainer⟩)
          · exact .inl hone
          · exact .inl (by omega)
          · exact .inr hcontainer
      · have hamount := hfield.amount_nonneg
        rw [hread, Option.getD_some]
        simp only [hsome, hfits, false_and, and_true, or_false]
        omega
      · rw [hread, Option.getD_none]
        simp only [hsome, hfits, false_and, and_false, or_false]
        omega

end Pod

/-! ## The roles -/

section Assign

variable {σ α κ β : Type} [DecidableEq κ] {get : σ → β} {step : σ → α → σ} {key : α → κ} {k : κ}
  {value : α → Option β}

/-- A loop that sets a component at the elements of one key, when keys are distinct. -/
theorem foldl_assign {l : List α} (hdistinct : (l.map key).Nodup)
    (hstep : ∀ a ∈ l, ∀ s,
      get (step s a) = if key a = k then (value a).getD (get s) else get s) (s : σ) :
    get (l.foldl step s) = ((l.find? fun a => key a = k).bind value).getD (get s) := by
  induction l generalizing s with
  | nil => rfl
  | cons a l ih =>
      rw [List.map_cons, List.nodup_cons] at hdistinct
      rw [List.forall_mem_cons] at hstep
      rw [List.foldl_cons, ih hdistinct.2 hstep.2, hstep.1]
      by_cases hkey : key a = k
      · have hnone : (l.find? fun b => key b = k) = none := by
          rw [List.find?_eq_none]
          intro b hb hbkey
          apply hdistinct.1
          rw [hkey, ← of_decide_eq_true hbkey]
          exact List.mem_map_of_mem hb
        simp [hkey, hnone]
      · simp [hkey]

end Assign

section Roles

variable {rbg : RoleBasedGroup} {prefillRole decodeRole : String}

/-- The GPUs of a role that requests some. -/
def positiveRequest (role : Json) : Option ℤ :=
  if 0 < extractGPURequest role then some (extractGPURequest role) else none

theorem assignGPUs_fst (gpus : ℤ × ℤ) {role : Json} (hrole : ∃ fields, role = .obj fields) :
    (assignGPUs prefillRole decodeRole gpus role).1 =
      if roleNameOf role = prefillRole then (positiveRequest role).getD gpus.1 else gpus.1 := by
  obtain ⟨fields, rfl⟩ := hrole
  unfold assignGPUs positiveRequest roleNameOf
  dsimp only
  split_ifs <;> rfl

theorem assignGPUs_snd (gpus : ℤ × ℤ) {role : Json} (hrole : ∃ fields, role = .obj fields) :
    (assignGPUs prefillRole decodeRole gpus role).2 =
      if roleNameOf role = decodeRole then
        (if prefillRole = decodeRole then none else positiveRequest role).getD gpus.2
      else gpus.2 := by
  obtain ⟨fields, rfl⟩ := hrole
  unfold assignGPUs positiveRequest roleNameOf
  dsimp only
  split_ifs <;> simp_all

/-- A role's GPUs are the first request of its pod, and at least 1. -/
theorem getD_positiveRequest (roleName : String) :
    (((rolesOf rbg).find? fun role => roleNameOf role = roleName).bind positiveRequest).getD 1 =
      max (firstRequest (containersNamed rbg roleName)) 1 := by
  unfold containersNamed
  cases (rolesOf rbg).find? fun role => roleNameOf role = roleName with
  | none => rfl
  | some role =>
      simp only [Option.bind_some, Option.map_some, Option.getD_some, positiveRequest,
        extractGPURequest_eq]
      split_ifs with hpos
      · rw [Option.getD_some, max_eq_left hpos]
      · rw [Option.getD_none, max_eq_right (by omega)]

theorem getGPUsFromRBG_fst (h : RequestsGPUs rbg) :
    (getGPUsFromRBG rbg prefillRole decodeRole).1 =
      max (firstRequest (containersNamed rbg prefillRole)) 1 := by
  rw [getGPUsFromRBG_eq_foldl, ← getD_positiveRequest]
  exact foldl_assign h.distinct
    (fun role hrole gpus => assignGPUs_fst gpus (h.objects role hrole)) _

/-- A role that is the prefill role is not looked at as the decode role. -/
theorem getGPUsFromRBG_snd (h : RequestsGPUs rbg) :
    (getGPUsFromRBG rbg prefillRole decodeRole).2 =
      if prefillRole = decodeRole then 1
      else max (firstRequest (containersNamed rbg decodeRole)) 1 := by
  have hfold := foldl_assign h.distinct
    (fun role hrole gpus =>
      @assignGPUs_snd prefillRole decodeRole gpus role (h.objects role hrole)) (1, 1)
  rw [getGPUsFromRBG_eq_foldl]
  refine hfold.trans ?_
  rw [← getD_positiveRequest]
  split_ifs with hsame
  · cases (rolesOf rbg).find? fun role => roleNameOf role = decodeRole <;> rfl
  · rfl

/-- Every container of a role that is found says a number or nothing. -/
theorem RequestsGPUs.named (h : RequestsGPUs rbg) (roleName : String) :
    ∀ container ∈ containersNamed rbg roleName, IsRequest (gpuField container) := by
  intro container hmem
  unfold containersNamed at hmem
  cases hrole : (rolesOf rbg).find? fun role => roleNameOf role = roleName with
  | none => simp [hrole] at hmem
  | some role =>
      rw [hrole] at hmem
      exact h.requests role (List.mem_of_find?_eq_some hrole) container hmem

end Roles

theorem engineGPUs_eq_max {total : ℤ} (h : 0 ≤ total) : engineGPUs total = max total 1 := by
  unfold engineGPUs
  omega

/-- The engines get what their pods request exactly when both pods are counted,
and a pod that is taken for both requests at most one GPU. -/
theorem sumsRequests_iff {rbg : RoleBasedGroup} (prefillRole decodeRole : String)
    (h : RequestsGPUs rbg) :
    SumsRequests rbg prefillRole decodeRole ↔
      Counted (containersNamed rbg prefillRole) ∧ Counted (containersNamed rbg decodeRole) ∧
        (prefillRole = decodeRole → requested (containersNamed rbg decodeRole) ≤ 1) := by
  have hprefill := h.named prefillRole
  have hdecode := h.named decodeRole
  unfold SumsRequests
  rw [Prod.ext_iff, getGPUsFromRBG_fst h, getGPUsFromRBG_snd h,
    engineGPUs_eq_max (requested_nonneg hprefill), engineGPUs_eq_max (requested_nonneg hdecode),
    max_firstRequest_iff hprefill]
  by_cases hsame : prefillRole = decodeRole
  · rw [if_pos hsame]
    subst hsame
    have hone : 1 = max (requested (containersNamed rbg prefillRole)) 1 ↔
        requested (containersNamed rbg prefillRole) ≤ 1 := by omega
    dsimp only
    rw [hone]
    constructor
    · rintro ⟨hcounted, hsmall⟩
      exact ⟨hcounted, hcounted, fun _ => hsmall⟩
    · rintro ⟨hcounted, -, hsmall⟩
      exact ⟨hcounted, hsmall rfl⟩
  · rw [if_neg hsame, max_firstRequest_iff hdecode]
    simp [hsame]

/-! ## Two containers -/

private def container (requests : List (String × Json)) : Json :=
  .obj [("resources", .obj [("requests", .obj requests)])]

/-- A group with one role, whose pod has a sidecar before its engine. -/
private def sidecarGroup (sidecar engine : Json) : RoleBasedGroup where
  metadata := { key := ⟨"serving", "qwen"⟩ }
  object := .obj [("spec", .obj [("roles", .arr [.obj [("name", .str "decode"),
    ("template", .obj [("spec", .obj [("containers", .arr [sidecar, engine])])])]])])]

private def engine : Json := container [("nvidia.com/gpu", .str "4")]

private def plainSidecar : Json := container [("cpu", .str "2")]

private def zeroSidecar : Json := container [("nvidia.com/gpu", .str "0")]

private theorem requestsGPUs_sidecarGroup {sidecar : Json} (h : IsRequest (gpuField sidecar)) :
    RequestsGPUs (sidecarGroup sidecar engine) := by
  refine ⟨?_, List.nodup_singleton _, ?_⟩
  · intro role hrole
    exact ⟨_, List.mem_singleton.mp hrole⟩
  · intro role hrole container hcontainer
    obtain rfl := List.mem_singleton.mp hrole
    have hcontainer : container ∈ [sidecar, engine] := hcontainer
    rcases List.mem_pair.mp hcontainer with rfl | rfl
    · exact h
    · exact .text (s := "4") (by decide) (by decide) (by decide)

/-- A sidecar that does not mention GPUs does no harm. -/
theorem sumsRequests_iff_plain :
    SumsRequests (sidecarGroup plainSidecar engine) "prefill" "decode" := by
  have hnone : gpuField plainSidecar = none := rfl
  have hdomain : RequestsGPUs (sidecarGroup plainSidecar engine) :=
    requestsGPUs_sidecarGroup (hnone ▸ .absent)
  have hfits : Fits (gpuField engine) := show digitsValue (digitsOf "4") < 2 ^ 63 by decide
  refine (sumsRequests_iff "prefill" "decode" hdomain).mpr ⟨.inl (by decide), .inr ?_, by decide⟩
  exact ⟨[plainSidecar], engine, [], rfl, by simp [hnone], by simp, hfits⟩

/-- A sidecar that asks for no GPUs in so many words hides those of the engine. -/
theorem zero_hides_four :
    RequestsGPUs (sidecarGroup zeroSidecar engine) ∧
      getGPUsFromRBG (sidecarGroup zeroSidecar engine) "prefill" "decode" = (1, 1) ∧
      ¬ SumsRequests (sidecarGroup zeroSidecar engine) "prefill" "decode" := by
  refine ⟨requestsGPUs_sidecarGroup ?_, by decide +kernel, ?_⟩
  · exact .text (s := "0") (by decide) (by decide) (by decide)
  · unfold SumsRequests
    decide +kernel

end RbgPlanner.Properties.PodRequests
