import RbgPlanner.Planner.LoopCalls

/-!
# What a scaling request rests on

Every request by which a running planner changes a RoleBasedGroup comes after
the group was validated, seen Ready and an interval has gone by. It carries a
count the planner decided on, to the adapter of its role or to the position at
which the read just before found the role.
-/

namespace RbgPlanner.Properties

open Base Base.Prog Planner

/-! ## Requests of one call -/

/-- What a scaling request of `set_replicas` rests on in the events of its call. -/
structure Rests (targets : List TargetReplica) (t : List RbgEvent) (target : TargetReplica)
    (n : ℤ) : Prop where
  targeted : target ∈ targets
  count : n = target.desiredReplicas
  differs : ∃ rbg rest, t = ⟨.getRbg, .ok rbg⟩ :: rest ∧ rbg.isReady = true ∧
    target.roleName ∈ rbg.roleNames ∧ rbg.replicas target.roleName ≠ n

/-- The scaling requests of `set_replicas`. -/
def Scales (connector : RBGConnector) (targets : List TargetReplica) (t : List RbgEvent) :
    RbgEvent → Prop
  | ⟨.patchScale adapterName n, _⟩ => ∃ target, Rests targets t target n ∧
      adapterName = connector.adapterName target.roleName
  | ⟨.patchRole index n, _⟩ => ∃ target earlier fresh, Rests targets t target n ∧
      t = earlier ++ [⟨.patchScale (connector.adapterName target.roleName) n, .error 404⟩,
        ⟨.getRbg, .ok fresh⟩] ∧
      (fresh.roles.findIdx? fun role => role.name == target.roleName) = some index
  | _ => True

section Calls

variable {connector : RBGConnector} {targets : List TargetReplica} {rbg : Rbg}
  {t : List RbgEvent}

/-- A call of the connector among the scaling requests for these targets. -/
abbrev TellsScaling (connector : RBGConnector) (targets : List TargetReplica) {α : Type}
    (Q : List RbgEvent → Except PlannerExc α → Prop) (x : RbgCall α) (t : List RbgEvent) : Prop :=
  (ExceptT.run x).Tells (fun _ _ => True) (Scales connector targets) Q t

/-- A read that is answered is the last event. -/
theorem tells_getRbg {Φ : List RbgEvent → RbgEvent → Prop} (hΦ : ∀ r, Φ t ⟨.getRbg, r⟩) :
    (ExceptT.run connector.getRbg).Tells (fun _ _ => True) Φ
      (fun t' r => ∀ rbg, r = .ok rbg → t' = t ++ [⟨.getRbg, .ok rbg⟩]) t := by
  refine Tells.lift_bind (fun r _ => hΦ r) fun r _ => ?_
  split
  · rintro _ h
    rw [Except.ok.inj h]
  · exact nofun
  · exact nofun

/-- Waiting reads and sleeps until a read that is Ready. -/
theorem tells_waitForReady {Φ : List RbgEvent → RbgEvent → Prop} {delaySeconds : ℕ}
    (hread : ∀ t r, Φ t ⟨.getRbg, r⟩) (hsleep : ∀ t r, Φ t ⟨.sleep delaySeconds, r⟩)
    (attempts : ℕ) :
    (ExceptT.run (connector.waitForReady delaySeconds attempts)).Tells (fun _ _ => True) Φ
      (fun t' r => r = .ok () → ∃ rbg : Rbg, rbg.isReady = true ∧
        (t ++ [(⟨.getRbg, .ok rbg⟩ : RbgEvent)]).Sublist t') t := by
  induction attempts generalizing t with
  | zero => exact nofun
  | succ attempts ih =>
      refine Tells.lift_bind (fun r _ => hsleep t r) fun _ _ => ?_
      refine Tells.bind_raising (tells_getRbg (hread _)) ?_ fun _ _ _ => nofun
      rintro t' rbg ht'
      obtain rfl := ht' rbg rfl
      split_ifs with hready
      · intro _
        exact ⟨rbg, hready, (List.sublist_append_left t _).append (List.Sublist.refl _)⟩
      · refine ih.mono (fun _ _ h => h) fun t' r ht' hr => ?_
        obtain ⟨rbg, hready, hsub⟩ := ht' hr
        refine ⟨rbg, hready, List.Sublist.trans (List.Sublist.append ?_ (.refl _)) hsub⟩
        exact (List.sublist_append_left t _).trans (List.sublist_append_left _ _)

theorem tells_validateDeployment {Φ : List RbgEvent → RbgEvent → Prop}
    (hread : ∀ t r, Φ t ⟨.getRbg, r⟩) :
    (ExceptT.run connector.validateDeployment).Tells (fun _ _ => True) Φ
      (fun t' r => r = .ok () → ∃ rbg, t' = t ++ [⟨.getRbg, .ok rbg⟩] ∧
        connector.prefillRoleName ∈ rbg.roleNames ∧ connector.decodeRoleName ∈ rbg.roleNames)
      t := by
  refine Tells.bind_raising (tells_getRbg (hread t)) ?_ fun _ _ _ => nofun
  rintro t' rbg ht'
  obtain rfl := ht' rbg rfl
  unfold RBGConnector.getRoleFromRbg
  cases hprefill : rbg.role? connector.prefillRoleName with
  | none => exact nofun
  | some prefill =>
      cases hdecode : rbg.role? connector.decodeRoleName with
      | none => exact nofun
      | some decode =>
          refine fun _ => ⟨rbg, rfl, Rbg.role?_isSome_iff.mp ?_, Rbg.role?_isSome_iff.mp ?_⟩
          · rw [hprefill]
            rfl
          · rw [hdecode]
            rfl

/-- A target is written through its adapter, or at the position of a new read. -/
theorem tells_scaleRole {target : TargetReplica}
    (hrests : ∀ t', t <+: t' → Rests targets t' target target.desiredReplicas) :
    TellsScaling connector targets (fun t' _ => t <+: t')
      (connector.scaleRole target.roleName target.desiredReplicas) t := by
  refine Tells.mono (Tells.grows (Q := fun _ _ => True) ?_) (fun _ _ h => h) fun _ _ h => h.2
  refine Tells.bind_raising (Q := fun t' r => r = .ok false → t' = t ++
    [⟨.patchScale (connector.adapterName target.roleName) target.desiredReplicas, .error 404⟩])
    ?_ ?_ fun _ _ _ => trivial
  · refine Tells.lift_bind (fun _ _ => ⟨target, hrests t List.prefix_rfl, rfl⟩) fun r _ => ?_
    split
    · exact nofun
    · exact fun _ => rfl
    · exact nofun
  · rintro t' viaAdapter ht'
    split_ifs with hvia
    · trivial
    · obtain rfl := ht' (by simpa using hvia)
      refine Tells.bind_raising (tells_getRbg fun _ => trivial) ?_ fun _ _ _ => trivial
      rintro t'' fresh ht''
      obtain rfl := ht'' fresh rfl
      cases hindex : fresh.roles.findIdx? fun role => role.name == target.roleName with
      | none => trivial
      | some index =>
          refine Tells.lift_bind (fun _ _ => ?_) fun r _ => ?_
          · refine ⟨target, t, fresh, hrests _ ?_, by simp, hindex⟩
            rw [List.append_assoc]
            exact List.prefix_append _ _
          · split <;> trivial

theorem tells_scaleTargets {remaining : List TargetReplica} (hmem : ∀ u ∈ remaining, u ∈ targets)
    (hready : rbg.isReady = true) (ht : [⟨.getRbg, .ok rbg⟩] <+: t) :
    TellsScaling connector targets (fun _ _ => True) (connector.scaleTargets rbg remaining) t := by
  induction remaining generalizing t with
  | nil => trivial
  | cons target remaining ih =>
      obtain ⟨htarget, hlater⟩ := List.forall_mem_cons.mp hmem
      refine Tells.bind_raising (Q := fun t' _ => t <+: t') ?_
        (fun t' _ ht' => ih hlater (ht.trans ht')) fun _ _ _ => trivial
      unfold RBGConnector.scaleTarget RBGConnector.getRoleFromRbg
      cases hrole : rbg.role? target.roleName with
      | none => exact List.prefix_rfl
      | some role =>
          change TellsScaling connector targets (fun t' _ => t <+: t')
            (if role.replicas.getD 0 ≠ target.desiredReplicas then
              connector.scaleRole target.roleName target.desiredReplicas else pure ()) t
          split_ifs with hdiffers
          · refine tells_scaleRole fun t' ht' => ⟨htarget, rfl, ?_⟩
            obtain ⟨rest, hrest⟩ := ht.trans ht'
            refine ⟨rbg, rest, hrest.symm, hready, ?_, ?_⟩
            · exact Rbg.role?_isSome_iff.mp (by rw [hrole]; rfl)
            · simpa [Rbg.replicas, hrole] using hdiffers
          · exact List.prefix_rfl

theorem tells_setReplicas {blocking : Bool} :
    TellsScaling connector targets (fun _ _ => True) (connector.setReplicas targets blocking)
      [] := by
  unfold RBGConnector.setReplicas
  by_cases hempty : targets.isEmpty = true
  · rw [if_pos hempty]
    trivial
  · rw [if_neg hempty]
    refine Tells.bind_raising (tells_getRbg fun _ => trivial) ?_ fun _ _ _ => trivial
    rintro t rbg ht
    obtain rfl := ht rbg rfl
    change TellsScaling connector targets (fun _ _ => True) (if !rbg.isReady then pure () else do
      connector.scaleTargets rbg targets
      if blocking then connector.waitForReady 10 180 else pure ()) _
    cases hready : rbg.isReady with
    | false => trivial
    | true =>
        refine Tells.bind_raising
          (tells_scaleTargets (fun _ h => h) hready List.prefix_rfl) (fun t' _ _ => ?_)
          fun _ _ _ => trivial
        cases blocking with
        | true =>
            exact (tells_waitForReady (fun _ _ => trivial) (fun _ _ => trivial) 180).mono
              (fun _ _ h => h) fun _ _ _ => trivial
        | false => trivial

end Calls

/-! ## Requests of a cycle -/

/-- Requests that change a RoleBasedGroup. -/
def Writes : RbgOp → Prop
  | .patchScale _ _ => True
  | .patchRole _ _ => True
  | _ => False

/-- An event of the connector among the calls of the planner. -/
def serviceEvent (e : RbgEvent) : Event ApiOp ApiResp := ⟨.rbg e.1, e.2⟩

theorem serviceEvent_injective : Function.Injective serviceEvent := by
  rintro ⟨op, r⟩ ⟨op', r'⟩ h
  obtain ⟨hop, hr⟩ := Sigma.mk.inj h
  cases hop
  cases hr
  rfl

/-- An event of the planner's services among those of its loop. -/
def loopEvent (e : Event ApiOp ApiResp) : LoopEvent := ⟨.api e.1, e.2⟩

/-- A scaling request ends a history with a call for counts that the planner decides on. -/
def Decides (connector : RBGConnector) (config : PlannerConfig) (D : ℤ × ℤ → Prop)
    (h : History ApiOp ApiResp) (e : RbgEvent) : Prop :=
  ∃ target before t, D target ∧ h = before ++ t.map serviceEvent ∧
    Scales connector (config.targets target) t e

/-- Answers in which each query has heard one of these. -/
def ApiHears (heard : String → Except PyExc (List PyFloat) → Prop) :
    (op : ApiOp) → ApiResp op → Prop
  | .query query, r => heard query r
  | .rbg _, _ => True

section Cycle

variable {connector : RBGConnector} {forecasters : Forecasters} {s : PlannerState}
  {config : PlannerConfig} {heard : String → Except PyExc (List PyFloat) → Prop}
  {I : PlannerState → Prop} {D : ℤ × ℤ → Prop}

theorem tells_connectorCalls {α : Type} {Φ : List RbgEvent → RbgEvent → Prop}
    {V : (op : ApiOp) → ApiResp op → Prop}
    {Ψ : History ApiOp ApiResp → Event ApiOp ApiResp → Prop} {Q : List RbgEvent → α → Prop}
    {p : RbgProg α} {t : List RbgEvent} (before : History ApiOp ApiResp)
    (hp : p.Tells (fun _ _ => True) Φ Q t)
    (hΦ : ∀ t e, Φ t e → Ψ (before ++ t.map serviceEvent) (serviceEvent e)) :
    (connectorCalls p).Tells V Ψ
      (fun h a => ∃ t', h = before ++ t'.map serviceEvent ∧ Q t' a)
      (before ++ t.map serviceEvent) := by
  refine hp.interp (R := fun h t => h = before ++ t.map serviceEvent) rfl ?_
  rintro op _ t rfl hevent r -
  exact ⟨hΦ t ⟨op, r⟩ (hevent r trivial), trivial, by simp [serviceEvent]⟩

/-- Scaling requests of a cycle, among all of its events. -/
def Scaling (connector : RBGConnector) (config : PlannerConfig) (D : ℤ × ℤ → Prop)
    (h : History ApiOp ApiResp) (e : Event ApiOp ApiResp) : Prop :=
  ∀ e', e = serviceEvent e' → Writes e'.1 →
    config.noOperation = false ∧ Decides connector config D h e'

theorem tells_cycle (hkeeps : Keeps heard forecasters config I D) (hs : I s)
    (h : History ApiOp ApiResp) :
    ((s.cycle forecasters).interp connector.answer).Tells (ApiHears heard)
      (Scaling connector config D) (fun _ step => I step.2) h := by
  refine Tells.mono ((hkeeps.cycle s hs).interp_tells (J := fun _ => True) ?_ trivial)
    (fun _ _ h => h) fun _ _ h => h.1
  rintro op h hplanned -
  cases op with
  | getRoleReadyReplicas roleName =>
      have hreads : (ExceptT.run (connector.getRoleReadyReplicas roleName)).Tells
          (fun _ _ => True) (fun _ e => ¬ Writes e.1) (fun _ _ => True) [] := by
        refine Tells.bind_raising (tells_getRbg fun _ => id) (fun _ _ _ => ?_) fun _ _ _ => trivial
        split <;> trivial
      have hcalls := tells_connectorCalls (V := ApiHears heard)
        (Ψ := Scaling connector config D) h hreads ?_
      · rw [List.map_nil, List.append_nil] at hcalls
        exact hcalls.mono (fun _ _ h => h) fun _ _ _ => ⟨trivial, trivial⟩
      · intro t e hquiet e' he
        rw [← serviceEvent_injective he]
        exact fun hwrites => absurd hwrites hquiet
  | setReplicas targets blocking =>
      obtain ⟨hdry, -, target, hdecided, rfl⟩ := hplanned
      have hscaling : TellsScaling connector (config.targets target) (fun _ _ => True)
        (connector.setReplicas (config.targets target) blocking) [] := tells_setReplicas
      have hcalls := tells_connectorCalls (V := ApiHears heard)
        (Ψ := Scaling connector config D) h hscaling ?_
      · rw [List.map_nil, List.append_nil] at hcalls
        exact hcalls.mono (fun _ _ h => h) fun _ _ _ => ⟨trivial, trivial⟩
      · intro t e hscales e' he _
        rw [← serviceEvent_injective he]
        exact ⟨hdry, target, h, t, hdecided, rfl, hscales⟩
  | customQuery query =>
      intro r hr
      refine ⟨fun e' he => ?_, hr, trivial⟩
      cases congrArg Sigma.fst he

end Cycle

/-! ## Requests of the process -/

theorem loopEvent_injective : Function.Injective loopEvent := by
  rintro ⟨op, r⟩ ⟨op', r'⟩ h
  obtain ⟨hop, hr⟩ := Sigma.mk.inj h
  cases hop
  cases hr
  rfl

/-- The group was validated, then Ready, and then the clock was read as told. -/
def Waited (connector : RBGConnector) (clock : List ℚ) (h : List LoopEvent) : Prop :=
  ∃ rbg rbg' : Rbg, connector.prefillRoleName ∈ rbg.roleNames ∧
    connector.decodeRoleName ∈ rbg.roleNames ∧ rbg'.isReady = true ∧
    (loopEvent (serviceEvent ⟨.getRbg, .ok rbg⟩) :: loopEvent (serviceEvent ⟨.getRbg, .ok rbg'⟩) ::
      clock.map fun t => (⟨.time, t⟩ : LoopEvent)).Sublist h

/-- What a scaling request of a running planner rests on. -/
structure Earned (connector : RBGConnector) (config : PlannerConfig) (D : ℤ × ℤ → Prop)
    (h : List LoopEvent) (e : RbgEvent) : Prop where
  wet : config.noOperation = false
  due : ∃ last now, Waited connector [last, now] h ∧
    (config.adjustmentInterval : ℚ) ≤ now - last
  decided : ∃ before t, h = before ++ t.map loopEvent ∧ Decides connector config D t e

/-- Scaling requests of the process, among all of its events. -/
def EarnedScaling (connector : RBGConnector) (config : PlannerConfig) (D : ℤ × ℤ → Prop)
    (h : List LoopEvent) (e : LoopEvent) : Prop :=
  ∀ e', e = loopEvent (serviceEvent e') → Writes e'.1 → Earned connector config D h e'

/-- The same among the calls of the process. -/
def LoopHears (heard : String → Except PyExc (List PyFloat) → Prop) :
    (op : LoopOp) → LoopResp op → Prop
  | .api op, r => ApiHears heard op r
  | _, _ => True

section Process

variable {connector : RBGConnector} {forecasters : Forecasters} {config : PlannerConfig}
  {h : List LoopEvent} {clock : List ℚ} {t : ℚ}
  {heard : String → Except PyExc (List PyFloat) → Prop} {I : PlannerState → Prop}
  {D : ℤ × ℤ → Prop}

theorem Waited.append (hwaited : Waited connector clock h) (h' : List LoopEvent) :
    Waited connector clock (h ++ h') := by
  obtain ⟨rbg, rbg', hprefill, hdecode, hready, hsub⟩ := hwaited
  exact ⟨rbg, rbg', hprefill, hdecode, hready, hsub.trans (List.sublist_append_left h h')⟩

theorem Waited.time (hwaited : Waited connector clock h) :
    Waited connector (clock ++ [t]) (h ++ [⟨.time, t⟩]) := by
  obtain ⟨rbg, rbg', hprefill, hdecode, hready, hsub⟩ := hwaited
  refine ⟨rbg, rbg', hprefill, hdecode, hready, ?_⟩
  simpa using hsub.append (.refl [⟨.time, t⟩])

theorem Waited.forget (hwaited : Waited connector clock h) : Waited connector [] h := by
  obtain ⟨rbg, rbg', hprefill, hdecode, hready, hsub⟩ := hwaited
  refine ⟨rbg, rbg', hprefill, hdecode, hready, List.Sublist.trans ?_ hsub⟩
  exact ((List.nil_sublist _).cons_cons _).cons_cons _

theorem tells_serviceCalls {α : Type}
    {Φ : History ApiOp ApiResp → Event ApiOp ApiResp → Prop}
    {Ψ : List LoopEvent → LoopEvent → Prop} {Q : History ApiOp ApiResp → α → Prop}
    {p : Prog ApiOp ApiResp α} {t : History ApiOp ApiResp} (before : List LoopEvent)
    (hp : p.Tells (ApiHears heard) Φ Q t)
    (hΦ : ∀ t e, Φ t e → Ψ (before ++ t.map loopEvent) (loopEvent e)) :
    (serviceCalls p).Tells (LoopHears heard) Ψ
      (fun h a => ∃ t', h = before ++ t'.map loopEvent ∧ Q t' a) (before ++ t.map loopEvent) := by
  refine hp.interp (R := fun h t => h = before ++ t.map loopEvent) rfl ?_
  rintro op _ t rfl hevent r hr
  exact ⟨hΦ t ⟨op, r⟩ (hevent r hr), hr, by simp [loopEvent]⟩

/-- Programs of the connector that only read, among the calls of the process. -/
theorem tells_reads {α : Type} {Q : List RbgEvent → α → Prop} {p : RbgProg α}
    (h : List LoopEvent) (hp : p.Tells (fun _ _ => True) (fun _ e => ¬ Writes e.1) Q []) :
    (serviceCalls (connectorCalls p)).Tells (LoopHears heard) (EarnedScaling connector config D)
      (fun h' a => ∃ t, h' = h ++ (t.map serviceEvent).map loopEvent ∧ Q t a) h := by
  have hcalls := tells_connectorCalls (V := ApiHears heard)
    (Ψ := fun _ e => ∀ e', e = serviceEvent e' → ¬ Writes e'.1) [] hp fun t e he e' h =>
      serviceEvent_injective h ▸ he
  have hloop := tells_serviceCalls (Ψ := EarnedScaling connector config D) h hcalls
    fun t e he e' h hwrites => absurd hwrites (he e' (loopEvent_injective h))
  simp only [List.map_nil, List.append_nil, List.nil_append] at hloop
  refine hloop.mono (fun _ _ h => h) ?_
  rintro _ a ⟨_, rfl, t, rfl, ha⟩
  exact ⟨t, rfl, ha⟩

theorem tells_prepare {planner : PlannerState} :
    (ExceptT.run (planner.prepare connector)).Tells (LoopHears heard)
      (EarnedScaling connector config D)
      (fun h r => r = .ok () → planner.config.noOperation = false → Waited connector [] h) [] := by
  unfold PlannerState.prepare
  split_ifs with hdry
  · exact fun _ hwet => absurd hdry (by simp [hwet])
  · refine Tells.bind_raising (tells_reads [] (tells_validateDeployment fun _ _ => id)) ?_
      fun _ _ _ => nofun
    rintro _ _ ⟨t, rfl, hvalidated⟩
    obtain ⟨rbg, rfl, hprefill, hdecode⟩ := hvalidated rfl
    refine (tells_reads _ (tells_waitForReady (fun _ _ => id) (fun _ _ => id) 180)).mono
      (fun _ _ h => h) ?_
    rintro _ r ⟨t', rfl, hready⟩ hr -
    obtain ⟨rbg', hready, hsub⟩ := hready hr
    refine ⟨rbg, rbg', hprefill, hdecode, hready, ?_⟩
    exact ((hsub.map serviceEvent).map loopEvent).cons_cons _

section Keeps

variable (hkeeps : Keeps heard forecasters config I D)
include hkeeps

/-- The calls of a cycle, in the history of the process. -/
theorem tells_cycleCalls {planner : PlannerState} (hplanner : I planner) (h : List LoopEvent) :
    (serviceCalls ((planner.cycle forecasters).interp connector.answer)).Tells (LoopHears heard)
      (fun h' e => ∀ e', e = loopEvent (serviceEvent e') → Writes e'.1 →
        config.noOperation = false ∧
        ∃ before t, h' = before ++ t.map loopEvent ∧ Decides connector config D t e')
      (fun _ step => I step.2) h := by
  have hcycle : ((planner.cycle forecasters).interp connector.answer).Tells (ApiHears heard)
    (Scaling connector config D) (fun _ step => I step.2) [] := tells_cycle hkeeps hplanner []
  have hcalls := tells_serviceCalls (Ψ := fun h' e => ∀ e', e = loopEvent (serviceEvent e') →
    Writes e'.1 → config.noOperation = false ∧
    ∃ before t, h' = before ++ t.map loopEvent ∧ Decides connector config D t e') h hcycle ?_
  · rw [List.map_nil, List.append_nil] at hcalls
    exact hcalls.mono (fun _ _ h => h) fun _ _ ⟨_, _, hkept⟩ => hkept
  · intro t e hscaling e' he hwrites
    obtain ⟨hwet, hdecides⟩ := hscaling e' (loopEvent_injective he) hwrites
    exact ⟨hwet, h, t, rfl, hdecides⟩

/-- The adjustment of a cycle that is due. -/
theorem tells_adjust {planner : PlannerState} {last now : ℚ} (hplanner : I planner)
    (hwaited : config.noOperation = false → Waited connector [last, now] h)
    (hdue : (config.adjustmentInterval : ℚ) ≤ now - last) :
    (ExceptT.run (RunningPlanner.adjust connector forecasters planner)).Tells (LoopHears heard)
      (EarnedScaling connector config D)
      (fun h' r => ∀ planner', r = .ok planner' → I planner' ∧ h <+: h') h := by
  have hwaiting : (serviceCalls ((planner.cycle forecasters).interp connector.answer)).Tells
      (LoopHears heard) (fun h' _ => config.noOperation = false →
        Waited connector [last, now] h') _ h :=
    Tells.keeps (fun _ _ h hwet => (h hwet).append _) _ hwaited
  have hcalls := ((tells_cycleCalls hkeeps hplanner h).and hwaiting).grows
  refine Tells.bind_raising (Tells.lift (hcalls.mono (Ψ := EarnedScaling connector config D)
    ?_ fun _ _ h => h)) ?_ ?_
  · intro h' e he e' hevent hwrites
    obtain ⟨hwet, hdecided⟩ := he.1 e' hevent hwrites
    exact ⟨hwet, ⟨last, now, he.2 hwet, hdue⟩, hdecided⟩
  · rintro h' ⟨outcome, planner'⟩ ⟨_, hstep, ⟨hkept, -⟩, hgrown⟩
    obtain rfl := Except.ok.inj hstep
    cases outcome with
    | error e =>
        rintro planner'' h
        cases h
    | ok _ =>
        rintro planner'' h
        obtain rfl := Except.ok.inj h
        exact ⟨hkept, hgrown⟩
  · rintro h' e ⟨_, hstep, -⟩
    cases hstep

theorem tells_turn {self : RunningPlanner} (hself : I self.planner)
    (hwaited : config.noOperation = false → Waited connector [self.lastAdjustmentTime] h) :
    (ExceptT.run (self.turn connector forecasters)).Tells (LoopHears heard)
      (EarnedScaling connector config D)
      (fun h r => ∀ self', r = .ok self' → I self'.planner ∧
        (config.noOperation = false → Waited connector [self'.lastAdjustmentTime] h)) h := by
  have hsame : self.planner.config = config := hkeeps.same _ hself
  refine Tells.lift_bind (fun _ _ e' he => by cases congrArg Sigma.fst he) fun now _ => ?_
  split_ifs with hdue
  · refine Tells.lift_bind (fun _ _ e' he => by cases congrArg Sigma.fst he) fun last _ => ?_
    have hready : config.noOperation = false → Waited connector
        [self.lastAdjustmentTime, now] (h ++ [⟨.time, now⟩] ++ [⟨.time, last⟩]) :=
      fun hwet => ((hwaited hwet).time).append _
    rw [RunningPlanner.interval, hsame] at hdue
    refine Tells.bind_raising (tells_adjust hkeeps hself hready hdue) ?_ ?_
    · rintro h' planner' hplanner
      obtain ⟨hkept, later, rfl⟩ := hplanner planner' rfl
      refine Tells.lift_bind (fun _ _ e' he => by cases congrArg Sigma.fst he) fun _ _ => ?_
      rintro self' hself
      obtain rfl := Except.ok.inj hself
      exact ⟨hkept, fun hwet =>
        (((((hwaited hwet).forget).append _).time).append _).append _⟩
    · rintro h' e - self' hself
      cases hself
  · refine Tells.lift_bind (fun _ _ e' he => by cases congrArg Sigma.fst he) fun _ _ => ?_
    rintro self' hself'
    obtain rfl := Except.ok.inj hself'
    exact ⟨hself, fun hwet => ((hwaited hwet).append _).append _⟩

theorem tells_loop {turns : ℕ} (self : RunningPlanner) (hself : I self.planner)
    (hwaited : config.noOperation = false → Waited connector [self.lastAdjustmentTime] h) :
    (ExceptT.run (RunningPlanner.loop connector forecasters turns self)).Tells (LoopHears heard)
      (EarnedScaling connector config D) (fun _ _ => True) h := by
  induction turns generalizing self h with
  | zero => trivial
  | succ turns ih =>
      refine Tells.bind_raising (tells_turn hkeeps hself hwaited) ?_ fun _ _ _ => trivial
      rintro h' self' hself'
      obtain ⟨hkept, hwaited'⟩ := hself' self' rfl
      exact ih self' hkept hwaited'

/-- A running planner earns its scaling requests, and decides on `D`. -/
theorem tells_run {planner : PlannerState} (hplanner : I planner) {turns : ℕ} :
    (ExceptT.run (planner.run connector forecasters turns)).Tells (LoopHears heard)
      (EarnedScaling connector config D) (fun _ _ => True) [] := by
  refine Tells.bind_raising tells_prepare ?_ fun _ _ _ => trivial
  rintro h _ hwaited
  refine Tells.lift_bind (fun _ _ e' he => by cases congrArg Sigma.fst he) fun last _ => ?_
  rw [hkeeps.same planner hplanner] at hwaited
  exact tells_loop hkeeps ⟨planner, last⟩ hplanner fun hwet => (hwaited rfl hwet).time

end Keeps

theorem loopHears_true {op : LoopOp} {r : LoopResp op} : LoopHears (fun _ _ => True) op r := by
  cases op with
  | api op => cases op <;> trivial
  | _ => trivial

/-- In every run of the planner, whatever is answered and wherever it ends, each
scaling request is earned by the events before it. -/
theorem scaling_earned {σ : Type} {answer : (op : LoopOp) → σ → LoopResp op → σ → Prop}
    {env : σ → σ → Prop} {planner : PlannerState} {turns : ℕ} {w w' : σ} {tr : List LoopEvent}
    {out} (h : (ExceptT.run (planner.run connector forecasters turns)).Exec answer env w tr out w')
    {before after : List LoopEvent} {e : RbgEvent}
    (htr : tr = before ++ loopEvent (serviceEvent e) :: after) (he : Writes e.1) :
    Earned connector planner.config (Decided planner.config) before e :=
  Tells.exec (tells_run (keeps_config forecasters _) rfl) (fun _ _ _ _ _ => loopHears_true) h htr
    e rfl he

end Process

private def earnedPlanner : PlannerState := .flat .default (.constant []) 100 1000 40 500

private def earnedRun : LoopProg (Except PlannerExc RunningPlanner) :=
  ExceptT.run (earnedPlanner.run (.ofConfig .default "serving") .failing 11)

/-- The patch of the prefill role in the first cycle. -/
theorem scaling_earned_first_cycle :
    ∃ before after, earnedRun.trace (Host.serve (.fin 2000)) Host.small =
        before ++ loopEvent (serviceEvent ⟨.patchRole 0 6, .ok ()⟩) :: after ∧
      Earned (.ofConfig .default "serving") .default (Decided .default) before
        ⟨.patchRole 0 6, .ok ()⟩ := by
  have hmem : loopEvent (serviceEvent ⟨.patchRole 0 6, .ok ()⟩) ∈
      earnedRun.trace (Host.serve (.fin 2000)) Host.small := by decide +kernel
  obtain ⟨before, after, htr⟩ := List.append_of_mem hmem
  have hrun : earnedRun.Exec (fun op t r t' => Host.serve (.fin 2000) op t = (r, t'))
      (fun _ _ => False) Host.small (earnedRun.trace (Host.serve (.fin 2000)) Host.small) _ _ :=
    exec_of_run (fun _ _ => rfl) earnedRun Host.small
  have hearned : Earned (.ofConfig .default "serving") earnedPlanner.config
    (Decided earnedPlanner.config) before ⟨.patchRole 0 6, .ok ()⟩ :=
    scaling_earned hrun htr trivial
  exact ⟨before, after, htr, hearned⟩

end RbgPlanner.Properties
