import RbgPlanner.Planner.CommandLine

/-!
# The reach of the planner's command line

Which configurations a command line makes of an environment: it sets every field
but the two upper bounds, a metric source and a load predictor only among their
choices, and the two switches only to true.
-/

namespace RbgPlanner.Properties.PlannerCommandLine

open Base Base.NumberText Base.Argparse Planner Planner.Arguments

/-! ## What is parsed -/

/-- A number that `float` reads. -/
def Readable (x : PyFloat) : Prop := ∃ s, pyFloat s = .ok x

/-- What holds of a namespace, whatever is given. -/
structure Parsed (ns : Arguments) : Prop where
  metricSource : ∀ v, ns.metricSource = some v → v ∈ metricSources
  loadPredictor : ∀ v, ns.loadPredictor = some v → v ∈ loadPredictors
  ttftSla : ∀ x, ns.ttftSla = some x → Readable x
  itlSla : ∀ x, ns.itlSla = some x → Readable x
  noCorrection : ns.noCorrection ≠ some false
  noOperation : ns.noOperation ≠ some false

theorem parsed_empty : Parsed {} := ⟨nofun, nofun, nofun, nofun, nofun, nofun⟩

theorem store_keeps {α : Type} {type : String → Except PyExc α}
    {set : α → Arguments → Arguments}
    (hset : ∀ a ns, (∃ s, type s = .ok a) → Parsed ns → Parsed (set a ns)) :
    (store type set).Keeps Parsed := by
  intro value ns ns' hstore hns
  obtain ⟨a, ha, rfl⟩ := Option.map_eq_some_iff.mp hstore
  cases htype : type value with
  | error e =>
      rw [htype] at ha
      cases ha
  | ok b =>
      rw [htype] at ha
      cases ha
      exact hset _ ns ⟨value, htype⟩ hns

theorem storeChoice_keeps {choices : List String} {set : String → Arguments → Arguments}
    (hset : ∀ v ns, v ∈ choices → Parsed ns → Parsed (set v ns)) :
    (storeChoice choices set).Keeps Parsed := by
  intro value ns ns' hstore hns
  dsimp only at hstore
  split_ifs at hstore with hvalue
  cases hstore
  exact hset value ns hvalue hns

theorem parser_keeps : ∀ o ∈ parser, o.action.Keeps Parsed := by
  simp only [parser, List.forall_mem_cons]
  refine ⟨trivial, trivial, ?_, ?_, ?_, ?_, ?_, ?metricSource, ?_, ?_, ?_, ?_, ?_, ?_, ?ttftSla,
    ?itlSla, ?loadPredictor, ?_, ?noCorrection, ?_, ?_, ?noOperation, ?logLevel, nofun⟩
  case metricSource =>
    refine storeChoice_keeps fun v ns hv h => { h with metricSource := ?_ }
    rintro _ ⟨⟩
    exact hv
  case loadPredictor =>
    refine storeChoice_keeps fun v ns hv h => { h with loadPredictor := ?_ }
    rintro _ ⟨⟩
    exact hv
  case ttftSla =>
    refine store_keeps fun x ns hx h => { h with ttftSla := ?_ }
    rintro _ ⟨⟩
    exact hx
  case itlSla =>
    refine store_keeps fun x ns hx h => { h with itlSla := ?_ }
    rintro _ ⟨⟩
    exact hx
  case noCorrection => exact fun ns h => { h with noCorrection := nofun }
  case noOperation => exact fun ns h => { h with noOperation := nofun }
  case logLevel => exact storeChoice_keeps fun v ns _ h => { h with }
  all_goals exact store_keeps fun a ns _ h => { h with }

/-! ## What can be given -/

/-- The configurations that a command line can make of the environment's. -/
structure Reaches (base config : PlannerConfig) : Prop where
  maxPrefillReplicas : config.maxPrefillReplicas = base.maxPrefillReplicas
  maxDecodeReplicas : config.maxDecodeReplicas = base.maxDecodeReplicas
  metricSource : config.metricSource = base.metricSource ∨ config.metricSource ∈ metricSources
  loadPredictor : config.loadPredictor = base.loadPredictor ∨ config.loadPredictor ∈ loadPredictors
  ttftSla : config.ttftSla = base.ttftSla ∨ Readable config.ttftSla
  itlSla : config.itlSla = base.itlSla ∨ Readable config.itlSla
  noCorrection : base.noCorrection = true → config.noCorrection = true
  noOperation : base.noOperation = true → config.noOperation = true
  rbgName : config.rbgName = "" → config.noOperation = true

variable {α : Type} {base config : PlannerConfig} {ns : Arguments}

/-- What is given satisfies what is asked of what is given. -/
theorem getD_or {given : Option α} {base : α} {P : α → Prop} (h : ∀ a, given = some a → P a) :
    given.getD base = base ∨ P (given.getD base) := by
  cases given with
  | none => exact .inl rfl
  | some a => exact .inr (h a rfl)

/-- A switch that is never given as false is not switched off. -/
theorem getD_true {given : Option Bool} {base : Bool} (h : given ≠ some false)
    (hbase : base = true) : given.getD base = true := by
  cases given with
  | none => exact hbase
  | some b => simpa using h

theorem reaches_buildConfig (hns : Parsed ns)
    (hname : (ns.buildConfig base).rbgName = "" → (ns.buildConfig base).noOperation = true) :
    Reaches base (ns.buildConfig base) where
  maxPrefillReplicas := rfl
  maxDecodeReplicas := rfl
  metricSource := getD_or hns.metricSource
  loadPredictor := getD_or hns.loadPredictor
  ttftSla := getD_or hns.ttftSla
  itlSla := getD_or hns.itlSla
  noCorrection := getD_true hns.noCorrection
  noOperation := getD_true hns.noOperation
  rbgName := hname

/-! ## Rendering a namespace -/

/-- An option that takes a value, if there is one. -/
def given (name : String) (text : α → String) (value : Option α) : List String :=
  (value.map fun a => setting name (text a)).toList

/-- An option that takes none. -/
def switch (name : String) (value : Option Bool) : List String :=
  if value = some true then [name] else []

/-- A command line that is parsed as `ns`; numbers of type `float` are as `text` writes them. -/
def render (text : PyFloat → String) (ns : Arguments) : List String :=
  given "--rbg-name" id ns.rbgName ++ (given "--rbg-namespace" id ns.rbgNamespace ++
  (given "--prefill-role-name" id ns.prefillRoleName ++
  (given "--decode-role-name" id ns.decodeRoleName ++
  (given "--prometheus-endpoint" id ns.prometheusEndpoint ++
  (given "--metric-source" id ns.metricSource ++ (given "--model-name" id ns.modelName ++
  (given "--adjustment-interval" itoa ns.adjustmentInterval ++
  (given "--max-gpu-budget" itoa ns.maxGpuBudget ++ (given "--min-replicas" itoa ns.minReplicas ++
  (given "--prefill-engine-num-gpu" itoa ns.prefillEngineNumGpu ++
  (given "--decode-engine-num-gpu" itoa ns.decodeEngineNumGpu ++
  (given "--ttft-sla" text ns.ttftSla ++ (given "--itl-sla" text ns.itlSla ++
  (given "--load-predictor" id ns.loadPredictor ++
  (given "--load-prediction-window-size" itoa ns.loadPredictionWindowSize ++
  (switch "--no-correction" ns.noCorrection ++
  (given "--profile-results-dir" id ns.profileResultsDir ++
  (given "--planner-prometheus-port" itoa ns.plannerPrometheusPort ++
  (switch "--no-operation" ns.noOperation ++
  [setting "--log-level" ns.logLevel])))))))))))))))))))

theorem equals_notMem_name : ∀ o ∈ parser, '=' ∉ o.name.toList := by
  decide +kernel

/-- The options under their names. -/
theorem find_name : parser.Forall fun o => find parser o.name.toList = some o :=
  List.forall_iff_forall_mem.mpr fun _ ho => find_of_mem (by decide +kernel) ho

/-- An option that takes a value, given behind an equals sign. -/
theorem parses_setting {name value : String} {action : String → Arguments → Option Arguments}
    {ns' : Arguments} (hfind : find parser name.toList = some ⟨name, .store action⟩)
    (hdash : name.toList.head? = some '-') (hstore : action value ns = some ns') :
    Parses parser [setting name value] ns ns' :=
  fun _ => parseKnownArgs_setting equals_notMem_name hfind hdash rfl hstore

theorem parses_given (set : Option α → Arguments → Arguments) {name : String} {text : α → String}
    {value : Option α} (hnone : set none ns = ns)
    (hsome : ∀ a, value = some a → Parses parser [setting name (text a)] ns (set (some a) ns)) :
    Parses parser (given name text value) ns (set value ns) := by
  cases value with
  | none => exact hnone.symm ▸ Parses.nil ns
  | some a => exact hsome a rfl

theorem parses_switch (set : Option Bool → Arguments → Arguments) {name : String}
    {value : Option Bool} (hfind : find parser name.toList = some ⟨name, .flag (set (some true))⟩)
    (hdash : name.toList.head? = some '-') (hname : name ≠ "--") (hnone : set none ns = ns)
    (hvalue : value ≠ some false) : Parses parser (switch name value) ns (set value ns) := by
  cases value with
  | none => exact hnone.symm ▸ Parses.nil ns
  | some b =>
      cases b with
      | false => exact absurd rfl hvalue
      | true => exact fun _ => parseKnownArgs_flag hname hfind hdash rfl

/-- A value that `type` reads is stored. -/
theorem toOption_map {β : Type} {x : Except PyExc α} {a : α} (h : x = .ok a) (f : α → β) :
    x.toOption.map f = some (f a) := by
  rw [h]
  rfl

/-- Parsing what was rendered. -/
theorem parses_render {text : PyFloat → String}
    (htext : ∀ x, Readable x → pyFloat (text x) = .ok x) (hns : Parsed ns)
    (hlog : ns.logLevel ∈ logLevels) : Parses parser (render text ns) {} ns := by
  obtain ⟨-, -, hrbgName, hrbgNamespace, hprefillRoleName, hdecodeRoleName, hprometheusEndpoint,
    hmetricSource, hmodelName, hadjustmentInterval, hmaxGpuBudget, hminReplicas,
    hprefillEngineNumGpu, hdecodeEngineNumGpu, httftSla, hitlSla, hloadPredictor,
    hloadPredictionWindowSize, hnoCorrection, hprofileResultsDir, hplannerPrometheusPort,
    hnoOperation, hlogLevel⟩ := find_name
  refine (parses_given (fun v ns => { ns with rbgName := v }) rfl fun a _ =>
    parses_setting hrbgName rfl rfl).append ?_
  refine (parses_given (fun v ns => { ns with rbgNamespace := v }) rfl fun a _ =>
    parses_setting hrbgNamespace rfl rfl).append ?_
  refine (parses_given (fun v ns => { ns with prefillRoleName := v }) rfl fun a _ =>
    parses_setting hprefillRoleName rfl rfl).append ?_
  refine (parses_given (fun v ns => { ns with decodeRoleName := v }) rfl fun a _ =>
    parses_setting hdecodeRoleName rfl rfl).append ?_
  refine (parses_given (fun v ns => { ns with prometheusEndpoint := v }) rfl fun a _ =>
    parses_setting hprometheusEndpoint rfl rfl).append ?_
  refine (parses_given (fun v ns => { ns with metricSource := v }) rfl fun a ha =>
    parses_setting hmetricSource rfl (if_pos (hns.metricSource a ha))).append ?_
  refine (parses_given (fun v ns => { ns with modelName := v }) rfl fun a _ =>
    parses_setting hmodelName rfl rfl).append ?_
  refine (parses_given (fun v ns => { ns with adjustmentInterval := v }) rfl fun a _ =>
    parses_setting hadjustmentInterval rfl (toOption_map (pyInt_itoa a) _)).append ?_
  refine (parses_given (fun v ns => { ns with maxGpuBudget := v }) rfl fun a _ =>
    parses_setting hmaxGpuBudget rfl (toOption_map (pyInt_itoa a) _)).append ?_
  refine (parses_given (fun v ns => { ns with minReplicas := v }) rfl fun a _ =>
    parses_setting hminReplicas rfl (toOption_map (pyInt_itoa a) _)).append ?_
  refine (parses_given (fun v ns => { ns with prefillEngineNumGpu := v }) rfl fun a _ =>
    parses_setting hprefillEngineNumGpu rfl (toOption_map (pyInt_itoa a) _)).append ?_
  refine (parses_given (fun v ns => { ns with decodeEngineNumGpu := v }) rfl fun a _ =>
    parses_setting hdecodeEngineNumGpu rfl (toOption_map (pyInt_itoa a) _)).append ?_
  refine (parses_given (fun v ns => { ns with ttftSla := v }) rfl fun a ha =>
    parses_setting httftSla rfl (toOption_map (htext a (hns.ttftSla a ha)) _)).append ?_
  refine (parses_given (fun v ns => { ns with itlSla := v }) rfl fun a ha =>
    parses_setting hitlSla rfl (toOption_map (htext a (hns.itlSla a ha)) _)).append ?_
  refine (parses_given (fun v ns => { ns with loadPredictor := v }) rfl fun a ha =>
    parses_setting hloadPredictor rfl (if_pos (hns.loadPredictor a ha))).append ?_
  refine (parses_given (fun v ns => { ns with loadPredictionWindowSize := v }) rfl fun a _ =>
    parses_setting hloadPredictionWindowSize rfl (toOption_map (pyInt_itoa a) _)).append ?_
  refine (parses_switch (fun v ns => { ns with noCorrection := v }) hnoCorrection rfl (by decide)
    rfl hns.noCorrection).append ?_
  refine (parses_given (fun v ns => { ns with profileResultsDir := v }) rfl fun a _ =>
    parses_setting hprofileResultsDir rfl rfl).append ?_
  refine (parses_given (fun v ns => { ns with plannerPrometheusPort := v }) rfl fun a _ =>
    parses_setting hplannerPrometheusPort rfl (toOption_map (pyInt_itoa a) _)).append ?_
  refine (parses_switch (fun v ns => { ns with noOperation := v }) hnoOperation rfl (by decide) rfl
    hns.noOperation).append ?_
  exact parses_setting hlogLevel rfl (if_pos hlog)

/-! ## A command line for a configuration -/

/-- A value is given when it is not the environment's. -/
def override [DecidableEq α] (base a : α) : Option α := if a = base then none else some a

@[simp] theorem override_getD [DecidableEq α] (base a : α) : (override base a).getD base = a := by
  unfold override
  split_ifs with h
  · exact h.symm
  · rfl

theorem override_eq_some [DecidableEq α] {base a b : α} (h : override base a = some b) :
    b = a ∧ a ≠ base := by
  unfold override at h
  split_ifs at h with hne
  exact ⟨(Option.some.inj h).symm, hne⟩

/-- What is given to make `config` of `base`. -/
def overrides (base config : PlannerConfig) : Arguments where
  rbgName := override base.rbgName config.rbgName
  rbgNamespace := override base.rbgNamespace config.rbgNamespace
  prefillRoleName := override base.prefillRoleName config.prefillRoleName
  decodeRoleName := override base.decodeRoleName config.decodeRoleName
  prometheusEndpoint := override base.prometheusEndpoint config.prometheusEndpoint
  metricSource := override base.metricSource config.metricSource
  modelName := override base.modelName config.modelName
  adjustmentInterval := override base.adjustmentInterval config.adjustmentInterval
  maxGpuBudget := override base.maxGpuBudget config.maxGpuBudget
  minReplicas := override base.minReplicas config.minReplicas
  prefillEngineNumGpu := override base.prefillEngineNumGpu config.prefillEngineNumGpu
  decodeEngineNumGpu := override base.decodeEngineNumGpu config.decodeEngineNumGpu
  ttftSla := override base.ttftSla config.ttftSla
  itlSla := override base.itlSla config.itlSla
  loadPredictor := override base.loadPredictor config.loadPredictor
  loadPredictionWindowSize :=
    override base.loadPredictionWindowSize config.loadPredictionWindowSize
  noCorrection := override base.noCorrection config.noCorrection
  profileResultsDir := override base.profileResultsDir config.profileResultsDir
  plannerPrometheusPort := override base.plannerPrometheusPort config.plannerPrometheusPort
  noOperation := override base.noOperation config.noOperation

theorem override_or {P : α → Prop} [DecidableEq α] {base a : α} (h : a = base ∨ P a) :
    ∀ b, override base a = some b → P b := by
  intro b hb
  obtain ⟨rfl, hne⟩ := override_eq_some hb
  exact h.resolve_left hne

theorem override_ne_false {base a : Bool} (h : base = true → a = true) :
    override base a ≠ some false := by
  intro hgiven
  obtain ⟨rfl, hne⟩ := override_eq_some hgiven
  cases base with
  | false => exact hne rfl
  | true => cases h rfl

theorem parsed_overrides (h : Reaches base config) : Parsed (overrides base config) where
  metricSource := override_or h.metricSource
  loadPredictor := override_or h.loadPredictor
  ttftSla := override_or h.ttftSla
  itlSla := override_or h.itlSla
  noCorrection := override_ne_false h.noCorrection
  noOperation := override_ne_false h.noOperation

theorem buildConfig_overrides (h : Reaches base config) :
    (overrides base config).buildConfig base = config := by
  simp only [buildConfig, overrides, override_getD, ← h.maxPrefillReplicas, ← h.maxDecodeReplicas]

/-- A command line makes of the environment's configuration exactly those that it reaches. -/
theorem mainConfig_iff (env : List EnvVar) (config : PlannerConfig) :
    (∃ args, mainConfig env args = .ok config) ↔
      ∃ base, PlannerConfig.fromEnviron env = .ok base ∧ Reaches base config := by
  constructor
  · rintro ⟨args, hmain⟩
    unfold mainConfig at hmain
    cases hbase : PlannerConfig.fromEnviron env with
    | error e =>
        rw [hbase] at hmain
        cases hmain
    | ok base =>
        rw [hbase] at hmain
        refine ⟨base, rfl, ?_⟩
        cases hargs : parseArgs parser {} args with
        | error e =>
            rw [hargs] at hmain
            cases hmain
        | ok ns =>
            rw [hargs] at hmain
            dsimp only at hmain
            split_ifs at hmain with hname
            cases hmain
            refine reaches_buildConfig (parseArgs_keeps parser_keeps parsed_empty hargs) fun h => ?_
            simpa [h] using hname
  · rintro ⟨base, hbase, h⟩
    have hwritten : ∀ x, ∃ s, Readable x → pyFloat s = .ok x := by
      intro x
      by_cases hx : Readable x
      · obtain ⟨s, hs⟩ := hx
        exact ⟨s, fun _ => hs⟩
      · exact ⟨"", fun h => absurd h hx⟩
    obtain ⟨text, htext⟩ := Classical.skolem.mp hwritten
    have hparse := (parses_render htext (parsed_overrides h)
      (show "INFO" ∈ logLevels by decide)).accepted
    have hname : ¬ (config.rbgName = "" ∧ config.noOperation = false) := by
      rintro ⟨hempty, hoff⟩
      rw [h.rbgName hempty] at hoff
      cases hoff
    refine ⟨render text (overrides base config), ?_⟩
    unfold mainConfig
    rw [hbase, hparse]
    dsimp only
    rw [buildConfig_overrides h, if_neg hname]

end RbgPlanner.Properties.PlannerCommandLine
