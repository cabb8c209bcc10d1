import OpsPilot.Orchestration.Consultation
import OpsPilot.Orchestration.Moves
import OpsPilot.Simulator.Recovery
/-!
# What the agents are shown of the metrics (`verifier.py`, `metrics_analyst.py`)

The verifier asks for `http_request_duration_p95_seconds`, which only the background traffic has; that is
generated when a scenario is loaded, up to the start of the incident, and never again. So all that an
action can change in what the verifier is shown is one word, the status of the service, and it changes
for the services that the scenario lists. The metrics analyst asks for two metrics that one scenario
of the ten emits, for one service.

| here | there |
| --- | --- |
| `healthyTraffic` | the baseline of `load_scenario` (engine.py:73), were there nothing else in the store |
| `LiveTopology.nodes` | the services without their statuses |
| `Shown`          | no function of the source: what is stored from the loading of a scenario on |
-/
namespace OpsPilot

open Ranking ScenarioCatalog

/-! ## Which scenario emits what -/

def emittedMetrics : List (String × List String) :=
  [("redis_pool_exhaustion", ["p95_latency_ms", "error_rate_percent", "redis_active_connections",
      "redis_pool_wait_queue"]),
    ("db_connection_exhaustion", ["db_active_connections", "http_500_rate"]),
    ("slow_query", ["db_query_p95_ms", "db_cpu_percent"]),
    ("memory_leak", ["memory_usage_percent", "gc_pause_ms"]),
    ("cpu_saturation", ["cpu_usage_percent", "dispatch_rate"]),
    ("downstream_failure", ["order_http_503_rate", "payment_availability"]),
    ("bad_deployment", ["gateway_404_rate", "success_rate"]),
    ("invalid_config", ["http_401_percent"]),
    ("api_timeout", ["timeout_rate", "provider_p95_latency"]),
    ("queue_backlog", ["queue_depth_messages", "consumption_rate"])]

/-- The metrics of the class are those of its row. -/
structure MetricRow (cls : ScenarioClass) (names : List String) : Prop where
  mem : (cls.groundTruth.scenarioId, names) ∈ emittedMetrics
  names : ∀ isRemediated start stop, (cls.generateMetrics isRemediated start stop).map Prod.fst = names

theorem metricRow_of_steadyMetrics {cls : ScenarioClass} {rows : List (String × Rat × Rat)} {names : List String}
    (h : cls.generateMetrics = steadyMetrics rows) (hnames : rows.map Prod.fst = names)
    (hmem : (cls.groundTruth.scenarioId, names) ∈ emittedMetrics) : MetricRow cls names where
  mem := hmem
  names isRemediated start stop := by
    rw [h, steadyMetrics, List.map_map]
    exact hnames

theorem metricRow_memoryLeakScenario : MetricRow memoryLeakScenario ["memory_usage_percent", "gc_pause_ms"] where
  mem := by decide
  names isRemediated start stop := by cases isRemediated <;> rfl

theorem exists_metricRow [UnicodeText] {cls : ScenarioClass} (hcls : Registered cls) : ∃ names, MetricRow cls names :=
  hcls.cases (P := fun cls => ∃ names, MetricRow cls names) ⟨_, metricRow_of_steadyMetrics rfl rfl (by decide)⟩
    ⟨_, metricRow_of_steadyMetrics rfl rfl (by decide)⟩
    ⟨_, metricRow_of_steadyMetrics rfl rfl (by simp [emittedMetrics, slowQueryScenario])⟩
    ⟨_, metricRow_memoryLeakScenario⟩ ⟨_, metricRow_of_steadyMetrics rfl rfl (by decide)⟩
    ⟨_, metricRow_of_steadyMetrics rfl rfl (by decide)⟩ ⟨_, metricRow_of_steadyMetrics rfl rfl (by decide)⟩
    ⟨_, metricRow_of_steadyMetrics rfl rfl (by decide)⟩ ⟨_, metricRow_of_steadyMetrics rfl rfl (by decide)⟩
    ⟨_, metricRow_of_steadyMetrics rfl rfl (by decide)⟩

theorem emits_iff [UnicodeText] {cls : ScenarioClass} (hcls : Registered cls) (metric : String) :
    Emits cls metric ↔ ∃ names, (cls.groundTruth.scenarioId, names) ∈ emittedMetrics ∧ metric ∈ names := by
  obtain ⟨names, hmem, hnames⟩ := exists_metricRow hcls
  have hkeys : (emittedMetrics.map Prod.fst).Nodup := by decide
  constructor
  · rintro ⟨isRemediated, start, stop, hname⟩
    rw [hnames] at hname
    exact ⟨names, hmem, hname⟩
  · rintro ⟨names', hmem', hname⟩
    have hsame : names' = names :=
      Option.some.inj ((Dict.look_of_mem hkeys hmem').symm.trans (Dict.look_of_mem hkeys hmem))
    rw [hsame, ← hnames false ⟨0⟩ ⟨0⟩] at hname
    exact ⟨false, ⟨0⟩, ⟨0⟩, hname⟩

/-- No scenario emits the latency that the verifier asks for. -/
theorem not_emits_duration [UnicodeText] {cls : ScenarioClass} (hcls : Registered cls) :
    ¬ Emits cls "http_request_duration_p95_seconds" := by
  have hnone : ∀ row ∈ emittedMetrics, "http_request_duration_p95_seconds" ∉ row.2 := by decide
  rw [emits_iff hcls]
  rintro ⟨names, hrow, hmem⟩
  exact hnone _ hrow hmem

/-- One scenario emits what the metrics analyst asks for. -/
theorem emits_latency_iff [UnicodeText] {cls : ScenarioClass} (hcls : Registered cls) {metric : String}
    (hmetric : metric = "p95_latency_ms" ∨ metric = "redis_active_connections") :
    Emits cls metric ↔ cls.groundTruth.scenarioId = "redis_pool_exhaustion" := by
  have hrow : ∀ row ∈ emittedMetrics,
      ("p95_latency_ms" ∈ row.2 ↔ row.1 = "redis_pool_exhaustion") ∧
        ("redis_active_connections" ∈ row.2 ↔ row.1 = "redis_pool_exhaustion") := by decide
  have hmem : ∀ row ∈ emittedMetrics, metric ∈ row.2 ↔ row.1 = "redis_pool_exhaustion" := by
    intro row hr
    rcases hmetric with rfl | rfl
    · exact (hrow row hr).1
    · exact (hrow row hr).2
  rw [emits_iff hcls]
  constructor
  · rintro ⟨names, hr, hname⟩
    exact (hmem _ hr).1 hname
  · intro hid
    obtain ⟨names, hr, -⟩ := exists_metricRow hcls
    exact ⟨names, hr, (hmem _ hr).2 hid⟩

/-! ## What is stored from the loading of a scenario on -/

theorem mem_scenarioMetrics {scenario : Scenario} {start stop : Time} {m : MetricDataPoint}
    (hm : m ∈ scenarioMetrics scenario start stop) :
    Emits scenario.cls m.metricName ∧ m.service = scenario.cls.firstAffected := by
  obtain ⟨⟨metricName, points⟩, he, hm⟩ := List.mem_flatMap.1 hm
  obtain ⟨⟨timestamp, value⟩, -, rfl⟩ := List.mem_map.1 hm
  exact ⟨⟨_, start, stop, List.mem_map.2 ⟨_, he, rfl⟩⟩, rfl⟩

/-- There is a point of every metric in a window that is not empty. -/
theorem exists_mem_scenarioMetrics {scenario : Scenario} (h : Sampled scenario.cls) {metric : String}
    (hm : Emits scenario.cls metric) {start stop : Time} (hle : start.micros ≤ stop.micros) :
    ∃ m ∈ scenarioMetrics scenario start stop, m.metricName = metric ∧ m.service = scenario.cls.firstAffected := by
  obtain ⟨isRemediated, start', stop', hname⟩ := hm
  rw [h.names _ _ _ scenario.state.isRemediated start stop] at hname
  obtain ⟨⟨name, points⟩, he, rfl⟩ := List.mem_map.1 hname
  have hfirst : start ∈ points.map Prod.fst := by
    rw [h.times _ _ _ _ he]
    exact mem_ticks.2 ⟨0, by simp [Time.addSeconds], hle⟩
  obtain ⟨⟨timestamp, value⟩, hpoint, rfl⟩ := List.mem_map.1 hfirst
  exact ⟨_, List.mem_flatMap.2 ⟨_, he, List.mem_map.2 ⟨_, hpoint, rfl⟩⟩, rfl, rfl⟩

/-- The baseline traffic of a scenario that is loaded at that time, and nothing else. -/
def healthyTraffic (loadedAt : Time) : TelemetryStore :=
  ({} : TelemetryStore).generateBackgroundTraffic (loadedAt.subSeconds (45 * 60)) (loadedAt.subSeconds (15 * 60))

theorem mem_healthyTraffic {loadedAt : Time} {m : MetricDataPoint} :
    m ∈ (healthyTraffic loadedAt).metrics ↔
      m ∈ backgroundMetrics (loadedAt.subSeconds (45 * 60)) (loadedAt.subSeconds (15 * 60)) := by
  rw [healthyTraffic, metrics_generateBackgroundTraffic, mem_sortBy, List.nil_append]

theorem mem_backgroundMetrics {start stop : Time} {m : MetricDataPoint} (hm : m ∈ backgroundMetrics start stop) :
    m.metricName = "http_request_duration_p95_seconds" ∧ m.value = 0.25 ∨
      m.metricName = "process_cpu_percent" ∨ m.metricName = "memory_usage_percent" := by
  obtain ⟨⟨ts, svc⟩, -, hm⟩ := List.mem_flatMap.1 hm
  simp only [List.mem_cons, List.not_mem_nil, or_false] at hm
  rcases hm with rfl | rfl | rfl
  · exact .inl ⟨rfl, rfl⟩
  · exact .inr (.inl rfl)
  · exact .inr (.inr rfl)

namespace LiveTopology

def nodes (t : LiveTopology) : List (String × ServiceNode) := t.services.entries.map fun e => (e.1, e.2.node)

theorem nodes_setServiceStatus (t : LiveTopology) (serviceName : String) (status : ServiceStatus) :
    (t.setServiceStatus serviceName status).nodes = t.nodes := by
  have hput : ∀ (l : List (String × LiveService)) {svc : LiveService}, Dict.look serviceName l = some svc →
      (Dict.put serviceName { svc with status } l).map (fun e => (e.1, e.2.node)) =
        l.map fun e => (e.1, e.2.node) := by
    intro l svc hlook
    induction l with
    | nil => cases hlook
    | cons e l ih =>
      obtain ⟨name, svc'⟩ := e
      rw [Dict.look] at hlook
      rw [Dict.put]
      split
      · rename_i heq
        rw [if_pos heq] at hlook
        obtain rfl := Option.some.inj hlook
        rw [heq]
        rfl
      · rename_i hne
        rw [if_neg hne] at hlook
        rw [List.map_cons, List.map_cons, ih hlook]
  unfold setServiceStatus
  cases h : t.services.get? serviceName with
  | none => rfl
  | some svc => exact hput _ h

theorem nodes_setAll (t : LiveTopology) (services : List String) (status : ServiceStatus) :
    (t.setAll services status).nodes = t.nodes := by
  induction services generalizing t with
  | nil => rfl
  | cons svc services ih => exact (ih _).trans (t.nodes_setServiceStatus svc status)

theorem getUpstreamDependents_eq (t : LiveTopology) (serviceName : String) :
    t.getUpstreamDependents serviceName =
      (t.nodes.filter fun e => e.2.dependencies.contains serviceName).map Prod.fst := by
  rw [getUpstreamDependents, nodes, List.filter_map, List.map_map]
  rfl

theorem health_congr {t t' : LiveTopology} {service : String}
    (hget : t.services.get? service = t'.services.get? service) (hnodes : t.nodes = t'.nodes) :
    t.health service = t'.health service := by
  simp only [health, getUpstreamDependents_eq, hget, hnodes]

end LiveTopology

/-- What is there of a scenario of the class that was loaded at that time. -/
structure Shown (loadedAt : Time) (cls : ScenarioClass) (engine : SimulationEngine) : Prop where
  scenario : ∃ scenario, engine.activeScenario = some scenario ∧ scenario.cls = cls
  consistent : engine.Consistent
  nodes : engine.topology.nodes = LiveTopology.fresh.nodes
  sorted : engine.telemetryStore.metrics.Pairwise fun a b => a.timestamp.micros ≤ b.timestamp.micros
  healthy : ∀ p : MetricDataPoint → Bool,
    (∀ m, Emits cls m.metricName → m.service = cls.firstAffected → p m = false) →
      engine.telemetryStore.metrics.filter p = (healthyTraffic loadedAt).metrics.filter p
  emitted : ∀ metric, Emits cls metric →
    ∃ m ∈ engine.telemetryStore.metrics, m.metricName = metric ∧ m.service = cls.firstAffected

/-- The order of the deployments is nothing that is shown. -/
theorem Shown.agrees {loadedAt : Time} {cls : ScenarioClass} {engine engine' : SimulationEngine}
    (h : engine.Agrees engine') (hs : Shown loadedAt cls engine) : Shown loadedAt cls engine' where
  scenario := by
    rw [h.activeScenario]
    exact hs.scenario
  consistent := h.keeps_consistent hs.consistent
  nodes := by
    rw [h.topology]
    exact hs.nodes
  sorted := by
    rw [h.telemetryStore]
    exact hs.sorted
  healthy := by
    rw [h.telemetryStore]
    exact hs.healthy
  emitted := by
    rw [h.telemetryStore]
    exact hs.emitted

section
variable [Unicode]

/-- A recovery adds points of the scenario and nothing else. -/
theorem Shown.executeAction {loadedAt : Time} {cls : ScenarioClass} {engine : SimulationEngine}
    (hs : Shown loadedAt cls engine) (now : Nat → Time) (actionType : String) (parameters : Dict String Json) :
    Shown loadedAt cls (engine.executeAction now actionType parameters).2 := by
  rcases engine.executeAction_cases now actionType parameters with
    ⟨hsame, -⟩ | ⟨before, scenario, message, hbefore, hcls, hfixed, hout⟩
  · rw [hsame]
    exact hs
  · obtain ⟨scenario', hactive, hkept⟩ := hs.scenario
    obtain rfl : before = scenario' := Option.some.inj (hbefore.symm.trans hactive)
    have hclass : scenario.cls = cls := hcls.trans hkept
    have hconsistent := SimulationEngine.consistent_executeAction hs.consistent now actionType parameters
    rw [hout] at hconsistent ⊢
    constructor
    · exact ⟨scenario, rfl, hclass⟩
    · exact hconsistent
    · exact (LiveTopology.nodes_setAll _ _ _).trans hs.nodes
    · simp only [SimulationEngine.recover, metrics_injectScenarioTelemetry]
      exact pairwise_sortBy _ _
    · intro p hp
      simp only [SimulationEngine.recover, metrics_injectScenarioTelemetry]
      rw [← hs.healthy p hp]
      refine filter_sortBy_append hs.sorted fun m hm => ?_
      obtain ⟨hemits, hservice⟩ := mem_scenarioMetrics hm
      rw [hclass] at hemits hservice
      exact hp m hemits hservice
    · intro metric hmetric
      obtain ⟨m, hm, hfacts⟩ := hs.emitted metric hmetric
      simp only [SimulationEngine.recover, metrics_injectScenarioTelemetry]
      exact ⟨m, mem_sortBy.2 (List.mem_append_left _ hm), hfacts⟩

theorem shown_loadScenario [UnicodeText] (engine : SimulationEngine) {now : Nat → Time} {scenarioId : String}
    {created : Scenario} (hload : createScenario scenarioId = .ok created) :
    Shown (now 0) created.cls (engine.loadScenario now scenarioId).2 := by
  have hconsistent := engine.consistent_loadScenario now scenarioId
  simp only [SimulationEngine.loadScenario, hload, SimulationEngine.reset] at hconsistent ⊢
  constructor
  · exact ⟨_, rfl, rfl⟩
  · exact hconsistent
  · exact LiveTopology.nodes_setAll _ _ _
  · simp only [metrics_injectScenarioTelemetry]
    exact pairwise_sortBy _ _
  · intro p hp
    simp only [metrics_injectScenarioTelemetry]
    refine filter_sortBy_append (pairwise_sortBy _ _) fun m hm => ?_
    obtain ⟨hemits, hservice⟩ := mem_scenarioMetrics hm
    exact hp m hemits hservice
  · intro metric hmetric
    simp only [metrics_injectScenarioTelemetry]
    have hwindow : ((now 0).subSeconds (15 * 60)).micros ≤ (now 0).micros := Nat.sub_le _ _
    let scenario : Scenario := ⟨created.cls, { created.state with
      isActive := true, incidentStartedAt := some ((now 0).subSeconds (15 * 60)) }⟩
    have hregistered := registered_createScenario hload
    have hsampled : Sampled scenario.cls := sampled_of_registered hregistered
    obtain ⟨m, hm, hfacts⟩ := exists_mem_scenarioMetrics hsampled hmetric hwindow
    exact ⟨m, mem_sortBy.2 (List.mem_append_right _ hm), hfacts⟩

theorem shown_served {V S : Type} [UnicodeText] [LinearOrder S] (toFloat : Rat → PyFloat) (embedder : Embedder V S)
    (before : List SimulationEngine.Call) {now : Nat → Time} {scenarioId : String} {created : Scenario}
    (hload : createScenario scenarioId = .ok created) (memory : SearchIncidentMemoryTool V)
    (requests : List Request) :
    Shown (now 0) created.cls (served toFloat embedder requests
      { simulator := SimulationEngine.after (before ++ [.loadScenario now scenarioId]), memory }).simulator := by
  refine served_invariant toFloat embedder (fun _ _ => Shown.agrees) (fun _ _ _ _ hs => hs.executeAction _ _ _)
    requests ?_
  rw [SimulationEngine.after_concat]
  exact shown_loadScenario _ hload

end

/-! ## What a query shows of it -/

namespace Shown

variable {loadedAt : Time} {cls : ScenarioClass} {engine : SimulationEngine}

/-- A query for a metric that the scenario does not emit, or not for that service, shows the baseline. -/
theorem queryMetrics_eq (hs : Shown loadedAt cls engine) {metricName service : String}
    (h : Emits cls metricName → service ≠ "" ∧ service ≠ cls.firstAffected) (limit : Int) :
    engine.telemetryStore.queryMetrics metricName (some service) none none limit =
      (healthyTraffic loadedAt).queryMetrics metricName (some service) none none limit := by
  rw [TelemetryStore.queryMetrics_eq, TelemetryStore.queryMetrics_eq, hs.healthy]
  intro m hemits hservice
  by_cases hname : m.metricName = metricName
  · rw [hname] at hemits
    obtain ⟨hgiven, hne⟩ := h hemits
    have hother : ¬ cls.firstAffected = service := fun heq => hne heq.symm
    simp [MetricDataPoint.meets, given, Option.filter, hgiven, hservice, hother]
  · simp [MetricDataPoint.meets, hname]

/-- A query for a metric that the scenario emits shows a point of it, if it is not for another service. -/
theorem queryMetrics_ne_nil (hs : Shown loadedAt cls engine) {metricName : String} {service : String}
    (hemits : Emits cls metricName) (hservice : service = "" ∨ service = cls.firstAffected) {limit : Nat}
    (hlimit : 1 ≤ limit) :
    engine.telemetryStore.queryMetrics metricName (some service) none none limit ≠ [] := by
  obtain ⟨m, hm, hname, hm'⟩ := hs.emitted metricName hemits
  have hmeets : m.meets metricName (some service) none none = true := by
    rcases hservice with rfl | rfl
    · simp [MetricDataPoint.meets, hname, given, Option.filter]
    · by_cases hempty : cls.firstAffected = "" <;>
        simp [MetricDataPoint.meets, hname, hm', given, Option.filter, hempty]
  have hne := List.ne_nil_of_mem (List.mem_filter.2 ⟨hm, hmeets⟩)
  rw [TelemetryStore.queryMetrics_eq]
  intro hnil
  have hlast := Py.getLast?_sliceFrom hne hlimit
  rw [hnil] at hlast
  cases hlast

/-- The health of a service is that of the topology as it was shipped, but for the status. -/
theorem health_eq (hs : Shown loadedAt cls engine) {scenario : Scenario}
    (hactive : engine.activeScenario = some scenario) (service : String) :
    engine.topology.health service = (LiveTopology.fresh.setServiceStatus service
      (if scenario.impairs service then .degraded else .healthy)).health service := by
  refine LiveTopology.health_congr ?_ ?_
  · rw [hs.consistent service, LiveTopology.get?_setServiceStatus, if_pos rfl, LiveTopology.get?_fresh, Option.map_map,
      SimulationEngine.impaired, hactive]
    rfl
  · rw [hs.nodes, LiveTopology.nodes_setServiceStatus]

end Shown

/-- The baseline has the latency of the verifier, always the same and from before the incident. -/
theorem latency_healthyTraffic {loadedAt : Time} {service : Option String} {limit : Int} {m : MetricDataPoint}
    (hm : m ∈ (healthyTraffic loadedAt).queryMetrics "http_request_duration_p95_seconds" service none none limit) :
    m.value = 0.25 ∧ m.timestamp.micros ≤ (loadedAt.subSeconds (15 * 60)).micros := by
  rw [TelemetryStore.queryMetrics_eq] at hm
  obtain ⟨hstored, hmeets⟩ := List.mem_filter.1 (Py.mem_of_sliceFrom hm)
  have hbackground := mem_healthyTraffic.1 hstored
  have hname : m.metricName = "http_request_duration_p95_seconds" := by
    simp only [MetricDataPoint.meets, Bool.and_eq_true, beq_iff_eq] at hmeets
    exact hmeets.1.1.1
  refine ⟨?_, le_of_mem_backgroundMetrics hbackground⟩
  rcases mem_backgroundMetrics hbackground with ⟨-, hvalue⟩ | hother | hother
  · exact hvalue
  · rw [hname] at hother
    simp at hother
  · rw [hname] at hother
    simp at hother

/-- It has nothing of what the metrics analyst asks for. -/
theorem queryMetrics_healthyTraffic {loadedAt : Time} {metric : String}
    (hmetric : metric = "p95_latency_ms" ∨ metric = "redis_active_connections") (service : Option String)
    (limit : Int) :
    (healthyTraffic loadedAt).queryMetrics metric service none none limit = [] := by
  refine List.eq_nil_iff_forall_not_mem.2 fun m hm => ?_
  rw [TelemetryStore.queryMetrics_eq] at hm
  obtain ⟨hstored, hmeets⟩ := List.mem_filter.1 (Py.mem_of_sliceFrom hm)
  simp only [MetricDataPoint.meets, Bool.and_eq_true, beq_iff_eq] at hmeets
  have hname : m.metricName = metric := hmeets.1.1.1
  rcases mem_backgroundMetrics (mem_healthyTraffic.1 hstored) with ⟨hother, -⟩ | hother | hother <;>
    rcases hmetric with rfl | rfl <;> simp [hother] at hname

/-! ## What comes back from the tools -/

section
variable {V S : Type} [Unicode] [UnicodeText] [LinearOrder S] (toFloat : Rat → PyFloat) (embedder : Embedder V S)
  (now : Nat → Time) (clock : Clock)

theorem call_query {tool : Tool (DefaultWorld V)} (ht : tool ∈ queryTools toFloat embedder)
    {arguments : List (String × Json)} (hself : (Dict.ofList arguments).contains "self" = false)
    {w w' : DefaultWorld V} {data : Json} (hrun : tool.run (Dict.ofList arguments) w = (.ok data, w')) :
    ∃ res, (BaseAgent.query (defaultRegistry toFloat embedder now) clock tool.name arguments).call w = (.ok res, w') ∧
      ∀ fallback, res.dataOr fallback = data := by
  have htool : (defaultRegistry toFloat embedder now).getTool tool.name = some tool := getTool_queryTools ht
  have hinvoke := ToolRegistry.invoke_of_authorized (Dict.ofList arguments) clock w htool
    (authorized_viewer (queryTools_spec ht).1) hself
  simp only [BaseAgent.query, Procedure.call_ofFunction, hinvoke, Tool.execute, hrun]
  exact ⟨_, rfl, fun fallback => rfl⟩

theorem call_getServiceHealth (service : String) (w : DefaultWorld V) :
    ∃ res, (BaseAgent.query (defaultRegistry toFloat embedder now) clock "get_service_health"
        [("service", .str service)]).call w = (.ok res, w) ∧
      ∀ fallback, res.dataOr fallback = w.simulator.topology.health service := by
  have hmem : getServiceHealthTool ∈ queryTools toFloat embedder := by simp [queryTools]
  refine call_query toFloat embedder now clock hmem ?_ ?_
  · simp [Dict.contains, Dict.get?_ofList, Dict.look]
  · have harg : required "GetServiceHealthTool" (Dict.ofList [("service", .str service)]) "service" =
        .ok (.str service) := by
      simp [required, Dict.get?_ofList, Dict.look]
    simp only [getServiceHealthTool, GetServiceHealthTool.run, harg]
    rfl

theorem call_queryMetrics {arguments : List (String × Json)} {metricName service : String} {limit : Int}
    (hself : (Dict.ofList arguments).contains "self" = false)
    (hname : (Dict.ofList arguments).get? "metric_name" = some (.str metricName))
    (hservice : (Dict.ofList arguments).getD "service" .null = .str service)
    (hlimit : (Dict.ofList arguments).getD "limit" (.int 100) = .int limit) (w : DefaultWorld V) :
    ∃ res, (BaseAgent.query (defaultRegistry toFloat embedder now) clock "query_metrics" arguments).call w =
        (.ok res, w) ∧
      ∀ fallback, res.dataOr fallback =
        .arr ((w.simulator.telemetryStore.queryMetrics metricName (some service) none none limit).map
          (MetricDataPoint.modelDump toFloat)) := by
  have hmem : queryMetricsTool toFloat ∈ queryTools toFloat embedder := by simp [queryTools]
  refine call_query toFloat embedder now clock hmem hself ?_
  have hpoints : w.simulator.telemetryStore.queryMetricsAny (.str metricName) (.str service) (.int limit) =
      .ok (w.simulator.telemetryStore.queryMetrics metricName (some service) none none limit) :=
    TelemetryStore.queryMetricsAny_text _ metricName (some service) limit
  simp only [queryMetricsTool, QueryMetricsTool.run, required, hname, hservice, hlimit]
  show (Except.map _ (w.simulator.telemetryStore.queryMetricsAny (.str metricName) _ _), w) = _
  rw [hpoints]
  rfl

/-- What the verifier gets: all that it asks for. -/
theorem call_recentMetrics (targetService : String) (w : DefaultWorld V) :
    ∃ res, (VerificationAgent.recentMetrics (defaultRegistry toFloat embedder now) targetService clock).call w =
        (.ok res, w) ∧
      ∀ fallback, res.dataOr fallback =
        .arr ((w.simulator.telemetryStore.queryMetrics "http_request_duration_p95_seconds" (some targetService) none
          none 100).map (MetricDataPoint.modelDump toFloat)) := by
  refine call_queryMetrics toFloat embedder now clock ?_ ?_ ?_ ?_ w
  · simp [Dict.contains, Dict.get?_ofList, Dict.look]
  · simp [Dict.get?_ofList, Dict.look]
  · simp [Dict.getD, Dict.get?_ofList, Dict.look]
  · simp [Dict.getD, Dict.get?_ofList, Dict.look]

/-- What the metrics analyst gets: the last twenty points. -/
theorem call_queryMetric (task : InvestigationTask) (metricName : String) (w : DefaultWorld V) :
    ∃ res, (MetricsAnalystAgent.queryMetric (defaultRegistry toFloat embedder now) task clock metricName).call w =
        (.ok res, w) ∧
      ∀ fallback, res.dataOr fallback =
        .arr ((w.simulator.telemetryStore.queryMetrics metricName (some task.targetService) none none 20).map
          (MetricDataPoint.modelDump toFloat)) := by
  refine call_queryMetrics toFloat embedder now clock ?_ ?_ ?_ ?_ w
  · simp [Dict.contains, Dict.get?_ofList, Dict.look]
  · simp [Dict.get?_ofList, Dict.look]
  · simp [Dict.getD, Dict.get?_ofList, Dict.look]
  · simp [Dict.getD, Dict.get?_ofList, Dict.look]

end

/-! ## What the agents see -/

/-- The prompt of a verification that sees one bit of the simulator. -/
def VerificationAgent.shownPrompt [Unicode] (toFloat : Rat → PyFloat) (loadedAt : Time)
    (targetService executedActionId : String) (impaired : Bool) : String :=
  let status : ServiceStatus := if impaired then .degraded else .healthy
  let latency :=
    (healthyTraffic loadedAt).queryMetrics "http_request_duration_p95_seconds" (some targetService) none none 100
  prompt targetService executedActionId (telemetry targetService executedActionId
    ((LiveTopology.fresh.setServiceStatus targetService status).health targetService)
    (.arr (latency.map (MetricDataPoint.modelDump toFloat))))

section
variable {V S : Type} [Unicode] [UnicodeText] [LinearOrder S] {toFloat : Rat → PyFloat} {embedder : Embedder V S}
  {before : List SimulationEngine.Call} {now : Nat → Time} {scenarioId : String} {created : Scenario}

/-- **The verifier sees one bit**: whatever has been asked of the registry since a scenario was loaded, and by
whom, the verifier asks its model the same, but for whether the service is impaired; and all the latencies that
it shows the model are from before the incident. -/
theorem verification_sees_one_bit (hload : createScenario scenarioId = .ok created)
    (memory : SearchIncidentMemoryTool V) (requests : List Request) (llm : StructuredLLM)
    (targetService executedActionId : String) (later : Nat → Time) (clock : Clock) :
    let w := served toFloat embedder requests
      { simulator := SimulationEngine.after (before ++ [.loadScenario now scenarioId]), memory }
    let verifyRecovery := VerificationAgent.verifyRecovery (defaultRegistry toFloat embedder later) llm targetService
      executedActionId clock
    (∃ scenario, w.simulator.activeScenario = some scenario ∧ scenario.cls = created.cls ∧
      (verifyRecovery.call w).1 = llm (VerificationAgent.shownPrompt toFloat (now 0) targetService executedActionId
        (scenario.impairs targetService)) .verificationAssessment) ∧
    ∀ m ∈ (healthyTraffic (now 0)).queryMetrics "http_request_duration_p95_seconds" (some targetService) none none 100,
      m.value = 0.25 ∧ m.timestamp.micros ≤ ((now 0).subSeconds (15 * 60)).micros := by
  intro w verifyRecovery
  have hs : Shown (now 0) created.cls w.simulator := shown_served toFloat embedder before hload memory requests
  refine ⟨?_, fun m hm => latency_healthyTraffic hm⟩
  obtain ⟨scenario, hactive, hcls⟩ := hs.scenario
  obtain ⟨healthRes, hhealth, hhealthData⟩ := call_getServiceHealth toFloat embedder later clock targetService w
  obtain ⟨metricRes, hmetric, hmetricData⟩ := call_recentMetrics toFloat embedder later clock targetService w
  have hlatency : w.simulator.telemetryStore.queryMetrics "http_request_duration_p95_seconds" (some targetService)
      none none 100 = _ :=
    hs.queryMetrics_eq (fun hemits => absurd hemits (not_emits_duration (registered_createScenario hload))) 100
  refine ⟨scenario, hactive, hcls, ?_⟩
  simp only [verifyRecovery, VerificationAgent.verifyRecovery]
  rw [Procedure.call_bind_ok hhealth, Procedure.call_bind_ok hmetric]
  simp only [hhealthData, hmetricData, hs.health_eq hactive, hlatency]
  rfl

end

/-- A model that repeats what it is asked. -/
def echo : StructuredLLM := fun prompt _ => .error (.other "Prompt" prompt)

/-- The payment service, of which nobody has taken care. -/
theorem verification_sees_one_bit_impaired :
    letI := Py.asciiTable
    letI := Py.asciiText
    ((VerificationAgent.verifyRecovery (defaultRegistry (fun _ => .zero) (alikeEmbedder 0) fun _ => ⟨0⟩) echo
        "payment-service" "ACT-01" Workflow.stillClock).call
      { simulator := SimulationEngine.after [.loadScenario (fun _ => ⟨0⟩) "redis_pool_exhaustion"] }).1 =
      .error (.other "Prompt"
        (VerificationAgent.shownPrompt (fun _ => .zero) ⟨0⟩ "payment-service" "ACT-01" true)) := by
  let _ := Py.asciiTable
  let _ := Py.asciiText
  have hload : createScenario "redis_pool_exhaustion" = .ok { cls := redisPoolExhaustionScenario } := rfl
  obtain ⟨⟨scenario, hactive, -, hasked⟩, -⟩ := @verification_sees_one_bit Unit Nat _ _ _ (fun _ => .zero)
    (alikeEmbedder 0) [] (fun _ => ⟨0⟩) _ _ hload {} [] echo "payment-service" "ACT-01" (fun _ => ⟨0⟩)
    Workflow.stillClock
  have himpaired : scenario.impairs "payment-service" = true := by
    rw [← Option.some.inj hactive]
    rfl
  rw [himpaired] at hasked
  exact hasked

theorem firstAffected_of_redis [UnicodeText] {cls : ScenarioClass} (hcls : Registered cls)
    (hid : cls.groundTruth.scenarioId = "redis_pool_exhaustion") : cls.firstAffected = "payment-service" := by
  have hother : ∀ {cls : ScenarioClass}, cls.groundTruth.scenarioId ≠ "redis_pool_exhaustion" →
      cls.groundTruth.scenarioId = "redis_pool_exhaustion" → cls.firstAffected = "payment-service" :=
    fun hne heq => absurd heq hne
  exact hcls.cases (P := fun cls => cls.groundTruth.scenarioId = "redis_pool_exhaustion" →
      cls.firstAffected = "payment-service") (fun _ => rfl) (hother (by decide))
    (hother (by simp [slowQueryScenario])) (hother (by decide)) (hother (by decide)) (hother (by decide))
    (hother (by decide)) (hother (by decide)) (hother (by decide)) (hother (by decide)) hid

/-- What the metrics analyst asks for is there for one service, while one scenario is active. -/
theorem Shown.latency_eq_nil_iff [UnicodeText] {loadedAt : Time} {cls : ScenarioClass} {engine : SimulationEngine}
    (hs : Shown loadedAt cls engine) (hcls : Registered cls) {metric : String}
    (hmetric : metric = "p95_latency_ms" ∨ metric = "redis_active_connections") (service : String) :
    engine.telemetryStore.queryMetrics metric (some service) none none 20 = [] ↔
      ¬ (cls.groundTruth.scenarioId = "redis_pool_exhaustion" ∧ (service = "" ∨ service = "payment-service")) := by
  have hemits := emits_latency_iff hcls hmetric
  by_cases hshown : cls.groundTruth.scenarioId = "redis_pool_exhaustion" ∧ (service = "" ∨ service = "payment-service")
  · obtain ⟨hid, hservice⟩ := hshown
    have hfirst := firstAffected_of_redis hcls hid
    have hne := hs.queryMetrics_ne_nil (hemits.2 hid) (hfirst ▸ hservice) (show 1 ≤ 20 by omega)
    exact iff_of_false hne fun h => h ⟨hid, hservice⟩
  · refine iff_of_true ?_ hshown
    rw [hs.queryMetrics_eq ?_ 20]
    · exact queryMetrics_healthyTraffic hmetric _ _
    · intro hemitted
      have hid := hemits.1 hemitted
      rw [firstAffected_of_redis hcls hid]
      exact not_or.1 fun hservice => hshown ⟨hid, hservice⟩

section
variable {V S : Type} [Unicode] [UnicodeText] [LinearOrder S] {toFloat : Rat → PyFloat} {embedder : Embedder V S}
  {before : List SimulationEngine.Call} {now : Nat → Time} {scenarioId : String} {created : Scenario}

/-- **The metrics analyst sees one scenario of the ten**, whatever has been asked of the registry since it was
loaded: for any other, and for any other service, it shows its model no points at all. -/
theorem metrics_analyst_sees_one_scenario (hload : createScenario scenarioId = .ok created)
    (memory : SearchIncidentMemoryTool V) (requests : List Request) (llm : StructuredLLM)
    (task : InvestigationTask) (later : Nat → Time) (clock : Clock) :
    let w := served toFloat embedder requests
      { simulator := SimulationEngine.after (before ++ [.loadScenario now scenarioId]), memory }
    let investigate := MetricsAnalystAgent.investigate (defaultRegistry toFloat embedder later) llm task clock
    let visible := created.cls.groundTruth.scenarioId = "redis_pool_exhaustion" ∧
      (task.targetService = "" ∨ task.targetService = "payment-service")
    ∃ latency connections : List Json,
      (investigate.call w).1 = llm (MetricsAnalystAgent.prompt task
        (MetricsAnalystAgent.metricsSummary (.arr latency) (.arr connections))) .analystAgentOutput ∧
      (latency = [] ↔ ¬ visible) ∧ (connections = [] ↔ ¬ visible) := by
  intro w investigate visible
  have hs : Shown (now 0) created.cls w.simulator := shown_served toFloat embedder before hload memory requests
  have hcls := registered_createScenario hload
  obtain ⟨latRes, hlat, hlatData⟩ := call_queryMetric toFloat embedder later clock task "p95_latency_ms" w
  obtain ⟨connRes, hconn, hconnData⟩ := call_queryMetric toFloat embedder later clock task "redis_active_connections" w
  let points (metricName : String) : List Json :=
    (w.simulator.telemetryStore.queryMetrics metricName (some task.targetService) none none 20).map
      (MetricDataPoint.modelDump toFloat)
  refine ⟨points "p95_latency_ms", points "redis_active_connections", ?_, ?_, ?_⟩
  · simp only [investigate, MetricsAnalystAgent.investigate]
    rw [Procedure.call_bind_ok hlat, Procedure.call_bind_ok hconn, hlatData, hconnData]
    rfl
  · rw [List.map_eq_nil_iff]
    exact hs.latency_eq_nil_iff hcls (.inl rfl) task.targetService
  · rw [List.map_eq_nil_iff]
    exact hs.latency_eq_nil_iff hcls (.inr rfl) task.targetService

end

/-- The payment service while the pool is exhausted. -/
theorem metrics_analyst_sees_one_scenario_redis :
    letI := Py.asciiTable
    letI := Py.asciiText
    ∃ latency connections : List Json, latency ≠ [] ∧ connections ≠ [] ∧
      ((MetricsAnalystAgent.investigate (defaultRegistry (fun _ => .zero) (alikeEmbedder 0) fun _ => ⟨0⟩) echo
          (Analyst.task (Workflow.newIncident 3) .metrics) Workflow.stillClock).call
        { simulator := SimulationEngine.after [.loadScenario (fun _ => ⟨0⟩) "redis_pool_exhaustion"] }).1 =
        .error (.other "Prompt" (MetricsAnalystAgent.prompt (Analyst.task (Workflow.newIncident 3) .metrics)
          (MetricsAnalystAgent.metricsSummary (.arr latency) (.arr connections)))) := by
  let _ := Py.asciiTable
  let _ := Py.asciiText
  have hload : createScenario "redis_pool_exhaustion" = .ok { cls := redisPoolExhaustionScenario } := rfl
  obtain ⟨latency, connections, hasked, hlat, hconn⟩ := @metrics_analyst_sees_one_scenario Unit Nat _ _ _
    (fun _ => .zero) (alikeEmbedder 0) [] (fun _ => ⟨0⟩) _ _ hload {} [] echo
    (Analyst.task (Workflow.newIncident 3) .metrics) (fun _ => ⟨0⟩) Workflow.stillClock
  refine ⟨latency, connections, fun h => hlat.1 h ⟨rfl, .inr rfl⟩, fun h => hconn.1 h ⟨rfl, .inr rfl⟩, hasked⟩

end OpsPilot
