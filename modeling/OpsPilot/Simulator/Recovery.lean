import Mathlib.Data.List.Pairwise
import OpsPilot.Simulator.Queries
/-!
# Recovery in the telemetry

A stored metric does not say whether its scenario was remediated when it was generated. `TracedEngine` is
the engine with a second copy of the metrics that does say so; erasing what it says gives the store
(`erase_after`).

`Visible` is what holds while actions are executed: whatever was generated for an open incident is not
later than the loading of the scenario, and once it is remediated there is a later point for every one
of its metrics. So the last point of a query is one of these.
-/
namespace OpsPilot

open Ranking ScenarioCatalog

/-! ## The points that are generated -/

/-- What a metric was generated for. -/
inductive Origin where
  | background
  | scenario (isRemediated : Bool)
deriving DecidableEq

structure TracedPoint where
  origin : Origin
  point : MetricDataPoint

/-- The service that the metrics of a scenario belong to. -/
def ScenarioClass.firstAffected (cls : ScenarioClass) : String :=
  cls.groundTruth.affectedServices.head cls.affected_ne

/-- The metrics that `injectScenarioTelemetry` adds. -/
def scenarioMetrics (scenario : Scenario) (start stop : Time) : List MetricDataPoint :=
  (scenario.cls.generateMetrics scenario.state.isRemediated start stop).flatMap fun (metricName, points) =>
    points.map fun (timestamp, value) => { timestamp, metricName, service := scenario.cls.firstAffected, value }

/-- The metrics that `generateBackgroundTraffic` adds. -/
def backgroundMetrics (start stop : Time) : List MetricDataPoint :=
  let services := ["api-gateway", "auth-service", "order-service", "payment-service", "notification-service"]
  (halfMinutes start stop).flatMap (fun ts => services.map fun svc => (ts, svc)) |>.flatMap fun (ts, svc) =>
    [{ timestamp := ts, metricName := "http_request_duration_p95_seconds", service := svc, value := 0.25 },
     { timestamp := ts, metricName := "process_cpu_percent", service := svc, value := 20 },
     { timestamp := ts, metricName := "memory_usage_percent", service := svc, value := 35 }]

theorem metrics_injectScenarioTelemetry (store : TelemetryStore) (scenario : Scenario) (start stop : Time) :
    (store.injectScenarioTelemetry scenario start stop).metrics =
      sortBy (fun m => m.timestamp.micros) (store.metrics ++ scenarioMetrics scenario start stop) := rfl

theorem metrics_generateBackgroundTraffic (store : TelemetryStore) (start stop : Time) :
    (store.generateBackgroundTraffic start stop).metrics =
      sortBy (fun m => m.timestamp.micros) (store.metrics ++ backgroundMetrics start stop) := rfl

theorem mem_ticks {step : Nat} {hstep : 0 < step} {cur stop t : Time} :
    t ∈ ticks step hstep cur stop ↔ ∃ k, t = cur.addSeconds (k * step) ∧ t.micros ≤ stop.micros := by
  induction cur using ticks.induct step hstep stop with
  | case1 cur hle ih =>
    rw [ticks, if_pos hle, List.mem_cons, ih]
    constructor
    · rintro (rfl | ⟨k, rfl, hk⟩)
      · exact ⟨0, by simp [Time.addSeconds], hle⟩
      · refine ⟨k + 1, ?_, hk⟩
        simp only [Time.addSeconds, Time.mk.injEq, Nat.add_mul, Nat.one_mul]
        omega
    · rintro ⟨k, rfl, hk⟩
      cases k with
      | zero => exact .inl (by simp [Time.addSeconds])
      | succ k =>
        refine .inr ⟨k, ?_, hk⟩
        simp only [Time.addSeconds, Time.mk.injEq, Nat.add_mul, Nat.one_mul]
        omega
  | case2 cur hgt =>
    rw [ticks, if_neg hgt]
    constructor
    · rintro ⟨⟩
    · rintro ⟨k, rfl, hk⟩
      refine absurd (le_trans ?_ hk) hgt
      simp [Time.addSeconds]

theorem le_of_mem_halfMinutes {start stop t : Time} (h : t ∈ halfMinutes start stop) : t.micros ≤ stop.micros := by
  obtain ⟨k, -, hle⟩ := mem_ticks.1 h
  exact hle

/-- Every metric of the class has a point at each half-minute, remediated or not. -/
structure Sampled (cls : ScenarioClass) : Prop where
  times : ∀ isRemediated start stop, ∀ e ∈ cls.generateMetrics isRemediated start stop,
    e.2.map Prod.fst = halfMinutes start stop
  names : ∀ isRemediated start stop isRemediated' start' stop',
    (cls.generateMetrics isRemediated start stop).map Prod.fst =
      (cls.generateMetrics isRemediated' start' stop').map Prod.fst

theorem sampled_of_steadyMetrics {cls : ScenarioClass} {rows : List (String × Rat × Rat)}
    (h : cls.generateMetrics = steadyMetrics rows) : Sampled cls where
  times isRemediated start stop e he := by
    rw [h, steadyMetrics, List.mem_map] at he
    obtain ⟨row, -, rfl⟩ := he
    rw [List.map_map]
    exact List.map_id _
  names isRemediated start stop isRemediated' start' stop' := by
    simp only [h, steadyMetrics, List.map_map, Function.comp_def]

theorem times_climbing (val : Rat) (ts : List Time) : (climbing val ts).map Prod.fst = ts := by
  induction ts generalizing val with
  | nil => rfl
  | cons t ts ih => exact congrArg (List.cons t) (ih _)

theorem sampled_memoryLeakScenario : Sampled memoryLeakScenario where
  times isRemediated start stop e he := by
    have hsteady : ∀ value : Rat, ((halfMinutes start stop).map fun t => (t, value)).map Prod.fst =
        halfMinutes start stop := by
      intro value
      rw [List.map_map]
      exact List.map_id _
    cases isRemediated with
    | true =>
      simp only [memoryLeakScenario, if_true, List.mem_cons, List.not_mem_nil, or_false] at he
      rcases he with rfl | rfl
      · exact hsteady 25
      · exact hsteady 5
    | false =>
      simp only [memoryLeakScenario, Bool.false_eq_true, if_false, List.mem_cons, List.not_mem_nil, or_false] at he
      rcases he with rfl | rfl
      · exact times_climbing 70 _
      · exact hsteady 480
  names isRemediated start stop isRemediated' start' stop' := by
    cases isRemediated <;> cases isRemediated' <;> rfl

theorem sampled_of_registered [UnicodeText] {cls : ScenarioClass} (hcls : Registered cls) : Sampled cls :=
  hcls.cases (P := Sampled) (sampled_of_steadyMetrics rfl) (sampled_of_steadyMetrics rfl) (sampled_of_steadyMetrics rfl)
    sampled_memoryLeakScenario (sampled_of_steadyMetrics rfl) (sampled_of_steadyMetrics rfl)
    (sampled_of_steadyMetrics rfl) (sampled_of_steadyMetrics rfl) (sampled_of_steadyMetrics rfl)
    (sampled_of_steadyMetrics rfl)

/-- The scenario emits the metric. -/
def Emits (cls : ScenarioClass) (metric : String) : Prop :=
  ∃ isRemediated start stop, metric ∈ (cls.generateMetrics isRemediated start stop).map Prod.fst

/-- No point is later than the end of its window. -/
theorem le_of_mem_scenarioMetrics {scenario : Scenario} (h : Sampled scenario.cls) {start stop : Time}
    {m : MetricDataPoint} (hm : m ∈ scenarioMetrics scenario start stop) : m.timestamp.micros ≤ stop.micros := by
  obtain ⟨⟨metricName, points⟩, he, hm⟩ := List.mem_flatMap.1 hm
  obtain ⟨⟨timestamp, value⟩, hpoint, rfl⟩ := List.mem_map.1 hm
  have hmem : timestamp ∈ points.map Prod.fst := List.mem_map.2 ⟨_, hpoint, rfl⟩
  rw [h.times _ _ _ _ he] at hmem
  exact le_of_mem_halfMinutes hmem

theorem le_of_mem_backgroundMetrics {start stop : Time} {m : MetricDataPoint}
    (hm : m ∈ backgroundMetrics start stop) : m.timestamp.micros ≤ stop.micros := by
  obtain ⟨⟨ts, svc⟩, hround, hm⟩ := List.mem_flatMap.1 hm
  obtain ⟨t, ht, hsvc⟩ := List.mem_flatMap.1 hround
  obtain ⟨_, -, heq⟩ := List.mem_map.1 hsvc
  cases heq
  have htime : m.timestamp = ts := by
    simp only [List.mem_cons, List.not_mem_nil, or_false] at hm
    rcases hm with rfl | rfl | rfl <;> rfl
  rw [htime]
  exact le_of_mem_halfMinutes ht

/-- Ten minutes of telemetry end with a point of every metric. -/
theorem exists_scenarioMetrics {scenario : Scenario} (h : Sampled scenario.cls) {metric : String}
    (hm : Emits scenario.cls metric) (start : Time) :
    ∃ m ∈ scenarioMetrics scenario start (start.addSeconds (10 * 60)),
      m.metricName = metric ∧ m.service = scenario.cls.firstAffected ∧ start.micros < m.timestamp.micros := by
  obtain ⟨isRemediated, start', stop', hname⟩ := hm
  rw [h.names _ _ _ scenario.state.isRemediated start (start.addSeconds (10 * 60))] at hname
  obtain ⟨⟨name, points⟩, he, rfl⟩ := List.mem_map.1 hname
  have hlast : start.addSeconds (10 * 60) ∈ points.map Prod.fst := by
    rw [h.times _ _ _ _ he]
    exact mem_ticks.2 ⟨20, rfl, le_rfl⟩
  obtain ⟨⟨timestamp, value⟩, hpoint, rfl⟩ := List.mem_map.1 hlast
  refine ⟨_, List.mem_flatMap.2 ⟨_, he, List.mem_map.2 ⟨_, hpoint, rfl⟩⟩, rfl, rfl, ?_⟩
  simp only [Time.addSeconds] at *
  omega

/-! ## The traced engine -/

/-- `add_metrics`, traced. -/
def record (trace : List TracedPoint) (origin : Origin) (metrics : List MetricDataPoint) : List TracedPoint :=
  sortBy (fun tp => tp.point.timestamp.micros) (trace ++ metrics.map fun point => ⟨origin, point⟩)

theorem map_record (trace : List TracedPoint) (origin : Origin) (metrics : List MetricDataPoint) :
    (record trace origin metrics).map TracedPoint.point =
      sortBy (fun m => m.timestamp.micros) (trace.map TracedPoint.point ++ metrics) := by
  have hmap : (metrics.map fun point => (⟨origin, point⟩ : TracedPoint)).map TracedPoint.point = metrics := by
    rw [List.map_map]
    exact List.map_id _
  rw [record, map_sortBy (fun m : MetricDataPoint => m.timestamp.micros) TracedPoint.point, List.map_append, hmap]

theorem mem_record {trace : List TracedPoint} {origin : Origin} {metrics : List MetricDataPoint} {tp : TracedPoint} :
    tp ∈ record trace origin metrics ↔ tp ∈ trace ∨ tp.origin = origin ∧ tp.point ∈ metrics := by
  rw [record, mem_sortBy, List.mem_append, List.mem_map]
  constructor
  · rintro (hold | ⟨point, hpoint, rfl⟩)
    · exact .inl hold
    · exact .inr ⟨rfl, hpoint⟩
  · rintro (hold | ⟨rfl, hpoint⟩)
    · exact .inl hold
    · exact .inr ⟨_, hpoint, rfl⟩

/-- The scenario whose recovery an action shows: it succeeded, and the scenario is remediated (engine.py:111). -/
def recovered : Except PyException (Bool × String) × SimulationEngine → Option Scenario
  | (.ok (true, _), engine) => engine.activeScenario.filter fun scenario => scenario.state.isRemediated
  | _ => none

structure TracedEngine where
  engine : SimulationEngine := {}
  trace : List TracedPoint := []

namespace TracedEngine

open SimulationEngine

/-- An action leaves the engine as it is, or shows the recovery of the scenario. -/
theorem executeAction_recovered [Unicode] (now : Nat → Time) (actionType : String) (parameters : Dict String Json)
    (engine : SimulationEngine) :
    (recovered (engine.executeAction now actionType parameters) = none ∧
        (engine.executeAction now actionType parameters).2 = engine) ∨
      ∃ scenario scenario', engine.activeScenario = some scenario ∧ scenario'.cls = scenario.cls ∧
        scenario'.state.isRemediated = true ∧
        recovered (engine.executeAction now actionType parameters) = some scenario' ∧
        (engine.executeAction now actionType parameters).2 =
          { engine with activeScenario := some scenario' }.recover scenario' (now 1) := by
  rcases engine.executeAction_cases now actionType parameters with
    ⟨hsame, hopen⟩ | ⟨scenario, scenario', message, hs, hcls, hfixed, hout⟩
  · refine .inl ⟨?_, hsame⟩
    generalize hcall : engine.executeAction now actionType parameters = call at hsame hopen
    obtain ⟨out, engine'⟩ := call
    obtain rfl : engine' = engine := hsame
    unfold recovered
    split
    · rename_i message engine' heq
      cases heq
      rw [Option.filter_eq_none_iff]
      intro scenario hs
      rw [hopen scenario message hs rfl]
      exact Bool.false_ne_true
    · rfl
  · refine .inr ⟨scenario, scenario', hs, hcls, hfixed, ?_, by rw [hout]⟩
    rw [hout, recovered, recover]
    exact Option.filter_some_pos hfixed

section
variable [Unicode] [UnicodeText]

/-- The metrics that are there once a scenario has been loaded. -/
def loadTrace (now : Nat → Time) (scenario : Scenario) : List TracedPoint :=
  let startTime := (now 0).subSeconds (15 * 60)
  let background := record [] .background (backgroundMetrics ((now 0).subSeconds (45 * 60)) startTime)
  record background (.scenario scenario.state.isRemediated) (scenarioMetrics scenario startTime (now 0))

def step (t : TracedEngine) (call : Call) : TracedEngine where
  engine := t.engine.step call
  trace :=
    match call with
    | .reset => []
    | .loadScenario now scenarioId =>
      match createScenario scenarioId with
      | .error _ => []
      | .ok scenario => loadTrace now scenario
    | .executeAction now actionType parameters =>
      match recovered (t.engine.executeAction now actionType parameters) with
      | some scenario =>
        record t.trace (.scenario scenario.state.isRemediated)
          (scenarioMetrics scenario (now 1) ((now 1).addSeconds (10 * 60)))
      | none => t.trace

def after (calls : List Call) : TracedEngine := calls.foldl step {}

theorem after_concat (calls : List Call) (call : Call) : after (calls ++ [call]) = (after calls).step call := by
  rw [after, List.foldl_append]
  rfl

theorem engine_after (calls : List Call) : (after calls).engine = SimulationEngine.after calls := by
  induction calls using List.reverseRecOn with
  | nil => rfl
  | append_singleton calls call ih =>
    rw [after_concat, SimulationEngine.after_concat, ← ih]
    rfl

/-- Without the origins, the trace is the metrics of the store. -/
theorem erase_after (calls : List Call) :
    (after calls).trace.map TracedPoint.point = (SimulationEngine.after calls).telemetryStore.metrics := by
  induction calls using List.reverseRecOn with
  | nil => rfl
  | append_singleton calls call ih =>
    rw [after_concat, SimulationEngine.after_concat, ← engine_after] at *
    generalize after calls = t at ih
    cases call with
    | reset => rfl
    | loadScenario now scenarioId =>
      simp only [step, SimulationEngine.step, loadScenario]
      cases hc : createScenario scenarioId with
      | error exc => rfl
      | ok scenario =>
        simp only [loadTrace, map_record, metrics_injectScenarioTelemetry, metrics_generateBackgroundTraffic, reset]
        rfl
    | executeAction now actionType parameters =>
      simp only [step, SimulationEngine.step]
      rcases executeAction_recovered now actionType parameters t.engine with
        ⟨hnone, hsame⟩ | ⟨scenario, scenario', -, -, -, hsome, hengine⟩
      · rw [hnone, hsame]
        exact ih
      · rw [hsome, hengine]
        simp only [map_record, ih]
        rfl

end

/-! ## Visibility along a run -/

/-- What is stored about a scenario that was loaded at that time. -/
structure Visible (loadedAt : Time) (scenario : Scenario) (trace : List TracedPoint) : Prop where
  sorted : trace.Pairwise fun a b => a.point.timestamp.micros ≤ b.point.timestamp.micros
  early : ∀ tp ∈ trace, tp.origin ≠ .scenario true → tp.point.timestamp.micros ≤ loadedAt.micros
  hidden : scenario.state.isRemediated = false → ∀ tp ∈ trace, tp.origin ≠ .scenario true
  shown : scenario.state.isRemediated = true → ∀ metric, Emits scenario.cls metric →
    ∃ tp ∈ trace, tp.point.metricName = metric ∧ tp.point.service = scenario.cls.firstAffected ∧
      loadedAt.micros < tp.point.timestamp.micros

theorem visible_loadTrace (now : Nat → Time) {scenario : Scenario} (h : Sampled scenario.cls)
    (hopen : scenario.state.isRemediated = false) : Visible (now 0) scenario (loadTrace now scenario) where
  sorted := pairwise_sortBy _ _
  early tp htp _ := by
    rw [loadTrace, mem_record, mem_record] at htp
    rcases htp with (hnone | ⟨-, hbackground⟩) | ⟨-, hscenario⟩
    · cases hnone
    · have hle := le_of_mem_backgroundMetrics hbackground
      simp only [Time.subSeconds] at hle
      omega
    · exact le_of_mem_scenarioMetrics h hscenario
  hidden _ tp htp := by
    rw [loadTrace, mem_record, mem_record, hopen] at htp
    rcases htp with (hnone | ⟨horigin, -⟩) | ⟨horigin, -⟩
    · cases hnone
    · rw [horigin]
      decide
    · rw [horigin]
      decide
  shown hfixed := by
    rw [hopen] at hfixed
    cases hfixed

/-- A recovery is recorded from then on. -/
theorem Visible.recovered {loadedAt now : Time} {scenario scenario' : Scenario} {trace : List TracedPoint}
    (hv : Visible loadedAt scenario trace) (h : Sampled scenario'.cls) (hclock : loadedAt.micros ≤ now.micros)
    (hfixed : scenario'.state.isRemediated = true) :
    Visible loadedAt scenario' (record trace (.scenario scenario'.state.isRemediated)
      (scenarioMetrics scenario' now (now.addSeconds (10 * 60)))) where
  sorted := pairwise_sortBy _ _
  early tp htp horigin := by
    rw [mem_record, hfixed] at htp
    rcases htp with hold | ⟨hnew, -⟩
    · exact hv.early tp hold horigin
    · exact absurd hnew horigin
  hidden hopen := by
    rw [hfixed] at hopen
    cases hopen
  shown _ metric hmetric := by
    obtain ⟨m, hm, hname, hservice, hlater⟩ := exists_scenarioMetrics h hmetric now
    exact ⟨⟨_, m⟩, mem_record.2 (.inr ⟨rfl, hm⟩), hname, hservice, Nat.lt_of_le_of_lt hclock hlater⟩

section
variable [Unicode] [UnicodeText]

/-- The instants that a call reads from the clock, in order. -/
def readings : Call → List Time
  | .reset => []
  | .loadScenario now _ => [now 0, now 1, now 2, now 3]
  | .executeAction now _ _ => [now 0, now 1]

/-- The clock does not go back. -/
def NonDecreasing (calls : List Call) : Prop := (calls.flatMap readings).Pairwise fun a b => a.micros ≤ b.micros

theorem visible_step {loadedAt : Time} {scenario : Scenario} {t : TracedEngine}
    (hs : t.engine.activeScenario = some scenario) (hcls : Registered scenario.cls)
    (hv : Visible loadedAt scenario t.trace) {call : Call} (hcall : call.isAction = true)
    (hclock : ∀ now ∈ readings call, loadedAt.micros ≤ now.micros) :
    ∃ scenario', (t.step call).engine.activeScenario = some scenario' ∧ scenario'.cls = scenario.cls ∧
      Visible loadedAt scenario' (t.step call).trace := by
  cases call with
  | reset => cases hcall
  | loadScenario now scenarioId => cases hcall
  | executeAction now actionType parameters =>
    simp only [step, SimulationEngine.step]
    rcases executeAction_recovered now actionType parameters t.engine with
      ⟨hnone, hsame⟩ | ⟨before, scenario', hbefore, hkept, hfixed, hsome, hengine⟩
    · rw [hnone, hsame]
      exact ⟨scenario, hs, rfl, hv⟩
    · obtain rfl : before = scenario := Option.some.inj (hbefore.symm.trans hs)
      rw [hsome, hengine]
      refine ⟨scenario', rfl, hkept, hv.recovered ?_ (hclock (now 1) (by simp [readings])) hfixed⟩
      rw [hkept]
      exact sampled_of_registered hcls

/-- Loading a scenario makes nothing of what was before. -/
theorem visible_load (before : List Call) {now : Nat → Time} {scenarioId : String} {created : Scenario}
    (hload : createScenario scenarioId = .ok created) :
    ∃ scenario, (after (before ++ [.loadScenario now scenarioId])).engine.activeScenario = some scenario ∧
      scenario.cls = created.cls ∧
      Visible (now 0) scenario (after (before ++ [.loadScenario now scenarioId])).trace := by
  have hopen : created.state.isRemediated = false := by rw [state_createScenario hload]
  have hv := visible_loadTrace now (sampled_of_registered (registered_createScenario hload)) hopen
  rw [after_concat]
  simp only [step, SimulationEngine.step, loadScenario, hload]
  exact ⟨_, rfl, rfl, hv.sorted, hv.early, hv.hidden, hv.shown⟩

theorem visible_run (before : List Call) {now : Nat → Time} {scenarioId : String} {created : Scenario}
    (hload : createScenario scenarioId = .ok created) {actions : List Call}
    (hactions : ∀ call ∈ actions, call.isAction = true)
    (hclock : ∀ call ∈ actions, ∀ t ∈ readings call, (now 0).micros ≤ t.micros) :
    ∃ scenario, (after (before ++ .loadScenario now scenarioId :: actions)).engine.activeScenario = some scenario ∧
      scenario.cls = created.cls ∧
      Visible (now 0) scenario (after (before ++ .loadScenario now scenarioId :: actions)).trace := by
  induction actions using List.reverseRecOn with
  | nil => exact visible_load before hload
  | append_singleton actions call ih =>
    obtain ⟨scenario, hs, hcls, hv⟩ := ih (fun c hc => hactions c (List.mem_append_left _ hc))
      fun c hc => hclock c (List.mem_append_left _ hc)
    have hmem : call ∈ actions ++ [call] := List.mem_append_right _ (List.mem_singleton_self call)
    have hregistered : Registered scenario.cls := by
      rw [hcls]
      exact registered_createScenario hload
    obtain ⟨scenario', hs', hcls', hv'⟩ := visible_step hs hregistered hv (hactions call hmem) (hclock call hmem)
    rw [← List.cons_append, ← List.append_assoc, after_concat]
    exact ⟨scenario', hs', hcls'.trans hcls, hv'⟩

end

/-! ## What a query shows -/

/-- `query_metrics`, traced. -/
def query (trace : List TracedPoint) (metricName : String) (service : Option String) (limit : Int) : List TracedPoint :=
  Py.sliceFrom (trace.filter fun tp => tp.point.meets metricName service none none) (-limit)

theorem map_query {trace : List TracedPoint} {store : TelemetryStore}
    (h : trace.map TracedPoint.point = store.metrics) (metricName : String) (service : Option String) (limit : Int) :
    (query trace metricName service limit).map TracedPoint.point =
      store.queryMetrics metricName service none none limit := by
  rw [TelemetryStore.queryMetrics_eq, query, Py.map_sliceFrom, ← h, List.filter_map]
  rfl

/-- The last point of a query is not earlier than the recovery, so it belongs to it. -/
theorem Visible.last {loadedAt : Time} {scenario : Scenario} {trace : List TracedPoint}
    (hv : Visible loadedAt scenario trace) (hfixed : scenario.state.isRemediated = true) {metric : String}
    (hmetric : Emits scenario.cls metric) {limit : Nat} (hlimit : 1 ≤ limit) :
    ∃ tp, (query trace metric (some scenario.cls.firstAffected) limit).getLast? = some tp ∧
      tp.origin = .scenario true := by
  obtain ⟨shown, hmem, hname, hservice, hlater⟩ := hv.shown hfixed metric hmetric
  let matching := trace.filter fun tp => tp.point.meets metric (some scenario.cls.firstAffected) none none
  have hshown : shown ∈ matching := by
    refine List.mem_filter.2 ⟨hmem, ?_⟩
    by_cases hempty : scenario.cls.firstAffected = "" <;>
      simp [MetricDataPoint.meets, hname, hservice, given, Option.filter, hempty]
  have hne := List.ne_nil_of_mem hshown
  refine ⟨matching.getLast hne, Py.getLast?_sliceFrom hne hlimit, ?_⟩
  by_contra horigin
  have hearly := hv.early _ (List.mem_of_mem_filter (List.getLast_mem hne)) horigin
  have hle := (hv.sorted.sublist List.filter_sublist).rel_getLast_of_rel_getLast_getLast hshown le_rfl
  exact absurd (Nat.lt_of_lt_of_le hlater hle) (Nat.not_lt.2 hearly)

section
variable [Unicode] [UnicodeText]

/-- **Recovery is visible**: however many actions are executed after a scenario has been loaded, once it is
remediated the last point of every one of its metrics is from after the remediation; and as long as
it is not, no point is. -/
theorem recovery_visible (before : List Call) {now : Nat → Time} {scenarioId : String} {created : Scenario}
    (hload : createScenario scenarioId = .ok created) {actions : List Call}
    (hactions : ∀ call ∈ actions, call.isAction = true)
    (hclock : NonDecreasing (.loadScenario now scenarioId :: actions)) :
    let calls := before ++ .loadScenario now scenarioId :: actions
    let trace := (after calls).trace
    ∃ scenario, (SimulationEngine.after calls).activeScenario = some scenario ∧ scenario.cls = created.cls ∧
      (scenario.state.isRemediated = true → ∀ metric, Emits scenario.cls metric → ∀ limit : Nat, 1 ≤ limit →
        let found := query trace metric (some scenario.cls.firstAffected) limit
        found.map TracedPoint.point = (SimulationEngine.after calls).telemetryStore.queryMetrics metric
            (some scenario.cls.firstAffected) none none limit ∧
          ∃ tp, found.getLast? = some tp ∧ tp.origin = .scenario true) ∧
      (scenario.state.isRemediated = false →
        trace.map TracedPoint.point = (SimulationEngine.after calls).telemetryStore.metrics ∧
          ∀ tp ∈ trace, tp.origin ≠ .scenario true) := by
  intro calls trace
  have hlate : ∀ call ∈ actions, ∀ t ∈ readings call, (now 0).micros ≤ t.micros := by
    intro call hcall t ht
    rw [NonDecreasing, List.flatMap_cons, readings, List.cons_append, List.pairwise_cons] at hclock
    exact hclock.1 t (List.mem_append_right _ (List.mem_flatMap.2 ⟨call, hcall, ht⟩))
  obtain ⟨scenario, hs, hcls, hv⟩ := visible_run before hload hactions hlate
  rw [engine_after] at hs
  have herase := erase_after calls
  refine ⟨scenario, hs, hcls, ?_, fun hopen => ⟨herase, hv.hidden hopen⟩⟩
  intro hfixed metric hmetric limit hlimit found
  exact ⟨map_query herase _ _ _, hv.last hfixed hmetric hlimit⟩

end

/-- A rollback of the payment service. -/
def rollback : Call :=
  .executeAction (fun _ => ⟨0⟩) "rollback_deployment" (Dict.ofList [("target_service", .str "payment-service")])

/-- The latency after it. -/
theorem recovery_visible_rollback :
    letI := Py.asciiTable
    letI := Py.asciiText
    ∃ tp, (query (after [.loadScenario (fun _ => ⟨0⟩) "redis_pool_exhaustion", rollback]).trace "p95_latency_ms"
      (some "payment-service") 1).getLast? = some tp ∧ tp.origin = .scenario true := by
  let _ := Py.asciiTable
  let _ := Py.asciiText
  have hload : createScenario "redis_pool_exhaustion" = .ok { cls := redisPoolExhaustionScenario } := rfl
  have hclock : NonDecreasing [.loadScenario (fun _ => ⟨0⟩) "redis_pool_exhaustion", rollback] := by
    simp [NonDecreasing, readings, rollback]
  have hactive :
      (SimulationEngine.after [.loadScenario (fun _ => ⟨0⟩) "redis_pool_exhaustion", rollback]).activeScenario =
      some { cls := redisPoolExhaustionScenario
             state := { isActive := true, isRemediated := true, incidentStartedAt := some ⟨0⟩
                        remediatedAt := some ⟨0⟩ } } := rfl
  obtain ⟨scenario, hs, -, hshown, -⟩ := recovery_visible [] hload (by simp [rollback, Call.isAction]) hclock
  obtain rfl := Option.some.inj (hactive.symm.trans hs)
  have hemits : Emits redisPoolExhaustionScenario "p95_latency_ms" := ⟨true, ⟨0⟩, ⟨0⟩, List.mem_cons_self⟩
  exact (hshown rfl "p95_latency_ms" hemits 1 le_rfl).2

end TracedEngine

end OpsPilot
