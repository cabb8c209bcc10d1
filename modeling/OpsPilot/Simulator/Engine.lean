import OpsPilot.Lib.Ranking
import OpsPilot.Simulator.Catalog
import OpsPilot.Tools.Remediation
/-!
# The simulation engine (`simulator/engine.py`, `simulator/telemetry/*.py`)

The statuses of the services, the flags of the scenario and the telemetry belong to different
components, which `load_scenario` and `execute_action` update one after the other. A call that raises
leaves what it has done until then.

| here | there |
| --- | --- |
| `LiveTopology`                       | `ServiceTopology` with the statuses (topology.py:72) |
| `TelemetryStore.injectScenarioTelemetry` | the method of `TelemetryGenerator` (generator.py:73) |
| `now i`                              | the `i`-th `datetime.now(UTC)` of a call |
| `SimulationEngine.after`             | no function of the source: the engine after a sequence of calls |

The values of the metrics are exact.
-/
namespace OpsPilot

/-! ## Topology -/

/-- topology.py:7 -/
inductive ServiceStatus where
  | healthy | degraded | down
deriving DecidableEq

structure LiveService where
  node : ServiceNode
  status : ServiceStatus := .healthy

structure LiveTopology where
  services : Dict String LiveService

namespace LiveTopology

/-- topology.py:75 -/
def fresh : LiveTopology :=
  ⟨Dict.ofList (ServiceTopology.default.services.entries.map fun e => (e.1, { node := e.2 }))⟩

/-- topology.py:99 -/
def setServiceStatus (t : LiveTopology) (serviceName : String) (status : ServiceStatus) : LiveTopology :=
  match t.services.get? serviceName with
  | some svc => ⟨t.services.set serviceName { svc with status }⟩
  | none => t

/-- `for svc in services: set_service_status(svc, status)` -/
def setAll (t : LiveTopology) (services : List String) (status : ServiceStatus) : LiveTopology :=
  services.foldl (fun t svc => t.setServiceStatus svc status) t

theorem get?_setServiceStatus (t : LiveTopology) (name name' : String) (status : ServiceStatus) :
    (t.setServiceStatus name status).services.get? name' =
      if name = name' then (t.services.get? name').map fun svc => { svc with status }
      else t.services.get? name' := by
  unfold setServiceStatus
  cases h : t.services.get? name with
  | none =>
    by_cases heq : name = name'
    · simp [← heq, h]
    · simp [heq]
  | some svc =>
    by_cases heq : name = name'
    · simp [← heq, h]
    · simp [heq]

theorem get?_setAll (t : LiveTopology) (names : List String) (name : String) (status : ServiceStatus) :
    (t.setAll names status).services.get? name =
      if name ∈ names then (t.services.get? name).map fun svc => { svc with status }
      else t.services.get? name := by
  induction names generalizing t with
  | nil => simp [setAll]
  | cons first names ih =>
    have hcons : t.setAll (first :: names) status = (t.setServiceStatus first status).setAll names status := rfl
    rw [hcons, ih, get?_setServiceStatus]
    by_cases hname : name ∈ names
    · by_cases hfirst : first = name
      · simp [hname, hfirst, Function.comp_def]
      · simp [hname, hfirst]
    · by_cases hfirst : first = name
      · simp [hname, hfirst]
      · have hne : name ≠ first := fun h => hfirst h.symm
        simp [hname, hfirst, hne]

theorem get?_fresh (name : String) :
    fresh.services.get? name = (ServiceTopology.default.services.get? name).map fun node => { node } := by
  have hlook : ∀ l : List (String × ServiceNode),
      Dict.look name (l.map fun e => (e.1, ({ node := e.2 } : LiveService))) =
        (Dict.look name l).map fun node => { node } := by
    intro l
    induction l with
    | nil => rfl
    | cons e l ih =>
      simp only [List.map_cons, Dict.look, ih]
      split
      · rfl
      · rfl
  rw [fresh, Dict.get?_ofList, ← List.map_reverse, hlook, Dict.look_reverse ServiceTopology.default.services.nodup]
  rfl

end LiveTopology

/-! ## Telemetry and the code repository -/

/-- store.py:9 -/
structure LogRecord where
  timestamp : Time
  level : String
  service : String
  message : String
  traceId : Option String := none
  metadata : Dict String Json := Dict.empty

/-- store.py:18 -/
structure MetricDataPoint where
  timestamp : Time
  metricName : String
  service : String
  value : Rat

/-- store.py:29 -/
structure TelemetryStore where
  logs : List LogRecord := []
  metrics : List MetricDataPoint := []

/-- The item as the `dict` that it is. -/
def LogItem.toDict (item : LogItem) : Dict String Json :=
  let optional (key : String) (value : Option String) := (value.map fun v => (key, Json.str v)).toList
  Dict.ofList ([("timestamp", .str item.timestamp.isoformat), ("level", .str item.level),
    ("service", .str item.service)] ++ optional "trace_id" item.traceId ++ [("message", .str item.message)] ++
    optional "exception_class" item.exceptionClass)

namespace TelemetryStore

/-- store.py:37 -/
def addLogs (store : TelemetryStore) (logs : List LogRecord) : TelemetryStore :=
  { store with logs := Ranking.sortBy (fun r => r.timestamp.micros) (store.logs ++ logs) }

/-- store.py:41 -/
def addMetrics (store : TelemetryStore) (metrics : List MetricDataPoint) : TelemetryStore :=
  { store with metrics := Ranking.sortBy (fun m => m.timestamp.micros) (store.metrics ++ metrics) }

/-- generator.py:15 -/
def generateBackgroundTraffic (store : TelemetryStore) (start stop : Time) : TelemetryStore :=
  let services := ["api-gateway", "auth-service", "order-service", "payment-service", "notification-service"]
  let rounds := (halfMinutes start stop).flatMap fun ts => services.map fun svc => (ts, svc)
  let metrics := rounds.flatMap fun (ts, svc) =>
    [{ timestamp := ts, metricName := "http_request_duration_p95_seconds", service := svc, value := 0.25 },
     { timestamp := ts, metricName := "process_cpu_percent", service := svc, value := 20 },
     { timestamp := ts, metricName := "memory_usage_percent", service := svc, value := 35 }]
  let logs := rounds.map fun (ts, svc) =>
    { timestamp := ts, level := "INFO", service := svc
      message := svc ++ " processing health heartbeat [status=UP, p95=25ms]"
      traceId := some ("tr-base-" ++ toString ts.timestamp ++ "-" ++ Py.take svc 4) }
  (store.addLogs logs).addMetrics metrics

/-- generator.py:73. The metrics go to the first of the affected services. -/
def injectScenarioTelemetry (store : TelemetryStore) (scenario : Scenario) (start stop : Time) : TelemetryStore :=
  let isRemediated := scenario.state.isRemediated
  let logs := (scenario.cls.generateLogs isRemediated start stop).map fun item =>
    { timestamp := item.timestamp, level := item.level, service := item.service, message := item.message
      traceId := item.traceId, metadata := item.toDict }
  let service := scenario.cls.groundTruth.affectedServices.head scenario.cls.affected_ne
  let metrics := (scenario.cls.generateMetrics isRemediated start stop).flatMap fun (metricName, points) =>
    points.map fun (timestamp, value) => { timestamp, metricName, service, value }
  (store.addLogs logs).addMetrics metrics

end TelemetryStore

/-- mock_repo.py:48 -/
structure MockCodeRepository where
  commits : List CommitRecord := []
  deployments : List DeploymentEvent := []

/-! ## The engine -/

/-- engine.py:18 -/
structure SimulationEngine where
  topology : LiveTopology := .fresh
  repository : MockCodeRepository := {}
  telemetryStore : TelemetryStore := {}
  activeScenario : Option Scenario := none
  scenarioStartTime : Option Time := none

namespace SimulationEngine

/-- engine.py:26 -/
def reset (_ : SimulationEngine) : SimulationEngine := {}

section
variable [Unicode]

/-- Infrastructure actions that succeed on any scenario (engine.py:101). -/
def standardAction (actionType : String) (parameters : Dict String Json) : Option String :=
  let target := (parameters.getD "target_service" (.str "service")).pyStr
  if actionType = "scale_replicas" then
    let replicas := (parameters.getD "replicas" (.int 1)).pyStr
    some (target ++ " replica count adjusted to " ++ replicas ++ " (did not remediate root cause)")
  else if actionType = "clear_cache" then
    some ("Transient cache cleared for " ++ target ++ " (did not remediate root cause)")
  else none

/-- The affected services are healthy again, and ten minutes of telemetry say so (engine.py:111). -/
def recover (engine : SimulationEngine) (scenario : Scenario) (now : Time) : SimulationEngine :=
  { engine with
    topology := engine.topology.setAll scenario.cls.groundTruth.affectedServices .healthy
    telemetryStore := engine.telemetryStore.injectScenarioTelemetry scenario now (now.addSeconds (10 * 60)) }

/-- What is reported, once the scenario has returned `(success, message)`. -/
def reported (actionType : String) (parameters : Dict String Json) : Bool → String → Bool × String
  | true, message => (true, message)
  | false, message =>
    match standardAction actionType parameters with
    | some message => (true, message)
    | none => (false, message)

/-- The part of `execute_action` after `apply_remediation` (engine.py:100). -/
def conclude (engine : SimulationEngine) (scenario : Scenario) (now : Time) (actionType : String)
    (parameters : Dict String Json) : Except PyException (Bool × String) →
    Except PyException (Bool × String) × SimulationEngine
  | .error exc => (.error exc, engine)
  | .ok (success, message) =>
    let out := reported actionType parameters success message
    (.ok out, if out.1 && scenario.state.isRemediated then engine.recover scenario now else engine)

/-- engine.py:91 -/
def executeAction (now : Nat → Time) (actionType : String) (parameters : Dict String Json)
    (engine : SimulationEngine) : Except PyException (Bool × String) × SimulationEngine :=
  match engine.activeScenario with
  | none => (.ok (false, "No active scenario loaded in simulator"), engine)
  | some scenario =>
    let applied := scenario.cls.applyRemediation actionType parameters scenario.state (now 0)
    let scenario := { scenario with state := applied.2 }
    { engine with activeScenario := some scenario }.conclude scenario (now 1) actionType parameters applied.1

/-- Nothing happens to the engine unless a remediated scenario reports success. -/
theorem conclude_cases (engine : SimulationEngine) (scenario : Scenario) (now : Time) (actionType : String)
    (parameters : Dict String Json) (out : Except PyException (Bool × String)) :
    ((engine.conclude scenario now actionType parameters out).2 = engine ∧ ∀ message,
      (engine.conclude scenario now actionType parameters out).1 = .ok (true, message) →
        scenario.state.isRemediated = false) ∨
    scenario.state.isRemediated = true ∧ ∃ message,
      engine.conclude scenario now actionType parameters out = (.ok (true, message), engine.recover scenario now) := by
  cases out with
  | error exc =>
    refine .inl ⟨rfl, ?_⟩
    rintro message ⟨⟩
  | ok out =>
    obtain ⟨success, message⟩ := out
    simp only [conclude]
    split
    · rename_i hrecovers
      rw [Bool.and_eq_true] at hrecovers
      refine .inr ⟨hrecovers.2, (reported actionType parameters success message).2, ?_⟩
      rw [← hrecovers.1]
    · rename_i hkeeps
      refine .inl ⟨rfl, fun message' hout => ?_⟩
      rw [Except.ok.inj hout, Bool.true_and] at hkeeps
      exact Bool.eq_false_iff.2 hkeeps

/-- An action does nothing to the engine, or it succeeds and the scenario is remediated after it. -/
theorem executeAction_cases (now : Nat → Time) (actionType : String) (parameters : Dict String Json)
    (engine : SimulationEngine) :
    ((engine.executeAction now actionType parameters).2 = engine ∧ ∀ scenario message,
      engine.activeScenario = some scenario →
        (engine.executeAction now actionType parameters).1 = .ok (true, message) →
        scenario.state.isRemediated = false) ∨
    ∃ scenario scenario' message, engine.activeScenario = some scenario ∧ scenario'.cls = scenario.cls ∧
      scenario'.state.isRemediated = true ∧
      engine.executeAction now actionType parameters =
        (.ok (true, message), { engine with activeScenario := some scenario' }.recover scenario' (now 1)) := by
  cases hs : engine.activeScenario with
  | none =>
    rw [executeAction, hs]
    refine .inl ⟨rfl, ?_⟩
    rintro scenario message ⟨⟩
  | some scenario =>
    simp only [executeAction, hs]
    generalize happlied : scenario.cls.applyRemediation actionType parameters scenario.state (now 0) = applied
    have hsettles := scenario.cls.settles actionType parameters scenario.state (now 0)
    rw [happlied] at hsettles
    rcases hsettles with hstate | ⟨message, rfl⟩
    · -- the attributes of the scenario are what they were
      have hsame : ({ scenario with state := applied.2 } : Scenario) = scenario := by rw [hstate]
      have hengine : { engine with activeScenario := some scenario } = engine := by rw [← hs]
      rw [hsame, hengine]
      rcases engine.conclude_cases scenario (now 1) actionType parameters applied.1 with
        ⟨hnothing, hopen⟩ | ⟨hfixed, message, hout⟩
      · refine .inl ⟨hnothing, fun scenario' message' hs' hout => ?_⟩
        obtain rfl := Option.some.inj hs'
        exact hopen message' hout
      · exact .inr ⟨scenario, scenario, message, rfl, rfl, hfixed, by rw [hout, hengine]⟩
    · let state := { scenario.state with isRemediated := true, remediatedAt := some (now 0) }
      exact .inr ⟨scenario, { scenario with state }, message, rfl, rfl, rfl, rfl⟩

variable [UnicodeText]

/-- engine.py:34 -/
def loadScenario (now : Nat → Time) (scenarioId : String) (engine : SimulationEngine) :
    Except PyException InitialAlert × SimulationEngine :=
  let engine := engine.reset
  match ScenarioCatalog.createScenario scenarioId with
  | .error exc => (.error exc, engine)
  | .ok scenario =>
    let startTime := (now 0).subSeconds (15 * 60)
    let scenario :=
      { scenario with state := { scenario.state with isActive := true, incidentStartedAt := some startTime } }
    let telemetryStore := engine.telemetryStore.generateBackgroundTraffic ((now 0).subSeconds (45 * 60)) startTime
    (.ok (scenario.cls.getInitialAlert (now 3)),
      { topology := engine.topology.setAll scenario.cls.groundTruth.affectedServices .degraded
        repository :=
          { commits := engine.repository.commits ++ scenario.cls.getCommits (now 1)
            deployments := engine.repository.deployments ++ scenario.cls.getDeployments (now 2) }
        telemetryStore := telemetryStore.injectScenarioTelemetry scenario startTime (now 0)
        activeScenario := some scenario
        scenarioStartTime := some startTime })

inductive Call where
  | reset
  | loadScenario (now : Nat → Time) (scenarioId : String)
  | executeAction (now : Nat → Time) (actionType : String) (parameters : Dict String Json)

def Call.isAction : Call → Bool
  | .reset | .loadScenario .. => false
  | .executeAction .. => true

/-- The engine after a call, whatever the call returns or raises. -/
def step (engine : SimulationEngine) : Call → SimulationEngine
  | .reset => engine.reset
  | .loadScenario now scenarioId => (engine.loadScenario now scenarioId).2
  | .executeAction now actionType parameters => (engine.executeAction now actionType parameters).2

def after (calls : List Call) : SimulationEngine := calls.foldl step {}

end

/-! ## Consistency -/

/-- A scenario is active that is not remediated and lists the service. -/
def impaired (engine : SimulationEngine) (service : String) : Bool :=
  engine.activeScenario.any fun scenario => scenario.impairs service

/-- The services are those of the default topology, degraded where they are impaired. -/
def Consistent (engine : SimulationEngine) : Prop :=
  ∀ name, engine.topology.services.get? name = (ServiceTopology.default.services.get? name).map fun node =>
    { node, status := if engine.impaired name then .degraded else .healthy }

theorem consistent_init : Consistent {} := by
  intro name
  exact LiveTopology.get?_fresh name

section
variable [Unicode]

theorem consistent_executeAction {engine : SimulationEngine} (h : engine.Consistent) (now : Nat → Time)
    (actionType : String) (parameters : Dict String Json) :
    (engine.executeAction now actionType parameters).2.Consistent := by
  rcases engine.executeAction_cases now actionType parameters with
    ⟨hsame, -⟩ | ⟨scenario, scenario', message, hs, hcls, hfixed, hout⟩
  · rw [hsame]
    exact h
  · rw [hout]
    intro name
    have hnow : impaired ({ engine with activeScenario := some scenario' }.recover scenario' (now 1)) name = false := by
      simp [impaired, recover, Scenario.impairs, hfixed]
    rw [hnow]
    simp only [recover, LiveTopology.get?_setAll, h name]
    split
    · rw [Option.map_map]
      rfl
    · rename_i hout
      have hbefore : engine.impaired name = false := by
        rw [hcls] at hout
        simp [impaired, hs, Scenario.impairs, hout]
      rw [hbefore]

/-- An action that does not succeed leaves everything as it was. -/
theorem unchanged_executeAction (engine : SimulationEngine) (now : Nat → Time) (actionType : String)
    (parameters : Dict String Json)
    (h : ∀ message, (engine.executeAction now actionType parameters).1 ≠ .ok (true, message)) :
    (engine.executeAction now actionType parameters).2 = engine := by
  rcases engine.executeAction_cases now actionType parameters with ⟨hsame, -⟩ | ⟨_, _, message, -, -, -, hout⟩
  · exact hsame
  · exact absurd (congrArg Prod.fst hout) (h message)

/-- The scenario stays, remediated if it was so. -/
theorem scenario_executeAction {engine : SimulationEngine} {scenario : Scenario}
    (hs : engine.activeScenario = some scenario) (now : Nat → Time) (actionType : String)
    (parameters : Dict String Json) :
    ∃ scenario', (engine.executeAction now actionType parameters).2.activeScenario = some scenario' ∧
      scenario'.cls = scenario.cls ∧
      (scenario.state.isRemediated = true → scenario'.state.isRemediated = true) := by
  rcases engine.executeAction_cases now actionType parameters with
    ⟨hsame, -⟩ | ⟨before, scenario', message, hs', hcls, hfixed, hout⟩
  · rw [hsame]
    exact ⟨scenario, hs, rfl, id⟩
  · obtain rfl : before = scenario := Option.some.inj (hs'.symm.trans hs)
    rw [hout]
    exact ⟨scenario', rfl, hcls, fun _ => hfixed⟩

variable [UnicodeText]

theorem consistent_loadScenario (engine : SimulationEngine) (now : Nat → Time) (scenarioId : String) :
    (engine.loadScenario now scenarioId).2.Consistent := by
  unfold loadScenario
  cases hc : ScenarioCatalog.createScenario scenarioId with
  | error exc => exact consistent_init
  | ok scenario =>
    intro name
    have hfresh : scenario.state.isRemediated = false := by
      rw [ScenarioCatalog.state_createScenario hc]
    simp only [LiveTopology.get?_setAll, reset, LiveTopology.get?_fresh, impaired, Scenario.impairs, hfresh,
      Option.any_some, Bool.not_false, Bool.true_and, List.contains_iff_mem]
    split
    · rw [Option.map_map]
      rfl
    · rfl

theorem consistent_step {engine : SimulationEngine} (h : engine.Consistent) (call : Call) :
    (engine.step call).Consistent := by
  cases call with
  | reset => exact consistent_init
  | loadScenario now scenarioId => exact engine.consistent_loadScenario now scenarioId
  | executeAction now actionType parameters => exact consistent_executeAction h now actionType parameters

theorem after_concat (calls : List Call) (call : Call) : after (calls ++ [call]) = (after calls).step call := by
  rw [after, List.foldl_append]
  rfl

theorem consistent_after (calls : List Call) : (after calls).Consistent := by
  induction calls using List.reverseRecOn with
  | nil => exact consistent_init
  | append_singleton calls call ih =>
    rw [after_concat]
    exact consistent_step ih call

/-- The scenario of an engine that has been called comes from the registry. -/
theorem registered_after {calls : List Call} {scenario : Scenario}
    (hs : (after calls).activeScenario = some scenario) : ScenarioCatalog.Registered scenario.cls := by
  induction calls using List.reverseRecOn generalizing scenario with
  | nil => cases hs
  | append_singleton calls call ih =>
    rw [after_concat] at hs
    cases call with
    | reset => cases hs
    | loadScenario now scenarioId =>
      simp only [step, loadScenario] at hs
      cases hc : ScenarioCatalog.createScenario scenarioId with
      | error exc =>
        rw [hc] at hs
        cases hs
      | ok created =>
        have hcls := ScenarioCatalog.registered_createScenario hc
        rw [hc] at hs
        cases hs
        exact hcls
    | executeAction now actionType parameters =>
      cases hbefore : (after calls).activeScenario with
      | none =>
        have hnothing : (after calls).step (.executeAction now actionType parameters) = after calls := by
          simp only [step, executeAction, hbefore]
        rw [hnothing, hbefore] at hs
        cases hs
      | some before =>
        obtain ⟨scenario', hs', hcls, -⟩ := scenario_executeAction hbefore now actionType parameters
        obtain rfl := Option.some.inj (hs'.symm.trans hs)
        rw [hcls]
        exact ih hbefore

/-- As long as no scenario is loaded and nothing is reset, the scenario stays. -/
theorem scenario_after {calls : List Call} {scenario : Scenario} (hs : (after calls).activeScenario = some scenario)
    (more : List Call) (hmore : ∀ call ∈ more, call.isAction = true) :
    ∃ scenario', (after (calls ++ more)).activeScenario = some scenario' ∧ scenario'.cls = scenario.cls ∧
      (scenario.state.isRemediated = true → scenario'.state.isRemediated = true) := by
  induction more using List.reverseRecOn with
  | nil =>
    rw [List.append_nil]
    exact ⟨scenario, hs, rfl, id⟩
  | append_singleton more call ih =>
    obtain ⟨scenario', hs', hcls, hkept⟩ := ih fun c hc => hmore c (List.mem_append_left _ hc)
    have hcall := hmore call (List.mem_append_right _ (List.mem_singleton_self call))
    rw [← List.append_assoc, after_concat]
    cases call with
    | reset => cases hcall
    | loadScenario now scenarioId => cases hcall
    | executeAction now actionType parameters =>
      obtain ⟨scenario'', hs'', hcls', hkept'⟩ := scenario_executeAction hs' now actionType parameters
      exact ⟨scenario'', hs'', hcls'.trans hcls, fun h => hkept' (hkept h)⟩

/-- **The simulator is consistent** after any sequence of calls: a service is degraded exactly when a
scenario is active, not remediated, and lists it; the scenario stays, and stays remediated, until it is
replaced; and an action that reports a failure, or raises, has no effect. -/
theorem consistent (calls : List Call) :
    let engine := after calls
    engine.Consistent ∧
    (∀ scenario more, engine.activeScenario = some scenario → (∀ call ∈ more, call.isAction = true) →
      ∃ scenario', (after (calls ++ more)).activeScenario = some scenario' ∧ scenario'.cls = scenario.cls ∧
        (scenario.state.isRemediated = true → scenario'.state.isRemediated = true)) ∧
    ∀ now actionType parameters,
      (∀ message, (engine.executeAction now actionType parameters).1 ≠ .ok (true, message)) →
      (engine.executeAction now actionType parameters).2 = engine := by
  refine ⟨consistent_after calls, ?_, ?_⟩
  · intro scenario more hs hmore
    exact scenario_after hs more hmore
  · intro now actionType parameters h
    exact (after calls).unchanged_executeAction now actionType parameters h

end

/-- A restart succeeds and helps nothing; the rollback after it does. -/
example :
    letI := Py.asciiTable
    letI := Py.asciiText
    let status (calls : List Call) : Option ServiceStatus :=
      ((after calls).topology.services.get? "api-gateway").map LiveService.status
    let now (_ : Nat) : Time := ⟨0⟩
    let target := Dict.ofList [("target_service", Json.str "payment-service")]
    let restarted := [.loadScenario now "redis_pool_exhaustion", .executeAction now "restart_service" target]
    status restarted = some .degraded ∧
      status (restarted ++ [.executeAction now "rollback_deployment" target]) = some .healthy := by decide +kernel

/-! ## The tools that act on the engine -/

section
variable [Unicode]

/-- A remediation tool that raises has not touched the simulator. -/
theorem unchanged_of_tool_raises (now : Nat → Time) {tool : Tool SimulationEngine}
    (htool : tool ∈ remediationTools fun actionType parameters engine =>
      SimulationEngine.executeAction now actionType parameters engine)
    {kwargs : Dict String Json} {engine : SimulationEngine} {exc : PyException}
    (h : (tool.run kwargs engine).1 = .error exc) : (tool.run kwargs engine).2 = engine := by
  have hrunOn : ∀ actionType params failure result,
      (runOn (fun actionType parameters engine => SimulationEngine.executeAction now actionType parameters engine)
        actionType params failure result kwargs engine).1 = .error exc →
      (runOn (fun actionType parameters engine => SimulationEngine.executeAction now actionType parameters engine)
        actionType params failure result kwargs engine).2 = engine := by
    intro actionType params failure result hraises
    unfold runOn at hraises ⊢
    cases hp : params kwargs with
    | error exc => rfl
    | ok parameters =>
      simp only [hp] at hraises ⊢
      have hunchanged := engine.unchanged_executeAction now actionType parameters
      generalize SimulationEngine.executeAction now actionType parameters engine = out at hraises hunchanged ⊢
      obtain ⟨outcome, engine'⟩ := out
      cases outcome with
      | error exc' =>
        refine hunchanged ?_
        rintro message ⟨⟩
      | ok answer =>
        obtain ⟨success, message⟩ := answer
        cases success with
        | true => cases hraises
        | false =>
          refine hunchanged ?_
          rintro message' ⟨⟩
  simp only [remediationTools, List.mem_cons, List.not_mem_nil, or_false] at htool
  rcases htool with rfl | rfl | rfl | rfl | rfl
  · exact hrunOn _ _ _ _ h
  · exact hrunOn _ _ _ _ h
  · exact hrunOn _ _ _ _ h
  · exact hrunOn _ _ _ _ h
  · exact hrunOn _ _ _ _ h

end

end SimulationEngine

end OpsPilot
