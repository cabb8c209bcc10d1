import OpsPilot.Simulator.Engine
/-!
# Actions that are aimed at another service

An action heals an incident only if it is aimed at one of the affected services: six of the ten
scenarios compare the target. Four do not, or do so in some of their branches only; `Unchecked` are the
actions that these four take for a remediation whatever the target is.
-/
namespace OpsPilot

open ScenarioCatalog

section
variable [UnicodeText]

/-- An action that remediates the scenario without a look at its target. -/
def Unchecked (scenarioId actionType : String) (parameters : Dict String Json) : Prop :=
  match scenarioId with
  | "redis_pool_exhaustion" =>
    actionType = "modify_configuration" ∧ atLeast 50 (parameters.getD "max_connections" (.int 0)) = .ok true
  | "slow_query" =>
    actionType = "modify_configuration" ∧ lowerContains "index" (parameters.getD "action" (.str "")) = .ok true
  | "invalid_config" => actionType ∈ ["rollback_deployment", "modify_configuration"]
  | "api_timeout" => actionType = "modify_configuration" ∧ (parameters.getD "provider_failover" .null).truthy = true
  | _ => False

end

/-- The action is aimed at none of the services that the scenario affects. -/
def OffTarget (cls : ScenarioClass) (parameters : Dict String Json) : Prop :=
  ∀ service ∈ cls.groundTruth.affectedServices, targets parameters service = false

/-! ## What an action does to the scenario -/

theorem isRemediated_remediesIf {s : ScenarioState} (hopen : s.isRemediated = false) (now : Time)
    (cond : Except PyException Bool) (fixed failed : String) :
    (remediesIf cond fixed failed s now).2.isRemediated = true ↔ cond = .ok true := by
  cases cond with
  | error exc => simp [remediesIf, Remediation.ifThen, hopen]
  | ok b => cases b <;> simp [remediesIf, Remediation.ifThen, Remediation.remediated, Remediation.returns, hopen]

/-- One condition that asks for a target which the action does not have. -/
theorem not_isRemediated_remediesIf {s : ScenarioState} (hopen : s.isRemediated = false) (now : Time)
    {parameters : Dict String Json} {service : String} (htarget : targets parameters service = false) (rightType : Bool)
    (fixed failed : String) :
    ¬ (remediesIf (.ok (rightType && targets parameters service)) fixed failed s now).2.isRemediated = true := by
  rw [isRemediated_remediesIf hopen, htarget, Bool.and_false]
  rintro ⟨⟩

section
variable [UnicodeText]

theorem isRemediated_redis {actionType : String} {parameters : Dict String Json}
    (hoff : OffTarget redisPoolExhaustionScenario parameters) {s : ScenarioState} (hopen : s.isRemediated = false)
    (now : Time) :
    (redisPoolExhaustionScenario.applyRemediation actionType parameters s now).2.isRemediated = true ↔
      Unchecked "redis_pool_exhaustion" actionType parameters := by
  have htarget : targets parameters "payment-service" = false := hoff _ (by simp [redisPoolExhaustionScenario])
  simp only [redisPoolExhaustionScenario, Unchecked, htarget, Bool.and_false, Remediation.ifThen]
  by_cases hmodify : actionType = "modify_configuration"
  · simp only [hmodify, if_true, true_and]
    cases atLeast 50 (parameters.getD "max_connections" (.int 0)) with
    | error exc => simp [hopen]
    | ok enough => cases enough <;> simp [Remediation.remediated, Remediation.returns, hopen]
  · simp [hmodify, Remediation.returns, hopen]

/-- **An action off target remediates a scenario exactly when its target is not checked.** -/
theorem isRemediated_offTarget {cls : ScenarioClass} (hcls : Registered cls) {actionType : String}
    {parameters : Dict String Json} (hoff : OffTarget cls parameters) {s : ScenarioState}
    (hopen : s.isRemediated = false) (now : Time) :
    (cls.applyRemediation actionType parameters s now).2.isRemediated = true ↔
      Unchecked cls.groundTruth.scenarioId actionType parameters := by
  revert hoff
  refine hcls.cases (P := fun cls => OffTarget cls parameters →
    ((cls.applyRemediation actionType parameters s now).2.isRemediated = true ↔
      Unchecked cls.groundTruth.scenarioId actionType parameters)) ?redisPoolExhaustion ?dbConnectionExhaustion
    ?slowQuery ?memoryLeak ?cpuSaturation ?downstreamFailure ?badDeployment ?invalidConfig ?apiTimeout ?queueBacklog <;>
    intro hoff
  case redisPoolExhaustion => exact isRemediated_redis hoff hopen now
  case slowQuery =>
    rw [slowQueryScenario, isRemediated_remediesIf hopen, Unchecked]
    by_cases hmodify : actionType = "modify_configuration" <;> simp [hmodify]
  case invalidConfig =>
    rw [invalidConfigScenario, isRemediated_remediesIf hopen, Unchecked]
    simp
  case apiTimeout =>
    rw [apiTimeoutScenario, isRemediated_remediesIf hopen, Unchecked]
    simp
  case dbConnectionExhaustion =>
    exact iff_of_false
      (not_isRemediated_remediesIf hopen now (hoff _ (by simp [dbConnectionExhaustionScenario])) _ _ _) id
  case memoryLeak =>
    exact iff_of_false (not_isRemediated_remediesIf hopen now (hoff _ (by simp [memoryLeakScenario])) _ _ _) id
  case cpuSaturation =>
    exact iff_of_false (not_isRemediated_remediesIf hopen now (hoff _ (by simp [cpuSaturationScenario])) _ _ _) id
  case downstreamFailure =>
    exact iff_of_false (not_isRemediated_remediesIf hopen now (hoff _ (by simp [downstreamFailureScenario])) _ _ _) id
  case badDeployment =>
    exact iff_of_false (not_isRemediated_remediesIf hopen now (hoff _ (by simp [badDeploymentScenario])) _ _ _) id
  case queueBacklog =>
    exact iff_of_false (not_isRemediated_remediesIf hopen now (hoff _ (by simp [queueBacklogScenario])) _ _ _) id

end

/-! ## What an action does to the engine -/

namespace SimulationEngine

theorem activeScenario_conclude [Unicode] (engine : SimulationEngine) (scenario : Scenario) (now : Time)
    (actionType : String) (parameters : Dict String Json) (out : Except PyException (Bool × String)) :
    (engine.conclude scenario now actionType parameters out).2.activeScenario = engine.activeScenario := by
  rcases engine.conclude_cases scenario now actionType parameters out with ⟨hsame, -⟩ | ⟨-, message, hrecovered⟩
  · rw [hsame]
  · rw [hrecovered]
    rfl

/-- The services that a registered scenario affects are services of the topology. -/
theorem isSome_affected [UnicodeText] {cls : ScenarioClass} (hcls : Registered cls) :
    ∀ service ∈ cls.groundTruth.affectedServices, (ServiceTopology.default.services.get? service).isSome = true := by
  have horder : ∀ service ∈ ["order-service"], (ServiceTopology.default.services.get? service).isSome = true := by
    decide
  refine hcls.cases (P := fun cls => ∀ service ∈ cls.groundTruth.affectedServices,
    (ServiceTopology.default.services.get? service).isSome = true) ?_ ?_ horder ?_ ?_ ?_ ?_ ?_ ?_ ?_ <;> decide

/-- In a consistent engine, whose scenario affects known services, these are degraded until it is remediated. -/
theorem degraded_iff [UnicodeText] {engine : SimulationEngine} (h : engine.Consistent) {scenario : Scenario}
    (hs : engine.activeScenario = some scenario) (hcls : Registered scenario.cls) :
    (∀ service ∈ scenario.cls.groundTruth.affectedServices,
      (engine.topology.services.get? service).map LiveService.status = some .degraded) ↔
      scenario.state.isRemediated = false := by
  have hstatus : ∀ service ∈ scenario.cls.groundTruth.affectedServices,
      (engine.topology.services.get? service).map LiveService.status =
        some (if scenario.state.isRemediated then .healthy else .degraded) := by
    intro service hservice
    obtain ⟨node, hnode⟩ := Option.isSome_iff_exists.1 (isSome_affected hcls service hservice)
    have himpaired : engine.impaired service = !scenario.state.isRemediated := by
      simp [impaired, hs, Scenario.impairs, hservice]
    rw [h service, hnode, himpaired]
    cases scenario.state.isRemediated <;> rfl
  constructor
  · intro hdegraded
    obtain ⟨service, hservice⟩ := List.exists_mem_of_ne_nil _ scenario.cls.affected_ne
    have hboth := (hstatus service hservice).symm.trans (hdegraded service hservice)
    cases hr : scenario.state.isRemediated with
    | false => rfl
    | true =>
      rw [hr] at hboth
      cases hboth
  · intro hopen service hservice
    rw [hstatus service hservice, hopen]
    rfl

section
variable [Unicode] [UnicodeText]

/-- **When a fix aimed elsewhere heals nothing**: an action that is aimed at none of the affected services
leaves an open scenario un-remediated, and its services degraded, exactly when it is not one of those
whose target the scenario does not check. -/
theorem off_target_iff {calls : List Call} {scenario : Scenario} (hs : (after calls).activeScenario = some scenario)
    (hopen : scenario.state.isRemediated = false) (now : Nat → Time) (actionType : String)
    {parameters : Dict String Json} (hoff : OffTarget scenario.cls parameters) :
    let engine := ((after calls).executeAction now actionType parameters).2
    ((∃ scenario', engine.activeScenario = some scenario' ∧ scenario'.cls = scenario.cls ∧
        scenario'.state.isRemediated = false) ∧
      ∀ service ∈ scenario.cls.groundTruth.affectedServices,
        (engine.topology.services.get? service).map LiveService.status = some .degraded) ↔
      ¬ Unchecked scenario.cls.groundTruth.scenarioId actionType parameters := by
  intro engine
  have hcls := registered_after hs
  have hengine : engine.Consistent := consistent_executeAction (consistent_after calls) now actionType parameters
  have hactive : engine.activeScenario =
      some { scenario with
        state := (scenario.cls.applyRemediation actionType parameters scenario.state (now 0)).2 } := by
    simp only [engine, executeAction, hs]
    exact activeScenario_conclude _ _ _ _ _ _
  rw [← isRemediated_offTarget hcls hoff hopen (now 0), Bool.not_eq_true, ← degraded_iff hengine hactive hcls]
  constructor
  · rintro ⟨-, hdegraded⟩
    exact hdegraded
  · intro hdegraded
    exact ⟨⟨_, hactive, rfl, (degraded_iff hengine hactive hcls).1 hdegraded⟩, hdegraded⟩

end

/-- The exhaustion of the Redis pool is loaded. -/
def redisIncident : List Call := [.loadScenario (fun _ => ⟨0⟩) "redis_pool_exhaustion"]

/-- An open incident. -/
def openRedis : Scenario :=
  { cls := redisPoolExhaustionScenario, state := { isActive := true, incidentStartedAt := some ⟨0⟩ } }

theorem active_redisIncident :
    letI := Py.asciiTable
    letI := Py.asciiText
    (after redisIncident).activeScenario = some openRedis := rfl

/-- Parameters that are aimed at the order service. -/
def atOrders (more : List (String × Json)) : Dict String Json :=
  Dict.ofList (("target_service", .str "order-service") :: more)

theorem offTarget_atOrders (more : List (String × Json)) (h : "target_service" ∉ more.map Prod.fst) :
    OffTarget redisPoolExhaustionScenario (atOrders more) := by
  have hget : (atOrders more).getD "target_service" .null = .str "order-service" := by
    rw [Dict.getD, atOrders, Dict.get?_ofList, List.reverse_cons, Dict.look_append,
      Dict.look_eq_none (by simpa using h)]
    rfl
  intro service hservice
  have hcases : service = "payment-service" ∨ service = "api-gateway" := by
    simpa [redisPoolExhaustionScenario] using hservice
  rw [targets, hget]
  rcases hcases with rfl | rfl <;> decide

/-- A restart of the order service. -/
theorem off_target_restart :
    letI := Py.asciiTable
    letI := Py.asciiText
    let engine := ((after redisIncident).executeAction (fun _ => ⟨0⟩) "restart_service" (atOrders [])).2
    (∃ scenario', engine.activeScenario = some scenario' ∧ scenario'.cls = redisPoolExhaustionScenario ∧
        scenario'.state.isRemediated = false) ∧
      ∀ service ∈ redisPoolExhaustionScenario.groundTruth.affectedServices,
        (engine.topology.services.get? service).map LiveService.status = some .degraded := by
  let _ := Py.asciiTable
  let _ := Py.asciiText
  refine (off_target_iff active_redisIncident rfl _ "restart_service" (offTarget_atOrders [] (by simp))).2 ?_
  rintro ⟨hmodify, -⟩
  exact absurd hmodify (by decide)

/-- A larger pool for the order service heals the payment service. -/
theorem off_target_heals :
    letI := Py.asciiTable
    letI := Py.asciiText
    (after redisIncident).activeScenario = some openRedis ∧
      OffTarget openRedis.cls (atOrders [("max_connections", .int 100)]) ∧
      let engine := ((after redisIncident).executeAction (fun _ => ⟨0⟩) "modify_configuration"
        (atOrders [("max_connections", .int 100)])).2
      (engine.activeScenario.map fun scenario => scenario.state.isRemediated) = some true ∧
        (engine.topology.services.get? "payment-service").map LiveService.status = some .healthy := by
  let _ := Py.asciiTable
  let _ := Py.asciiText
  exact ⟨active_redisIncident, offTarget_atOrders _ (by simp), by decide +kernel⟩

end SimulationEngine

end OpsPilot
