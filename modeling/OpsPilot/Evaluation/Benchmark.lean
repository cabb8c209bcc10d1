import OpsPilot.Evaluation.Runner
import OpsPilot.Orchestration.DefaultRepair
/-!
# What the benchmark measures (`EvaluationEngine.evaluate_scenario`, runner.py:59)

The benchmark runs the default wiring, with a runner of its own, on a scenario that it has just loaded. Every
such run ends with the same hypothesis, the same plan and an approval, so that the verdict on a scenario
depends on its ground truth alone. The remediation is counted as valid where the payment service is among
the affected ones; what it heals are other scenarios.

| here | there |
| --- | --- |
| `evaluationIncident`  | `initial_state` (runner.py:88) |
| `evaluationStart`     | the workflow, once the scenario is loaded |
| `RunBenchmark`        | the loop of `run_benchmark` (runner.py:156) |
| `creditedScenarios`, `containedScenarios`, `foreseen` | no functions of the source |

Left out: the rates, which are the counts divided by the number of scenarios, and the reports.
-/
namespace OpsPilot

open ScenarioCatalog

/-! ## The ground truths -/

/-- A class is registered under its own id. -/
theorem scenarioId_of_registered [UnicodeText] {scenarioId : String} {cls : ScenarioClass}
    (h : scenarioRegistry.get? scenarioId = some cls) : cls.groundTruth.scenarioId = scenarioId := by
  rw [scenarioRegistry, Dict.get?_ofList] at h
  have hmem := Dict.mem_of_look h
  simp only [List.mem_reverse, List.mem_cons, Prod.mk.injEq, List.not_mem_nil, or_false] at hmem
  rcases hmem with ⟨rfl, rfl⟩ | ⟨rfl, rfl⟩ | ⟨rfl, rfl⟩ | ⟨rfl, rfl⟩ | ⟨rfl, rfl⟩ | ⟨rfl, rfl⟩ | ⟨rfl, rfl⟩ |
    ⟨rfl, rfl⟩ | ⟨rfl, rfl⟩ | ⟨rfl, rfl⟩
  all_goals rfl

/-- The scenarios that affect the payment service. -/
def creditedScenarios : List String := ["redis_pool_exhaustion", "downstream_failure", "api_timeout"]

theorem affects_payment_iff [UnicodeText] {cls : ScenarioClass} (h : Registered cls) :
    "payment-service" ∈ cls.groundTruth.affectedServices ↔ cls.groundTruth.scenarioId ∈ creditedScenarios := by
  refine h.cases (P := fun cls =>
    ("payment-service" ∈ cls.groundTruth.affectedServices ↔ cls.groundTruth.scenarioId ∈ creditedScenarios))
    (by decide) (by decide) ?slowQuery (by decide) (by decide) (by decide) (by decide) (by decide) (by decide)
    (by decide)
  case slowQuery => simp [slowQueryScenario, creditedScenarios]

/-- The scenarios that affect no service beyond the neighbours of the payment service. -/
def containedScenarios : List String :=
  ["redis_pool_exhaustion", "db_connection_exhaustion", "slow_query", "cpu_saturation", "downstream_failure",
    "bad_deployment", "api_timeout", "queue_backlog"]

theorem contained_iff [UnicodeText] {cls : ScenarioClass} (h : Registered cls) :
    (cls.groundTruth.affectedServices.all fun s =>
        s ∈ ({} : RiskPolicyEngine).calculateBlastRadius "payment-service") = true ↔
      cls.groundTruth.scenarioId ∈ containedScenarios := by
  have hradius : ({} : RiskPolicyEngine).calculateBlastRadius "payment-service" =
      ["payment-service", "api-gateway", "order-service", "notification-service"] := by decide +kernel
  rw [hradius]
  refine h.cases (P := fun cls =>
    ((cls.groundTruth.affectedServices.all fun s =>
        s ∈ ["payment-service", "api-gateway", "order-service", "notification-service"]) = true ↔
      cls.groundTruth.scenarioId ∈ containedScenarios))
    (by decide) (by decide) ?slowQuery (by decide) (by decide) (by decide) (by decide) (by decide) (by decide)
    (by decide)
  case slowQuery => simp [slowQueryScenario, containedScenarios]

/-- catalog.py:35 -/
def ScenarioCatalog.listScenarioIds [UnicodeText] : List String := scenarioRegistry.entries.map Prod.fst

theorem get?_of_listed [UnicodeText] {scenarioId : String} (h : scenarioId ∈ listScenarioIds) :
    ∃ cls, scenarioRegistry.get? scenarioId = some cls := by
  obtain ⟨e, he, rfl⟩ := List.mem_map.1 h
  exact ⟨e.2, Dict.look_of_mem scenarioRegistry.nodup he⟩

/-! ## The verdict on a default run -/

namespace EvaluationEngine

section
variable [UnicodeText]

/-- The verdict on a scenario, less its duration and the number of its pieces of evidence. -/
def foreseen (policyEngine : RiskPolicyEngine) (groundTruth : GroundTruth) : EvaluationResult :=
  let predictedRootCause := "Redis Connection Pool Exhaustion from Deployment Configuration"
  { scenarioId := groundTruth.scenarioId, scenarioName := groundTruth.name,
    groundTruthRootCause := groundTruth.rootCause, predictedRootCause,
    groundTruthService := expectedService groundTruth, predictedService := expectedService groundTruth,
    serviceMatch := true,
    rootCauseSimilarity := computeSemanticSimilarity predictedRootCause groundTruth.rootCause,
    remediationActionValid := "payment-service" ∈ groundTruth.affectedServices,
    blastRadiusContained := groundTruth.affectedServices.all fun s =>
      s ∈ policyEngine.calculateBlastRadius "payment-service",
    criticChallengeOccurred := true, investigationDurationMs := .zero, totalEvidenceCount := 0,
    confidenceScore := .ofHundredths 92 }

def stripped (r : EvaluationResult) : EvaluationResult :=
  { r with investigationDurationMs := .zero, totalEvidenceCount := 0 }

end

section
variable [Unicode] [UnicodeCase]

/-- Nothing else depends on the run. -/
theorem stripped_of_closed {policyEngine : RiskPolicyEngine} {st : IncidentState} {h : Hypothesis}
    (hclosed : Closed policyEngine st h) (groundTruth : GroundTruth) (elapsedMs : PyFloat) :
    stripped (evaluateScenario policyEngine groundTruth st elapsedMs) = foreseen policyEngine groundTruth := by
  have hcause : predictedCause groundTruth st = "Redis Connection Pool Exhaustion from Deployment Configuration" := by
    rw [predictedCause, hclosed.selected]
    exact hclosed.hypothesis.title
  have htarget : (defaultAction policyEngine st.incidentId).targetService = "payment-service" := rfl
  simp only [stripped, evaluateScenario, foreseen, hcause, hclosed.plannedActions, hclosed.selected, hclosed.critique,
    List.head?_cons, Option.any_some, Option.all_some, Option.isSome_some, htarget, if_true]

end

end EvaluationEngine

/-! ## A run of the benchmark -/

/-- runner.py:88 -/
def evaluationIncident (scenarioId : String) (alert : InitialAlert) (createdAt : Time) : IncidentState where
  incidentId := "eval-" ++ scenarioId
  title := alert.title
  severity := .sev1
  affectedServices := [alert.service]
  createdAt := createdAt

theorem fresh_evaluationIncident (scenarioId : String) (alert : InitialAlert) (createdAt : Time) :
    (evaluationIncident scenarioId alert createdAt).Fresh :=
  ⟨rfl, rfl, rfl, rfl, rfl, rfl, rfl, rfl, rfl, rfl, rfl⟩

section
variable {V S : Type} [Unicode] [UnicodeCase] [LinearOrder S]

/-- The workflow of `evaluate_scenario`: `engine` is the simulator that the scenario is loaded into, and
`memory` the memory of the default registry. -/
def evaluationStart (toFloat : Rat → PyFloat) (embedder : Embedder V S) (now : Nat → Time) (loadNow : Nat → Time)
    (engine : SimulationEngine) (memory : SearchIncidentMemoryTool V) (scenario : Scenario) (createdAt : Time) :
    Workflow (DefaultWorld V) :=
  let scenarioId := scenario.cls.groundTruth.scenarioId
  let alert := scenario.cls.getInitialAlert (loadNow 3)
  Workflow.defaultInit toFloat embedder now (evaluationIncident scenarioId alert createdAt) ∅
    { simulator := (engine.loadScenario loadNow scenarioId).2, memory }

variable {toFloat : Rat → PyFloat} {embedder : Embedder V S} {now loadNow : Nat → Time}
  {dumpJson : (model : ResponseModel) → model.Parsed → String} {engine : SimulationEngine}
  {memory : SearchIncidentMemoryTool V} {scenario : Scenario} {createdAt : Time} {policyEngine : RiskPolicyEngine}

/-- The evaluation of a scenario ends as every default run does. -/
theorem closed_of_evaluation {as : List (Workflow.Label (DefaultWorld V))} {s : Workflow (DefaultWorld V)}
    (hrun : Machine.run (Workflow.step policyEngine)
      (evaluationStart toFloat embedder now loadNow engine memory scenario createdAt) as = some s)
    (hC : Machine.Along (Workflow.step policyEngine) (Workflow.Alone toFloat embedder now dumpJson)
      (evaluationStart toFloat embedder now loadNow engine memory scenario createdAt) as)
    (hover : s.graph.Over) :
    (∃ h, Closed policyEngine s.graph.state h) ∧
      Workflow.Repaired now [.loadScenario loadNow scenario.cls.groundTruth.scenarioId] s.runner.world.simulator :=
  Workflow.closed_of_alone (fresh_evaluationIncident _ _ _) (Finset.notMem_empty _) hrun hC hover

theorem get?_createScenario {scenarioId : String} (h : createScenario scenarioId = .ok scenario) :
    scenarioRegistry.get? scenarioId = some scenario.cls := by
  unfold createScenario at h
  split at h
  · rename_i cls hcls
    cases h
    exact hcls
  · cases h

open Workflow EvaluationEngine in
/-- **What the benchmark measures**: on every scenario it predicts the same root cause, reports a challenge
by the critic, which has approved, and counts the remediation as valid where the payment service is affected.
The services are healed on other scenarios than these. -/
theorem benchmark_verdict {scenarioId : String} (hscenario : createScenario scenarioId = .ok scenario)
    {as : List (Workflow.Label (DefaultWorld V))} {s : Workflow (DefaultWorld V)}
    (hrun : Machine.run (Workflow.step policyEngine)
      (evaluationStart toFloat embedder now loadNow engine memory scenario createdAt) as = some s)
    (hC : Machine.Along (Workflow.step policyEngine) (Workflow.Alone toFloat embedder now dumpJson)
      (evaluationStart toFloat embedder now loadNow engine memory scenario createdAt) as)
    (hover : s.graph.Over) (elapsedMs : PyFloat) :
    let result := EvaluationEngine.evaluateScenario policyEngine scenario.cls.groundTruth s.graph.state elapsedMs
    s.graph.state.currentStage = .resolved ∧
      result.predictedRootCause = "Redis Connection Pool Exhaustion from Deployment Configuration" ∧
      result.serviceMatch = true ∧ result.criticChallengeOccurred = true ∧
      (s.graph.state.critique.map CritiqueResult.decision) = some .approve ∧
      (result.remediationActionValid = true ↔ scenarioId ∈ creditedScenarios) ∧
      ((∀ service ∈ scenario.cls.groundTruth.affectedServices,
          (s.runner.world.simulator.topology.services.get? service).map LiveService.status = some .degraded) ↔
        scenarioId ∉ rolledBackScenarios) := by
  intro result
  have hstate := state_createScenario hscenario
  have hget := get?_createScenario hscenario
  have hid := scenarioId_of_registered hget
  have hcls : Registered scenario.cls := ⟨scenarioId, hget⟩
  let calls : List SimulationEngine.Call := [.loadScenario loadNow scenario.cls.groundTruth.scenarioId]
  have hactive : (SimulationEngine.after calls).activeScenario = some { scenario with
      state := { scenario.state with
        isActive := true, incidentStartedAt := some ((loadNow 0).subSeconds (15 * 60)) } } := by
    show (SimulationEngine.loadScenario loadNow scenario.cls.groundTruth.scenarioId {}).2.activeScenario = _
    rw [SimulationEngine.loadScenario, hid, hscenario]
  obtain ⟨⟨h, hclosed⟩, hrepaired⟩ := closed_of_evaluation hrun hC hover
  have hforeseen := stripped_of_closed hclosed scenario.cls.groundTruth elapsedMs
  have hvalid : result.remediationActionValid =
      decide ("payment-service" ∈ scenario.cls.groundTruth.affectedServices) :=
    congrArg EvaluationResult.remediationActionValid hforeseen
  refine ⟨hclosed.currentStage, congrArg EvaluationResult.predictedRootCause hforeseen, rfl,
    congrArg EvaluationResult.criticChallengeOccurred hforeseen, ?_, ?_, ?_⟩
  · rw [hclosed.critique]
    rfl
  · rw [hvalid, decide_eq_true_iff, affects_payment_iff hcls, hid]
  · rw [hrepaired.degraded_iff _ hactive, ← hid, hstate]
    exact and_iff_right rfl

end

open Workflow EvaluationEngine in
/-- A crash of the payment service: credited, and not healed. -/
theorem benchmark_verdict_crash :
    letI := Py.asciiTable
    letI := Py.asciiCase
    let scenario : Scenario := { cls := downstreamFailureScenario }
    let start := evaluationStart (fun _ => .zero) (alikeEmbedder 0) (fun _ => ⟨0⟩) (fun _ => ⟨0⟩) {} {} scenario ⟨0⟩
    ∃ as s, Machine.run (step {}) start as = some s ∧
      (evaluateScenario {} scenario.cls.groundTruth s.graph.state .zero).remediationActionValid = true ∧
      (s.runner.world.simulator.topology.services.get? "payment-service").map LiveService.status =
        some .degraded := by
  let _ := Py.asciiTable
  let _ := Py.asciiCase
  intro scenario start
  have hscenario : createScenario "downstream_failure" = .ok scenario := rfl
  have hrun : Machine.run (step {}) start [] = some start := rfl
  have hC : Machine.Along (step {}) (AgentsAnswer (fun _ => .zero) (alikeEmbedder 0) (fun _ => ⟨0⟩) fun _ _ => "")
    start [] := trivial
  obtain ⟨as, s, -, has, hCas, hover⟩ := exists_rest (fresh_evaluationIncident _ _ _) hrun hC stillClock
  obtain ⟨-, -, -, -, -, hvalid, hdegraded⟩ := benchmark_verdict hscenario has hCas hover .zero
  refine ⟨as, s, has, hvalid.2 (by decide), hdegraded.2 (by decide) "payment-service" ?_⟩
  simp [scenario, downstreamFailureScenario]

/-! ## The whole benchmark -/

namespace EvaluationEngine

section
variable {V S : Type} [Unicode] [UnicodeCase] [LinearOrder S] {toFloat : Rat → PyFloat} {embedder : Embedder V S}
  {now : Nat → Time} {dumpJson : (model : ResponseModel) → model.Parsed → String}

/-- One evaluation after another, each in the simulator and with the memory that the one before has left. The
policy is `RiskPolicyEngine()`. -/
inductive RunBenchmark (toFloat : Rat → PyFloat) (embedder : Embedder V S) (now : Nat → Time)
    (dumpJson : (model : ResponseModel) → model.Parsed → String) :
    SimulationEngine → SearchIncidentMemoryTool V → List String → List EvaluationResult → Prop
  | done (engine : SimulationEngine) (memory : SearchIncidentMemoryTool V) :
      RunBenchmark toFloat embedder now dumpJson engine memory [] []
  | scenario {engine : SimulationEngine} {memory : SearchIncidentMemoryTool V} {scenarioId : String}
      {scenario : Scenario} {loadNow : Nat → Time} {createdAt : Time} {as : List (Workflow.Label (DefaultWorld V))}
      {s : Workflow (DefaultWorld V)} {targets : List String} {results : List EvaluationResult}
      (elapsedMs : PyFloat) (hscenario : createScenario scenarioId = .ok scenario)
      (hrun : Machine.run (Workflow.step {})
        (evaluationStart toFloat embedder now loadNow engine memory scenario createdAt) as = some s)
      (hC : Machine.Along (Workflow.step {}) (Workflow.Alone toFloat embedder now dumpJson)
        (evaluationStart toFloat embedder now loadNow engine memory scenario createdAt) as)
      (hover : s.graph.Over)
      (hrest : RunBenchmark toFloat embedder now dumpJson s.runner.world.simulator s.runner.world.memory targets
        results) :
      RunBenchmark toFloat embedder now dumpJson engine memory (scenarioId :: targets)
        (evaluateScenario {} scenario.cls.groundTruth s.graph.state elapsedMs :: results)

theorem exists_runBenchmark (clock : Clock) {targets : List String} (h : ∀ id ∈ targets, id ∈ listScenarioIds) :
    ∀ (engine : SimulationEngine) (memory : SearchIncidentMemoryTool V),
      ∃ results, RunBenchmark toFloat embedder now dumpJson engine memory targets results := by
  induction targets with
  | nil => exact fun engine memory => ⟨[], .done engine memory⟩
  | cons scenarioId targets ih =>
    intro engine memory
    obtain ⟨cls, hcls⟩ := get?_of_listed (h scenarioId (List.mem_cons_self ..))
    have hscenario : createScenario scenarioId = .ok { cls } := by simp only [createScenario, hcls]
    let start := evaluationStart toFloat embedder now (fun _ => ⟨0⟩) engine memory { cls } ⟨0⟩
    have hrun : Machine.run (Workflow.step {}) start [] = some start := rfl
    have hC : Machine.Along (Workflow.step {}) (Workflow.AgentsAnswer toFloat embedder now dumpJson) start [] := trivial
    obtain ⟨as, s, -, has, hCas, hover⟩ := Workflow.exists_rest (fresh_evaluationIncident _ _ _) hrun hC clock
    obtain ⟨results, hrest⟩ := ih (fun id hmem => h id (List.mem_cons_of_mem _ hmem)) s.runner.world.simulator
      s.runner.world.memory
    exact ⟨_, .scenario .zero hscenario has hCas hover hrest⟩

/-- What is foreseen of a scenario that is in the registry. -/
def Foreseen (scenarioId : String) (r : EvaluationResult) : Prop :=
  ∃ cls, scenarioRegistry.get? scenarioId = some cls ∧ stripped r = foreseen {} cls.groundTruth

variable (toFloat embedder now dumpJson) in
/-- **The report of the benchmark is known beforehand.** It gets through every list of registered scenarios, and in
any order of them, whatever the earlier ones have left in the simulator and in the memory, all that it reports of a
scenario but the duration and the number of pieces of evidence is read off the ground truth. So the service always
matches, and the other two counts are those of two lists. -/
theorem run_benchmark_foreseen (clock : Clock) {targets : List String} (h : ∀ id ∈ targets, id ∈ listScenarioIds)
    (engine : SimulationEngine) (memory : SearchIncidentMemoryTool V) :
    (∃ results, RunBenchmark toFloat embedder now dumpJson engine memory targets results) ∧
      ∀ results, RunBenchmark toFloat embedder now dumpJson engine memory targets results →
        List.Forall₂ Foreseen targets results ∧
        results.countP EvaluationResult.serviceMatch = targets.length ∧
        results.countP EvaluationResult.remediationActionValid = targets.countP (· ∈ creditedScenarios) ∧
        results.countP EvaluationResult.blastRadiusContained = targets.countP (· ∈ containedScenarios) := by
  refine ⟨exists_runBenchmark clock h engine memory, fun results hresults => ?_⟩
  have hforeseen : List.Forall₂ Foreseen targets results := by
    clear h
    induction hresults with
    | done engine memory => exact .nil
    | scenario elapsedMs hscenario hrun hC hover hrest ih =>
      obtain ⟨⟨h, hclosed⟩, -⟩ := closed_of_evaluation hrun hC hover
      exact .cons ⟨_, get?_createScenario hscenario, stripped_of_closed hclosed _ elapsedMs⟩ ih
  refine ⟨hforeseen, ?_⟩
  clear hresults h
  induction hforeseen with
  | nil => exact ⟨rfl, rfl, rfl⟩
  | @cons scenarioId r targets results hr hrest ih =>
    obtain ⟨cls, hget, hstripped⟩ := hr
    obtain ⟨hmatch, hvalid, hcontained⟩ := ih
    have hcls : Registered cls := ⟨scenarioId, hget⟩
    have hid := scenarioId_of_registered hget
    have hmatch₁ : r.serviceMatch = true := congrArg EvaluationResult.serviceMatch hstripped
    have hvalid₁ : r.remediationActionValid = decide (scenarioId ∈ creditedScenarios) := by
      rw [← hid, ← decide_eq_decide.2 (affects_payment_iff hcls)]
      exact congrArg EvaluationResult.remediationActionValid hstripped
    have hcontained₁ : r.blastRadiusContained = decide (scenarioId ∈ containedScenarios) := by
      rw [← hid, Bool.eq_iff_iff, decide_eq_true_iff, ← contained_iff hcls]
      exact iff_of_eq (congrArg (· = true) (congrArg EvaluationResult.blastRadiusContained hstripped))
    refine ⟨?_, ?_, ?_⟩
    · rw [List.countP_cons, hmatch, hmatch₁, List.length_cons]
      rfl
    · rw [List.countP_cons, List.countP_cons, hvalid, hvalid₁]
    · rw [List.countP_cons, List.countP_cons, hcontained, hcontained₁]

end

/-- All of them: ten services match, three remediations are valid, and eight blast radii are contained. -/
theorem run_benchmark_foreseen_all :
    letI := Py.asciiTable
    letI := Py.asciiCase
    ∃ results, RunBenchmark (fun _ => .zero) (alikeEmbedder 0) (fun _ => ⟨0⟩) (fun _ _ => "") {} {} listScenarioIds
        results ∧
      results.countP EvaluationResult.serviceMatch = 10 ∧ results.countP EvaluationResult.remediationActionValid = 3 ∧
      results.countP EvaluationResult.blastRadiusContained = 8 := by
  let _ := Py.asciiTable
  let _ := Py.asciiCase
  obtain ⟨⟨results, hresults⟩, hall⟩ := run_benchmark_foreseen (fun _ => .zero) (alikeEmbedder 0) (fun _ => ⟨0⟩)
    (fun _ _ => "") Workflow.stillClock (fun id (h : id ∈ listScenarioIds) => h) {} {}
  obtain ⟨-, hmatch, hvalid, hcontained⟩ := hall results hresults
  refine ⟨results, hresults, hmatch.trans ?_, hvalid.trans ?_, hcontained.trans ?_⟩
  · decide +kernel
  · decide +kernel
  · decide +kernel

end EvaluationEngine

end OpsPilot
