import OpsPilot.Agents
import OpsPilot.Agents.Quarantine
import OpsPilot.Lib.Procedure
import OpsPilot.Llm.MockProvider
import OpsPilot.Reporting.Postmortem
/-!
# The agents (`src/agents/`)

An agent reads through the registry, as a VIEWER, puts what it has read into a prompt and asks the model.
Nothing is awaited in between that gives way, so to the tools it is one step: a `Procedure` on their
world. The model is a parameter; the system prompts, which are constant, go with it.

| here | there |
| --- | --- |
| `StructuredLLM`               | `BaseAgent.invoke_structured`, up to `response.parsed` (base.py:29) |
| `BaseAgent.query`             | `self.registry.invoke(…, caller_role="VIEWER")` |
| `ToolResult.dataOr`           | `res.data if res.status == "SUCCESS" else fallback` |
| `SupervisorAgent.planInvestigation` | `plan_investigation` (supervisor.py:31) |
| `LogAnalystAgent.investigate` …     | `investigate` of the four analysts |
| `RCAAgent.analyze`            | `analyze` (rca.py:23) |
| `VerificationAgent.verifyRecovery`  | `verify_recovery` (verifier.py:33) |
| `CriticAgent.prompt`, `RemediationAgent.prompt` | the prompts of critic.py:48 and remediation_agent.py:36 |
-/
namespace OpsPilot

variable {W : Type}

/-- What the model answers to a prompt. -/
abbrev StructuredLLM := String → (model : ResponseModel) → Except PyException model.Parsed

def ToolResult.dataOr (res : ToolResult) (fallback : Json) : Json :=
  if res.status = .success then res.data else fallback

/-- `data.get(key, default)` -/
def dictGet (data : Json) (key : String) (default : Json) : Except PyException Json :=
  match data.asDict? with
  | some d => .ok (d.getD key default)
  | none => .error (.attributeError ("'" ++ data.typeName ++ "' object has no attribute 'get'"))

section
variable [Unicode]

def BaseAgent.query (registry : ToolRegistry W) (clock : Clock) (toolName : String)
    (arguments : List (String × Json)) : Procedure PyException W ToolResult :=
  .ofFunction fun w =>
    let inv := registry.invoke toolName (Dict.ofList arguments) "VIEWER" clock w
    (inv.result, inv.world)

/-- `f"{services}"` -/
def reprStrings (texts : List String) : String := (Json.arr (texts.map .str)).pyRepr

/-! ## Triage -/

namespace SupervisorAgent

/-- supervisor.py:41 -/
def prompt (state : IncidentState) (healthContext : Json) : String :=
  "Incident ID: " ++ state.incidentId ++ "\nTitle: " ++ state.title ++ "\nSeverity: " ++ state.severity.name ++
    "\nAffected Services: " ++ reprStrings state.affectedServices ++
    "\nService Topology Context: " ++ healthContext.pyStr ++
    "\n\nBuild an investigation plan selecting the necessary specialized analyst agents."

def planInvestigation (registry : ToolRegistry W) (llm : StructuredLLM) (state : IncidentState) (clock : Clock) :
    Procedure PyException W SupervisorPlan := do
  let healthResult ← BaseAgent.query registry clock "get_service_health"
    [("service", .str (state.affectedServices.headD "unknown"))]
  .ofExcept (llm (prompt state (healthResult.dataOr (.obj []))) .supervisorPlan)

end SupervisorAgent

/-! ## Investigation -/

/-- The first two lines of an analyst's prompt. -/
def InvestigationTask.heading (task : InvestigationTask) : String :=
  "Target Service: " ++ task.targetService ++ "\nQuery Intent: " ++ task.queryIntent ++ "\n"

namespace LogAnalystAgent

/-- log_analyst.py:38 -/
def prompt (task : InvestigationTask) (logs : Json) : String :=
  task.heading ++ "Application Logs:\n" ++ BaseAgent.quarantineTelemetry logs ++
    "\n\nAnalyze these logs and produce structured Evidence items for any anomalies or exceptions."

def investigate (registry : ToolRegistry W) (llm : StructuredLLM) (task : InvestigationTask) (clock : Clock) :
    Procedure PyException W AnalystAgentOutput := do
  let toolRes ← BaseAgent.query registry clock "query_logs"
    [("service", .str task.targetService), ("limit", .int 40)]
  .ofExcept (llm (prompt task (toolRes.dataOr (.arr []))) .analystAgentOutput)

end LogAnalystAgent

namespace MetricsAnalystAgent

/-- metrics_analyst.py:43 -/
def metricsSummary (p95Latency connections : Json) : Json :=
  .obj [("p95_latency", p95Latency), ("connections", connections)]

/-- metrics_analyst.py:49 -/
def prompt (task : InvestigationTask) (summary : Json) : String :=
  task.heading ++ "Metrics Data:\n" ++ BaseAgent.quarantineTelemetry summary ++
    "\n\nAnalyze these metrics and extract structured Evidence items for abnormal thresholds."

/-- metrics_analyst.py:25 -/
def queryMetric (registry : ToolRegistry W) (task : InvestigationTask) (clock : Clock) (metricName : String) :
    Procedure PyException W ToolResult :=
  BaseAgent.query registry clock "query_metrics"
    [("metric_name", .str metricName), ("service", .str task.targetService), ("limit", .int 20)]

def investigate (registry : ToolRegistry W) (llm : StructuredLLM) (task : InvestigationTask) (clock : Clock) :
    Procedure PyException W AnalystAgentOutput := do
  let latRes ← queryMetric registry task clock "p95_latency_ms"
  let connRes ← queryMetric registry task clock "redis_active_connections"
  let summary := metricsSummary (latRes.dataOr (.arr [])) (connRes.dataOr (.arr []))
  .ofExcept (llm (prompt task summary) .analystAgentOutput)

end MetricsAnalystAgent

namespace CodeAnalystAgent

/-- The SHA of the first deployment, if there is any: `deployments[0].get("commit_sha", "")`
(code_analyst.py:37). -/
def commitSha : Json → Except PyException Json
  | .arr (d :: _) => dictGet d "commit_sha" (.str "")
  | .arr [] => .ok (.str "")
  | .str s => if s = "" then .ok (.str "") else .error (.attributeError "'str' object has no attribute 'get'")
  | .obj kvs => if kvs.isEmpty then .ok (.str "") else .error (.other "KeyError" "0")
  | v => if v.truthy then .error (.typeError ("object of type '" ++ v.typeName ++ "' has no len()")) else .ok (.str "")

/-- code_analyst.py:46 -/
def codeContext (deployments diffData : Json) : Json :=
  .obj [("deployments", deployments), ("latest_deployed_diff", diffData)]

/-- code_analyst.py:52 -/
def prompt (task : InvestigationTask) (context : Json) : String :=
  task.heading ++ "Deployment & Git Telemetry:\n" ++ BaseAgent.quarantineTelemetry context ++
    "\n\nAnalyze these code/config changes and extract structured Evidence items."

/-- code_analyst.py:39 -/
def diffOf (registry : ToolRegistry W) (commitSha : Json) (clock : Clock) : Procedure PyException W Json := do
  if commitSha.truthy then
    let diffRes ← BaseAgent.query registry clock "get_commit_diff" [("commit_sha", commitSha)]
    .ofExcept (if diffRes.status = .success then dictGet diffRes.data "diff" (.str "") else .ok (.str ""))
  else
    pure (.str "")

def investigate (registry : ToolRegistry W) (llm : StructuredLLM) (task : InvestigationTask) (clock : Clock) :
    Procedure PyException W AnalystAgentOutput := do
  let depRes ← BaseAgent.query registry clock "get_recent_deployments"
    [("service", .str task.targetService), ("limit", .int 3)]
  let deployments := depRes.dataOr (.arr [])
  let commitSha ← .ofExcept (commitSha deployments)
  let diffData ← diffOf registry commitSha clock
  .ofExcept (llm (prompt task (codeContext deployments diffData)) .analystAgentOutput)

end CodeAnalystAgent

namespace IncidentMemoryAgent

/-- memory_analyst.py:50 -/
def memoryContext (task : InvestigationTask) (found formattedContext : Json) : Json :=
  .obj [("query", .str task.queryIntent), ("matches", found), ("formatted_context", formattedContext)]

/-- memory_analyst.py:58 -/
def prompt (task : InvestigationTask) (context : Json) : String :=
  task.heading ++ "Retrieved Historical Postmortems:\n" ++ BaseAgent.quarantineTelemetry context ++
    "\n\nAnalyze these past incidents and extract structured Evidence items (type='memory') " ++
    "highlighting similar past root causes and effective remediations."

def investigate (registry : ToolRegistry W) (llm : StructuredLLM) (task : InvestigationTask) (clock : Clock) :
    Procedure PyException W AnalystAgentOutput := do
  let memRes ← BaseAgent.query registry clock "search_incident_memory"
    [("query", .str task.queryIntent), ("service", .str task.targetService), ("limit", .int 3)]
  let found ← .ofExcept (if memRes.status = .success then dictGet memRes.data "matches" (.arr []) else .ok (.arr []))
  let formattedContext ←
    .ofExcept (if memRes.status = .success then dictGet memRes.data "formatted_context" (.str "") else .ok (.str ""))
  .ofExcept (llm (prompt task (memoryContext task found formattedContext)) .analystAgentOutput)

end IncidentMemoryAgent

/-! ## Analysis, remediation and verification -/

namespace RCAAgent

/-- rca.py:24 -/
def summaryOf (e : Evidence) : Json := .obj
  [("id", .str e.id), ("type", .str e.type.name), ("source", .str e.source), ("observation", .str e.observation),
    ("relevance", .float e.relevanceScore.val), ("raw_reference", .str e.rawReference)]

/-- rca.py:36 -/
def prompt (incidentTitle : String) (evidence : List Evidence) : String :=
  "Incident: " ++ incidentTitle ++ "\n\nCollected Evidence Items (" ++ toString evidence.length ++ " items):\n" ++
    (Json.arr (evidence.map summaryOf)).pyRepr ++
    "\n\nSynthesize these observations into evidence-backed root-cause hypotheses. " ++
    "Ensure every claim cites valid Evidence IDs from the list above."

def analyze (llm : StructuredLLM) (incidentTitle : String) (evidence : List Evidence) :
    Procedure PyException W RCAAgentOutput :=
  .ofExcept (llm (prompt incidentTitle evidence) .rcaAgentOutput)

end RCAAgent

/-- critic.py:48 -/
def CriticAgent.prompt (hypothesis : Hypothesis) (evidence : List Evidence) : String :=
  "Proposed Hypothesis:\nTitle: " ++ hypothesis.title ++ "\nDescription: " ++ hypothesis.description ++
    "\nConfidence: " ++ hypothesis.confidence.val.repr ++ "\nReasoning: " ++ hypothesis.reasoningSummary ++
    "\nSupporting Evidence IDs Cited: " ++ reprStrings hypothesis.supportingEvidenceIds ++
    "\n\nAll Available Evidence:\n" ++ (Json.arr (evidence.map Evidence.modelDump)).pyRepr ++
    "\n\nEvaluate this hypothesis adversarially. Approve only if causally airtight."

/-- remediation_agent.py:36 -/
def RemediationAgent.prompt (incidentId : String) (hypothesis : Hypothesis) (targetServices : List String) : String :=
  "Incident ID: " ++ incidentId ++ "\nAffected Services: " ++ reprStrings targetServices ++
    "\nConfirmed Hypothesis: " ++ hypothesis.title ++ "\nHypothesis Description: " ++ hypothesis.description ++
    "\nReasoning Summary: " ++ hypothesis.reasoningSummary ++
    "\nSuggested Validations: " ++ reprStrings hypothesis.suggestedValidation ++
    "\n\nFormulate a structured RemediationPlan with concrete actions, precise parameters, and rollback plans."

namespace VerificationAgent

/-- verifier.py:62 -/
def telemetry (targetService executedActionId : String) (serviceHealth recentMetrics : Json) : Json := .obj
  [("target_service", .str targetService), ("executed_action_id", .str executedActionId),
    ("service_health", serviceHealth), ("recent_metrics", recentMetrics)]

/-- verifier.py:71 -/
def prompt (targetService executedActionId : String) (telemetry : Json) : String :=
  "Target Service: " ++ targetService ++ "\nExecuted Action ID: " ++ executedActionId ++
    "\nPost-Action Telemetry Observation:\n" ++ BaseAgent.quarantineTelemetry telemetry ++
    "\n\nAssess whether the service has empirically recovered and provide a structured VerificationAssessment."

/-- verifier.py:49. The tool takes `time_window_minutes` and does nothing with it. -/
def recentMetrics (registry : ToolRegistry W) (targetService : String) (clock : Clock) :
    Procedure PyException W ToolResult :=
  BaseAgent.query registry clock "query_metrics"
    [("service", .str targetService), ("metric_name", .str "http_request_duration_p95_seconds"),
      ("time_window_minutes", .int 10)]

def verifyRecovery (registry : ToolRegistry W) (llm : StructuredLLM) (targetService executedActionId : String)
    (clock : Clock) : Procedure PyException W VerificationAssessment := do
  let healthRes ← BaseAgent.query registry clock "get_service_health" [("service", .str targetService)]
  let metricRes ← recentMetrics registry targetService clock
  let telemetry :=
    telemetry targetService executedActionId (healthRes.dataOr (.obj [])) (metricRes.dataOr (.obj []))
  .ofExcept (llm (prompt targetService executedActionId telemetry) .verificationAssessment)

end VerificationAgent

end

end OpsPilot
