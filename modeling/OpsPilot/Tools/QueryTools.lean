import OpsPilot.Lib.Procedure
import OpsPilot.Tools.Arguments
import OpsPilot.Tools.Defaults
/-!
# The query tools (`telemetry_tools.py`, `code_tools.py`, `memory_tools.py`)

The seven tools for viewers, over the simulator and the memory that `default_registry` has. A `_run` gets
its arguments as keywords and returns what `model_dump(mode="json")` makes of the records.

| here | there |
| --- | --- |
| `DefaultWorld`                       | `default_simulator`, and the tool of the registry that has a memory |
| `required`                           | the binding of a keyword to a parameter without a default |
| `queryTools`, `defaultRegistry`      | `_register_default_tools` (registry.py:37) |

`toFloat` is the float of a metric's value.
-/
namespace OpsPilot

/-- What the tools of the default registry read and change. -/
structure DefaultWorld (V : Type) where
  simulator : SimulationEngine := {}
  memory : SearchIncidentMemoryTool V := {}

variable {V S : Type}

/-! ## `model_dump(mode="json")` -/

def LogRecord.modelDump (r : LogRecord) : Json := .obj
  [("timestamp", r.timestamp.toJson), ("level", .str r.level), ("service", .str r.service),
    ("message", .str r.message), ("trace_id", .optionalText r.traceId), ("metadata", .ofDict r.metadata)]

def MetricDataPoint.modelDump (toFloat : Rat → PyFloat) (m : MetricDataPoint) : Json := .obj
  [("timestamp", m.timestamp.toJson), ("metric_name", .str m.metricName), ("service", .str m.service),
    ("value", .float (toFloat m.value)), ("labels", .obj [])]

def CommitRecord.modelDump (c : CommitRecord) : Json := .obj
  [("commit_sha", .str c.commitSha), ("service", .str c.service), ("author", .str c.author),
    ("message", .str c.message), ("timestamp", c.timestamp.toJson),
    ("changed_files", .arr (c.changedFiles.map .str)), ("diff", .str c.diff)]

def DeploymentEvent.modelDump (d : DeploymentEvent) : Json := .obj
  [("deployment_id", .str d.deploymentId), ("service", .str d.service), ("version", .str d.version),
    ("previous_version", .str d.previousVersion), ("timestamp", d.timestamp.toJson),
    ("deployed_by", .str d.deployedBy), ("status", .str d.status), ("commit_sha", .str d.commitSha),
    ("config_changes", .ofDict d.configChanges)]

def ServiceStatus.name : ServiceStatus → String
  | healthy => "HEALTHY"
  | degraded => "DEGRADED"
  | down => "DOWN"

/-- The tiers and versions of the services (topology.py:23), which nothing changes. -/
def tierAndVersion : Dict String (String × String) := Dict.ofList
  [("api-gateway", "gateway", "v2.1.0"), ("auth-service", "business", "v1.4.2"),
    ("order-service", "business", "v3.0.1"), ("payment-service", "business", "v2.4.0"),
    ("notification-service", "business", "v1.2.0")]

/-- topology.py:78 -/
def LiveTopology.getUpstreamDependents (t : LiveTopology) (serviceName : String) : List String :=
  (t.services.entries.filter fun e => e.2.node.dependencies.contains serviceName).map Prod.fst

def unknownService (service : Json) : Json :=
  .obj [("service", service), ("status", .str "UNKNOWN"), ("dependencies", .arr [])]

/-- What `get_service_health` returns (telemetry_tools.py:65). -/
def LiveTopology.health (t : LiveTopology) (service : String) : Json :=
  match t.services.get? service with
  | none => unknownService (.str service)
  | some svc =>
    let facts := tierAndVersion.getD svc.node.name ("", "")
    .obj [("service", .str svc.node.name), ("status", .str svc.status.name), ("tier", .str facts.1),
      ("dependencies", .arr (svc.node.dependencies.map .str)),
      ("upstream_dependents", .arr ((t.getUpstreamDependents service).map .str)), ("version", .str facts.2)]

/-- `self.services.get(service)` hashes the value. -/
def LiveTopology.healthAny (t : LiveTopology) : Json → Except PyException Json
  | .str service => .ok (t.health service)
  | .arr _ => .error (.typeError "unhashable type: 'list'")
  | .obj _ => .error (.typeError "unhashable type: 'dict'")
  | service => .ok (unknownService service)

def MemoryMatch.toJson (m : MemoryMatch) : Json := .obj
  [("incident_id", .str m.incidentId), ("title", m.title), ("service", m.service),
    ("similarity_score", .float m.similarityScore), ("root_cause", m.rootCause),
    ("remediation_steps", m.remediationSteps), ("summary", m.summary)]

def MemorySearch.toJson (s : MemorySearch) : Json := .obj
  [("query", s.query), ("service_filter", s.serviceFilter), ("match_count", .int s.matchCount),
    ("matches", .arr (s.found.map MemoryMatch.toJson)), ("formatted_context", .str s.formattedContext)]

/-! ## The tools -/

def required (cls : String) (kwargs : Dict String Json) (name : String) : Except PyException Json :=
  match kwargs.get? name with
  | some v => .ok v
  | none => .error (.typeError (cls ++ "._run() missing 1 required positional argument: '" ++ name ++ "'"))

/-- telemetry_tools.py:15 -/
def QueryLogsTool.run [Unicode] [UnicodeText] (kwargs : Dict String Json) :
    Procedure PyException (DefaultWorld V) Json :=
  .ofFunction fun w =>
    let records := w.simulator.telemetryStore.queryLogsAny (kwargs.getD "service" .null) (kwargs.getD "pattern" .null)
      (kwargs.getD "level" .null) (kwargs.getD "limit" (.int 50))
    (records.map fun records => .arr (records.map LogRecord.modelDump), w)

def queryLogsTool [Unicode] [UnicodeText] : Tool (DefaultWorld V) where
  name := "query_logs"
  requiredRole := "VIEWER"
  run kwargs := (QueryLogsTool.run kwargs).call

/-- telemetry_tools.py:40 -/
def QueryMetricsTool.run (toFloat : Rat → PyFloat) (kwargs : Dict String Json) :
    Procedure PyException (DefaultWorld V) Json := do
  let metricName ← .ofExcept (required "QueryMetricsTool" kwargs "metric_name")
  .ofFunction fun w =>
    let dataPoints := w.simulator.telemetryStore.queryMetricsAny metricName (kwargs.getD "service" .null)
      (kwargs.getD "limit" (.int 100))
    (dataPoints.map fun dataPoints => .arr (dataPoints.map (MetricDataPoint.modelDump toFloat)), w)

def queryMetricsTool (toFloat : Rat → PyFloat) : Tool (DefaultWorld V) where
  name := "query_metrics"
  requiredRole := "VIEWER"
  run kwargs := (QueryMetricsTool.run toFloat kwargs).call

/-- telemetry_tools.py:65 -/
def GetServiceHealthTool.run (kwargs : Dict String Json) : Procedure PyException (DefaultWorld V) Json := do
  let service ← .ofExcept (required "GetServiceHealthTool" kwargs "service")
  .ofFunction fun w => (w.simulator.topology.healthAny service, w)

def getServiceHealthTool : Tool (DefaultWorld V) where
  name := "get_service_health"
  requiredRole := "VIEWER"
  run kwargs := (GetServiceHealthTool.run kwargs).call

/-- code_tools.py:14 -/
def GetRecentDeploymentsTool.run (kwargs : Dict String Json) : Procedure PyException (DefaultWorld V) Json :=
  .ofFunction fun w =>
    let (events, repository) := w.simulator.repository.getRecentDeploymentsAny (kwargs.getD "service" .null)
      (kwargs.getD "limit" (.int 5))
    (events.map fun events => .arr (events.map DeploymentEvent.modelDump),
      { w with simulator := { w.simulator with repository } })

def getRecentDeploymentsTool : Tool (DefaultWorld V) where
  name := "get_recent_deployments"
  requiredRole := "VIEWER"
  run kwargs := (GetRecentDeploymentsTool.run kwargs).call

/-- code_tools.py:24 -/
def GetRecentCommitsTool.run (kwargs : Dict String Json) : Procedure PyException (DefaultWorld V) Json := do
  let service ← .ofExcept (required "GetRecentCommitsTool" kwargs "service")
  .ofFunction fun w =>
    let commits := w.simulator.repository.getRecentCommitsAny service (kwargs.getD "limit" (.int 5))
    (commits.map fun commits => .arr (commits.map CommitRecord.modelDump), w)

def getRecentCommitsTool : Tool (DefaultWorld V) where
  name := "get_recent_commits"
  requiredRole := "VIEWER"
  run kwargs := (GetRecentCommitsTool.run kwargs).call

/-- code_tools.py:34 -/
def GetCommitDiffTool.run (kwargs : Dict String Json) : Procedure PyException (DefaultWorld V) Json := do
  let commitSha ← .ofExcept (required "GetCommitDiffTool" kwargs "commit_sha")
  .ofFunction fun w =>
    let diff := w.simulator.repository.getCommitDiffAny commitSha
    (diff.map fun diff => .obj [("commit_sha", commitSha), ("diff", .str diff)], w)

def getCommitDiffTool : Tool (DefaultWorld V) where
  name := "get_commit_diff"
  requiredRole := "VIEWER"
  run kwargs := (GetCommitDiffTool.run kwargs).call

section
variable [Unicode] [UnicodeText] [LinearOrder S]

/-- memory_tools.py:22 -/
def SearchIncidentMemoryTool.runJson (embedder : Embedder V S) (kwargs : Dict String Json) :
    Procedure PyException (DefaultWorld V) Json := do
  let query ← .ofExcept (required "SearchIncidentMemoryTool" kwargs "query")
  .ofFunction fun w =>
    let (output, memory) := w.memory.runAny embedder query (kwargs.getD "service" .null)
      (kwargs.getD "limit" (.int 3))
    (output.map MemorySearch.toJson, { w with memory })

def searchIncidentMemoryTool (embedder : Embedder V S) : Tool (DefaultWorld V) where
  name := "search_incident_memory"
  requiredRole := "VIEWER"
  run kwargs := (SearchIncidentMemoryTool.runJson embedder kwargs).call

def queryTools (toFloat : Rat → PyFloat) (embedder : Embedder V S) : List (Tool (DefaultWorld V)) :=
  [queryLogsTool, queryMetricsTool toFloat, getServiceHealthTool, getRecentDeploymentsTool, getRecentCommitsTool,
    getCommitDiffTool, searchIncidentMemoryTool embedder]

/-- `default_simulator.execute_action`, at the times that the clock tells it. -/
def defaultSimulator (now : Nat → Time) : Simulator (DefaultWorld V) := fun actionType parameters w =>
  let (out, simulator) := w.simulator.executeAction now actionType parameters
  (out, { w with simulator })

/-- `default_registry` -/
def defaultRegistry (toFloat : Rat → PyFloat) (embedder : Embedder V S) (now : Nat → Time) :
    ToolRegistry (DefaultWorld V) :=
  (queryTools toFloat embedder ++ remediationTools (defaultSimulator now)).foldl ToolRegistry.register {}

end

end OpsPilot
