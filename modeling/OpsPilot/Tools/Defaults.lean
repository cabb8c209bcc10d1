import OpsPilot.Safety.ExecutionRunner
import OpsPilot.Tools.Remediation
/-!
# The default registry (`ToolRegistry._register_default_tools`, registry.py:34)

Twelve tools: seven that only read, for viewers, and the five of `remediationTools`, for operators.
The bodies of the first seven are a parameter, for no action type names them.
-/
namespace OpsPilot

variable {W : Type}

/-- The names of the tools of `telemetry_tools.py`, `code_tools.py` and `memory_tools.py`. -/
def queryToolNames : List String :=
  ["query_logs", "query_metrics", "get_service_health", "get_recent_deployments", "get_recent_commits",
    "get_commit_diff", "search_incident_memory"]

theorem outputMessage_last (entries : List (String × Json)) (msg : String) :
    Runner.outputMessage (.obj (entries ++ [("message", .str msg)])) = .ok msg := by
  have hget : (Dict.ofList (entries ++ [("message", Json.str msg)])).getD "message"
      (.str "Remediation action completed successfully") = .str msg := by
    simp [Dict.getD, Dict.get?_ofList, Dict.look]
  simp [Runner.outputMessage, Json.asDict?, hget]

section
variable [Unicode]

/-- `ToolRegistry()` -/
def ToolRegistry.withDefaults (simulator : Simulator W)
    (query : String → Dict String Json → W → Except PyException Json × W) : ToolRegistry W :=
  let queryTools := queryToolNames.map fun name => { name, requiredRole := "VIEWER", run := query name }
  (queryTools ++ remediationTools simulator).foldl ToolRegistry.register {}

/-- The tool that an action type is dispatched to; there is none for queries. -/
def toolFor (simulator : Simulator W) : ActionType → Option (Tool W)
  | .restartService => some (restartServiceTool simulator)
  | .rollbackDeployment => some (rollbackDeploymentTool simulator)
  | .scaleReplicas => some (scaleReplicasTool simulator)
  | .modifyConfiguration => some (modifyConfigurationTool simulator)
  | .clearCache => some (clearCacheTool simulator)
  | .runQuery => none

theorem getTool_withDefaults (simulator : Simulator W)
    (query : String → Dict String Json → W → Except PyException Json × W) (actionType : ActionType) :
    (ToolRegistry.withDefaults simulator query).getTool actionType.name = toolFor simulator actionType := by
  cases actionType <;>
    simp [ToolRegistry.withDefaults, queryToolNames, remediationTools, ActionType.name, toolFor, ToolRegistry.getTool,
      restartServiceTool, rollbackDeploymentTool, scaleReplicasTool, modifyConfigurationTool, clearCacheTool,
      ToolRegistry.register]

/-- What a tool returns has a text under `message`, if anything. -/
def Tool.Messages (tool : Tool W) : Prop :=
  ∀ kwargs w data, (tool.run kwargs w).1 = .ok data → ∃ msg, Runner.outputMessage data = .ok msg

theorem messages_runOn {simulator : Simulator W} {actionType : String}
    {params : Dict String Json → Except PyException (Dict String Json)} {failure : String → String}
    {result : Dict String Json → List (String × Json)} {kwargs : Dict String Json} {w : W} {data : Json}
    (h : (runOn simulator actionType params failure result kwargs w).1 = .ok data) :
    ∃ msg, Runner.outputMessage data = .ok msg := by
  unfold runOn at h
  cases hp : params kwargs with
  | error exc => simp [hp] at h
  | ok map =>
    simp only [hp] at h
    split at h
    · cases h
    · rename_i message w' hsim
      cases h
      exact ⟨message, outputMessage_last _ message⟩
    · cases h

/-- Every tool that an action can reach is for operators, and reports a text. -/
theorem toolFor_spec {simulator : Simulator W} {actionType : ActionType} {tool : Tool W}
    (h : toolFor simulator actionType = some tool) : tool.requiredRole = "OPERATOR" ∧ tool.Messages := by
  cases actionType <;> cases h
  all_goals exact ⟨rfl, fun _ _ _ hrun => messages_runOn hrun⟩

end

end OpsPilot
