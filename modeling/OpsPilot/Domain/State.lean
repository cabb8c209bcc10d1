import OpsPilot.Lib.Time
/-!
# The records of `src/domain/state.py`

Field for field, less what no modelled function reads: `IncidentState.total_tokens`,
`IncidentState.estimated_cost_usd` and the `Field(description=…)` texts. A `Literal` is an
enumeration whose `name` is the source's string; a field keeps the source's words.

`RemediationAction.parameters` is a `Json` and not a dict: `model_copy` does not validate,
so `execute_rollback` can store any value there (execution_runner.py:117).
-/
namespace OpsPilot

/-- state.py:9 -/
inductive IncidentStage where
  | created | planning | investigating | analyzing | critiquing | remediationPlanning | riskAssessment
  | waitingApproval | executing | verifying | resolved | failed | escalated
deriving DecidableEq, Inhabited

def IncidentStage.name : IncidentStage → String
  | created => "CREATED"
  | planning => "PLANNING"
  | investigating => "INVESTIGATING"
  | analyzing => "ANALYZING"
  | critiquing => "CRITIQUING"
  | remediationPlanning => "REMEDIATION_PLANNING"
  | riskAssessment => "RISK_ASSESSMENT"
  | waitingApproval => "WAITING_APPROVAL"
  | executing => "EXECUTING"
  | verifying => "VERIFYING"
  | resolved => "RESOLVED"
  | failed => "FAILED"
  | escalated => "ESCALATED"

inductive Severity where
  | sev1 | sev2 | sev3 | sev4
deriving DecidableEq, Inhabited

/-- `float = Field(ge=0.0, le=1.0)` -/
structure Score where
  val : PyFloat
  unit : val.inUnit = true
deriving DecidableEq

/-- `0.5` -/
instance : Inhabited Score := ⟨⟨⟨false, 5, -1, .inl (by decide)⟩, by decide⟩⟩

/-- state.py:26 -/
structure TimelineEvent where
  timestamp : Time
  stage : IncidentStage
  actor : String
  message : String
  metadata : List (String × Json) := []

inductive EvidenceType where
  | log | metric | code | memory | config
deriving DecidableEq

def EvidenceType.name : EvidenceType → String
  | log => "log"
  | metric => "metric"
  | code => "code"
  | memory => "memory"
  | config => "config"

/-- state.py:34 -/
structure Evidence where
  id : String
  type : EvidenceType
  source : String
  timestamp : Time
  observation : String
  rawReference : String
  relevanceScore : Score
  metadata : List (String × Json) := []

/-- state.py:45 -/
structure Hypothesis where
  id : String
  title : String
  description : String
  confidence : Score
  supportingEvidenceIds : List String
  contradictingEvidenceIds : List String := []
  reasoningSummary : String
  missingInformation : List String := []
  suggestedValidation : List String := []
deriving DecidableEq

inductive CritiqueDecision where
  | approve | challenge | needsMoreEvidence
deriving DecidableEq

def CritiqueDecision.name : CritiqueDecision → String
  | approve => "APPROVE"
  | challenge => "CHALLENGE"
  | needsMoreEvidence => "NEEDS_MORE_EVIDENCE"

/-- state.py:59 -/
structure CritiqueResult where
  decision : CritiqueDecision
  critiqueNotes : String
  counterHypotheses : List String := []
  requiredEvidenceQueries : List String := []
deriving DecidableEq

inductive Analyst where
  | log | metrics | code | memory
deriving DecidableEq

def Analyst.name : Analyst → String
  | log => "log_analyst"
  | metrics => "metrics_analyst"
  | code => "code_analyst"
  | memory => "memory_analyst"

/-- state.py:66 -/
structure InvestigationTask where
  taskId : String
  agentType : Analyst
  targetService : String
  queryIntent : String
  timeWindowMinutes : Int := 15
deriving DecidableEq

/-- state.py:74 -/
structure SupervisorPlan where
  triageAssessment : String
  initialSeverity : Severity
  suspectedDomains : List String
  tasks : List InvestigationTask
  reasoning : String

/-- state.py:82 -/
structure AnalystAgentOutput where
  agentType : String
  service : String
  findingsSummary : String
  evidenceItems : List Evidence
  anomaliesDetected : Bool

/-- state.py:90 -/
structure RCAAgentOutput where
  hypotheses : List Hypothesis
  primaryHypothesisId : String
  confidenceRationale : String

inductive ActionType where
  | restartService | rollbackDeployment | scaleReplicas | modifyConfiguration | runQuery | clearCache
deriving DecidableEq

def ActionType.name : ActionType → String
  | restartService => "restart_service"
  | rollbackDeployment => "rollback_deployment"
  | scaleReplicas => "scale_replicas"
  | modifyConfiguration => "modify_configuration"
  | runQuery => "run_query"
  | clearCache => "clear_cache"

inductive RiskTier where
  | low | medium | high | critical
deriving DecidableEq

def RiskTier.name : RiskTier → String
  | low => "LOW"
  | medium => "MEDIUM"
  | high => "HIGH"
  | critical => "CRITICAL"

/-- state.py:108 -/
structure RemediationAction where
  actionId : String
  actionType : ActionType
  targetService : String
  parameters : Json := .obj []
  description : String
  rationale : String
  rollbackPlan : String
  riskTier : RiskTier := .medium
  riskScore : Score := default
  requiresApproval : Bool := true
  estimatedDowntimeSeconds : Int := 0
  idempotencyKey : String := ""

/-- state.py:125 -/
structure RemediationPlan where
  incidentId : String
  hypothesisId : String
  actions : List RemediationAction
  summary : String
  preventionRecommendations : List String := []

inductive Decision where
  | approved | rejected | modified
deriving DecidableEq

def Decision.name : Decision → String
  | approved => "APPROVED"
  | rejected => "REJECTED"
  | modified => "MODIFIED"

/-- state.py:135 -/
structure ApprovalDecision where
  actionId : String
  decision : Decision
  decidedBy : String
  reason : String
  modifiedParameters : Option (List (String × Json)) := none
  decidedAt : Time

inductive ExecutionStatus where
  | success | failed | rolledBack
deriving DecidableEq

def ExecutionStatus.name : ExecutionStatus → String
  | success => "SUCCESS"
  | failed => "FAILED"
  | rolledBack => "ROLLED_BACK"

/-- state.py:146 -/
structure ActionExecutionResult where
  actionId : String
  status : ExecutionStatus
  output : String
  errorMessage : Option String := none
  durationMs : PyFloat
  executedAt : Time
deriving DecidableEq

inductive VerificationStatus where
  | recovered | partiallyRecovered | unchanged | degraded
deriving DecidableEq

def VerificationStatus.name : VerificationStatus → String
  | recovered => "RECOVERED"
  | partiallyRecovered => "PARTIALLY_RECOVERED"
  | unchanged => "UNCHANGED"
  | degraded => "DEGRADED"

/-- state.py:157 -/
structure VerificationAssessment where
  status : VerificationStatus
  metricsComparison : List (String × Json) := []
  serviceStatuses : List (String × String) := []
  rollbackRecommended : Bool := false
  explanation : String

/-- state.py:167 -/
structure IncidentState where
  incidentId : String
  title : String
  severity : Severity
  affectedServices : List String
  createdAt : Time
  currentStage : IncidentStage := .created
  investigationTasks : List InvestigationTask := []
  evidence : List Evidence := []
  hypotheses : List Hypothesis := []
  selectedHypothesis : Option Hypothesis := none
  critique : Option CritiqueResult := none
  remediationPlan : Option RemediationPlan := none
  pendingApprovals : List RemediationAction := []
  approvalDecisions : List ApprovalDecision := []
  executionResults : List ActionExecutionResult := []
  verification : Option VerificationAssessment := none
  timeline : List TimelineEvent := []
  errors : List String := []
  iterationCount : Int := 0
  maxIterations : Int := 3

/-- The actions of the plan, none when there is no plan. -/
def IncidentState.plannedActions (st : IncidentState) : List RemediationAction :=
  match st.remediationPlan with
  | some plan => plan.actions
  | none => []

/-! ## `model_dump(mode="json")` -/

def TimelineEvent.modelDump (t : TimelineEvent) : Json := .obj
  [("timestamp", t.timestamp.toJson), ("stage", .str t.stage.name), ("actor", .str t.actor),
    ("message", .str t.message), ("metadata", .obj t.metadata)]

def Evidence.modelDump (e : Evidence) : Json := .obj
  [("id", .str e.id), ("type", .str e.type.name), ("source", .str e.source),
    ("timestamp", e.timestamp.toJson), ("observation", .str e.observation),
    ("raw_reference", .str e.rawReference), ("relevance_score", .float e.relevanceScore.val),
    ("metadata", .obj e.metadata)]

def InvestigationTask.modelDump (t : InvestigationTask) : Json := .obj
  [("task_id", .str t.taskId), ("agent_type", .str t.agentType.name),
    ("target_service", .str t.targetService), ("query_intent", .str t.queryIntent),
    ("time_window_minutes", .int t.timeWindowMinutes)]

def RemediationAction.modelDump (a : RemediationAction) : Json := .obj
  [("action_id", .str a.actionId), ("action_type", .str a.actionType.name),
    ("target_service", .str a.targetService), ("parameters", a.parameters),
    ("description", .str a.description), ("rationale", .str a.rationale),
    ("rollback_plan", .str a.rollbackPlan), ("risk_tier", .str a.riskTier.name),
    ("risk_score", .float a.riskScore.val), ("requires_approval", .bool a.requiresApproval),
    ("estimated_downtime_seconds", .int a.estimatedDowntimeSeconds),
    ("idempotency_key", .str a.idempotencyKey)]

def ApprovalDecision.modelDump (d : ApprovalDecision) : Json := .obj
  [("action_id", .str d.actionId), ("decision", .str d.decision.name), ("decided_by", .str d.decidedBy),
    ("reason", .str d.reason),
    ("modified_parameters", match d.modifiedParameters with | some ps => .obj ps | none => .null),
    ("decided_at", d.decidedAt.toJson)]

end OpsPilot
