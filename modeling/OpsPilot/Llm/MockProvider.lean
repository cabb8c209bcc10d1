import OpsPilot.Lib.Lowercase
import OpsPilot.Llm.Router
import OpsPilot.Tools.Registry
/-!
# The mock provider (`src/llm/adapters/mock_provider.py`)

It is the provider of `default_incident_service` and of the benchmark, and the last one of every
default chain. A response depends on the response model and on keywords of the lowered prompt; the
system prompt and the temperature are not looked at.

| here | there |
| --- | --- |
| `ResponseModel`, `ResponseModel.Parsed`  | the branches on `response_model` (mock_provider.py:58) |
| `MockLLMProvider.synthesize`             | `parsed_obj` |
| `MockLLMProvider.generateStructured`     | `generate_structured` (mock_provider.py:42) |

Left out: the branch for other response models, which no agent asks for, and the latency.
`dumpJson` is pydantic's `model_dump_json`.
-/
namespace OpsPilot

inductive ResponseModel where
  | supervisorPlan | analystAgentOutput | rcaAgentOutput | critiqueResult | remediationPlan | verificationAssessment
deriving DecidableEq

/-- What the model is parsed to. -/
def ResponseModel.Parsed : ResponseModel → Type
  | supervisorPlan => SupervisorPlan
  | analystAgentOutput => AnalystAgentOutput
  | rcaAgentOutput => RCAAgentOutput
  | critiqueResult => CritiqueResult
  | remediationPlan => RemediationPlan
  | verificationAssessment => VerificationAssessment

/-- mock_provider.py:25 -/
structure MockLLMProvider where
  providerName : String := "mock"
  modelName : String := "mock-model"
  callCount : Nat := 0
  failNext : Bool := false
  alwaysFail : Bool := false

namespace MockLLMProvider

/-- `n / 100`, as a score. -/
def score (n : Nat) (h : n ≤ 100 := by decide) : Score := ⟨.ofHundredths n, PyFloat.inUnit_ofHundredths h⟩

def task (taskId : String) (agentType : Analyst) (queryIntent : String) (timeWindowMinutes : Int) :
    InvestigationTask :=
  { taskId, agentType, targetService := "payment-service", queryIntent, timeWindowMinutes }

section
variable [UnicodeText]

/-- mock_provider.py:58 -/
def supervisorPlan (prompt : String) : SupervisorPlan :=
  let promptLower := UnicodeText.lower prompt
  let tasks :=
    [task "task-log-01" .log "Query error logs around deploy time for Redis exceptions" 15,
      task "task-met-01" .metrics "Inspect P95 latency and active connection pools" 15,
      task "task-mem-01" .memory "Query historical postmortems for similar incidents" 60]
  let deployed := Py.contains promptLower "deploy" || Py.contains promptLower "c3a9f01" || Py.contains promptLower "2.4"
  { triageAssessment := "Critical latency degradation on payment-service following deployment"
    initialSeverity := .sev1
    suspectedDomains := ["payment-service", "redis-cluster"]
    tasks := if deployed then
        tasks ++ [task "task-code-01" .code "Inspect recent commit diffs and configuration changes" 30]
      else tasks
    reasoning := "P95 latency spike indicates resource bottleneck or bad config deployment" }

/-- An item of evidence by the name of its kind. -/
def evidenceId : Analyst → String
  | .log => "EV-LOG-REDIS-01"
  | .metrics => "EV-MET-LATENCY-02"
  | .code => "EV-CODE-DIFF-03"
  | .memory => "EV-MEM-HIST-04"

/-- The keywords of the four branches (mock_provider.py:105). -/
def keywords : Analyst → List String
  | .log => ["log", "redistimeout"]
  | .metrics => ["metric", "p95", "active_connections"]
  | .code => ["diff", "commit", "max_connections"]
  | .memory => ["memory", "historical", "postmortem"]

/-- The item of a branch. -/
def evidenceItem (now : Time) : Analyst → Evidence
  | .log =>
    { id := evidenceId .log, type := .log, source := "payment-service", timestamp := now
      observation := "RedisTimeoutException: Connection pool exhausted [active=10, max=10]"
      rawReference := "RedisTimeoutException: Connection pool exhausted at Connection.acquire"
      relevanceScore := score 96 }
  | .metrics =>
    { id := evidenceId .metrics, type := .metric, source := "payment-service", timestamp := now
      observation := "P95 latency spiked from 265ms baseline to 2820ms; Redis pool queue depth at 52"
      rawReference := "http_request_duration_p95_seconds = 2.82s", relevanceScore := score 94 }
  | .code =>
    { id := evidenceId .code, type := .code, source := "payment-service", timestamp := now
      observation := "Commit c3a9f01b827e modified redis.yaml reducing max_connections from 100 to 10"
      rawReference := "Commit c3a9f01b827e in payment-service by dev-engineer", relevanceScore := score 98 }
  | .memory =>
    { id := evidenceId .memory, type := .memory, source := "payment-service", timestamp := now
      observation := "Historical Incident PM-2025-001 resolved identical Redis connection pool exhaustion by " ++
        "increasing pool size and timeout"
      rawReference := "PM-2025-001: Redis Connection Pool Starvation Under Flash Sale Traffic"
      relevanceScore := score 91
      metadata := [("incident_id", .str "PM-2025-001"), ("similarity_score", .float (.ofHundredths 89))] }

/-- Some keyword of the branch is in the prompt. -/
def mentions (prompt : String) (a : Analyst) : Bool :=
  (keywords a).any (Py.contains (UnicodeText.lower prompt))

/-- mock_provider.py:103 -/
def analystOutput (prompt : String) (clock : Clock) : AnalystAgentOutput :=
  let evidenceItems := ([Analyst.log, .metrics, .code, .memory].filter (mentions prompt)).mapIdx fun i a =>
    evidenceItem (clock.now i) a
  { agentType := "analyst", service := "payment-service"
    findingsSummary := "Isolated empirical anomalies correlating with incident timeframe"
    evidenceItems, anomaliesDetected := decide (0 < evidenceItems.length) }

/-- mock_provider.py:171 -/
def rcaOutput (prompt : String) : RCAAgentOutput :=
  let suppIds := [evidenceId .log, evidenceId .metrics, evidenceId .code]
  let suppIds :=
    if Py.contains (UnicodeText.lower prompt) "ev-mem-hist-04" then suppIds ++ [evidenceId .memory] else suppIds
  { hypotheses :=
      [{ id := "HYP-01", title := "Redis Connection Pool Exhaustion from Deployment Configuration"
         description := "Payment service deployment v2.4.1 reduced Redis max_connections from 100 to 10, " ++
           "starving worker threads and causing P95 latency to jump to 2.8s."
         confidence := score 92, supportingEvidenceIds := suppIds
         reasoningSummary := "The commit diff directly accounts for the connection pool saturation and the " ++
           "exact timing of RedisTimeoutExceptions."
         suggestedValidation := ["Rollback deployment to v2.4.0 and verify latency drops"] }]
    primaryHypothesisId := "HYP-01"
    confidenceRationale := "Evidence directly connects deployment diff to runtime connection limit breach." }

end

/-- mock_provider.py:201 -/
def critiqueResult : CritiqueResult where
  decision := .approve
  critiqueNotes :=
    "Hypothesis is supported by multiple distinct evidence vectors (logs, metrics, and commit diffs). " ++
    "Temporal correlation aligns perfectly with the deployment window. No contradicting evidence found."

/-- mock_provider.py:217 -/
def rollbackAction : RemediationAction where
  actionId := "ACT-ROLLBACK-01"
  actionType := .rollbackDeployment
  targetService := "payment-service"
  parameters := .obj [("target_version", .str "v2.4.0"), ("previous_version", .str "v2.4.1")]
  description := "Rollback payment-service from defective v2.4.1 release to stable v2.4.0"
  rationale := "Restores original redis max_connections=100 configuration and terminates connection " ++
    "acquisition timeouts"
  rollbackPlan := "Re-apply deployment v2.4.1 if rollback exhibits unanticipated downstream regressions"
  riskTier := .high
  riskScore := score 70
  requiresApproval := true
  estimatedDowntimeSeconds := 15

/-- mock_provider.py:212 -/
def remediationPlan : RemediationPlan where
  incidentId := "inc-redis-test-01"
  hypothesisId := "HYP-01"
  actions := [rollbackAction]
  summary := "Execute targeted deployment rollback to revert defective pool configuration"
  preventionRecommendations :=
    ["Implement automated load tests against Redis connection pool sizing in staging",
      "Add CI/CD configuration schema linting on all service YAML manifests"]

/-- mock_provider.py:237 -/
def verificationAssessment : VerificationAssessment where
  status := .recovered
  metricsComparison :=
    [("p95_latency_ms", .obj [("before", .float ⟨false, 282, 1, .inl (by decide)⟩),
        ("after", .float ⟨false, 245, 0, .inl (by decide)⟩), ("status", .str "HEALTHY")]),
      ("error_rate_percent", .obj [("before", .float ⟨false, 65, 0, .inl (by decide)⟩), ("after", .float .zero),
        ("status", .str "HEALTHY")])]
  serviceStatuses := [("payment-service", "HEALTHY")]
  rollbackRecommended := false
  explanation := "P95 latency dropped below 250ms baseline and error rate stabilized at 0.0% following " ++
    "deployment rollback."

section
variable [UnicodeText]

/-- The object the branches build. -/
def synthesize (prompt : String) (clock : Clock) : (model : ResponseModel) → model.Parsed
  | .supervisorPlan => supervisorPlan prompt
  | .analystAgentOutput => analystOutput prompt clock
  | .rcaAgentOutput => rcaOutput prompt
  | .critiqueResult => critiqueResult
  | .remediationPlan => remediationPlan
  | .verificationAssessment => verificationAssessment

/-- mock_provider.py:42: what the call returns or raises, and the provider after it. -/
def generateStructured (dumpJson : (model : ResponseModel) → model.Parsed → String) (provider : MockLLMProvider)
    (prompt : String) (model : ResponseModel) (clock : Clock) :
    Except PyException (LLMResponse model.Parsed) × MockLLMProvider :=
  let provider := { provider with callCount := provider.callCount + 1 }
  if provider.alwaysFail || provider.failNext then
    (.error (.runtimeError ("Simulated provider failure on " ++ provider.providerName)),
      { provider with failNext := false })
  else
    let parsed := synthesize prompt clock model
    (.ok
      { parsed, rawContent := dumpJson model parsed, provider := provider.providerName, model := provider.modelName
        usage := { inputTokens := 150, outputTokens := 75, totalTokens := 225, estimatedCostUsd := 45 / 100000 } },
      provider)

end

/-! ## What the keywords decide -/

section
variable [UnicodeText]

/-- The evidence of a response is that of the branches that the prompt mentions, in their order. -/
theorem map_id_analystOutput (prompt : String) (clock : Clock) :
    (analystOutput prompt clock).evidenceItems.map Evidence.id =
      ([Analyst.log, .metrics, .code, .memory].filter (mentions prompt)).map evidenceId := by
  have hid : ∀ now a, (evidenceItem now a).id = evidenceId a := by
    intro now a
    cases a <;> rfl
  refine List.ext_getElem? fun i => ?_
  simp only [analystOutput, List.getElem?_map, List.getElem?_mapIdx, Option.map_map, Function.comp_def, hid]

theorem mem_map_id_analystOutput {prompt : String} {clock : Clock} {a : Analyst} (h : mentions prompt a = true) :
    evidenceId a ∈ (analystOutput prompt clock).evidenceItems.map Evidence.id := by
  rw [map_id_analystOutput]
  refine List.mem_map_of_mem (List.mem_filter.2 ⟨?_, h⟩)
  cases a <;> simp

/-- Nothing is cited but the four items. -/
theorem mem_supportingEvidenceIds {prompt : String} {h : Hypothesis} (hh : h ∈ (rcaOutput prompt).hypotheses)
    {id : String} (hid : id ∈ h.supportingEvidenceIds) : ∃ a, id = evidenceId a := by
  simp only [rcaOutput, List.mem_singleton] at hh
  subst hh
  have hall : id ∈ [evidenceId .log, evidenceId .metrics, evidenceId .code, evidenceId .memory] := by
    revert hid
    simp only
    split
    · intro hmem
      exact hmem
    · intro hmem
      exact List.mem_append_left [evidenceId .memory] hmem
  simp only [List.mem_cons, List.not_mem_nil, or_false] at hall
  rcases hall with rfl | rfl | rfl | rfl
  · exact ⟨_, rfl⟩
  · exact ⟨_, rfl⟩
  · exact ⟨_, rfl⟩
  · exact ⟨_, rfl⟩

end

/-- A provider that is not told to fail answers, and stays so. -/
theorem generateStructured_ok [UnicodeText] (dumpJson : (model : ResponseModel) → model.Parsed → String)
    {provider : MockLLMProvider} (hf : provider.failNext = false) (ha : provider.alwaysFail = false)
    (prompt : String) (model : ResponseModel) (clock : Clock) :
    ∃ response provider', provider.generateStructured dumpJson prompt model clock = (.ok response, provider') ∧
      response.parsed = synthesize prompt clock model ∧ provider'.failNext = false ∧ provider'.alwaysFail = false := by
  simp [generateStructured, hf, ha]

end MockLLMProvider

end OpsPilot
