import OpsPilot.Domain.State
import OpsPilot.Memory.Episodic
/-!
# Postmortem reports (`src/reporting/postmortem.py`)

The generator is always given a memory manager by the service, so its `None` case is left out.
-/
namespace OpsPilot

def Severity.name : Severity → String
  | sev1 => "SEV1"
  | sev2 => "SEV2"
  | sev3 => "SEV3"
  | sev4 => "SEV4"

/-- schemas/report.py:8 -/
structure PostmortemReportResponse where
  incidentId : String
  title : String
  severity : String
  status : String
  leadService : String
  detectedAt : Time
  resolvedAt : Option Time
  mttdSeconds : Int
  mttrSeconds : Int
  executiveSummary : String
  rootCauseAnalysis : String
  supportingEvidenceIds : List String
  remediationSummary : String
  fiveWhys : List String
  preventativeActions : List String
  fullMarkdown : String

namespace PostmortemGenerator

/-- postmortem.py:138 -/
def buildFiveWhys [UnicodeText] (state : IncidentState) : List String :=
  let title := match state.selectedHypothesis with
    | some hypo => UnicodeText.lower hypo.title
    | none => ""
  let leadService := state.affectedServices.head?.getD "payment-service"
  if Py.contains title "redis" then
    ["1. Why did " ++ leadService ++ " fail? Requests timed out with high HTTP 500 error rates.",
      "2. Why did requests time out? Worker coroutines blocked attempting to acquire Redis client handles.",
      "3. Why were connection handles exhausted? The active connection pool was capped at 10 while " ++
        "concurrency exceeded 150 req/s.",
      "4. Why was the pool capped at 10? A recent Git deployment modified redis.yaml lowering max_connections.",
      "5. Why was this configuration change deployed without detection? The deployment pipeline lacked " ++
        "pre-commit schema linting and pool sizing load verification in staging."]
  else
    ["1. Why did " ++ leadService ++ " experience degradation? Response latencies breached SLO thresholds.",
      "2. Why were latencies elevated? Critical path operations suffered resource contention.",
      "3. Why was there resource contention? Underlying services were saturated by traffic.",
      "4. Why were services saturated? System capacity was configured below peak demand.",
      "5. Why was capacity insufficient? Auto-scaling policies and resource quotas were not tuned."]

/-- postmortem.py:157 -/
def renderMarkdown (state : IncidentState) (leadService execSummary rcaText : String)
    (supportingIds : List String) (remediationSummary : String)
    (fiveWhys preventative : List String) (mttd mttr : Int) : String :=
  let whysStr := "\n".intercalate fiveWhys
  let preventStr := "\n".intercalate (preventative.map fun p => "- [ ] " ++ p)
  let evidenceStr :=
    if supportingIds.isEmpty then "None cited" else ", ".intercalate (supportingIds.map fun e => "`" ++ e ++ "`")
  "# Incident Postmortem: " ++ state.title ++ "\n\n" ++
    "| Metric | Value |\n" ++
    "| :--- | :--- |\n" ++
    "| **Incident ID** | `" ++ state.incidentId ++ "` |\n" ++
    "| **Severity** | `" ++ state.severity.name ++ "` |\n" ++
    "| **Lead Service** | `" ++ leadService ++ "` |\n" ++
    "| **Status** | `" ++ state.currentStage.name ++ "` |\n" ++
    "| **MTTD** | " ++ toString mttd ++ " seconds |\n" ++
    "| **MTTR** | " ++ toString mttr ++ " seconds |\n\n" ++
    "## 1. Executive Summary\n" ++ execSummary ++ "\n\n" ++
    "## 2. Root Cause Analysis\n" ++ rcaText ++ "\n\n" ++
    "**Verified Evidence Citations**: " ++ evidenceStr ++ "\n\n" ++
    "## 3. 5-Whys Causal Analysis\n" ++ whysStr ++ "\n\n" ++
    "## 4. Remediation Executed\n" ++ remediationSummary ++ "\n\n" ++
    "## 5. Preventative Action Items\n" ++ preventStr ++ "\n"

/-- postmortem.py:40 -/
def remediationSummaryOf (state : IncidentState) : String :=
  if state.plannedActions.isEmpty then "No active remediation actions were recorded."
  else "\n".intercalate <| state.plannedActions.map fun act =>
    "- **" ++ act.actionType.name ++ "** on `" ++ act.targetService ++ "`: " ++ act.description

/-- postmortem.py:56 -/
def preventativeOf (state : IncidentState) (leadService : String) : List String :=
  let recommended := match state.remediationPlan with
    | some plan => plan.preventionRecommendations
    | none => []
  if recommended.isEmpty then
    ["Implement automated integration regression tests for " ++ leadService,
      "Configure proactive connection pool utilization alerting at 80% threshold",
      "Add pre-deployment configuration validation checks into CI/CD pipeline"]
  else recommended

/-- postmortem.py:20 -/
def generateReport [UnicodeText] (state : IncidentState) (now : Time) : PostmortemReportResponse :=
  let leadService := state.affectedServices.head?.getD "unknown"
  let mttdSeconds : Int := 180
  let isResolved := state.currentStage = .resolved
  let mttrSeconds := if isResolved then now.secondsSince state.createdAt else 0
  let rcaText := match state.selectedHypothesis with
    | some hypo => hypo.title ++ ": " ++ hypo.description
    | none => "Investigation concluded without a confirmed single root cause."
  let supportingIds := match state.selectedHypothesis with
    | some hypo => hypo.supportingEvidenceIds
    | none => []
  let cause := match state.selectedHypothesis with
    | some hypo => hypo.title
    | none => "Resource Contention"
  let remediationSummary := remediationSummaryOf state
  let fiveWhys := buildFiveWhys state
  let preventative := preventativeOf state leadService
  let execSummary :=
    if isResolved then
      "On " ++ state.createdAt.stamp ++ ", a " ++ state.severity.name ++ " incident impacted '" ++ leadService ++
        "'. OpsPilot AI diagnosed the root cause as '" ++ cause ++ "' backed by " ++
        toString supportingIds.length ++ " verified evidence sources. Remediation was executed and verified " ++
        "with total MTTR of " ++ toString mttrSeconds ++ "s."
    else
      "Incident '" ++ state.title ++ "' is currently in progress (stage: " ++ state.currentStage.name ++
        "). Diagnostic analysis has isolated " ++ toString supportingIds.length ++ " evidence sources. " ++
        "Full remediation and recovery verification are ongoing."
  { incidentId := state.incidentId, title := "Postmortem: " ++ state.title, severity := state.severity.name,
    status := state.currentStage.name, leadService, detectedAt := state.createdAt,
    resolvedAt := if isResolved then some now else none, mttdSeconds, mttrSeconds,
    executiveSummary := execSummary, rootCauseAnalysis := rcaText, supportingEvidenceIds := supportingIds,
    remediationSummary, fiveWhys, preventativeActions := preventative,
    fullMarkdown := renderMarkdown state leadService execSummary rcaText supportingIds remediationSummary fiveWhys
      preventative mttdSeconds mttrSeconds }

/-- The entry that is indexed (postmortem.py:122). -/
def pmEntry (report : PostmortemReportResponse) : HistoricalPostmortem :=
  { incidentId := "PM-" ++ report.incidentId, title := report.title, service := report.leadService,
    severity := report.severity, summary := report.executiveSummary, rootCause := report.rootCauseAnalysis,
    detectionSignals := report.supportingEvidenceIds, remediationSteps := report.preventativeActions,
    fullText := report.fullMarkdown, metadata := Dict.ofList [("mttr_seconds", .int report.mttrSeconds)] }

/-- `auto_index_to_memory` (postmortem.py:117) from the answer of the embedding provider on. -/
def autoIndexToMemory {V : Type} (memoryManager : EpisodicMemoryManager V) (report : PostmortemReportResponse)
    (embedding : V) : EpisodicMemoryManager V :=
  memoryManager.addPostmortem (pmEntry report) embedding

end PostmortemGenerator

end OpsPilot
