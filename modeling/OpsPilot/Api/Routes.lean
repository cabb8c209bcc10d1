import OpsPilot.Api.Reads
/-!
# What the routes answer (`apps/api/routes/incidents.py`)

The requests that `apps/web/js/api.js` makes and the bodies they get: the dump of the response model, or of
a list of them. An answer that is not `ok` is `.error ()`: the client turns each of them into an `Error`.

| here | there |
| --- | --- |
| `ApiRequest`          | the calls of `ApiClient` (api.js:36), less `getHealth` and `triggerAlertWebhook` |
| `Service.respond`  | the handlers of `incidents.py` |
| `Serving`          | what a handler draws: an id, a runner, readings of the clock |

Left out: the text of an error, and the parsing of the path, as an id is hexadecimal. The answer of
`generate_incident_report` waits for the embedding, so that it can still be lost when it has been made here.
-/
namespace Json

/-- A field that may be `None`. -/
def ofOption {α : Type} (dump : α → Json) : Option α → Json
  | some a => dump a
  | none => .null

def ofStrings (l : List String) : Json := .arr (l.map .str)

end Json

namespace OpsPilot

/-- schemas/incident.py:34 -/
structure HypothesisResponse where
  id : String
  title : String
  description : String
  confidence : PyFloat
  supportingEvidenceIds : List String
  contradictingEvidenceIds : List String := []
  reasoningSummary : String

/-- incident_service.py:228 -/
def IncidentState.getHypotheses (state : IncidentState) : List HypothesisResponse :=
  state.hypotheses.map fun h =>
    { id := h.id, title := h.title, description := h.description, confidence := h.confidence.val,
      supportingEvidenceIds := h.supportingEvidenceIds, contradictingEvidenceIds := h.contradictingEvidenceIds,
      reasoningSummary := h.reasoningSummary }

/-! ## Bodies -/

def HypothesisResponse.modelDump (h : HypothesisResponse) : Json := .obj
  [("id", .str h.id), ("title", .str h.title), ("description", .str h.description),
    ("confidence", .float h.confidence), ("supporting_evidence_ids", .ofStrings h.supportingEvidenceIds),
    ("contradicting_evidence_ids", .ofStrings h.contradictingEvidenceIds),
    ("reasoning_summary", .str h.reasoningSummary)]

def ApprovalRequestResponse.modelDump (a : ApprovalRequestResponse) : Json := .obj
  [("id", .str a.id), ("incident_id", .str a.incidentId), ("action_id", .str a.actionId),
    ("action_type", .str a.actionType), ("target_service", .str a.targetService), ("risk_level", .str a.riskLevel),
    ("status", .str a.status), ("description", .str a.description), ("rollback_plan", .str a.rollbackPlan),
    ("parameters", a.parameters), ("created_at", a.createdAt.toJson),
    ("responded_at", .ofOption Time.toJson a.respondedAt), ("approver_id", .ofOption .str a.approverId),
    ("comment", .ofOption .str a.comment)]

def IncidentResponse.modelDump (r : IncidentResponse) : Json := .obj
  [("id", .str r.id), ("title", .str r.title), ("severity", .str r.severity),
    ("current_stage", .str r.currentStage.name), ("affected_services", .ofStrings r.affectedServices),
    ("created_at", r.createdAt.toJson), ("resolved_at", .ofOption Time.toJson r.resolvedAt),
    ("confidence_score", .float r.confidenceScore), ("evidence_count", .int r.evidenceCount),
    ("hypotheses_count", .int r.hypothesesCount),
    ("selected_hypothesis_title", .ofOption .str r.selectedHypothesisTitle),
    ("verification_status", .ofOption .str r.verificationStatus)]

def PostmortemReportResponse.modelDump (r : PostmortemReportResponse) : Json := .obj
  [("incident_id", .str r.incidentId), ("title", .str r.title), ("severity", .str r.severity),
    ("status", .str r.status), ("lead_service", .str r.leadService), ("detected_at", r.detectedAt.toJson),
    ("resolved_at", .ofOption Time.toJson r.resolvedAt), ("mttd_seconds", .int r.mttdSeconds),
    ("mttr_seconds", .int r.mttrSeconds), ("executive_summary", .str r.executiveSummary),
    ("root_cause_analysis", .str r.rootCauseAnalysis),
    ("supporting_evidence_ids", .ofStrings r.supportingEvidenceIds),
    ("remediation_summary", .str r.remediationSummary), ("five_whys", .ofStrings r.fiveWhys),
    ("preventative_actions", .ofStrings r.preventativeActions), ("full_markdown", .str r.fullMarkdown)]

/-! ## Requests -/

/-- What the dashboard posts with a decision (approvalModal.js:114); the approver is always the same. -/
structure DecisionPayload where
  decision : Decision
  reason : String
  modifiedParameters : Option Json := none

inductive ApiRequest where
  | getIncidents
  | getIncident (incidentId : String)
  | createIncident (title : String) (severity : Severity) (affectedServices : List String) (symptoms : String)
  | getEvidence (incidentId : String)
  | getHypotheses (incidentId : String)
  | getApprovals (incidentId : String)
  | submitApproval (incidentId approvalId : String) (payload : DecisionPayload)
  | getReport (incidentId : String)
  | generateReport (incidentId : String)

structure Serving (W : Type) where
  hex : String
  clock : Clock
  executionRunner : Runner W

/-- `modified_parameters: dict[str, Any] | None`; anything else is refused with 422. -/
def DecisionPayload.request (payload : DecisionPayload) : Option ApprovalDecisionRequest :=
  let accepted (modifiedParameters : Option (List (String × Json))) : ApprovalDecisionRequest :=
    { decision := payload.decision, approverId := "lead-sre@company.com", reason := payload.reason,
      modifiedParameters }
  match payload.modifiedParameters with
  | none | some .null => some (accepted none)
  | some (.obj kvs) => some (accepted (some kvs))
  | some _ => none

namespace Service

variable {V W : Type} [Unicode] [UnicodeText]

/-- A list about an incident. -/
def listOf (svc : Service V W) (incidentId : String) (items : IncidentState → List Json) : Except Unit Json :=
  match svc.find incidentId with
  | some (_, inv) => .ok (.arr (items inv.incident))
  | none => .error ()

/-- The answer of the service, and the service after it; a listing is that of the whole first page. -/
def respond (svc : Service V W) (p : Serving W) : ApiRequest → Except Unit Json × Service V W
  | .getIncidents =>
    (.ok (.arr ((svc.listIncidents none none none 100 0 p.clock).map IncidentResponse.modelDump)), svc)
  | .getIncident incidentId =>
    match svc.getIncident incidentId (p.clock.now 0) with
    | some resp => (.ok resp.modelDump, svc)
    | none => (.error (), svc)
  | .createIncident title severity affectedServices symptoms =>
    let state := OpsPilot.createIncident ("inc-" ++ p.hex) title severity affectedServices symptoms false p.clock
    (.ok (state.toResponse (p.clock.now 2)).modelDump, svc.create state p.executionRunner)
  | .getEvidence incidentId =>
    (svc.listOf incidentId fun st => st.getEvidence.map EvidenceResponse.modelDump, svc)
  | .getHypotheses incidentId =>
    (svc.listOf incidentId fun st => st.getHypotheses.map HypothesisResponse.modelDump, svc)
  | .getApprovals incidentId =>
    (svc.listOf incidentId fun st => st.getApprovals.map ApprovalRequestResponse.modelDump, svc)
  | .submitApproval incidentId approvalId payload =>
    match svc.find incidentId, payload.request with
    | some (i, inv), some request =>
      match inv.incident.submitApproval { approvalId, request, decidedAt := p.clock.now 0 } with
      | .ok (incident, resp) => (.ok resp.modelDump, svc.store i (inv.file incident))
      | .error _ => (.error (), svc)
    | _, _ => (.error (), svc)
  | .getReport incidentId =>
    match svc.generatePostmortemReport incidentId (p.clock.now 0) with
    | .ok report => (.ok report.modelDump, svc)
    | .error _ => (.error (), svc)
  | .generateReport incidentId =>
    match svc.find incidentId, svc.generatePostmortemReport incidentId (p.clock.now 0) with
    | some (i, _), .ok report => (.ok report.modelDump, svc.propose none i report)
    | _, _ => (.error (), svc)

/-- What a request does to the service is a step of it, or nothing. -/
theorem move_of_respond (policyEngine : RiskPolicyEngine) (svc : Service V W) (p : Serving W) (r : ApiRequest) :
    (svc.respond p r).2 = svc ∨ ∃ l, svc.step policyEngine l = some (svc.respond p r).2 := by
  cases r with
  | getIncidents => exact .inl rfl
  | getIncident incidentId =>
    left
    simp only [respond]
    split <;> rfl
  | createIncident title severity affectedServices symptoms =>
    exact .inr ⟨.createIncident p.hex title severity affectedServices symptoms false p.clock p.executionRunner, rfl⟩
  | getEvidence incidentId => exact .inl rfl
  | getHypotheses incidentId => exact .inl rfl
  | getApprovals incidentId => exact .inl rfl
  | submitApproval incidentId approvalId payload =>
    simp only [respond]
    split
    · rename_i i inv request hfind hreq
      split
      · rename_i incident resp hok
        refine .inr ⟨.submitApproval incidentId { approvalId, request, decidedAt := p.clock.now 0 }, ?_⟩
        simp only [step, hfind, Investigation.step, hok, Option.map_some]
      · exact .inl rfl
    · exact .inl rfl
  | getReport incidentId =>
    left
    simp only [respond]
    split <;> rfl
  | generateReport incidentId =>
    simp only [respond]
    split
    · rename_i i inv report hfind hreport
      refine .inr ⟨.postReport incidentId (p.clock.now 0), ?_⟩
      simp only [step, hfind, hreport]
    · exact .inl rfl

end Service

end OpsPilot
