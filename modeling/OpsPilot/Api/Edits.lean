import OpsPilot.Api.Approvals
/-!
# Edited actions (`modified_parameters`)

`submit_approval` checks the role of the approver against the tier of the action as it was
planned (incident_service.py:320) and files the edited parameters next to the decision
(incident_service.py:333), whatever the policy would say about them. `edit_authorized_iff`
says when that makes no difference.

| here | there |
| --- | --- |
| `RemediationAction.edited`       | the action with `modified_parameters` for its own |
| `RiskPolicyEngine.standingScore` | the total of policy.py:94 for an action that is not destructive |
-/
namespace OpsPilot

/-- The action as the human wants it executed. -/
def RemediationAction.edited (action : RemediationAction)
    (modifiedParameters : List (String × Json)) : RemediationAction :=
  { action with parameters := .obj modifiedParameters }

namespace RiskPolicyEngine

/-- Type and target alone put an action at this score. -/
def standingScore (e : RiskPolicyEngine) (action : RemediationAction) : Nat :=
  baseActionRisk.getD action.actionType 50 + min 20 ((e.calculateBlastRadius action.targetService).length * 5)

theorem riskTier_critical_iff (total : Nat) : riskTier total = .critical ↔ 85 ≤ total := by
  unfold riskTier
  by_cases h35 : total < 35
  · have : ¬ 85 ≤ total := by omega
    simp [h35, this]
  · by_cases h60 : total < 60
    · have : ¬ 85 ≤ total := by omega
      simp [h35, h60, this]
    · by_cases h85 : total < 85
      · have : ¬ 85 ≤ total := by omega
        simp [h35, h60, h85, this]
      · have : 85 ≤ total := by omega
        simp [h35, h60, h85, this]

theorem standingScore_edited (e : RiskPolicyEngine) (action : RemediationAction)
    (modifiedParameters : List (String × Json)) :
    e.standingScore (action.edited modifiedParameters) = e.standingScore action := rfl

section
variable [Unicode]

/-- A destructive payload is critical on any action; any other payload leaves the action where its
type and target put it. -/
theorem assess_critical_iff (e : RiskPolicyEngine) (action : RemediationAction)
    (incidentId : String) :
    (e.assessActionRisk action incidentId).riskTier = .critical ↔
      detectDestructivePayload action.parameters = true ∨ 85 ≤ e.standingScore action := by
  have htier : (e.assessActionRisk action incidentId).riskTier = riskTier (e.totalScore action) := rfl
  rw [htier, riskTier_critical_iff, totalScore, baseRisk]
  by_cases hd : detectDestructivePayload action.parameters = true
  · rw [if_pos hd]
    simp only [hd, true_or, iff_true]
    omega
  · rw [if_neg hd]
    simp only [or_iff_right hd, standingScore]
    omega

end

end RiskPolicyEngine

namespace IncidentState

section
variable [Unicode]

theorem upper_name (role : ApproverRole) : Py.upper role.name = role.name := by
  have hascii : ∀ c ∈ role.name.toList, c.toNat < 128 := by
    cases role <;> simp [ApproverRole.name]
  rw [Py.upper_ascii hascii]
  cases role <;> rfl

/-- What the role may approve, for the roles that a request can carry. -/
theorem authorize_role_iff (action : RemediationAction) (role : ApproverRole) :
    (RiskPolicyEngine.authorizeApproval action role.name).1 = true ↔
      role = .admin ∨ role = .operator ∧ action.riskTier ≠ .critical := by
  rw [RiskPolicyEngine.authorizeApproval_iff, upper_name]
  cases role with
  | viewer => simp [ApproverRole.name]
  | operator => simp [ApproverRole.name]
  | admin => simp [ApproverRole.name]

/-- The action that an accepted submission decides. -/
theorem submitApproval_found {state state' : IncidentState} {sub : Submission}
    {resp : ApprovalRequestResponse} {action : RemediationAction}
    (hok : state.submitApproval sub = .ok (state', resp))
    (hfound : state.plannedActions.find? (RemediationAction.answersTo sub.approvalId) = some action) :
    (RiskPolicyEngine.authorizeApproval action sub.request.approverRole.name).1 = true := by
  obtain ⟨plan, targetAction, hacc, -, -⟩ := submitApproval_ok hok
  rw [plannedActions, hacc.planned] at hfound
  have heq : targetAction = action := Option.some.inj (hacc.found.symm.trans hfound)
  rw [← heq]
  exact hacc.authorized

/-- Type and target alone make no action critical that the policy assessed when it was planned and
that an operator may approve. -/
theorem standingScore_of_planned {policyEngine : RiskPolicyEngine} {raw : RemediationAction}
    {incidentId : String} {role : ApproverRole} (hnot : role ≠ .admin)
    (hauth : (RiskPolicyEngine.authorizeApproval (policyEngine.assessActionRisk raw incidentId) role.name).1 =
      true) :
    policyEngine.standingScore raw < 85 := by
  rcases (authorize_role_iff _ role).1 hauth with hadmin | ⟨-, htier⟩
  · exact absurd hadmin hnot
  · rw [ne_eq, RiskPolicyEngine.assess_critical_iff, not_or] at htier
    omega

/-- **An edit is covered by its approval exactly when it raises no bar**: where a decision with
modified parameters is accepted, the role that took it may also approve the action re-assessed
with these parameters if and only if it is an administrator's, or the parameters are not
destructive and the action's type and target alone do not make it critical. -/
theorem edit_authorized_iff (policyEngine : RiskPolicyEngine) (state state' : IncidentState)
    (sub : Submission) (resp : ApprovalRequestResponse) (action : RemediationAction)
    (hok : state.submitApproval sub = .ok (state', resp))
    (hfound : state.plannedActions.find? (RemediationAction.answersTo sub.approvalId) = some action) :
    ∀ modifiedParameters, sub.request.modifiedParameters = some modifiedParameters →
      ((RiskPolicyEngine.authorizeApproval
          (policyEngine.assessActionRisk (action.edited modifiedParameters) state.incidentId)
          sub.request.approverRole.name).1 = true ↔
        sub.request.approverRole = .admin ∨
          RiskPolicyEngine.detectDestructivePayload (.obj modifiedParameters) = false ∧
            policyEngine.standingScore action < 85) := by
  intro modifiedParameters _
  have hrole := (authorize_role_iff action _).1 (submitApproval_found hok hfound)
  rw [authorize_role_iff, ne_eq, RiskPolicyEngine.assess_critical_iff,
    RiskPolicyEngine.standingScore_edited, not_or, Bool.not_eq_true, Nat.not_le]
  rcases hrole with hadmin | ⟨hoperator, -⟩
  · simp [hadmin]
  · rw [hoperator]
    simp only [reduceCtorEq, false_or, true_and]
    exact Iff.rfl

/-- An operator approves the purge of a cache and edits a dropped table into it. -/
def droppingEdit : Submission where
  approvalId := "appr-ACT-01"
  request :=
    { decision := .modified, approverId := "op-1", approverRole := .operator, reason := "",
      modifiedParameters := some [("query", .str "DROP TABLE payments")] }
  decidedAt := ⟨0⟩

/-- The incident whose plan is that purge, as the policy assesses it. -/
def purgeIncident : IncidentState :=
  { incidentId := "inc-1", title := "", severity := .sev1, affectedServices := [], createdAt := ⟨0⟩
    remediationPlan := some (RemediationAgent.planRemediation {} "inc-1"
      { id := "HYP-01", title := "", description := "", confidence := default, supportingEvidenceIds := [],
        reasoningSummary := "" }
      { incidentId := "", hypothesisId := "", summary := "",
        actions := [{ actionId := "ACT-01", actionType := .clearCache, targetService := "payment-service",
                      description := "", rationale := "", rollbackPlan := "" }] }) }

end

/-- The edit is accepted, and what it makes of the action is beyond the operator. -/
theorem operator_drops_table :
    letI := Py.asciiTable
    ∃ state' resp action modifiedParameters,
      purgeIncident.submitApproval droppingEdit = .ok (state', resp) ∧
      purgeIncident.plannedActions.find? (RemediationAction.answersTo droppingEdit.approvalId) = some action ∧
      droppingEdit.request.modifiedParameters = some modifiedParameters ∧
      (RiskPolicyEngine.authorizeApproval
        (RiskPolicyEngine.assessActionRisk {} (action.edited modifiedParameters) purgeIncident.incidentId)
        droppingEdit.request.approverRole.name).1 = false := by
  let _ := Py.asciiTable
  have hok : (purgeIncident.submitApproval droppingEdit).toOption.isSome = true := by decide +kernel
  obtain ⟨⟨state', resp⟩, hok⟩ := Option.isSome_iff_exists.1 hok
  have hdenied : (purgeIncident.plannedActions.find? (RemediationAction.answersTo droppingEdit.approvalId)).any
      (fun action => !(RiskPolicyEngine.authorizeApproval
        (RiskPolicyEngine.assessActionRisk {} (action.edited [("query", .str "DROP TABLE payments")]) "inc-1")
        "OPERATOR").1) = true := by decide +kernel
  obtain ⟨action, hfound, hno⟩ := (Option.any_eq_true _ _).1 hdenied
  refine ⟨state', resp, action, _, PyException.ok_of_toOption hok, hfound, rfl, ?_⟩
  rw [Bool.not_eq_true'] at hno
  exact hno

/-- The same edit by an administrator. -/
def adminEdit : Submission :=
  { droppingEdit with request := { droppingEdit.request with approverRole := .admin } }

/-- It is covered by its approval. -/
theorem admin_edit_authorized :
    letI := Py.asciiTable
    ∃ state' resp action, purgeIncident.submitApproval adminEdit = .ok (state', resp) ∧
      (RiskPolicyEngine.authorizeApproval
        (RiskPolicyEngine.assessActionRisk {} (RemediationAction.edited action [("query", .str "DROP TABLE payments")])
          purgeIncident.incidentId)
        adminEdit.request.approverRole.name).1 = true := by
  let _ := Py.asciiTable
  have hok : (purgeIncident.submitApproval adminEdit).toOption.isSome = true := by decide +kernel
  obtain ⟨⟨state', resp⟩, hok⟩ := Option.isSome_iff_exists.1 hok
  have hok := PyException.ok_of_toOption hok
  have hfound : (purgeIncident.plannedActions.find? (RemediationAction.answersTo adminEdit.approvalId)).isSome =
      true := by decide +kernel
  obtain ⟨action, hfound⟩ := Option.isSome_iff_exists.1 hfound
  have hedit : adminEdit.request.modifiedParameters = some [("query", .str "DROP TABLE payments")] := rfl
  have hadmin : adminEdit.request.approverRole = .admin := rfl
  exact ⟨state', resp, action, hok,
    (edit_authorized_iff {} purgeIncident state' adminEdit resp action hok hfound _ hedit).2 (.inl hadmin)⟩

end IncidentState

end OpsPilot
