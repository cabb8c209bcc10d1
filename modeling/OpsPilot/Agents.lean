import OpsPilot.Safety.Policy
/-!
# The deterministic part of the agents (`src/agents/`)

What a language model answers is an input: `Except PyException α`, since the call may raise.
Most agents hand the parsed answer on; these two do not.

| here | there |
| --- | --- |
| `CriticAgent.critique`             | `CriticAgent.critique` (critic.py:29) |
| `RemediationAgent.planRemediation` | `RemediationAgent.plan_remediation` (remediation_agent.py:29) |
-/
namespace OpsPilot

namespace CriticAgent

/-- `cited_ids - known_evidence_ids`; the source's set has no order, this list has that of the
citations. -/
def missingIds (hypothesis : Hypothesis) (evidence : List Evidence) : List String :=
  (hypothesis.supportingEvidenceIds.filter fun id => !(evidence.map Evidence.id).contains id).eraseDups

/-- critic.py:29 -/
def critique [Unicode] (hypothesis : Hypothesis) (evidence : List Evidence)
    (verdict : Except PyException CritiqueResult) : Except PyException CritiqueResult :=
  let missing := missingIds hypothesis evidence
  if missing.isEmpty then verdict
  else .ok
    { decision := .challenge
      critiqueNotes := "Causal claim cites fabricated or uncollected evidence IDs: " ++
        Json.pyRepr (.arr (missing.map .str)) ++ ". Hypothesis rejected due to hallucinated citations." }

theorem missingIds_eq_nil {hypothesis : Hypothesis} {evidence : List Evidence} :
    missingIds hypothesis evidence = [] ↔
      ∀ id ∈ hypothesis.supportingEvidenceIds, id ∈ evidence.map Evidence.id := by
  constructor
  · intro h id hid
    by_contra hno
    have hmem : id ∈ missingIds hypothesis evidence := by
      rw [missingIds, List.mem_eraseDups, List.mem_filter]
      exact ⟨hid, by simpa using hno⟩
    rw [h] at hmem
    cases hmem
  · intro h
    have hfil : (hypothesis.supportingEvidenceIds.filter
        fun id => !(evidence.map Evidence.id).contains id) = [] :=
      List.filter_eq_nil_iff.2 fun id hid => by simpa using h id hid
    rw [missingIds, hfil, List.eraseDups_nil]

/-- An approval means that every citation is grounded, whatever the model answered. -/
theorem grounded_of_approve [Unicode] {hypothesis : Hypothesis} {evidence : List Evidence}
    {verdict : Except PyException CritiqueResult} {c : CritiqueResult}
    (h : critique hypothesis evidence verdict = .ok c) (hc : c.decision = .approve) :
    ∀ id ∈ hypothesis.supportingEvidenceIds, id ∈ evidence.map Evidence.id := by
  simp only [critique] at h
  split at h
  · rename_i hnil
    exact missingIds_eq_nil.1 (List.isEmpty_iff.1 hnil)
  · cases h
    cases hc

end CriticAgent

/-- remediation_agent.py:29, from the parsed plan on -/
def RemediationAgent.planRemediation [Unicode] (policyEngine : RiskPolicyEngine)
    (incidentId : String) (hypothesis : Hypothesis) (rawPlan : RemediationPlan) : RemediationPlan :=
  let assessedActions := rawPlan.actions.map fun action => policyEngine.assessActionRisk action incidentId
  { rawPlan with incidentId, hypothesisId := hypothesis.id, actions := assessedActions }

/-- Every planned action is assessed: it waits for approval and carries a key. -/
theorem RemediationAgent.assessed_of_mem [Unicode] {policyEngine : RiskPolicyEngine}
    {incidentId : String} {hypothesis : Hypothesis} {rawPlan : RemediationPlan}
    {action : RemediationAction}
    (h : action ∈ (planRemediation policyEngine incidentId hypothesis rawPlan).actions) :
    action.requiresApproval = true ∧ action.idempotencyKey ≠ "" := by
  obtain ⟨raw, -, rfl⟩ := List.mem_map.1 h
  exact ⟨by simp, policyEngine.idempotencyKey_assess_ne raw incidentId⟩

end OpsPilot
