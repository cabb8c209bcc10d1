import OpsPilot.Api.ApprovalGate
import OpsPilot.Api.Service
/-!
# The log of approval decisions (`IncidentService.submit_approval`)

The call has five exits (incident_service.py:290): no plan, no match, already decided, not
authorized, accepted. Only the last one writes, and it appends; the coroutine of a running
investigation overwrites other fields of the same incident and never this one.
-/
namespace OpsPilot

variable {V W : Type}

namespace IncidentState

/-- A refusal is a `ValueError` or a `PermissionError`. -/
theorem submitApproval_error [Unicode] {state : IncidentState} {sub : Submission} {exc : PyException}
    (h : state.submitApproval sub = .error exc) : ∃ msg, exc = .valueError msg ∨ exc = .permissionError msg := by
  unfold submitApproval at h
  split at h
  · cases h
    exact ⟨_, .inl rfl⟩
  · split at h
    · cases h
      exact ⟨_, .inl rfl⟩
    · split at h
      · cases h
        exact ⟨_, .inl rfl⟩
      · dsimp only at h
        split at h
        · cases h
        · cases h
          exact ⟨_, .inr rfl⟩

end IncidentState

namespace Investigation

variable [Unicode] {policyEngine : RiskPolicyEngine} {s s' : Investigation W} {l : Label W}

/-- A step leaves the log as it is or appends a decision on an action that has none. -/
theorem log_step (hst : s.step policyEngine l = some s') :
    s'.incident.approvalDecisions = s.incident.approvalDecisions ∨
      ∃ d, s'.incident.approvalDecisions = s.incident.approvalDecisions ++ [d] ∧
        ∀ d' ∈ s.incident.approvalDecisions, d'.actionId ≠ d.actionId := by
  cases move_of_step hst with
  | effect now e effects he => exact .inl (approvalDecisions_perform _ now e)
  | exhausted hp hend =>
    unfold conclude
    split
    · exact .inl rfl
    · exact .inl rfl
  | accept sub incident resp hok =>
    obtain ⟨plan, action, hacc, -, -⟩ := IncidentState.submitApproval_ok hok
    refine .inr ⟨IncidentState.decisionOn action sub, ?_, hacc.undecided⟩
    rw [hacc.filed]
    rfl
  | _ => exact .inl rfl

theorem log_prefix (hst : s.step policyEngine l = some s') :
    s.incident.approvalDecisions <+: s'.incident.approvalDecisions := by
  rcases log_step hst with h | ⟨d, h, -⟩
  · rw [h]
  · rw [h]
    exact List.prefix_append _ _

theorem log_nodup (h : (s.incident.approvalDecisions.map ApprovalDecision.actionId).Nodup)
    (hst : s.step policyEngine l = some s') :
    (s'.incident.approvalDecisions.map ApprovalDecision.actionId).Nodup := by
  rcases log_step hst with heq | ⟨d, heq, hnew⟩
  · rw [heq]
    exact h
  · rw [heq, List.map_append, List.map_cons, List.map_nil, List.nodup_append]
    refine ⟨h, by simp, ?_⟩
    rintro a ha b hb rfl
    obtain ⟨d', hd', rfl⟩ := List.mem_map.1 ha
    exact hnew d' hd' (List.mem_singleton.1 hb)

end Investigation

namespace Service

section
variable [Unicode]

/-- What a call of `submit_approval` returns or raises. -/
def submitApproval (svc : Service V W) (incidentId : String) (sub : Submission) :
    Except PyException ApprovalRequestResponse :=
  match svc.find incidentId with
  | some (_, inv) => (inv.incident.submitApproval sub).map Prod.snd
  | none => .error (.valueError ("No remediation plan found for incident " ++ incidentId))

/-- One decision is appended for the incident: on the first action of its plan that the approval id
matches, by someone who may take it. Nothing else is written; a task will announce it. -/
def Appends (svc : Service V W) (incidentId : String) (sub : Submission) (svc' : Service V W) : Prop :=
  ∃ i inv plan action, svc.find incidentId = some (i, inv) ∧ inv.incident.remediationPlan = some plan ∧
    plan.actions.find? (RemediationAction.answersTo sub.approvalId) = some action ∧
    (RiskPolicyEngine.authorizeApproval action sub.request.approverRole.name).1 = true ∧
    svc' = svc.store i
      { inv with
        incident := { inv.incident with
          approvalDecisions := inv.incident.approvalDecisions ++ [IncidentState.decisionOn action sub] }
        unannounced := inv.unannounced ++ [IncidentState.decisionOn action sub] }

/-- Either one decision is appended, or the call raises and leaves the service as it was. -/
def Submits (svc : Service V W) (incidentId : String) (sub : Submission) (svc' : Service V W) : Prop :=
  match svc.submitApproval incidentId sub with
  | .ok _ => svc.Appends incidentId sub svc'
  | .error exc => (∃ msg, exc = .valueError msg ∨ exc = .permissionError msg) ∧ svc' = svc

variable [UnicodeText] {policyEngine : RiskPolicyEngine} {svc svc' : Service V W} {label : Label V W}

theorem step_submitApproval {incidentId : String} {sub : Submission} {i : Nat} {inv : Investigation W}
    (hfind : svc.find incidentId = some (i, inv)) :
    svc.step policyEngine (.submitApproval incidentId sub) =
      (inv.step policyEngine (.submitApproval sub)).map (svc.store i) := by
  simp only [step, hfind]

/-- **The five exits** of a call. -/
theorem submits (incidentId : String) (sub : Submission) :
    ∃ svc', svc.step policyEngine (.submitApproval incidentId sub) = some svc' ∧
      svc.Submits incidentId sub svc' := by
  unfold Submits submitApproval
  cases hfind : svc.find incidentId with
  | none => exact ⟨svc, by simp only [step, hfind], ⟨_, .inl rfl⟩, rfl⟩
  | some found =>
    obtain ⟨i, inv⟩ := found
    rw [step_submitApproval hfind]
    cases hsub : inv.incident.submitApproval sub with
    | error exc =>
      refine ⟨svc.store i inv, by simp only [Investigation.step, hsub, Option.map_some], ?_⟩
      simp only [hsub, Except.map]
      refine ⟨IncidentState.submitApproval_error hsub, ?_⟩
      obtain ⟨hlt, hget⟩ := List.getElem?_eq_some_iff.1 (find_some hfind)
      simp only [store, ← hget, List.set_getElem_self]
    | ok r =>
      obtain ⟨incident, resp⟩ := r
      obtain ⟨plan, action, hacc, -, -⟩ := IncidentState.submitApproval_ok hsub
      refine ⟨svc.store i (inv.file incident), by simp only [Investigation.step, hsub, Option.map_some], ?_⟩
      simp only [hsub, Except.map]
      refine ⟨i, inv, plan, action, hfind, hacc.planned, hacc.found, hacc.authorized, ?_⟩
      rw [hacc.filed]
      simp [Investigation.file]

/-- The log of every incident of the service has grown, if anything. -/
def LogGrows (svc svc' : Service V W) : Prop :=
  ∀ (i : Nat) (inv : Investigation W), svc.objects[i]? = some inv →
    ∃ inv', svc'.objects[i]? = some inv' ∧ inv.incident.approvalDecisions <+: inv'.incident.approvalDecisions

/-- No action is decided twice. -/
def LogUnique (svc : Service V W) : Prop :=
  ∀ inv ∈ svc.objects, (inv.incident.approvalDecisions.map ApprovalDecision.actionId).Nodup

/-- One step appends to the logs and keeps them without repetition. -/
theorem log_move (hm : Move policyEngine svc label svc') :
    LogGrows svc svc' ∧ (svc.LogUnique → svc'.LogUnique) := by
  constructor
  · intro i inv hi
    exact incident_move (R := fun st st' => st.approvalDecisions <+: st'.approvalDecisions)
      (fun st => List.prefix_refl _) (fun s s' l hst => Investigation.log_prefix hst) hm hi
  · refine forall_incident_move (P := fun st => (st.approvalDecisions.map ApprovalDecision.actionId).Nodup) ?_ ?_ hm
    · intro hex title severity affectedServices symptoms autoRemediate clock
      exact List.nodup_nil
    · intro s s' l hst h
      exact Investigation.log_nodup h hst

theorem logGrows_run {as : List (Label V W)} (hrun : Machine.run (step policyEngine) svc as = some svc') :
    LogGrows svc svc' := by
  refine Machine.Reachable.invariant (I := LogGrows svc) ⟨as, hrun⟩ (fun i inv hi => ⟨inv, hi, List.prefix_refl _⟩) ?_
  intro t l t' h hst i inv hi
  obtain ⟨inv', hi', hle⟩ := h i inv hi
  obtain ⟨inv'', hi'', hle'⟩ := (log_move (move_of_step hst)).1 i inv' hi'
  exact ⟨inv'', hi'', hle.trans hle'⟩

/-- **Approval log discipline**: in every run of the service no action is decided twice, the logs only
grow by appending from then on, and the next submission appends one decision or raises and writes
nothing. -/
theorem approval_log (as : List (Label V W)) (svc : Service V W)
    (hrun : Machine.run (step policyEngine) {} as = some svc) :
    svc.LogUnique ∧
      (∀ bs svc', Machine.run (step policyEngine) svc bs = some svc' → LogGrows svc svc') ∧
      ∀ incidentId sub, ∃ svc', svc.step policyEngine (.submitApproval incidentId sub) = some svc' ∧
        svc.Submits incidentId sub svc' := by
  refine ⟨?_, fun bs svc' => logGrows_run, submits⟩
  refine Machine.Reachable.invariant (I := LogUnique) ⟨as, hrun⟩ ?_ ?_
  · intro inv hmem
    cases hmem
  · intro t l t' h hst
    exact (log_move (move_of_step hst)).2 h

end

/-- A decision is filed between two steps of the coroutine. -/
theorem approval_log_payment :
    letI := Py.asciiTable
    letI := Py.asciiText
    let sub : Submission :=
      { approvalId := "ACT-01"
        request := { decision := .approved, approverId := "sre", approverRole := .admin, reason := "" }
        decidedAt := ⟨0⟩ }
    ∃ svc : Service Unit Unit, Machine.run (step {}) {}
        (resolvePayment.take 80 ++ [.submitApproval "inc-00000001" sub] ++ resolvePayment.drop 80) = some svc ∧
      svc.objects.map (fun inv => inv.incident.approvalDecisions.map ApprovalDecision.actionId) = [["ACT-01"]] ∧
      svc.LogUnique := by
  intro sub
  have hend : letI := Py.asciiTable
      letI := Py.asciiText
      ∃ svc : Service Unit Unit, Machine.run (step {}) {}
          (resolvePayment.take 80 ++ [.submitApproval "inc-00000001" sub] ++ resolvePayment.drop 80) = some svc ∧
        svc.objects.map (fun inv => inv.incident.approvalDecisions.map ApprovalDecision.actionId) = [["ACT-01"]] := by
    decide +kernel
  let _ := Py.asciiTable
  let _ := Py.asciiText
  obtain ⟨svc, hrun, hlog⟩ := hend
  exact ⟨svc, hrun, hlog, (approval_log _ svc hrun).1⟩

end Service

end OpsPilot
