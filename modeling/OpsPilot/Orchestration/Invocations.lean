import OpsPilot.Orchestration.Moves
/-!
# Which tools a run calls, and for what

`invokes` says, from the state before a step, for which action of the plan the step will call a
tool; `audit_step` is the only lemma about the audit that the later modules need. Every planned
action has been assessed, so it waits for approval (`requiresApproval_planned`).
-/
namespace OpsPilot

namespace Workflow

variable {W : Type}

@[simp] theorem audit_conclude (s : Workflow W) (n : Node) (r : Except PyException NodeUpdate) :
    (s.conclude n r).audit = s.audit := by
  cases r <;> rfl

/-- The verification gets as far as calling the compensating tool. -/
def compensates [Unicode] (s : Workflow W) (a : VerificationAssessment) : Bool :=
  (rollbackTarget s.graph.state a).any fun last =>
    (Runner.compensation last).toOption.any fun comp => s.runner.reaches comp "OPERATOR"

/-- The action of the plan that a step calls a tool for. -/
def invokes [Unicode] (s : Workflow W) : Label W → Option RemediationAction
  | .execute _ =>
    s.graph.state.plannedActions[s.frame.results.length]?.filter fun action => s.runner.reaches action "OPERATOR"
  | .finish (.verification a) _ => (rollbackTarget s.graph.state a).filter fun _ => s.compensates a
  | _ => none

theorem audit_record (s : Workflow W) (phase : Invocation.Phase) (index : Nat)
    (call : Option ToolCall) :
    ∃ new, (s.record phase index call).audit = s.audit ++ new ∧
      new.map Invocation.action = (s.graph.state.plannedActions[index]?.filter fun _ => call.isSome).toList := by
  cases ha : s.graph.state.plannedActions[index]? with
  | none => exact ⟨[], by simp [record, ha], rfl⟩
  | some action =>
    cases call with
    | none => exact ⟨[], by simp, rfl⟩
    | some call => exact ⟨[{ phase, index, action, call }], by simp [record, ha], rfl⟩

/-- A plan in this item has been assessed. -/
def Assessed : FieldUpdate → Prop
  | .remediationPlan v => ∀ action ∈ v.actions, action.requiresApproval = true
  | _ => True

/-- The plan has been assessed, and so has one that is about to be written. -/
def AssessedInv (st : IncidentState) : Position → Prop
  | .wrote _ u => (∀ action ∈ st.plannedActions, action.requiresApproval = true) ∧ ∀ f ∈ u, Assessed f
  | _ => ∀ action ∈ st.plannedActions, action.requiresApproval = true

theorem AssessedInv.state {st : IncidentState} {p : Position} (h : AssessedInv st p) :
    ∀ action ∈ st.plannedActions, action.requiresApproval = true := by
  cases p with
  | wrote n u => exact h.1
  | _ => exact h

theorem assessedInv_of_state {st : IncidentState} {p : Position} (hp : ∀ n u, p ≠ .wrote n u)
    (h : ∀ action ∈ st.plannedActions, action.requiresApproval = true) : AssessedInv st p := by
  cases p with
  | wrote n u => exact absurd rfl (hp n u)
  | _ => exact h

theorem assessed_apply {st : IncidentState} {u : NodeUpdate}
    (h : ∀ action ∈ st.plannedActions, action.requiresApproval = true) (hu : ∀ f ∈ u, Assessed f) :
    ∀ action ∈ (u.apply st).plannedActions, action.requiresApproval = true := by
  refine NodeUpdate.apply_induction (P := fun st => ∀ action ∈ st.plannedActions, action.requiresApproval = true)
    h fun f hf st h => ?_
  have hfu := hu f hf
  cases f with
  | remediationPlan v => exact hfu
  | _ => exact h

section
variable [Unicode] {policyEngine : RiskPolicyEngine}

theorem isSome_call_verificationNode (s : Workflow W) (a : VerificationAssessment) (clock : Clock) :
    (verificationNode s.graph.state a s.runner clock).call.isSome = s.compensates a := by
  unfold verificationNode compensates
  cases rollbackTarget s.graph.state a with
  | none => rfl
  | some last =>
    simp only [Runner.executeRollback, Option.any_some]
    cases Runner.compensation last with
    | error exc => rfl
    | ok comp => exact Runner.isSome_call_executeAction

theorem audit_finish {s s' : Workflow W} {reply : Reply} {clock : Clock}
    (h : s.finish policyEngine reply clock = some s') :
    ∃ new, s'.audit = s.audit ++ new ∧
      new.map Invocation.action = (s.invokes (.finish reply clock)).toList := by
  unfold finish at h
  split at h
  case isFalse => cases h
  cases h
  obtain ⟨new, hnew, hact⟩ := audit_record { s with runner := (s.outcome policyEngine clock reply).runner } .compensate
    (s.graph.state.plannedActions.length - 1) (s.outcome policyEngine clock reply).call
  refine ⟨new, by rw [audit_conclude, hnew], hact.trans ?_⟩
  cases reply with
  | verification a =>
    have hcall : (s.outcome policyEngine clock (.verification a)).call.isSome = s.compensates a :=
      isSome_call_verificationNode s a clock
    simp only [invokes, hcall]
    cases hc : s.compensates a with
    | false => simp
    | true =>
      -- what is compensated is the last action of the plan
      obtain ⟨last, hlast, -⟩ := (Option.any_eq_true _ _).1 hc
      have hget := hlast
      unfold rollbackTarget at hget
      split at hget
      · rw [hlast, ← hget, List.getLast?_eq_getElem?]
      · cases hget
  | _ => simp [outcome, invokes]

theorem audit_execute {s s' : Workflow W} {clock : Clock} (h : s.execute clock = some s') :
    ∃ new, s'.audit = s.audit ++ new ∧
      new.map Invocation.action = (s.invokes (.execute clock)).toList := by
  unfold execute at h
  split at h
  case isFalse => cases h
  cases hi : s.graph.state.plannedActions[s.frame.results.length]? with
  | none =>
    simp only [hi] at h
    cases h
    exact ⟨[], by simp, by simp [invokes, hi]⟩
  | some action =>
    simp only [hi] at h
    obtain ⟨new, hnew, hact⟩ := audit_record
      { s with runner := (s.runner.executeAction action "OPERATOR" clock).runner } .execute s.frame.results.length
      (s.runner.executeAction action "OPERATOR" clock).call
    refine ⟨new, ?_, hact.trans ?_⟩
    · cases hres : (s.runner.executeAction action "OPERATOR" clock).result with
      | ok res =>
        simp only [hres] at h
        cases h
        exact hnew
      | error exc =>
        simp only [hres] at h
        cases h
        rw [audit_conclude, hnew]
    · simp [invokes, hi, Option.filter, Runner.isSome_call_executeAction]

/-- **A step calls a tool for the action that `invokes` says**, or for none. -/
theorem audit_step {s s' : Workflow W} {l : Label W} (h : s.step policyEngine l = some s') :
    ∃ new, s'.audit = s.audit ++ new ∧ new.map Invocation.action = (s.invokes l).toList := by
  cases l with
  | finish reply clock => exact audit_finish h
  | execute clock => exact audit_execute h
  | advance order =>
    obtain ⟨g, -, rfl⟩ := Option.map_eq_some_iff.1 h
    exact ⟨[], by simp, rfl⟩
  | world w =>
    cases h
    exact ⟨[], by simp, rfl⟩

theorem invokes_mem {s : Workflow W} {l : Label W} {action : RemediationAction}
    (h : s.invokes l = some action) : action ∈ s.graph.state.plannedActions := by
  cases l with
  | execute clock => exact List.mem_of_getElem? (Option.filter_eq_some_iff.1 h).1
  | finish reply clock =>
    cases reply with
    | verification a =>
      have ht := (Option.filter_eq_some_iff.1 h).1
      simp only [rollbackTarget] at ht
      split at ht
      · exact List.mem_of_getLast? ht
      · cases ht
    | _ => cases h
  | advance order => cases h
  | world w => cases h

/-! ## Every planned action has been assessed -/

theorem assessed_answer {st : IncidentState} {clock : Clock} {u : NodeUpdate} {reply : Reply}
    (ha : Answers policyEngine st clock u reply) : ∀ f ∈ u, Assessed f := by
  cases reply with
  | supervisor plan =>
    cases ha
    simp [supervisorNode, Assessed]
  | joinEvidence =>
    cases ha
    simp [joinEvidenceNode, Assessed]
  | rca output =>
    cases ha
    simp [rcaNode, Assessed]
  | critic verdict =>
    rcases criticNode_cases ha with ⟨-, rfl⟩ | ⟨h, c, event, -, -, -, rfl⟩ <;> simp [Assessed]
  | remediationPlanning rawPlan =>
    cases ha
    unfold remediationPlanningNode
    split
    · simp [Assessed]
    · simp only [List.mem_cons, List.not_mem_nil, or_false, forall_eq_or_imp, forall_eq, Assessed, true_and, and_true]
      exact fun action hmem => (RemediationAgent.assessed_of_mem hmem).1
  | analyst a output => exact ha.elim
  | verification assessment => exact ha.elim
  | raises n exc => exact ha.elim

theorem assessed_move {p p' : Position} {s s' : Workflow W} {l : Label W}
    (hI : AssessedInv s.graph.state p) (hm : Move policyEngine p s l p' s') :
    AssessedInv s'.graph.state p' := by
  cases hm with
  | world w => exact hI
  | collect a output clock hr => exact hI
  | answer reply clock u ha =>
    rw [state_conclude]
    exact ⟨hI, assessed_answer ha⟩
  | verify assessment clock out u ho hu =>
    obtain ⟨tl, rfl⟩ := verificationNode_ok (ho ▸ hu)
    rw [state_conclude, graph_record]
    exact ⟨hI, by simp [Assessed]⟩
  | verifyRaises assessment clock out exc ho hu =>
    rw [state_conclude, graph_record]
    exact hI
  | raises n exc clock hp hc => exact hI.state
  | act clock action out res hi ho hres =>
    rw [graph_record]
    exact hI
  | actRaises clock action out exc hi ho hres =>
    rw [state_conclude, graph_record]
    exact hI
  | executed clock hi =>
    refine ⟨hI, ?_⟩
    unfold executionUpdate
    split <;> simp [Assessed]
  | join order st' hc ha =>
    obtain ⟨ev, tl, rfl⟩ := hc
    exact hI
  | advance n u order hn hw =>
    have hu := assessed_apply hI.1 hI.2
    refine assessedInv_of_state (fun m v => ?_) hu
    cases n with
    | critic =>
      simp only [Position.after]
      split <;> simp
    | _ => simp [Position.after]

theorem requiresApproval_planned {st : IncidentState} (hfresh : st.Fresh) {runner : Runner W}
    {as : List (Label W)} {s : Workflow W}
    (hrun : Machine.run (step policyEngine) (init st runner) as = some s) :
    ∀ action ∈ s.graph.state.plannedActions, action.requiresApproval = true := by
  have h0 : AssessedInv st (.waiting .supervisor) := by
    intro action ha
    rw [IncidentState.plannedActions, hfresh.remediationPlan] at ha
    cases ha
  obtain ⟨p, -, hI⟩ := run_position (J := fun _ p s => AssessedInv s.graph.state p) h0
    (fun _ p s l p' s' _ hI hm => assessed_move hI hm) as s hrun
  exact hI.state

end

end Workflow

end OpsPilot
