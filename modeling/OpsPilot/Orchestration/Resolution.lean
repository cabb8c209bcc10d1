import OpsPilot.Orchestration.CriticGate
import OpsPilot.Orchestration.Results
/-!
# When a run may end resolved

`verification_node` overwrites the stage whatever the execution has left in it, so a run ends
`RESOLVED` exactly when the verifier says `RECOVERED` and nothing is rolled back. `Earned` is
what that stage should stand for; `resolved_earned_iff` says what it takes before the verification.
-/
namespace OpsPilot

/-- Items that neither fail nor resolve the incident and bring no execution results. -/
def FieldUpdate.quiet : FieldUpdate → Bool
  | .executionResults _ | .currentStage .failed | .currentStage .resolved => false
  | _ => true

/-- No action has been executed, and nothing is failed or resolved. -/
structure Unexecuted (st : IncidentState) : Prop where
  noResults : st.executionResults = []
  open_ : st.currentStage ≠ .resolved

theorem Unexecuted.apply {st : IncidentState} (h : Unexecuted st) {u : NodeUpdate}
    (hu : ∀ f ∈ u, f.quiet = true) : Unexecuted (u.apply st) := by
  refine NodeUpdate.apply_induction h fun f hf st' h' => ?_
  have hq := hu f hf
  cases f with
  | currentStage v =>
    refine ⟨h'.noResults, fun hv => ?_⟩
    have hv : v = .resolved := hv
    subst hv
    cases hq
  | executionResults v => cases hq
  | _ => exact ⟨h'.noResults, h'.open_⟩

theorem Unexecuted.collected {st st' : IncidentState} (h : Unexecuted st) (hc : Collected st st') :
    Unexecuted st' := by
  obtain ⟨ev, tl, rfl⟩ := hc
  exact ⟨h.noResults, h.open_⟩

theorem quiet_analyst (a : Analyst) (output : AnalystAgentOutput) (clock : Clock) :
    ∀ f ∈ a.node output clock, f.quiet = true := by
  cases a <;> simp [Analyst.node, logAnalystNode, metricsAnalystNode, codeAnalystNode, memoryAnalystNode,
    analystNode, FieldUpdate.quiet]

/-- No node so far has set the stage to `FAILED`. -/
def NoFailure (streamed : List (Node × NodeUpdate)) : Prop :=
  ∀ n u, (n, u) ∈ streamed → ∀ f ∈ u, f ≠ .currentStage .failed

theorem NoFailure.concat {streamed : List (Node × NodeUpdate)} {n : Node} {u : NodeUpdate}
    (h : NoFailure streamed) (hu : ∀ f ∈ u, f ≠ .currentStage .failed) :
    NoFailure (streamed ++ [(n, u)]) := by
  intro m v hmem
  rcases List.mem_append.1 hmem with hold | hnew
  · exact h m v hold
  · cases List.mem_singleton.1 hnew
    exact hu

theorem ne_failed_of_quiet {u : NodeUpdate} (hu : ∀ f ∈ u, f.quiet = true) :
    ∀ f ∈ u, f ≠ .currentStage .failed := by
  rintro f hf rfl
  cases hu _ hf

def Succeeded (st : IncidentState) : Prop := ∃ res ∈ st.executionResults, res.status = .success

/-- What `RESOLVED` should mean: an action of the plan has succeeded and no node has failed. -/
structure Earned (st : IncidentState) (streamed : List (Node × NodeUpdate)) : Prop where
  succeeded : ∃ action ∈ st.plannedActions, ∃ res ∈ st.executionResults,
    res.actionId = action.actionId ∧ res.status = .success
  noFailure : NoFailure streamed

/-- After the execution: if one of the results is a success then the node did not fail. -/
structure Executed (st : IncidentState) (streamed : List (Node × NodeUpdate)) : Prop where
  returned : .execution ∈ streamed.map Prod.fst
  noFailure : Succeeded st → NoFailure streamed

theorem executed_executionUpdate {st : IncidentState} {streamed : List (Node × NodeUpdate)}
    (h : Unexecuted st) (hf : NoFailure streamed) (results : List ActionExecutionResult)
    (events : List TimelineEvent) :
    Executed ((executionUpdate st results events).apply st)
      (streamed ++ [(.execution, executionUpdate st results events)]) := by
  refine ⟨by simp, ?_⟩
  unfold executionUpdate
  split
  · -- no plan: the stage is `FAILED`, and there are no results
    rintro ⟨res, hres, -⟩
    have hres : res ∈ st.executionResults := hres
    rw [h.noResults] at hres
    cases hres
  · exact fun _ => hf.concat (by simp)

theorem Executed.earned_iff {st : IncidentState} {streamed : List (Node × NodeUpdate)}
    {results : List ActionExecutionResult} (h : Executed st streamed) (hb : Behind results st streamed) :
    Earned st streamed ↔ ∃ res ∈ results, res.status = .success := by
  constructor
  · rintro ⟨⟨-, -, res, hres, -, hst⟩, -⟩
    exact ⟨res, hb.results ▸ hres, hst⟩
  · rintro ⟨res, hres, hst⟩
    obtain ⟨action, ha, hid⟩ := hb.planned res hres
    have hmem : res ∈ st.executionResults := hb.results ▸ hres
    exact ⟨⟨action, ha, res, hmem, hid, hst⟩, h.noFailure ⟨res, hmem, hst⟩⟩

theorem executionUpdate_ne_resolved {st : IncidentState} {results : List ActionExecutionResult}
    {events : List TimelineEvent} :
    ((executionUpdate st results events).apply st).currentStage ≠ .resolved := by
  unfold executionUpdate
  split <;> simp [FieldUpdate.apply]

namespace Workflow

variable {W : Type}

/-- No verifier says `RECOVERED` while nothing is rolled back. -/
def Unrecovered (s : Workflow W) : Label W → Prop
  | .finish (.verification a) _ => a.status = .recovered → (rollbackTarget s.graph.state a).isSome = true
  | _ => True

/-- Position by position; `A` says that every step so far has met `Unrecovered`. -/
def ResInv (A : Prop) (s : Workflow W) : Position → Prop
  | .waiting .verification => s.graph.state.currentStage ≠ .resolved ∧ Executed s.graph.state s.streamed ∧ A
  | .waiting _ | .fanOut => Unexecuted s.graph.state ∧ NoFailure s.streamed ∧ A
  | .wrote .execution u =>
    (u.apply s.graph.state).currentStage ≠ .resolved ∧ Executed (u.apply s.graph.state) s.streamed ∧ A
  | .wrote .verification u => ∃ stage a tl, u = [.currentStage stage, .verification a, .timeline tl] ∧
      (stage ≠ .resolved ∧ A ∨ stage = .resolved ∧ Executed (u.apply s.graph.state) s.streamed ∧ ¬ A)
  | .wrote _ u => Unexecuted s.graph.state ∧ NoFailure s.streamed ∧ (∀ f ∈ u, f.quiet = true) ∧ A
  | .ended => s.graph.state.currentStage ≠ .resolved ∧ A ∨
      s.graph.state.currentStage = .resolved ∧ Executed s.graph.state s.streamed ∧ ¬ A

/-- A node that is still to finish finds the incident unresolved. -/
theorem ResInv.waiting {A : Prop} {s : Workflow W} {n : Node} (h : ResInv A s (.waiting n)) :
    s.graph.state.currentStage ≠ .resolved ∧ A := by
  cases n with
  | verification => exact ⟨h.1, h.2.2⟩
  | _ => exact ⟨h.1.open_, h.2.2⟩

theorem resInv_init {st : IncidentState} (hfresh : st.Fresh) (runner : Runner W) {A : Prop} (hA : A) :
    ResInv A (init st runner) (.waiting .supervisor) := by
  refine ⟨⟨hfresh.executionResults, ?_⟩, fun n u hmem => (List.not_mem_nil hmem).elim, hA⟩
  have hst : (init st runner).graph.state = st := rfl
  rw [hst, hfresh.currentStage]
  simp

/-- A barrier after a single node. -/
theorem res_advance {A : Prop} {s : Workflow W} {n : Node} {u : NodeUpdate}
    (hI : ResInv A s (.wrote n u)) (hn : ¬ n.IsAnalyst) :
    ResInv A { s with graph := { state := u.apply s.graph.state,
                                 running := (successors (u.apply s.graph.state) n).eraseDups },
                      frame := {} } (Position.after (u.apply s.graph.state) n) := by
  cases n with
  | analyst a => exact absurd ⟨a, rfl⟩ hn
  | supervisor => exact ⟨hI.1.apply hI.2.2.1, hI.2.1, hI.2.2.2⟩
  | joinEvidence => exact ⟨hI.1.apply hI.2.2.1, hI.2.1, hI.2.2.2⟩
  | rca => exact ⟨hI.1.apply hI.2.2.1, hI.2.1, hI.2.2.2⟩
  | critic =>
    obtain ⟨hun, hnf, hq, hA⟩ := hI
    simp only [Position.after]
    cases routeCriticDecision (u.apply s.graph.state) with
    | supervisor => exact ⟨hun.apply hq, hnf, hA⟩
    | remediation => exact ⟨hun.apply hq, hnf, hA⟩
    | complete => exact .inl ⟨(hun.apply hq).open_, hA⟩
  | remediationPlanning => exact ⟨hI.1.apply hI.2.2.1, hI.2.1, hI.2.2.2⟩
  | execution => exact hI
  | verification =>
    obtain ⟨stage, a, tl, rfl, hopen | ⟨rfl, hex, hA⟩⟩ := hI
    · exact .inl hopen
    · exact .inr ⟨rfl, hex, hA⟩

section
variable [Unicode] {policyEngine : RiskPolicyEngine}

/-- What a node of the investigation or the planning writes is quiet. -/
theorem quiet_answer {H : List Reply} {st : IncidentState} {clock : Clock} {u : NodeUpdate}
    {reply : Reply} (hG : GateInv policyEngine H st (.waiting reply.node))
    (ha : Answers policyEngine st clock u reply) : ∀ f ∈ u, f.quiet = true := by
  cases reply with
  | supervisor plan =>
    cases ha
    simp [supervisorNode, FieldUpdate.quiet]
  | joinEvidence =>
    cases ha
    simp [joinEvidenceNode, FieldUpdate.quiet]
  | rca output =>
    cases ha
    simp [rcaNode, FieldUpdate.quiet]
  | critic verdict =>
    rcases criticNode_cases ha with ⟨-, rfl⟩ | ⟨h, c, event, -, -, -, rfl⟩ <;> simp [FieldUpdate.quiet]
  | remediationPlanning rawPlan =>
    -- the gate guarantees a hypothesis, so the planning does not fail
    obtain ⟨h, output, verdict, c, he⟩ := hG
    cases ha
    simp [remediationPlanningNode, he.selected, FieldUpdate.quiet]
  | analyst a output => exact ha.elim
  | verification assessment => exact ha.elim
  | raises n exc => exact ha.elim

/-- The verification: the only node that can resolve the incident. -/
theorem res_verify {A A' : Prop} {s : Workflow W} {assessment : VerificationAssessment}
    {clock : Clock} {out : NodeOutcome W} {u : NodeUpdate} {phase : Invocation.Phase} {index : Nat}
    (hI : ResInv A s (.waiting .verification))
    (hA : A' ↔ A ∧ Unrecovered s (.finish (.verification assessment) clock))
    (ho : verificationNode s.graph.state assessment s.runner clock = out) (hu : out.result = .ok u) :
    ResInv A' ((record { s with runner := out.runner } phase index out.call).conclude .verification (.ok u))
      (.wrote .verification u) := by
  obtain ⟨-, hex, hA0⟩ := hI
  obtain ⟨tl, rfl⟩ := verificationNode_ok (ho ▸ hu)
  refine ⟨_, assessment, tl, rfl, ?_⟩
  simp only [state_conclude, graph_record, streamed_conclude, streamed_record]
  by_cases hback : (rollbackTarget s.graph.state assessment).isSome = true
  · -- rolled back: the stage is `FAILED`
    exact .inl ⟨by simp [hback], hA.2 ⟨hA0, fun _ => hback⟩⟩
  · by_cases hrec : assessment.status = .recovered
    · refine .inr ⟨by simp [hback, hrec], ⟨?_, ?_⟩, fun h => hback ((hA.1 h).2 hrec)⟩
      · rw [List.map_append]
        exact List.mem_append_left _ hex.returned
      · exact fun h => (hex.noFailure h).concat (by simp [hback, hrec])
    · exact .inl ⟨by simp [hback, hrec], hA.2 ⟨hA0, fun h => absurd h hrec⟩⟩

theorem res_move {H : List Reply} {A A' : Prop} {p p' : Position} {s s' : Workflow W} {l : Label W}
    (hG : GateInv policyEngine H s.graph.state p) (hI : ResInv A s p)
    (hA : A' ↔ A ∧ Unrecovered s l) (hm : Move policyEngine p s l p' s') :
    ResInv A' s' p' := by
  cases hm with
  | world w =>
    obtain rfl := Machine.step_met hA trivial
    cases p <;> exact hI
  | collect a output clock hr =>
    obtain rfl := Machine.step_met hA trivial
    exact ⟨hI.1, hI.2.1.concat (ne_failed_of_quiet (quiet_analyst a output clock)), hI.2.2⟩
  | answer reply clock u ha =>
    have hq := quiet_answer hG ha
    cases reply with
    | analyst a output => exact ha.elim
    | verification assessment => exact ha.elim
    | raises n exc => exact ha.elim
    | _ =>
      obtain rfl := Machine.step_met hA trivial
      exact ⟨hI.1, hI.2.1.concat (ne_failed_of_quiet hq), hq, hI.2.2⟩
  | verify assessment clock out u ho hu => exact res_verify hI hA ho hu
  | verifyRaises assessment clock out exc ho hu =>
    -- only the rollback can raise
    obtain ⟨last, hback, -⟩ := verificationNode_error_iff.1 (ho ▸ hu)
    exact .inl ⟨by simpa using hI.waiting.1, hA.2 ⟨hI.waiting.2, fun _ => by rw [hback]; rfl⟩⟩
  | raises n exc clock hp hc =>
    obtain rfl := Machine.step_met hA trivial
    rcases hp with rfl | rfl
    · exact .inl ⟨hI.1.open_, hI.2.2⟩
    · exact .inl hI.waiting
  | act clock action out res hi ho hres =>
    obtain rfl := Machine.step_met hA trivial
    simp only [ResInv, graph_record, streamed_record]
    exact hI
  | actRaises clock action out exc hi ho hres =>
    obtain rfl := Machine.step_met hA trivial
    exact .inl (by simpa using hI.waiting)
  | executed clock hi =>
    obtain rfl := Machine.step_met hA trivial
    obtain ⟨hun, hnf, hA'⟩ := hI
    exact ⟨executionUpdate_ne_resolved, executed_executionUpdate hun hnf s.frame.results s.frame.events, hA'⟩
  | join order st' hc ha =>
    obtain rfl := Machine.step_met hA trivial
    exact ⟨hI.1.collected hc, hI.2⟩
  | advance n u order hn hw =>
    obtain rfl := Machine.step_met hA trivial
    exact res_advance hI hn

/-- **`RESOLVED` is earned exactly when no verifier reports a recovery with nothing to roll back, or the
execution has come to an action that the runner could get done.** -/
theorem resolved_earned_iff {st : IncidentState} (hfresh : st.Fresh) (runner : Runner W)
    (as : List (Label W)) (s : Workflow W)
    (hrun : Machine.run (step policyEngine) (init st runner) as = some s) (hover : s.graph.Over) :
    (s.graph.state.currentStage = .resolved → Earned s.graph.state s.streamed) ↔
      Machine.Along (step policyEngine) Unrecovered (init st runner) as ∨
        Machine.trace (step policyEngine) carriesOut (init st runner) as ≠ [] := by
  have h0 : GateInv policyEngine [] st (.waiting .supervisor) := gateInv_init hfresh
  obtain ⟨p, hat, -, hI, hR⟩ := run_position
    (J := fun as p s => GateInv policyEngine (replies as) s.graph.state p ∧
      ResInv (Machine.Along (step policyEngine) Unrecovered (init st runner) as) s p ∧
      ResultsInv (Machine.trace (step policyEngine) returned (init st runner) as) s p)
    ⟨h0, resInv_init hfresh runner trivial, ⟨hfresh.executionResults, List.not_mem_nil⟩, rfl⟩
    (fun as p s l p' s' hr ⟨hG, hI, hR⟩ hm =>
      ⟨gate_move hG hm, res_move hG hI (Machine.along_concat hr) hm, results_move hR (Machine.trace_concat hr) hm⟩)
    as s hrun
  obtain rfl := ended_of_over hat hover
  rcases hI with ⟨hopen, hA⟩ | ⟨hres, hex, hA⟩
  · exact ⟨fun _ => .inl hA, fun _ h => absurd h hopen⟩
  · have hbehind := hR.resolve_left fun hahead => hahead.notReturned hex.returned
    rw [imp_iff_right hres, or_iff_right hA, hex.earned_iff hbehind]
    exact exists_success_iff as

end

instance (s : Workflow W) : ∀ l : Label W, Decidable (Unrecovered s l)
  | .finish (.verification _) _ => inferInstanceAs (Decidable (_ = _ → _))
  | .finish (.supervisor _) _ | .finish (.analyst _ _) _ | .finish .joinEvidence _ | .finish (.rca _) _
  | .finish (.critic _) _ | .finish (.remediationPlanning _) _ | .finish (.raises _ _) _
  | .execute _ | .advance _ | .world _ => isTrue trivial

/-- One action, executed and found to have helped. -/
theorem resolved_earned_one_action :
    letI := Py.asciiTable
    ∃ s, Machine.run (step {}) (init (newIncident 3) restartRunner)
        (investigationRound [bareHypothesis] .approve ++ remediationRound [restartAction "ACT-01"] .recovered false) =
          some s ∧ s.graph.state.currentStage = .resolved ∧ Earned s.graph.state s.streamed := by
  let _ := Py.asciiTable
  let as : List (Label Unit) :=
    investigationRound [bareHypothesis] .approve ++ remediationRound [restartAction "ACT-01"] .recovered false
  have hend : ∃ s, Machine.run (step {}) (init (newIncident 3) restartRunner) as = some s ∧
      s.graph.Over ∧ s.graph.state.currentStage = .resolved := by decide +kernel
  obtain ⟨s, hs, hover, hres⟩ := hend
  have hearned := (resolved_earned_iff (fresh_newIncident 3) restartRunner as s hs hover).2
    (.inr (by decide +kernel)) hres
  exact ⟨s, hs, hres, hearned⟩

/-- The plan is empty, so the execution fails; the verifier reports a recovery. -/
theorem resolved_unearned :
    letI := Py.asciiTable
    ∃ s, Machine.run (step {}) (init (newIncident 3) restartRunner)
        (investigationRound [bareHypothesis] .approve ++ remediationRound [] .recovered false) = some s ∧
      s.graph.Over ∧ s.graph.state.currentStage = .resolved ∧ ¬ Earned s.graph.state s.streamed := by
  let _ := Py.asciiTable
  let as : List (Label Unit) :=
    investigationRound [bareHypothesis] .approve ++ remediationRound [] .recovered false
  have hend : ∃ s, Machine.run (step {}) (init (newIncident 3) restartRunner) as = some s ∧
      s.graph.Over ∧ s.graph.state.currentStage = .resolved ∧
        s.graph.state.plannedActions.isEmpty := by decide +kernel
  obtain ⟨s, hs, hover, hres, hplan⟩ := hend
  refine ⟨s, hs, hover, hres, fun h => ?_⟩
  obtain ⟨action, ha, -⟩ := h.succeeded
  rw [List.isEmpty_iff.1 hplan] at ha
  cases ha

end Workflow

end OpsPilot
