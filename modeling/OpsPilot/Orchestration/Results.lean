import OpsPilot.Orchestration.Moves
/-!
# What `execution_node` has done

The node dispatches the actions of the plan one by one and writes the results when it returns, unless a call
raises. `ResultsInv` says, position by position, where the results of the runner are; whether an action gets a
`SUCCESS` among them is decided by the state before the call (`carriesOut`, `success_iff`).
-/
namespace OpsPilot

/-- Every result belongs to an action of the plan. -/
def ResultsPlanned (st : IncidentState) (results : List ActionExecutionResult) : Prop :=
  ∀ res ∈ results, ∃ action ∈ st.plannedActions, res.actionId = action.actionId

/-- An execution result says that the action succeeded. -/
def IncidentState.CarriedOut (st : IncidentState) (action : RemediationAction) : Prop :=
  ∃ res ∈ st.executionResults, res.actionId = action.actionId ∧ res.status = .success

/-- `execution_node` has not returned, and there are no results. -/
structure Ahead (st : IncidentState) (streamed : List (Node × NodeUpdate)) : Prop where
  noResults : st.executionResults = []
  notReturned : .execution ∉ streamed.map Prod.fst

/-- `execution_node` has returned, and the results are those of the runner. -/
structure Behind (results : List ActionExecutionResult) (st : IncidentState)
    (streamed : List (Node × NodeUpdate)) : Prop where
  returned : .execution ∈ streamed.map Prod.fst
  planned : ResultsPlanned st results
  results : st.executionResults = results

theorem Ahead.concat {st st' : IncidentState} {streamed : List (Node × NodeUpdate)} {n : Node} {u : NodeUpdate}
    (h : Ahead st streamed) (hst : st'.executionResults = st.executionResults) (hn : n ≠ .execution) :
    Ahead st' (streamed ++ [(n, u)]) := by
  refine ⟨hst.trans h.noResults, fun hmem => ?_⟩
  rw [List.map_append] at hmem
  rcases List.mem_append.1 hmem with hold | hnew
  · exact h.notReturned hold
  · exact hn (List.mem_singleton.1 hnew).symm

theorem Ahead.collected {st st' : IncidentState} {streamed : List (Node × NodeUpdate)} (h : Ahead st streamed)
    (hc : Collected st st') : Ahead st' streamed := by
  obtain ⟨ev, tl, rfl⟩ := hc
  exact ⟨h.noResults, h.notReturned⟩

theorem Behind.collected {st st' : IncidentState} {streamed : List (Node × NodeUpdate)}
    {results : List ActionExecutionResult} (h : Behind results st streamed) (hc : Collected st st') :
    Behind results st' streamed := by
  obtain ⟨ev, tl, rfl⟩ := hc
  exact ⟨h.returned, h.planned, h.results⟩

/-- What `execution_node` returns (graph.py:271): with no plan there are no results either. -/
theorem behind_executionUpdate {st : IncidentState} {streamed : List (Node × NodeUpdate)}
    {results : List ActionExecutionResult} (h : Ahead st streamed) (hplanned : ResultsPlanned st results)
    (events : List TimelineEvent) :
    Behind results ((executionUpdate st results events).apply st)
      (streamed ++ [(.execution, executionUpdate st results events)]) := by
  unfold executionUpdate
  split
  · rename_i hempty
    have hnil : results = [] := by
      refine List.eq_nil_iff_forall_not_mem.2 fun res hmem => ?_
      obtain ⟨action, ha, -⟩ := hplanned res hmem
      rw [List.isEmpty_iff.1 hempty] at ha
      cases ha
    exact ⟨by simp, hplanned, h.noResults.trans hnil.symm⟩
  · exact ⟨by simp, hplanned, rfl⟩

/-- The state `st` with what the node at this position has written; the analysts only collect. -/
def Position.reduced (st : IncidentState) : Position → IncidentState
  | .wrote _ u => u.apply st
  | _ => st

namespace Workflow

variable {W : Type}

/-- Position by position, when the runner has returned `results`. -/
def ResultsInv (results : List ActionExecutionResult) (s : Workflow W) : Position → Prop
  | .waiting .execution =>
    Ahead s.graph.state s.streamed ∧ s.frame.results = results ∧ ResultsPlanned s.graph.state results
  | .waiting .verification => Behind results s.graph.state s.streamed
  | .waiting _ | .fanOut => Ahead s.graph.state s.streamed ∧ results = []
  | .wrote .execution u | .wrote .verification u => Behind results (u.apply s.graph.state) s.streamed
  | .wrote _ u => Ahead (u.apply s.graph.state) s.streamed ∧ results = []
  | .ended => Ahead s.graph.state s.streamed ∨ Behind results s.graph.state s.streamed

theorem ResultsInv.standing {results : List ActionExecutionResult} {s : Workflow W} {p : Position}
    (h : ResultsInv results s p) :
    Ahead (p.reduced s.graph.state) s.streamed ∨ Behind results (p.reduced s.graph.state) s.streamed := by
  cases p with
  | fanOut => exact .inl h.1
  | ended => exact h
  | waiting n =>
    cases n with
    | verification => exact .inr h
    | _ => exact .inl h.1
  | wrote n u =>
    cases n with
    | execution => exact .inr h
    | verification => exact .inr h
    | _ => exact .inl h.1

section
variable [Unicode] {policyEngine : RiskPolicyEngine}

/-- What the runner returns to `execution_node` in this step. -/
def returned (s : Workflow W) : Label W → List ActionExecutionResult
  | .execute clock =>
    match s.graph.state.plannedActions[s.frame.results.length]? with
    | some action => (s.runner.executeAction action "OPERATOR" clock).result.toOption.toList
    | none => []
  | _ => []

/-- The action that this step of `execution_node` is going to get done. -/
def carriesOut (s : Workflow W) : Label W → List RemediationAction
  | .execute _ =>
    (s.graph.state.plannedActions[s.frame.results.length]?.filter fun action =>
      s.runner.accomplishes action "OPERATOR").toList
  | _ => []

/-- A success is returned for exactly the actions that get done. -/
theorem returned_success_iff (s : Workflow W) (l : Label W) (id : String) :
    (∃ res ∈ s.returned l, res.actionId = id ∧ res.status = .success) ↔
      ∃ action ∈ s.carriesOut l, action.actionId = id := by
  cases l with
  | execute clock =>
    simp only [returned, carriesOut]
    cases s.graph.state.plannedActions[s.frame.results.length]? with
    | none => simp
    | some action =>
      have hsuccess : (∃ res, (s.runner.executeAction action "OPERATOR" clock).result = .ok res ∧
          res.status = .success) ↔ s.runner.accomplishes action "OPERATOR" = true :=
        Runner.executeAction_success_iff clock
      cases hres : (s.runner.executeAction action "OPERATOR" clock).result with
      | error exc =>
        have hfails : s.runner.accomplishes action "OPERATOR" = false := by simpa [hres] using hsuccess
        simp [hres, Except.toOption, Option.filter, hfails]
      | ok res =>
        have hdone : res.status = .success ↔ s.runner.accomplishes action "OPERATOR" = true := by
          simpa [hres] using hsuccess
        have hid := Runner.actionId_executeAction hres
        by_cases hst : res.status = .success
        · simp [hres, Except.toOption, Option.filter, hst, hid, hdone.1 hst]
        · simp [hres, Except.toOption, Option.filter, hst, mt hdone.2 hst]
  | _ => simp [returned, carriesOut]

/-- The ids of the successes that the runner has returned are those of the actions it has got done. -/
theorem success_iff {s : Workflow W} (as : List (Label W)) (id : String) :
    (∃ res ∈ Machine.trace (step policyEngine) returned s as, res.actionId = id ∧ res.status = .success) ↔
      ∃ action ∈ Machine.trace (step policyEngine) carriesOut s as, action.actionId = id :=
  Machine.exists_mem_trace_congr (fun s l => returned_success_iff s l id) s as

/-- One of the results is a success exactly if the runner has got something done. -/
theorem exists_success_iff {s : Workflow W} (as : List (Label W)) :
    (∃ res ∈ Machine.trace (step policyEngine) returned s as, res.status = .success) ↔
      Machine.trace (step policyEngine) carriesOut s as ≠ [] := by
  constructor
  · rintro ⟨res, hres, hst⟩
    obtain ⟨action, ha, -⟩ := (success_iff as res.actionId).1 ⟨res, hres, rfl, hst⟩
    exact List.ne_nil_of_mem ha
  · intro hne
    obtain ⟨action, ha⟩ := List.exists_mem_of_ne_nil _ hne
    obtain ⟨res, hres, -, hst⟩ := (success_iff as action.actionId).2 ⟨action, ha, rfl⟩
    exact ⟨res, hres, hst⟩

/-- No node that answers from the state brings results. -/
theorem executionResults_answer {st : IncidentState} {clock : Clock} {u : NodeUpdate} {reply : Reply}
    (ha : Answers policyEngine st clock u reply) : (u.apply st).executionResults = st.executionResults := by
  cases reply with
  | supervisor plan =>
    cases ha
    rfl
  | joinEvidence =>
    cases ha
    rfl
  | rca output =>
    cases ha
    rfl
  | critic verdict => rcases criticNode_cases ha with ⟨-, rfl⟩ | ⟨h, c, event, -, -, -, rfl⟩ <;> rfl
  | remediationPlanning rawPlan =>
    cases ha
    unfold remediationPlanningNode
    split <;> rfl
  | analyst a output => exact ha.elim
  | verification assessment => exact ha.elim
  | raises n exc => exact ha.elim

theorem results_move {results results' : List ActionExecutionResult} {p p' : Position} {s s' : Workflow W}
    {l : Label W} (hI : ResultsInv results s p) (hR : results' = results ++ s.returned l)
    (hm : Move policyEngine p s l p' s') : ResultsInv results' s' p' := by
  cases hm with
  | world w =>
    obtain rfl : results' = results := hR.trans (List.append_nil _)
    cases p <;> exact hI
  | collect a output clock hr =>
    obtain rfl : results' = results := hR.trans (List.append_nil _)
    exact ⟨hI.1.concat rfl (by simp), hI.2⟩
  | answer reply clock u ha =>
    obtain rfl : results' = results := hR.trans (List.append_nil _)
    have hsame := executionResults_answer ha
    cases reply with
    | analyst a output => exact ha.elim
    | verification assessment => exact ha.elim
    | raises n exc => exact ha.elim
    | _ => exact ⟨hI.1.concat hsame (by simp [Reply.node]), hI.2⟩
  | verify assessment clock out u ho hu =>
    obtain rfl : results' = results := hR.trans (List.append_nil _)
    obtain ⟨tl, rfl⟩ := verificationNode_ok (ho ▸ hu)
    simp only [ResultsInv, state_conclude, graph_record, streamed_conclude, streamed_record]
    refine ⟨?_, hI.planned, hI.results⟩
    rw [List.map_append]
    exact List.mem_append_left _ hI.returned
  | verifyRaises assessment clock out exc ho hu =>
    obtain rfl : results' = results := hR.trans (List.append_nil _)
    have hbehind : Behind results' s.graph.state s.streamed := hI
    exact .inr (by simpa using hbehind)
  | raises n exc clock hp hc =>
    obtain rfl : results' = results := hR.trans (List.append_nil _)
    rcases hp with rfl | rfl
    · exact .inl hI.1
    · cases n with
      | verification => exact .inr hI
      | _ => exact .inl hI.1
  | act clock action out res hi ho hres =>
    obtain ⟨hahead, hframe, hplanned⟩ := hI
    have hreturned : s.returned (.execute clock) = [res] := by
      simp [returned, hi, ho, hres, Except.toOption]
    rw [hreturned] at hR
    simp only [ResultsInv, graph_record, streamed_record]
    refine ⟨hahead, by rw [hR, hframe], fun r hr => ?_⟩
    rw [hR] at hr
    rcases List.mem_append.1 hr with hold | hnew
    · exact hplanned r hold
    · obtain rfl := List.mem_singleton.1 hnew
      exact ⟨action, List.mem_of_getElem? hi, Runner.actionId_executeAction (ho ▸ hres)⟩
  | actRaises clock action out exc hi ho hres => exact .inl (by simpa using hI.1)
  | executed clock hi =>
    have hreturned : s.returned (.execute clock) = [] := by simp [returned, hi]
    obtain rfl : results' = results := by simpa [hreturned] using hR
    obtain ⟨hahead, rfl, hplanned⟩ := hI
    exact behind_executionUpdate hahead hplanned s.frame.events
  | join order st' hc ha =>
    obtain rfl : results' = results := hR.trans (List.append_nil _)
    exact ⟨hI.1.collected hc, hI.2⟩
  | advance n u order hn hw =>
    obtain rfl : results' = results := hR.trans (List.append_nil _)
    cases n with
    | analyst a => exact absurd ⟨a, rfl⟩ hn
    | critic =>
      simp only [Position.after]
      cases routeCriticDecision (u.apply s.graph.state) with
      | supervisor => exact hI
      | remediation => exact hI
      | complete => exact .inl hI.1
    | remediationPlanning =>
      obtain ⟨hahead, rfl⟩ := hI
      exact ⟨hahead, rfl, fun res hres => (List.not_mem_nil hres).elim⟩
    | verification => exact .inr hI
    | _ => exact hI

end

end Workflow

end OpsPilot
