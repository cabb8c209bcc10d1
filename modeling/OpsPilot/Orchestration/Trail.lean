import OpsPilot.Orchestration.CriticGate
import OpsPilot.Orchestration.Updates
/-!
# The audit trail

The timeline that a completed run leaves behind is a word over the stages: one block for every
round of investigation, and a closing block if the critic approved. `TrailInv` says, position by
position, how much of the word is written; the analysts write in any order, but each of them writes
the same stage.
-/
namespace OpsPilot

/-- What the trail says about an event: its stage, and the action it is about. -/
abbrev Mark := IncidentStage × Option Json

def TimelineEvent.mark (e : TimelineEvent) : Mark := (e.stage, Dict.look "action_id" e.metadata)

def IncidentState.trail (st : IncidentState) : List Mark := st.timeline.map TimelineEvent.mark

def NodeUpdate.marks (u : NodeUpdate) : List Mark := u.timelineEvents.map TimelineEvent.mark

theorem NodeUpdate.trail_apply (u : NodeUpdate) (st : IncidentState) :
    (u.apply st).trail = st.trail ++ u.marks := by
  rw [IncidentState.trail, timeline_apply, List.map_append]
  rfl

/-! ## The words -/

/-- What a round writes before its RCA. -/
def opening : List Mark := (.planning, none) :: List.replicate 4 (.investigating, none)

/-- What a round with this output of the RCA writes. -/
def roundMarks (output : RCAAgentOutput) : List Mark :=
  opening ++ [(.analyzing, none)] ++ (if output.hypotheses = [] then [] else [(.critiquing, none)])

def executedMarks (actions : List RemediationAction) : List Mark :=
  actions.map fun action => (.executing, some (.str action.actionId))

/-- The outputs of the RCA, one for each round. -/
def rcaOutputs (H : List Reply) : List RCAAgentOutput := H.filterMap fun
  | .rca output => some output
  | _ => none

/-- The last critique is an approval. -/
def IncidentState.approvedLast (st : IncidentState) : Bool :=
  st.critique.any fun c => c.decision = .approve

/-- `verification_node` was told to roll back and there was an action to roll back. -/
def rollbackAttempted (st : IncidentState) (H : List Reply) : Bool := H.any fun
  | .verification assessment => (rollbackTarget st assessment).isSome
  | _ => false

/-- The stages of a round. -/
def roundStages (output : RCAAgentOutput) : List IncidentStage :=
  [.planning, .investigating, .investigating, .investigating, .investigating, .analyzing] ++
    (if output.hypotheses = [] then [] else [.critiquing])

/-- The stages after the last round. -/
def closingStages (st : IncidentState) (H : List Reply) : List IncidentStage :=
  if st.approvedLast then
    [.remediationPlanning] ++ List.replicate st.plannedActions.length .executing ++ [.verifying] ++
      (if rollbackAttempted st H then [.failed] else [])
  else []

def closingMarks (st : IncidentState) (H : List Reply) : List Mark :=
  if st.approvedLast then
    [(.remediationPlanning, none)] ++ executedMarks st.plannedActions ++ [(.verifying, none)] ++
      (if rollbackAttempted st H then [(.failed, none)] else [])
  else []

theorem stages_roundMarks (output : RCAAgentOutput) :
    (roundMarks output).map Prod.fst = roundStages output := by
  unfold roundMarks roundStages
  split <;> rfl

theorem stages_executedMarks (actions : List RemediationAction) :
    (executedMarks actions).map Prod.fst = List.replicate actions.length .executing := by
  rw [executedMarks, List.map_map]
  exact List.map_const'

theorem stages_closingMarks (st : IncidentState) (H : List Reply) :
    (closingMarks st H).map Prod.fst = closingStages st H := by
  unfold closingMarks closingStages
  split
  · rw [List.map_append, List.map_append, List.map_append, stages_executedMarks]
    split <;> rfl
  · rfl

/-- No round executes anything. -/
theorem executing_rounds (outputs : List RCAAgentOutput) :
    (outputs.flatMap roundMarks).filter (fun m => m.1 = .executing) = [] := by
  rw [List.filter_eq_nil_iff]
  intro m hm
  obtain ⟨output, -, hm⟩ := List.mem_flatMap.1 hm
  unfold roundMarks at hm
  split at hm
  · simp [opening] at hm
    rcases hm with rfl | rfl | rfl <;> decide
  · simp [opening] at hm
    rcases hm with rfl | rfl | rfl | rfl <;> decide

theorem executing_executedMarks (actions : List RemediationAction) :
    (executedMarks actions).filter (fun m => m.1 = .executing) = executedMarks actions := by
  rw [List.filter_eq_self]
  intro m hm
  obtain ⟨action, -, rfl⟩ := List.mem_map.1 hm
  rfl

theorem executing_closingMarks {st : IncidentState} (H : List Reply)
    (hplan : st.approvedLast = false → st.plannedActions = []) :
    (closingMarks st H).filter (fun m => m.1 = .executing) = executedMarks st.plannedActions := by
  unfold closingMarks
  split
  · rw [List.filter_append, List.filter_append, List.filter_append, executing_executedMarks]
    split <;> simp
  · rename_i hno
    rw [hplan (by simpa using hno)]
    rfl

/-! ## What the nodes write -/

theorem selectHypothesis_eq_none_iff (output : RCAAgentOutput) :
    selectHypothesis output = none ↔ output.hypotheses = [] := by
  rw [selectHypothesis, Option.or_eq_none_iff, List.head?_eq_none_iff]
  constructor
  · exact And.right
  · intro h
    exact ⟨by rw [h]; rfl, h⟩

theorem route_complete {st : IncidentState} (h : routeCriticDecision st = .complete) :
    st.approvedLast = false := by
  rcases routeCriticDecision_cases st with ⟨-, hr⟩ | ⟨-, hr⟩ | ⟨hno, -⟩
  · cases h.symm.trans hr
  · cases h.symm.trans hr
  · unfold IncidentState.approvedLast
    cases hc : st.critique with
    | none => rfl
    | some c => simpa using hno c hc

/-- Every analyst writes one line about the investigation. -/
theorem marks_analystNode (a : Analyst) (output : AnalystAgentOutput) (clock : Clock) :
    NodeUpdate.marks (a.node output clock) = [(.investigating, none)] := by
  cases a <;> rfl

theorem marks_criticNode [Unicode] {st : IncidentState} {verdict : CritiqueResult} {clock : Clock}
    {u : NodeUpdate} {output : RCAAgentOutput}
    (hs : st.selectedHypothesis = selectHypothesis output)
    (hu : criticNode st (.ok verdict) clock = .ok u) :
    u.marks = if output.hypotheses = [] then [] else [(.critiquing, none)] := by
  rcases criticNode_cases hu with ⟨hnone, rfl⟩ | ⟨h, c, event, hsel, -, ⟨hstage, hmetadata⟩, rfl⟩
  · rw [if_pos ((selectHypothesis_eq_none_iff output).1 (hs.symm.trans hnone))]
    rfl
  · have hne : output.hypotheses ≠ [] := by
      intro hnil
      rw [hsel, (selectHypothesis_eq_none_iff output).2 hnil] at hs
      cases hs
    have hmark : event.mark = (.critiquing, none) := by
      rw [TimelineEvent.mark, hstage, hmetadata]
      rfl
    rw [if_neg hne, ← hmark]
    rfl

theorem marks_verificationNode {W : Type} [Unicode] {st : IncidentState}
    {assessment : VerificationAssessment} {runner : Runner W} {clock : Clock} {u : NodeUpdate}
    (hu : (verificationNode st assessment runner clock).result = .ok u) :
    u.marks =
      (.verifying, none) :: if (rollbackTarget st assessment).isSome then [(.failed, none)] else [] := by
  unfold verificationNode at hu
  cases ht : rollbackTarget st assessment with
  | none =>
    simp only [ht] at hu
    cases hu
    rfl
  | some last =>
    simp only [ht] at hu
    cases hr : (runner.executeRollback last "OPERATOR" clock).result with
    | error exc =>
      simp only [hr] at hu
      cases hu
    | ok res =>
      simp only [hr] at hu
      cases hu
      rfl

/-! ## The trail along a run -/

/-- The incident is investigated: `word` is written, and nothing is planned. -/
structure Investigated (word : List Mark) (st : IncidentState) : Prop where
  trail : st.trail = word
  undecided : Undecided st
  plan : st.remediationPlan = none
  results : st.executionResults = []

/-- The critic has written. -/
structure Judged (word : List Mark) (st : IncidentState) : Prop where
  trail : st.trail = word
  selected : routeCriticDecision st = .remediation → st.selectedHypothesis.isSome
  plan : st.remediationPlan = none
  results : st.executionResults = []

/-- The critic has approved, and nothing is executed. -/
structure Remediating (word : List Mark) (st : IncidentState) : Prop where
  trail : st.trail = word
  approved : st.approvedLast = true
  results : st.executionResults = []

/-- The results and the events of the first actions of the plan. -/
structure Executing (st : IncidentState) (frame : ExecutionFrame) : Prop where
  results : frame.results.map ActionExecutionResult.actionId =
    (st.plannedActions.take frame.results.length).map RemediationAction.actionId
  events : frame.events.map TimelineEvent.mark = executedMarks (st.plannedActions.take frame.results.length)

/-- The plan is executed. -/
structure CarriedOut (word : List Mark) (st : IncidentState) : Prop where
  trail : st.trail = word ++ executedMarks st.plannedActions
  approved : st.approvedLast = true
  results : st.executionResults.map ActionExecutionResult.actionId =
    st.plannedActions.map RemediationAction.actionId

/-- The run is over, after the nodes in `H`. -/
structure Completed (word : List Mark) (H : List Reply) (st : IncidentState) : Prop where
  trail : st.trail = word ++ closingMarks st H
  results : st.executionResults.map ActionExecutionResult.actionId =
    st.plannedActions.map RemediationAction.actionId
  plan : st.approvedLast = false → st.plannedActions = []

theorem Investigated.apply {word more : List Mark} {st : IncidentState} (h : Investigated word st)
    {u : NodeUpdate} (hmarks : u.marks = more) (hcritique : (u.apply st).critique = st.critique)
    (hplan : (u.apply st).remediationPlan = st.remediationPlan)
    (hresults : (u.apply st).executionResults = st.executionResults) :
    Investigated (word ++ more) (u.apply st) where
  trail := by rw [NodeUpdate.trail_apply, h.trail, hmarks]
  undecided := by
    rw [Undecided, hcritique]
    exact h.undecided
  plan := hplan.trans h.plan
  results := hresults.trans h.results

/-- The critic's line completes the round. -/
theorem Investigated.judged [Unicode] {word : List Mark} {st : IncidentState} {H : List Reply}
    {output : RCAAgentOutput} {verdict : CritiqueResult} {clock : Clock} {u : NodeUpdate}
    (h : Investigated (word ++ opening ++ [(.analyzing, none)]) st) (hp : Proposed H st output)
    (hu : criticNode st (.ok verdict) clock = .ok u) :
    Judged (word ++ roundMarks output) (u.apply st) := by
  have hkept : (u.apply st).remediationPlan = st.remediationPlan ∧
      (u.apply st).executionResults = st.executionResults := by
    rcases criticNode_cases hu with ⟨-, rfl⟩ | ⟨h', c, event, -, -, -, rfl⟩
    · exact ⟨rfl, rfl⟩
    · exact ⟨rfl, rfl⟩
  constructor
  · rw [NodeUpdate.trail_apply, h.trail, marks_criticNode hp.selected hu, roundMarks]
    simp only [List.append_assoc]
  · intro hroute
    obtain ⟨h', c, he⟩ := endorsed_of_route hp hu hroute
    rw [he.selected]
    rfl
  · rw [hkept.1, h.plan]
  · rw [hkept.2, h.results]

theorem Remediating.planned [Unicode] {word : List Mark} {st : IncidentState}
    (h : Remediating word st) (hs : st.selectedHypothesis.isSome) (policyEngine : RiskPolicyEngine)
    (rawPlan : RemediationPlan) (clock : Clock) :
    Remediating (word ++ [(.remediationPlanning, none)])
      ((remediationPlanningNode policyEngine st rawPlan clock).apply st) := by
  obtain ⟨hypothesis, hsel⟩ := Option.isSome_iff_exists.1 hs
  have hmarks : NodeUpdate.marks (remediationPlanningNode policyEngine st rawPlan clock) =
      [(.remediationPlanning, none)] := by
    simp only [remediationPlanningNode, hsel]
    rfl
  constructor
  · rw [NodeUpdate.trail_apply, h.trail, hmarks]
  · simp only [remediationPlanningNode, hsel]
    exact h.approved
  · simp only [remediationPlanningNode, hsel]
    exact h.results

/-- The next action. -/
theorem Executing.act {st : IncidentState} {frame : ExecutionFrame} (h : Executing st frame)
    {action : RemediationAction} (hi : st.plannedActions[frame.results.length]? = some action)
    {res : ActionExecutionResult} (hres : res.actionId = action.actionId) (clock : Clock) :
    Executing st
      { results := frame.results ++ [res], events := frame.events ++ [executionEvent action res clock] } := by
  have htake : st.plannedActions.take (frame.results ++ [res]).length =
      st.plannedActions.take frame.results.length ++ [action] := by
    rw [List.length_append, List.length_singleton, List.take_add_one, hi]
    rfl
  constructor
  · rw [htake, List.map_append, List.map_append, h.results]
    simp [hres]
  · rw [htake, List.map_append, h.events, executedMarks, executedMarks, List.map_append]
    rfl

/-- The return of `execution_node`, with an empty plan too. -/
theorem Executing.executed {word : List Mark} {st : IncidentState} {frame : ExecutionFrame}
    (h : Executing st frame) (hr : Remediating word st)
    (hi : st.plannedActions[frame.results.length]? = none) :
    CarriedOut word ((executionUpdate st frame.results frame.events).apply st) := by
  have hall : st.plannedActions.take frame.results.length = st.plannedActions :=
    List.take_of_length_le (List.getElem?_eq_none_iff.1 hi)
  obtain ⟨hresults, hevents⟩ := h
  rw [hall] at hresults hevents
  unfold executionUpdate
  split
  · rename_i hempty
    have hnil : st.plannedActions = [] := List.isEmpty_iff.1 hempty
    constructor
    · show st.trail = word ++ executedMarks st.plannedActions
      rw [hr.trail, hnil]
      exact (List.append_nil _).symm
    · exact hr.approved
    · show st.executionResults.map _ = st.plannedActions.map _
      rw [hr.results, hnil]
      rfl
  · constructor
    · show (NodeUpdate.apply st _).trail = word ++ executedMarks st.plannedActions
      rw [NodeUpdate.trail_apply, hr.trail, ← hevents]
      simp [NodeUpdate.marks, NodeUpdate.timelineEvents, FieldUpdate.timelineEvents]
    · exact hr.approved
    · exact hresults

/-- The verification, the only one of the run. -/
theorem CarriedOut.completed {W : Type} [Unicode] {word : List Mark} {st : IncidentState}
    (h : CarriedOut (word ++ [(.remediationPlanning, none)]) st)
    {assessment : VerificationAssessment} {runner : Runner W} {clock : Clock} {u : NodeUpdate}
    (hu : (verificationNode st assessment runner clock).result = .ok u) {H : List Reply}
    (hH : ∀ a, .verification a ∉ H) :
    Completed word (H ++ [.verification assessment]) (u.apply st) := by
  have hkept : (u.apply st).plannedActions = st.plannedActions ∧ (u.apply st).approvedLast = st.approvedLast ∧
      (u.apply st).executionResults = st.executionResults := by
    obtain ⟨tl, rfl⟩ := verificationNode_ok hu
    exact ⟨rfl, rfl, rfl⟩
  obtain ⟨hplan, happ, hres⟩ := hkept
  have htarget : rollbackTarget (u.apply st) assessment = rollbackTarget st assessment := by
    rw [rollbackTarget, hplan]
    rfl
  have hbefore : rollbackAttempted (u.apply st) H = false := by
    rw [rollbackAttempted, List.any_eq_false]
    intro reply hmem
    cases reply with
    | verification a => exact absurd hmem (hH a)
    | _ => simp
  have hattempted : rollbackAttempted (u.apply st) (H ++ [.verification assessment]) =
      (rollbackTarget st assessment).isSome := by
    rw [rollbackAttempted, List.any_append]
    rw [rollbackAttempted] at hbefore
    rw [hbefore, Bool.false_or, ← htarget]
    simp
  constructor
  · rw [NodeUpdate.trail_apply, h.trail, marks_verificationNode hu, closingMarks, happ, h.approved, if_pos rfl, hplan,
      hattempted]
    simp only [List.append_assoc, List.cons_append, List.nil_append]
  · rw [hres, hplan, h.results]
  · intro hno
    rw [happ, h.approved] at hno
    cases hno

namespace Workflow

variable {W : Type}

/-- The words of the rounds so far, after what the timeline held before the run. -/
def written (st : IncidentState) (H : List Reply) : List Mark :=
  st.trail ++ (rcaOutputs H).flatMap roundMarks

theorem written_concat (st : IncidentState) (H : List Reply) (reply : Reply) :
    written st (H ++ [reply]) = written st H ++ (rcaOutputs [reply]).flatMap roundMarks := by
  rw [written, rcaOutputs, List.filterMap_append, List.flatMap_append, ← List.append_assoc]
  rfl

/-- Only the RCA opens a new block. -/
theorem written_quiet (st : IncidentState) (H : List Reply) {reply : Reply}
    (h : rcaOutputs [reply] = []) : written st (H ++ [reply]) = written st H := by
  rw [written_concat, h]
  exact List.append_nil _

theorem written_rca (st : IncidentState) (H : List Reply) (output : RCAAgentOutput) :
    written st (H ++ [.rca output]) = written st H ++ roundMarks output := by
  rw [written_concat]
  exact congrArg _ (List.append_nil _)

/-- The RCA has written: its block lacks the line of the critic. -/
def Analyzed (st : IncidentState) (H : List Reply) (st' : IncidentState) : Prop :=
  ∃ before output, H = before ++ [.rca output] ∧
    Investigated (written st before ++ opening ++ [(.analyzing, none)]) st' ∧ Proposed H st' output

/-- Position by position, after the nodes in `H`; what a node has written counts. -/
def TrailInv (st : IncidentState) (H : List Reply) (s : Workflow W) : Position → Prop
  | .waiting .supervisor => Investigated (written st H) s.graph.state
  | .wrote .supervisor u => Investigated (written st H ++ [(.planning, none)]) (u.apply s.graph.state)
  | .fanOut => Investigated (written st H ++ [(.planning, none)]) s.graph.state
  | .waiting .joinEvidence | .waiting .rca => Investigated (written st H ++ opening) s.graph.state
  | .wrote .joinEvidence u => Investigated (written st H ++ opening) (u.apply s.graph.state)
  | .wrote .rca u => Analyzed st H (u.apply s.graph.state)
  | .waiting .critic => Analyzed st H s.graph.state
  | .wrote .critic u => Judged (written st H) (u.apply s.graph.state)
  | .waiting .remediationPlanning =>
    Remediating (written st H) s.graph.state ∧ s.graph.state.selectedHypothesis.isSome
  | .wrote .remediationPlanning u =>
    Remediating (written st H ++ [(.remediationPlanning, none)]) (u.apply s.graph.state)
  | .waiting .execution =>
    Remediating (written st H ++ [(.remediationPlanning, none)]) s.graph.state ∧ Executing s.graph.state s.frame
  | .wrote .execution u => CarriedOut (written st H ++ [(.remediationPlanning, none)]) (u.apply s.graph.state)
  | .waiting .verification => CarriedOut (written st H ++ [(.remediationPlanning, none)]) s.graph.state
  | .wrote .verification u => Completed (written st H) H (u.apply s.graph.state)
  | .ended => s.raised = none → Completed (written st H) H s.graph.state
  | .waiting (.analyst _) | .wrote (.analyst _) _ => False

/-- The analysts have written a line each, in whatever order. -/
theorem trail_join {st : IncidentState} {H : List Reply} {s s' : Workflow W} {order : List Node}
    (hat : s.At .fanOut) (h : Investigated (written st H ++ [(.planning, none)]) s.graph.state)
    (hst : s.advance order = some s') : Investigated (written st H ++ opening) s'.graph.state := by
  obtain ⟨g, hg, rfl⟩ := Option.map_eq_some_iff.1 hst
  obtain ⟨hrun, -, hperm, -, hstate, -⟩ := Superstep.barrier_eq_some hg
  have hstate : g.state = applyAll s.graph.state (Superstep.inOrder order s.graph.writes) := hstate
  have hperm := Superstep.inOrder_perm (nodup_writes hat) hperm
  have hanalyst : ∀ v ∈ Superstep.inOrder order s.graph.writes, ∃ n, AnalystUpdate n v := by
    intro v hv
    obtain ⟨⟨n, u⟩, hmem, rfl⟩ := List.mem_map.1 (hperm.subset hv)
    exact ⟨n, hat.2 n u hmem⟩
  have hlength : (Superstep.inOrder order s.graph.writes).length = 4 := by
    have hactive := hat.1.length_eq
    rw [Superstep.active, hrun, List.nil_append, List.length_map] at hactive
    rw [hperm.length_eq, List.length_map, hactive]
    rfl
  have hmarks : ((Superstep.inOrder order s.graph.writes).flatMap NodeUpdate.timelineEvents).map TimelineEvent.mark =
      List.replicate 4 (.investigating, none) := by
    rw [List.map_flatMap, ← hlength, ← List.map_const', List.map_eq_flatMap]
    refine List.flatMap_congr fun v hv => ?_
    obtain ⟨n, a, output, clock, -, rfl⟩ := hanalyst v hv
    exact marks_analystNode a output clock
  have hcollected := collected_applyAll (Collected.refl s.graph.state) hanalyst
  show Investigated _ g.state
  rw [hstate]
  constructor
  · rw [IncidentState.trail, timeline_applyAll, List.map_append, hmarks]
    show s.graph.state.trail ++ _ = _
    rw [h.trail, List.append_assoc]
    rfl
  · exact h.undecided.collected hcollected
  · obtain ⟨ev, tl, heq⟩ := hcollected
    rw [heq]
    exact h.plan
  · obtain ⟨ev, tl, heq⟩ := hcollected
    rw [heq]
    exact h.results

/-- Where the critic sends the run. -/
theorem trail_route {st : IncidentState} {H : List Reply} {s' : Workflow W} {st' : IncidentState}
    (h : Judged (written st H) st') (hs' : s'.graph.state = st') :
    TrailInv st H s' (.after st' .critic) := by
  simp only [Position.after]
  cases hroute : routeCriticDecision st' with
  | supervisor =>
    obtain ⟨⟨c, hc, hnme⟩, -⟩ := route_supervisor hroute
    show Investigated _ s'.graph.state
    rw [hs']
    refine ⟨h.trail, ?_, h.plan, h.results⟩
    intro c' hc'
    obtain rfl := Option.some.inj (hc.symm.trans hc')
    exact hnme
  | remediation =>
    obtain ⟨c, hc, happ⟩ := route_remediation hroute
    show Remediating _ s'.graph.state ∧ _
    rw [hs']
    refine ⟨⟨h.trail, ?_, h.results⟩, h.selected hroute⟩
    rw [IncidentState.approvedLast, hc, Option.any_some, happ]
    rfl
  | complete =>
    have hno := route_complete hroute
    have hplan : st'.plannedActions = [] := by
      rw [IncidentState.plannedActions, h.plan]
    intro _
    rw [hs']
    refine ⟨?_, ?_, fun _ => hplan⟩
    · rw [h.trail, closingMarks, hno]
      exact (List.append_nil _).symm
    · rw [h.results, hplan]
      rfl

section
variable [Unicode] {policyEngine : RiskPolicyEngine}

/-- A verification ends the run. -/
theorem unverified {st : IncidentState} {runner : Runner W} {as : List (Label W)} {s : Workflow W}
    (hrun : Machine.run (step policyEngine) (init st runner) as = some s) {n : Node}
    (hr : n ∈ s.graph.running) : ∀ a, .verification a ∉ replies as := by
  have hinv : ∃ p, s.At p ∧ ((∃ a, .verification a ∈ replies as) → (∃ u, p = .wrote .verification u) ∨ p = .ended) := by
    refine run_position (J := fun as p _ => (∃ a, .verification a ∈ replies as) →
      (∃ u, p = .wrote .verification u) ∨ p = .ended) ?_ ?_ as s hrun
    · rintro ⟨a, hmem⟩
      cases hmem
    · intro as p s l p' s' _ hJ hm hmem
      cases hm with
      | world w =>
        rw [replies_concat_world] at hmem
        exact hJ hmem
      | collect a output clock hr =>
        rw [replies_concat_finish] at hmem
        simpa using hJ (by simpa using hmem)
      | answer reply clock u ha =>
        rw [replies_concat_finish] at hmem
        cases reply with
        | analyst a output => exact ha.elim
        | verification a => exact ha.elim
        | raises n exc => exact ha.elim
        | _ => simpa using hJ (by simpa using hmem)
      | verify assessment clock out u ho hu => exact .inl ⟨u, rfl⟩
      | verifyRaises assessment clock out exc ho hu => exact .inr rfl
      | raises n exc clock hp hc => exact .inr rfl
      | act clock action out res hi ho hres =>
        rw [replies_concat_execute] at hmem
        exact hJ hmem
      | actRaises clock action out exc hi ho hres => exact .inr rfl
      | executed clock hi =>
        rw [replies_concat_execute] at hmem
        simpa using hJ hmem
      | join order st' hc ha =>
        rw [replies_concat_advance] at hmem
        simpa using hJ hmem
      | advance n u order hn hw =>
        rw [replies_concat_advance] at hmem
        rcases hJ hmem with ⟨u', hp⟩ | hp
        · cases hp
          exact .inr rfl
        · cases hp
  obtain ⟨p, hat, hv⟩ := hinv
  intro a hmem
  rcases hv ⟨a, hmem⟩ with ⟨u, rfl⟩ | rfl
  · rw [hat.1] at hr
    cases hr
  · rw [hat.1] at hr
    cases hr

theorem trail_move {st : IncidentState} {runner : Runner W} {as : List (Label W)} {p p' : Position}
    {s s' : Workflow W} {l : Label W}
    (hrun : Machine.run (step policyEngine) (init st runner) as = some s) (hat : s.At p)
    (hI : TrailInv st (replies as) s p) (hst : s.step policyEngine l = some s')
    (hm : Move policyEngine p s l p' s') : TrailInv st (replies (as ++ [l])) s' p' := by
  cases hm with
  | world w =>
    rw [replies_concat_world]
    exact hI
  | collect a output clock hr =>
    rw [replies_concat_finish]
    show Investigated (written st _ ++ _) _
    rw [written_quiet st _ rfl]
    exact hI
  | answer reply clock u ha =>
    rw [replies_concat_finish]
    cases reply with
    | supervisor plan =>
      cases ha
      show Investigated (written st _ ++ _) _
      rw [written_quiet st _ rfl]
      exact Investigated.apply hI rfl rfl rfl rfl
    | joinEvidence =>
      cases ha
      show Investigated (written st _ ++ _) _
      rw [written_quiet st _ rfl, ← List.append_nil (written st _ ++ opening)]
      exact Investigated.apply hI rfl rfl rfl rfl
    | rca output =>
      cases ha
      have hproposed := proposed_rcaNode (H := replies as) hI.undecided output clock
      exact ⟨_, output, rfl, Investigated.apply hI rfl rfl rfl rfl, hproposed⟩
    | critic verdict =>
      obtain ⟨before, output, hH, hinv, hp⟩ := hI
      show Judged (written st _) _
      rw [written_quiet st _ rfl, hH, written_rca]
      exact hinv.judged hp ha
    | remediationPlanning rawPlan =>
      cases ha
      obtain ⟨hr, hs⟩ := hI
      show Remediating (written st _ ++ _) _
      rw [written_quiet st _ rfl]
      exact hr.planned hs policyEngine rawPlan clock
    | analyst a output => exact ha.elim
    | verification assessment => exact ha.elim
    | raises n exc => exact ha.elim
  | verify assessment clock out u ho hu =>
    subst ho
    rw [replies_concat_finish]
    show Completed (written st _) _ (u.apply (Workflow.conclude _ _ _).graph.state)
    rw [written_quiet st _ rfl, state_conclude, graph_record]
    refine CarriedOut.completed hI hu (unverified hrun (n := .verification) ?_)
    rw [hat.1]
    exact List.mem_singleton_self _
  | verifyRaises assessment clock out exc ho hu =>
    intro h
    cases h
  | raises n exc clock hp hc =>
    intro h
    cases h
  | act clock action out res hi ho hres =>
    subst ho
    rw [replies_concat_execute]
    obtain ⟨hr, he⟩ := hI
    show Remediating _ (Workflow.record _ _ _ _).graph.state ∧ Executing (Workflow.record _ _ _ _).graph.state _
    rw [graph_record]
    exact ⟨hr, he.act hi (Runner.actionId_executeAction hres) clock⟩
  | actRaises clock action out exc hi ho hres =>
    intro h
    cases h
  | executed clock hi =>
    rw [replies_concat_execute]
    obtain ⟨hr, he⟩ := hI
    exact he.executed hr hi
  | join order st' hc ha =>
    rw [replies_concat_advance]
    exact trail_join hat hI hst
  | advance n u order hn hw =>
    rw [replies_concat_advance]
    cases n with
    | analyst a => exact absurd ⟨a, rfl⟩ hn
    | supervisor => exact hI
    | joinEvidence => exact hI
    | rca => exact hI
    | critic => exact trail_route hI rfl
    | remediationPlanning => exact ⟨hI, ⟨rfl, rfl⟩⟩
    | execution => exact hI
    | verification => exact fun _ => hI

theorem trailInv_run {st : IncidentState} (hfresh : st.Fresh) {runner : Runner W}
    {as : List (Label W)} {s : Workflow W}
    (hrun : Machine.run (step policyEngine) (init st runner) as = some s) :
    ∃ p, s.At p ∧ TrailInv st (replies as) s p := by
  refine Machine.run_induction (P := fun as s => ∃ p, Workflow.At s p ∧ TrailInv st (replies as) s p) ?_ ?_ as s hrun
  · refine ⟨.waiting .supervisor, ⟨rfl, rfl, by rintro ⟨a, ⟨⟩⟩⟩, ?_⟩
    refine ⟨(List.append_nil _).symm, ?_, hfresh.remediationPlan, hfresh.executionResults⟩
    intro c hc
    cases hfresh.critique.symm.trans hc
  · rintro as s l s' hr ⟨p, hat, hI⟩ hst
    obtain ⟨p', hm, hat'⟩ := move_of_step hat hst
    exact ⟨p', hat', trail_move hr hat hI hst hm⟩

theorem continues_run {st : IncidentState} {runner : Runner W} {as : List (Label W)}
    {s : Workflow W} (hrun : Machine.run (step policyEngine) (init st runner) as = some s) :
    Continues st s.graph.state := by
  refine Machine.run_induction (P := fun _ s => Continues st s.graph.state) (Continues.refl st) ?_ as s hrun
  intro as s l s' _ hI hst
  exact hI.trans (continues_step hst)

/-- **The trail conforms**: a run in which nothing was raised appends the stages of its rounds and,
if the critic approved last, those of a remediation; the events of the executions and the results
name the actions of the plan, in its order. -/
theorem trail_conforms {st : IncidentState} (hfresh : st.Fresh) (runner : Runner W)
    (as : List (Label W)) (s : Workflow W)
    (hrun : Machine.run (step policyEngine) (init st runner) as = some s) (hover : s.graph.Over)
    (hok : s.raised = none) :
    ∃ appended, s.graph.state.timeline = st.timeline ++ appended ∧
      appended.map TimelineEvent.stage =
        (rcaOutputs (replies as)).flatMap roundStages ++ closingStages s.graph.state (replies as) ∧
      (appended.filter fun e => e.stage = .executing).map (fun e => Dict.look "action_id" e.metadata) =
        s.graph.state.plannedActions.map (fun action => some (.str action.actionId)) ∧
      s.graph.state.executionResults.map ActionExecutionResult.actionId =
        s.graph.state.plannedActions.map RemediationAction.actionId := by
  obtain ⟨p, hat, hI⟩ := trailInv_run hfresh hrun
  obtain rfl := ended_of_over hat hover
  obtain ⟨htrail, hresults, hplan⟩ := hI hok
  obtain ⟨appended, happended⟩ := (continues_run hrun).2
  have hmarks : appended.map TimelineEvent.mark =
      (rcaOutputs (replies as)).flatMap roundMarks ++ closingMarks s.graph.state (replies as) := by
    rw [IncidentState.trail, ← happended, List.map_append, written, List.append_assoc] at htrail
    exact List.append_cancel_left htrail
  refine ⟨appended, happended.symm, ?_, ?_, hresults⟩
  · have hstages : appended.map TimelineEvent.stage = (appended.map TimelineEvent.mark).map Prod.fst := by
      rw [List.map_map]
      rfl
    rw [hstages, hmarks, List.map_append, List.map_flatMap, stages_closingMarks]
    simp only [stages_roundMarks]
  · have hfilter : (appended.filter fun e => e.stage = .executing).map (fun e => Dict.look "action_id" e.metadata) =
        ((appended.map TimelineEvent.mark).filter fun m => m.1 = .executing).map Prod.snd := by
      rw [List.filter_map, List.map_map]
      rfl
    rw [hfilter, hmarks, List.filter_append, executing_rounds, executing_closingMarks _ hplan, List.nil_append,
      executedMarks, List.map_map]
    rfl

end

/-- A round and a remediation of one action, rolled back. -/
theorem trail_conforms_rolled_back :
    letI := Py.asciiTable
    ∃ s appended, Machine.run (step {}) (init (newIncident 3) restartRunner)
        (investigationRound [bareHypothesis] .approve ++ remediationRound [restartAction "ACT-01"] .degraded true) =
          some s ∧
      s.graph.state.timeline = (newIncident 3).timeline ++ appended ∧
      appended.map TimelineEvent.stage = [.planning, .investigating, .investigating, .investigating, .investigating,
        .analyzing, .critiquing, .remediationPlanning, .executing, .verifying, .failed] := by
  let as : List (Label Unit) :=
    investigationRound [bareHypothesis] .approve ++ remediationRound [restartAction "ACT-01"] .degraded true
  have hend : letI := Py.asciiTable
      ∃ s, Machine.run (step {}) (init (newIncident 3) restartRunner) as = some s ∧
        s.graph.Over ∧ s.raised.isNone ∧
        closingStages s.graph.state (replies as) = [.remediationPlanning, .executing, .verifying, .failed] := by
    decide +kernel
  let _ := Py.asciiTable
  obtain ⟨s, hs, hover, hok, hclosing⟩ := hend
  obtain ⟨appended, happended, hstages, -, -⟩ :=
    trail_conforms (fresh_newIncident 3) restartRunner as s hs hover (Option.isNone_iff_eq_none.1 hok)
  rw [hclosing] at hstages
  exact ⟨s, appended, hs, happended, hstages⟩

end Workflow

end OpsPilot
