import OpsPilot.Agents
import OpsPilot.Safety.ExecutionRunner
/-!
# The nodes of the workflow (`src/orchestration/graph.py`)

A node reads the state and returns a dict of fields; here that is a `NodeUpdate`, the list of
the dict's items in their order. What a language model answers is an argument. The
`InvestigationTask` an analyst node builds only reaches the model, so it is left out; the log
lines are too.

| here | there |
| --- | --- |
| `FieldUpdate.apply`       | the reducers of `IncidentState` (state.py:178) |
| `supervisorNode` …        | `IncidentWorkflow.supervisor_node` … (graph.py:54) |
| `executionUpdate`         | what `execution_node` returns; its loop is in `Workflow.execute` |
| `routeCriticDecision`     | `IncidentWorkflow.route_critic_decision` (graph.py:330) |
-/
namespace OpsPilot

/-- The nodes of graph.py:351. -/
inductive Node where
  | supervisor
  | analyst (a : Analyst)
  | joinEvidence | rca | critic | remediationPlanning | execution | verification
deriving DecidableEq

def Node.name : Node → String
  | supervisor => "supervisor"
  | analyst a => a.name
  | joinEvidence => "join_evidence"
  | rca => "rca"
  | critic => "critic"
  | remediationPlanning => "remediation_planning"
  | execution => "execution"
  | verification => "verification"

/-- One item of the dict a node returns. -/
inductive FieldUpdate where
  | currentStage (v : IncidentStage)
  | investigationTasks (v : List InvestigationTask)
  | evidence (v : List Evidence)
  | hypotheses (v : List Hypothesis)
  | selectedHypothesis (v : Option Hypothesis)
  | critique (v : CritiqueResult)
  | remediationPlan (v : RemediationPlan)
  | pendingApprovals (v : List RemediationAction)
  | executionResults (v : List ActionExecutionResult)
  | verification (v : VerificationAssessment)
  | timeline (v : List TimelineEvent)
  | iterationCount (v : Int)

/-- `operator.add` reduces `evidence` and `timeline`, every other field takes the last value. -/
def FieldUpdate.apply (st : IncidentState) : FieldUpdate → IncidentState
  | currentStage v => { st with currentStage := v }
  | investigationTasks v => { st with investigationTasks := v }
  | evidence v => { st with evidence := st.evidence ++ v }
  | hypotheses v => { st with hypotheses := v }
  | selectedHypothesis v => { st with selectedHypothesis := v }
  | critique v => { st with critique := some v }
  | remediationPlan v => { st with remediationPlan := some v }
  | pendingApprovals v => { st with pendingApprovals := v }
  | executionResults v => { st with executionResults := v }
  | verification v => { st with verification := some v }
  | timeline v => { st with timeline := st.timeline ++ v }
  | iterationCount v => { st with iterationCount := v }

abbrev NodeUpdate := List FieldUpdate

def NodeUpdate.apply (st : IncidentState) (u : NodeUpdate) : IncidentState :=
  u.foldl FieldUpdate.apply st

@[simp] theorem NodeUpdate.apply_nil (st : IncidentState) : NodeUpdate.apply st [] = st := rfl

@[simp] theorem NodeUpdate.apply_cons (st : IncidentState) (f : FieldUpdate) (u : NodeUpdate) :
    NodeUpdate.apply st (f :: u) = NodeUpdate.apply (f.apply st) u := rfl

theorem NodeUpdate.apply_induction {P : IncidentState → Prop} {u : NodeUpdate} {st : IncidentState}
    (h0 : P st) (hs : ∀ f ∈ u, ∀ st, P st → P (f.apply st)) : P (u.apply st) := by
  induction u generalizing st with
  | nil => exact h0
  | cons f u ih =>
    exact ih (hs f List.mem_cons_self st h0) fun g hg => hs g (List.mem_cons_of_mem f hg)

/-- No update touches the bound. -/
@[simp] theorem FieldUpdate.maxIterations_apply (f : FieldUpdate) (st : IncidentState) :
    (f.apply st).maxIterations = st.maxIterations := by
  cases f <;> rfl

@[simp] theorem NodeUpdate.maxIterations_apply (u : NodeUpdate) (st : IncidentState) :
    (u.apply st).maxIterations = st.maxIterations :=
  apply_induction (P := fun st' => st'.maxIterations = st.maxIterations) rfl fun f _ st' h =>
    (f.maxIterations_apply st').trans h

/-! ## Investigation -/

/-- graph.py:54 -/
def supervisorNode (plan : SupervisorPlan) (clock : Clock) : NodeUpdate :=
  let event : TimelineEvent :=
    { timestamp := clock.now 3, stage := .planning, actor := "SupervisorAgent",
      message := s!"Investigation planned with {plan.tasks.length} targeted tasks.",
      metadata := [("tasks", .arr (plan.tasks.map InvestigationTask.modelDump))] }
  [.currentStage .planning, .investigationTasks plan.tasks, .timeline [event]]

/-- What the four analyst nodes share: the evidence and one line in the timeline. -/
def analystNode (actor analysis items : String) (output : AnalystAgentOutput) (clock : Clock) :
    NodeUpdate :=
  let event : TimelineEvent :=
    { timestamp := clock.now 3, stage := .investigating, actor := actor,
      message := s!"{analysis} analysis completed. Found {output.evidenceItems.length} {items}." }
  [.evidence output.evidenceItems, .timeline [event]]

/-- graph.py:72 -/
def logAnalystNode : AnalystAgentOutput → Clock → NodeUpdate :=
  analystNode "LogAnalystAgent" "Log" "evidence items"

/-- graph.py:96 -/
def metricsAnalystNode : AnalystAgentOutput → Clock → NodeUpdate :=
  analystNode "MetricsAnalystAgent" "Metrics" "evidence items"

/-- graph.py:120 -/
def codeAnalystNode : AnalystAgentOutput → Clock → NodeUpdate :=
  analystNode "CodeAnalystAgent" "Code & Deploy" "evidence items"

/-- graph.py:144 -/
def memoryAnalystNode : AnalystAgentOutput → Clock → NodeUpdate :=
  analystNode "IncidentMemoryAgent" "Memory" "historical evidence items"

def Analyst.node : Analyst → AnalystAgentOutput → Clock → NodeUpdate
  | log => logAnalystNode
  | metrics => metricsAnalystNode
  | code => codeAnalystNode
  | memory => memoryAnalystNode

/-- graph.py:169 -/
def joinEvidenceNode : NodeUpdate := [.currentStage .investigating]

/-- The hypothesis of the primary id, else the first one (graph.py:181). -/
def selectHypothesis (output : RCAAgentOutput) : Option Hypothesis :=
  (output.hypotheses.find? fun h => h.id == output.primaryHypothesisId).or output.hypotheses.head?

/-- graph.py:174 -/
def rcaNode (output : RCAAgentOutput) (clock : Clock) : NodeUpdate :=
  let selectedHypo := selectHypothesis output
  let title := match selectedHypo with
    | some h => h.title
    | none => "None"
  let event : TimelineEvent :=
    { timestamp := clock.now 3, stage := .analyzing, actor := "RCAAgent",
      message := s!"Generated {output.hypotheses.length} hypotheses. Selected: '" ++ title ++ "'" }
  [.currentStage .analyzing, .hypotheses output.hypotheses, .selectedHypothesis selectedHypo,
    .timeline [event]]

/-- graph.py:202. Without a hypothesis the critique and the counter stay as they are. -/
def criticNode [Unicode] (st : IncidentState) (verdict : Except PyException CritiqueResult)
    (clock : Clock) : Except PyException NodeUpdate :=
  match st.selectedHypothesis with
  | none => .ok [.currentStage .critiquing]
  | some hypothesis => do
    let critique ← CriticAgent.critique hypothesis st.evidence verdict
    let event : TimelineEvent :=
      { timestamp := clock.now 3, stage := .critiquing, actor := "CriticAgent",
        message := s!"Critic decision: {critique.decision.name}. Notes: {Py.take critique.critiqueNotes 100}..." }
    .ok [.currentStage .critiquing, .critique critique, .timeline [event],
      .iterationCount (st.iterationCount + 1)]

inductive Route where
  | supervisor | remediation | complete
deriving DecidableEq

/-- graph.py:330 -/
def routeCriticDecision (st : IncidentState) : Route :=
  match st.critique with
  | some critique =>
    if critique.decision = .needsMoreEvidence ∧ st.iterationCount < st.maxIterations then .supervisor
    else if critique.decision = .approve then .remediation
    else .complete
  | none => .complete

/-! ## Remediation -/

/-- graph.py:224 -/
def remediationPlanningNode [Unicode] (policyEngine : RiskPolicyEngine) (st : IncidentState)
    (rawPlan : RemediationPlan) (clock : Clock) : NodeUpdate :=
  match st.selectedHypothesis with
  | none => [.currentStage .failed]
  | some hypothesis =>
    let plan := RemediationAgent.planRemediation policyEngine st.incidentId hypothesis rawPlan
    let event : TimelineEvent :=
      { timestamp := clock.now 3, stage := .remediationPlanning, actor := "RemediationAgent",
        message := s!"Formulated remediation plan with {plan.actions.length} actions. Summary: {plan.summary}",
        metadata := [("actions", .arr (plan.actions.map RemediationAction.modelDump))] }
    [.currentStage .remediationPlanning, .remediationPlan plan,
      .pendingApprovals (plan.actions.filter RemediationAction.requiresApproval), .timeline [event]]

/-- graph.py:262 -/
def executionEvent (action : RemediationAction) (res : ActionExecutionResult) (clock : Clock) :
    TimelineEvent :=
  { timestamp := clock.now 3, stage := .executing, actor := "ExecutionRunner",
    message := s!"Action [{action.actionId}] status: {res.status.name}. Output: {res.output}",
    metadata := [("action_id", .str action.actionId), ("duration_ms", .float res.durationMs)] }

/-- What `execution_node` returns, after the results and events of its loop (graph.py:250). -/
def executionUpdate (st : IncidentState) (results : List ActionExecutionResult)
    (events : List TimelineEvent) : NodeUpdate :=
  if st.plannedActions.isEmpty then [.currentStage .failed]
  else [.currentStage .executing, .executionResults results, .timeline events]

/-- The action that is rolled back: the last one of the plan, if the assessment asks for it
(graph.py:305). -/
def rollbackTarget (st : IncidentState) (assessment : VerificationAssessment) :
    Option RemediationAction :=
  if assessment.rollbackRecommended then st.plannedActions.getLast? else none

/-- What a node that uses the runner leaves behind. -/
structure NodeOutcome (W : Type) where
  runner : Runner W
  result : Except PyException NodeUpdate
  call : Option ToolCall := none

/-- graph.py:277 -/
def verificationNode {W : Type} [Unicode] (st : IncidentState) (assessment : VerificationAssessment)
    (runner : Runner W) (clock : Clock) : NodeOutcome W :=
  let event : TimelineEvent :=
    { timestamp := clock.now 3, stage := .verifying, actor := "VerificationAgent",
      message := s!"Verification status: {assessment.status.name}. {assessment.explanation}",
      metadata := [("status", .str assessment.status.name),
        ("rollback_recommended", .bool assessment.rollbackRecommended)] }
  match rollbackTarget st assessment with
  | some lastAction =>
    let out := runner.executeRollback lastAction "OPERATOR" clock
    { runner := out.runner, call := out.call
      result := out.result.map fun rbRes =>
        let rbEvent : TimelineEvent :=
          { timestamp := clock.now 4, stage := .failed, actor := "ExecutionRunner",
            message := s!"Executed automatic rollback for [{lastAction.actionId}]: {rbRes.output}" }
        [.currentStage .failed, .verification assessment, .timeline [event, rbEvent]] }
  | none =>
    let nextStage := if assessment.status = .recovered then .resolved else .investigating
    { runner, result := .ok [.currentStage nextStage, .verification assessment, .timeline [event]] }

/-! ## Where the critic's decision leads -/

theorem routeCriticDecision_cases (st : IncidentState) :
    ((∃ c, st.critique = some c ∧ c.decision = .needsMoreEvidence) ∧ st.iterationCount < st.maxIterations) ∧
        routeCriticDecision st = .supervisor ∨
      (∃ c, st.critique = some c ∧ c.decision = .approve) ∧ routeCriticDecision st = .remediation ∨
      (∀ c, st.critique = some c → c.decision ≠ .approve) ∧ routeCriticDecision st = .complete := by
  unfold routeCriticDecision
  cases hc : st.critique with
  | none =>
    refine .inr (.inr ⟨?_, rfl⟩)
    rintro c ⟨⟩
  | some c =>
    simp only
    split
    · rename_i hmore
      exact .inl ⟨⟨⟨c, rfl, hmore.1⟩, hmore.2⟩, rfl⟩
    · split
      · rename_i happ
        exact .inr (.inl ⟨⟨c, rfl, happ⟩, rfl⟩)
      · rename_i hno
        refine .inr (.inr ⟨?_, rfl⟩)
        rintro c' ⟨⟩
        exact hno

/-! ## What the nodes that can raise write -/

section
variable [Unicode]

/-- The two updates of the critic: with nothing selected it only sets the stage. -/
theorem criticNode_cases {st : IncidentState} {verdict : CritiqueResult} {clock : Clock}
    {u : NodeUpdate} (hu : criticNode st (.ok verdict) clock = .ok u) :
    st.selectedHypothesis = none ∧ u = [.currentStage .critiquing] ∨
      ∃ h c event, st.selectedHypothesis = some h ∧
        CriticAgent.critique h st.evidence (.ok verdict) = .ok c ∧
        (event.stage = .critiquing ∧ event.metadata = []) ∧
        u = [.currentStage .critiquing, .critique c, .timeline [event],
          .iterationCount (st.iterationCount + 1)] := by
  unfold criticNode at hu
  cases hs : st.selectedHypothesis with
  | none =>
    simp only [hs] at hu
    cases hu
    exact .inl ⟨rfl, rfl⟩
  | some h =>
    simp only [hs] at hu
    cases hc : CriticAgent.critique h st.evidence (.ok verdict) with
    | error exc => simp [hc, bind, Except.bind] at hu
    | ok c =>
      simp only [hc] at hu
      cases hu
      exact .inr ⟨h, c, _, rfl, hc, ⟨rfl, rfl⟩, rfl⟩

theorem criticNode_ok (st : IncidentState) (verdict : CritiqueResult) (clock : Clock) :
    ∃ u, criticNode st (.ok verdict) clock = .ok u := by
  unfold criticNode
  cases st.selectedHypothesis with
  | none => exact ⟨_, rfl⟩
  | some h =>
    have hc : ∃ c, CriticAgent.critique h st.evidence (.ok verdict) = .ok c := by
      simp only [CriticAgent.critique]
      split
      · exact ⟨_, rfl⟩
      · exact ⟨_, rfl⟩
    obtain ⟨c, hc⟩ := hc
    simp only [hc]
    exact ⟨_, rfl⟩

/-- The verification raises what the rollback raises, and nothing else. -/
theorem verificationNode_error_iff {W : Type} {st : IncidentState} {a : VerificationAssessment}
    {runner : Runner W} {clock : Clock} {exc : PyException} :
    (verificationNode st a runner clock).result = .error exc ↔
      ∃ last, rollbackTarget st a = some last ∧
        (runner.executeRollback last "OPERATOR" clock).result = .error exc := by
  unfold verificationNode
  cases rollbackTarget st a with
  | none => simp
  | some last =>
    simp only [Option.some.injEq, exists_eq_left']
    cases (runner.executeRollback last "OPERATOR" clock).result with
    | error exc' => simp only [Except.map, Except.error.injEq]
    | ok res => simp [Except.map]

/-- The stage after the verification, and what else it does to the state. -/
theorem verificationNode_ok {W : Type} {st : IncidentState} {a : VerificationAssessment}
    {runner : Runner W} {clock : Clock} {u : NodeUpdate}
    (h : (verificationNode st a runner clock).result = .ok u) :
    ∃ tl, u = [.currentStage
        (if (rollbackTarget st a).isSome then .failed else if a.status = .recovered then .resolved else .investigating),
      .verification a, .timeline tl] := by
  unfold verificationNode at h
  cases ht : rollbackTarget st a with
  | none =>
    simp only [ht] at h
    cases h
    exact ⟨_, by simp; rfl⟩
  | some last =>
    simp only [ht] at h
    cases hr : (runner.executeRollback last "OPERATOR" clock).result with
    | error exc =>
      simp only [hr] at h
      cases h
    | ok res =>
      simp only [hr] at h
      cases h
      exact ⟨_, by simp; rfl⟩

end

end OpsPilot
