import OpsPilot.Orchestration.DefaultReplies
import OpsPilot.Orchestration.EvidenceJoin
import OpsPilot.Safety.Keys
/-!
# Runs of the default wiring

The four items of evidence are found in every round, so the citations are grounded, the critic is asked and
approves, the plan is one rollback of the payment service and the verifier reports a recovery.
`default_run_resolves` is that for any incident, any telemetry, and any change of the tools' world while
the run goes on; `default_run_ends` counts its steps.

`Before`, `After`, `CallsInv` and `level` say position by position what holds; no function of the source
corresponds to them.
-/
namespace OpsPilot

/-! ## What is called -/

namespace Workflow

variable {V : Type}

/-- Nothing has been called yet, and the action will be skipped exactly if `skip`. -/
def Untouched (action : RemediationAction) (skip : Bool) (s : Workflow (DefaultWorld V)) : Prop :=
  s.audit = [] ∧ s.runner.skips action = skip

/-- The tool of the action has been called once, unless the action was skipped. -/
def Called (action : RemediationAction) (skip : Bool) (s : Workflow (DefaultWorld V)) : Prop :=
  s.audit.map (fun i => (i.phase, i.action, i.call.toolName)) =
    if skip then [] else [(.execute, action, "rollback_deployment")]

/-- The calls, position by position. -/
def CallsInv (action : RemediationAction) (skip : Bool) (s : Workflow (DefaultWorld V)) : Position → Prop
  | .waiting .execution =>
    s.frame.results = [] ∧ Untouched action skip s ∨
      (∃ res, s.frame.results = [res] ∧ res.actionId = "ACT-ROLLBACK-01") ∧ Called action skip s
  | .wrote .execution _ | .waiting .verification | .wrote .verification _ | .ended => Called action skip s
  | _ => Untouched action skip s

/-- The execution of the action. -/
theorem called_act {s : Workflow (DefaultWorld V)} {action : RemediationAction} {skip : Bool}
    {out : Outcome (DefaultWorld V)} {frame : ExecutionFrame} (h : Untouched action skip s)
    (hplan : s.graph.state.plannedActions[0]? = some action)
    (hcall : out.call.map ToolCall.toolName = if s.runner.skips action then none else some "rollback_deployment") :
    Called action skip { record { s with runner := out.runner } .execute 0 out.call with frame } := by
  rw [h.2] at hcall
  unfold Called record
  cases skip with
  | true =>
    have hnone : out.call = none := Option.map_eq_none_iff.1 hcall
    simp [hnone, h.1]
  | false =>
    obtain ⟨call, hsome, hname⟩ := Option.map_eq_some_iff.1 hcall
    simp [hsome, hplan, hname, h.1]

theorem runner_record (s : Workflow (DefaultWorld V)) (phase : Invocation.Phase) (index : Nat)
    (call : Option ToolCall) : (record s phase index call).runner = s.runner := by
  unfold record
  split <;> rfl

/-- A step of the workflow itself. -/
def Label.own : Label (DefaultWorld V) → Bool
  | .world _ => false
  | _ => true

/-- The own steps of a run. -/
def ownSteps (as : List (Label (DefaultWorld V))) : Nat := as.countP Label.own

theorem ownSteps_concat (as : List (Label (DefaultWorld V))) (l : Label (DefaultWorld V)) :
    ownSteps (as ++ [l]) = ownSteps as + if l.own then 1 else 0 := by
  simp [ownSteps, List.countP_append, List.countP_cons]

/-- What has been reported is in the evidence once the writes are applied. -/
theorem mem_evidence_of_reported {H : List Reply} {s : Workflow (DefaultWorld V)} (hg : Gathered H s)
    (hraised : s.raised = none) (hw : s.graph.writes = []) {a : Analyst} (h : Reported H a) :
    MockLLMProvider.evidenceId a ∈ s.graph.state.evidence.map Evidence.id := by
  obtain ⟨output, hmem, hid⟩ := h
  obtain ⟨ev, hev, heq⟩ := List.mem_map.1 hid
  have hret : ev ∈ H.flatMap Reply.returned := List.mem_flatMap.2 ⟨_, hmem, hev⟩
  have hin := (hg hraised).mem_iff.2 hret
  rw [settled, hw] at hin
  exact List.mem_map.2 ⟨ev, hin, heq⟩

end Workflow

/-! ## What holds along a default run -/

section
variable [UnicodeCase]

/-- The critic has approved the hypothesis, in the first round. -/
structure Approved (st : IncidentState) (h : Hypothesis) : Prop where
  hypothesis : DefaultHypothesis h
  selected : st.selectedHypothesis = some h
  critique : st.critique = some MockLLMProvider.critiqueResult
  iterationCount : st.iterationCount = 1

/-- An approved hypothesis leads to remediation. -/
theorem after_approved {st : IncidentState} {h : Hypothesis} (ha : Approved st h) :
    Position.after st .critic = .waiting .remediationPlanning := by
  simp only [Position.after, routeCriticDecision, ha.critique]
  rfl

variable [Unicode]

/-- The rollback is planned for it, and pending. -/
structure Scheduled (policyEngine : RiskPolicyEngine) (st : IncidentState) (h : Hypothesis) : Prop
    extends Approved st h where
  plannedActions : st.plannedActions = [defaultAction policyEngine st.incidentId]
  pendingApprovals : st.pendingApprovals = [defaultAction policyEngine st.incidentId]

/-- It has been executed, with any result. -/
structure Enacted (policyEngine : RiskPolicyEngine) (st : IncidentState) (h : Hypothesis) : Prop
    extends Scheduled policyEngine st h where
  executionResults : ∃ res, st.executionResults = [res] ∧ res.actionId = "ACT-ROLLBACK-01"

/-- The incident is closed as recovered. -/
structure Closed (policyEngine : RiskPolicyEngine) (st : IncidentState) (h : Hypothesis) : Prop
    extends Enacted policyEngine st h where
  currentStage : st.currentStage = .resolved
  verification : st.verification = some MockLLMProvider.verificationAssessment

/-- What a node finds in a default run, after the replies in `H`. -/
def Before (policyEngine : RiskPolicyEngine) (H : List Reply) (st : IncidentState) : Node → Prop
  | .supervisor | .analyst _ => st.iterationCount = 0
  | .joinEvidence | .rca => st.iterationCount = 0 ∧ ∀ a, Reported H a
  | .critic =>
    (st.iterationCount = 0 ∧ ∀ a, Reported H a) ∧ ∃ h, st.selectedHypothesis = some h ∧ DefaultHypothesis h
  | .remediationPlanning => ∃ h, Approved st h
  | .execution => ∃ h, Scheduled policyEngine st h
  | .verification => ∃ h, Enacted policyEngine st h

/-- What it leaves behind. -/
def After (policyEngine : RiskPolicyEngine) (H : List Reply) (st : IncidentState) : Node → Prop
  | .supervisor | .analyst _ => st.iterationCount = 0
  | .joinEvidence => Before policyEngine H st .rca
  | .rca => Before policyEngine H st .critic
  | .critic => Before policyEngine H st .remediationPlanning
  | .remediationPlanning => Before policyEngine H st .execution
  | .execution => Before policyEngine H st .verification
  | .verification => ∃ h, Closed policyEngine st h

end

section
variable {V S : Type} [Unicode] [UnicodeCase] [LinearOrder S] {toFloat : Rat → PyFloat} {embedder : Embedder V S}
  {now : Nat → Time} {dumpJson : (model : ResponseModel) → model.Parsed → String} {clock : Clock}

namespace Workflow

/-- The state, position by position. -/
def DefaultInv (policyEngine : RiskPolicyEngine) (H : List Reply) (s : Workflow (DefaultWorld V)) : Position → Prop
  | .waiting n => Before policyEngine H s.graph.state n
  | .wrote n u => After policyEngine H (u.apply s.graph.state) n
  | .fanOut => s.graph.state.iterationCount = 0 ∧ ∀ a, .analyst a ∈ s.graph.running ∨ Reported H a
  | .ended => ∃ h, Closed policyEngine s.graph.state h

/-- How many own steps a default run still takes. -/
def level (s : Workflow (DefaultWorld V)) : Position → Nat
  | .waiting .supervisor => 20
  | .wrote .supervisor _ => 19
  | .fanOut => 14 + s.graph.running.length
  | .waiting .joinEvidence => 13
  | .wrote .joinEvidence _ => 12
  | .waiting .rca => 11
  | .wrote .rca _ => 10
  | .waiting .critic => 9
  | .wrote .critic _ => 8
  | .waiting .remediationPlanning => 7
  | .wrote .remediationPlanning _ => 6
  | .waiting .execution => 5 - s.frame.results.length
  | .wrote .execution _ => 3
  | .waiting .verification => 2
  | .wrote .verification _ => 1
  | .waiting (.analyst _) | .wrote (.analyst _) _ | .ended => 0

/-! ## Step by step -/

section
variable {policyEngine : RiskPolicyEngine} {H : List Reply} {s s' : Workflow (DefaultWorld V)}

theorem reported_analyst {st : IncidentState} {a : Analyst} {output : AnalystAgentOutput}
    (h : Answered (defaultLLM dumpJson clock) st (.analyst a output)) (H : List Reply) :
    Reported (H ++ [.analyst a output]) a := by
  obtain ⟨data, hdata⟩ := h
  rw [defaultLLM_eq] at hdata
  obtain rfl := Except.ok.inj hdata
  refine ⟨_, List.mem_append_right H (List.mem_singleton_self _), ?_⟩
  exact MockLLMProvider.mem_map_id_analystOutput (mentions_prompt a st data)

/-- A node that waited has answered. -/
theorem after_answer {reply : Reply} {u : NodeUpdate}
    (hev : ∀ a, Reported H a → MockLLMProvider.evidenceId a ∈ s.graph.state.evidence.map Evidence.id)
    (hI : Before policyEngine H s.graph.state reply.node)
    (hC : AgentsAnswer toFloat embedder now dumpJson s (.finish reply clock))
    (ha : Answers policyEngine s.graph.state clock u reply) :
    After policyEngine (H ++ [reply]) (u.apply s.graph.state) reply.node := by
  cases reply with
  | supervisor plan =>
    cases ha
    exact hI
  | joinEvidence =>
    cases ha
    exact ⟨hI.1, fun a => (hI.2 a).concat _⟩
  | rca output =>
    cases ha
    have hok : defaultLLM dumpJson clock _ .rcaAgentOutput = .ok output := (answered hC rfl).2
    rw [defaultLLM_eq] at hok
    obtain rfl := Except.ok.inj hok
    exact ⟨⟨hI.1, fun a => (hI.2 a).concat _⟩, selectHypothesis_rcaOutput _⟩
  | critic verdict =>
    obtain ⟨⟨hcount, hreported⟩, h, hsel, hdefault⟩ := hI
    have hmissing : CriticAgent.missingIds h s.graph.state.evidence = [] :=
      hdefault.grounded fun a => hev a (hreported a)
    have hconsults : Node.critic.consults s.graph.state = true := by
      rw [Node.consults, hsel, Option.any_some, hmissing]
      rfl
    obtain ⟨h', hsel', hok⟩ := (answered hC hconsults).2
    rw [defaultLLM_eq] at hok
    obtain rfl := Except.ok.inj hok
    rcases criticNode_cases ha with ⟨hnone, -⟩ | ⟨h'', c, event, hsel'', hjudge, -, rfl⟩
    · rw [hsel] at hnone
      cases hnone
    · obtain rfl := Option.some.inj (hsel.symm.trans hsel'')
      have hc : c = MockLLMProvider.critiqueResult := by
        rw [CriticAgent.critique, hmissing] at hjudge
        exact (Except.ok.inj hjudge).symm
      refine ⟨h, hdefault, hsel, congrArg some hc, ?_⟩
      show s.graph.state.iterationCount + 1 = 1
      rw [hcount]
      rfl
  | remediationPlanning rawPlan =>
    obtain ⟨h, happroved⟩ := hI
    have hconsults : Node.remediationPlanning.consults s.graph.state = true := by
      rw [Node.consults, happroved.selected]
      rfl
    obtain ⟨h', -, hok⟩ := (answered hC hconsults).2
    rw [defaultLLM_eq] at hok
    obtain rfl := Except.ok.inj hok
    cases ha
    simp only [remediationPlanningNode, happroved.selected]
    refine ⟨h, ⟨happroved.hypothesis, happroved.selected, happroved.critique, happroved.iterationCount⟩, rfl, ?_⟩
    have hpending : (defaultAction policyEngine s.graph.state.incidentId).requiresApproval = true := by
      simp [defaultAction]
    show [defaultAction policyEngine s.graph.state.incidentId].filter RemediationAction.requiresApproval = _
    rw [List.filter_cons_of_pos hpending]
    rfl
  | analyst a output => exact ha.elim
  | verification assessment => exact ha.elim
  | raises n exc => exact ha.elim

/-- The barrier after a node. -/
theorem before_advance {n : Node} {u : NodeUpdate} (hn : ¬ n.IsAnalyst)
    (hI : DefaultInv policyEngine H s (.wrote n u)) :
    DefaultInv policyEngine H
      { s with graph := { state := u.apply s.graph.state,
                          running := (successors (u.apply s.graph.state) n).eraseDups },
               frame := {} } (Position.after (u.apply s.graph.state) n) := by
  cases n with
  | analyst a => exact absurd ⟨a, rfl⟩ hn
  | supervisor =>
    refine ⟨hI, fun a => .inl ?_⟩
    simp only [successors]
    cases a <;> decide
  | critic =>
    obtain ⟨h, happroved⟩ := hI
    rw [after_approved happroved]
    exact ⟨h, happroved⟩
  | joinEvidence => exact hI
  | rca => exact hI
  | remediationPlanning => exact hI
  | execution => exact hI
  | verification => exact hI

/-- The verifier reports a recovery and rolls nothing back. -/
theorem verificationNode_default {assessment : VerificationAssessment} {out : NodeOutcome (DefaultWorld V)}
    (hC : AgentsAnswer toFloat embedder now dumpJson s (.finish (.verification assessment) clock))
    (ho : verificationNode s.graph.state assessment s.runner clock = out) :
    out.runner = s.runner ∧ out.call = none ∧ ∃ tl, out.result = .ok
      [.currentStage .resolved, .verification MockLLMProvider.verificationAssessment, .timeline tl] := by
  obtain ⟨telemetry, hok⟩ := (answered hC rfl).2
  rw [defaultLLM_eq] at hok
  obtain rfl := Except.ok.inj hok
  subst ho
  exact ⟨rfl, rfl, _, rfl⟩

/-- The one action of the plan is the next one only before anything has been executed. -/
theorem eq_of_planned {st : IncidentState} {h : Hypothesis} (hs : Scheduled policyEngine st h)
    {results : List ActionExecutionResult} {action : RemediationAction}
    (hi : st.plannedActions[results.length]? = some action) :
    results = [] ∧ action = defaultAction policyEngine st.incidentId := by
  rw [hs.plannedActions] at hi
  cases results with
  | nil => exact ⟨rfl, (Option.some.inj hi).symm⟩
  | cons res results => cases hi

/-- A step of a run in which the agents answer as the mock does. -/
structure DefaultRun (toFloat : Rat → PyFloat) (embedder : Embedder V S) (now : Nat → Time)
    (policyEngine : RiskPolicyEngine) (st : IncidentState) (skip : Bool) (H : List Reply) (p : Position)
    (s : Workflow (DefaultWorld V)) : Prop where
  raised : s.raised = none
  registry : s.runner.registry = defaultRegistry toFloat embedder now
  incidentId : s.graph.state.incidentId = st.incidentId
  approvalDecisions : s.graph.state.approvalDecisions = st.approvalDecisions
  state : DefaultInv policyEngine H s p
  calls : CallsInv (defaultAction policyEngine st.incidentId) skip s p

variable {st : IncidentState} {skip : Bool} {p p' : Position} {l : Label (DefaultWorld V)}

/-- No step raises. -/
theorem raised_default (hI : DefaultRun toFloat embedder now policyEngine st skip H p s)
    (hC : AgentsAnswer toFloat embedder now dumpJson s l) (hm : Move policyEngine p s l p' s') : s'.raised = none := by
  cases hm with
  | raises n exc clock hp hc => exact absurd rfl ((answered hC hc).1 n exc)
  | verifyRaises assessment clock out exc ho hu =>
    obtain ⟨-, -, tl, hok⟩ := verificationNode_default hC ho
    rw [hok] at hu
    cases hu
  | actRaises clock action out exc hi ho hres =>
    obtain ⟨h, hscheduled⟩ := hI.state
    obtain ⟨-, rfl⟩ := eq_of_planned hscheduled hi
    have hreturns : ∃ res, (s.runner.executeAction (defaultAction policyEngine s.graph.state.incidentId) "OPERATOR"
        clock).result = .ok res := result_defaultAction hI.registry clock
    obtain ⟨res, hok⟩ := hreturns
    rw [ho, hres] at hok
    cases hok
  | act clock action out res hi ho hres => exact (raised_record _ _ _ _).trans hI.raised
  | verify assessment clock out u ho hu => exact (raised_record _ _ _ _).trans hI.raised
  | _ => exact hI.raised

theorem registry_default (hI : DefaultRun toFloat embedder now policyEngine st skip H p s)
    (hC : AgentsAnswer toFloat embedder now dumpJson s l) (hm : Move policyEngine p s l p' s') :
    s'.runner.registry = defaultRegistry toFloat embedder now := by
  cases hm with
  | verify assessment clock out u ho hu =>
    show (record _ _ _ _).runner.registry = _
    rw [runner_record, (verificationNode_default hC ho).1, hI.registry]
  | verifyRaises assessment clock out exc ho hu =>
    show (record _ _ _ _).runner.registry = _
    rw [runner_record, (verificationNode_default hC ho).1, hI.registry]
  | act clock action out res hi ho hres =>
    show (record _ _ _ _).runner.registry = _
    rw [runner_record, ← ho, Runner.registry_executeAction, hI.registry]
  | actRaises clock action out exc hi ho hres =>
    show (record _ _ _ _).runner.registry = _
    rw [runner_record, ← ho, Runner.registry_executeAction, hI.registry]
  | _ => exact hI.registry

/-- A step that does not raise leads from one state of a default run to the next. -/
theorem state_default {as : List (Label (DefaultWorld V))} (hat : s.At p) (hgathered : Gathered (replies as) s)
    (hI : DefaultRun toFloat embedder now policyEngine st skip (replies as) p s)
    (hC : AgentsAnswer toFloat embedder now dumpJson s l) (hraised : s'.raised = none)
    (hst : s.step policyEngine l = some s') (hm : Move policyEngine p s l p' s') :
    DefaultInv policyEngine (replies (as ++ [l])) s' p' := by
  cases hm with
  | world w =>
    rw [replies_concat_world]
    cases p <;> exact hI.state
  | collect a output clock hr =>
    rw [replies_concat_finish]
    refine ⟨hI.state.1, fun b => ?_⟩
    by_cases hb : b = a
    · subst hb
      exact .inr (reported_analyst (answered hC rfl).2 _)
    · rcases hI.state.2 b with hrunning | hreported
      · have hne : Node.analyst b ≠ .analyst a := fun h => hb (Node.analyst.inj h)
        exact .inl ((List.mem_erase_of_ne hne).2 hrunning)
      · exact .inr (hreported.concat _)
  | answer reply clock u ha =>
    rw [replies_concat_finish]
    have hev := fun a => mem_evidence_of_reported (a := a) hgathered hI.raised hat.2.1
    exact after_answer hev hI.state hC ha
  | verify assessment clock out u ho hu =>
    rw [replies_concat_finish]
    obtain ⟨-, -, tl, hok⟩ := verificationNode_default hC ho
    obtain rfl := Except.ok.inj (hok.symm.trans hu)
    obtain ⟨h, hcarried⟩ := hI.state
    simp only [DefaultInv, After, state_conclude, graph_record]
    exact ⟨h, ⟨⟨⟨hcarried.hypothesis, hcarried.selected, hcarried.critique, hcarried.iterationCount⟩,
      hcarried.plannedActions, hcarried.pendingApprovals⟩, hcarried.executionResults⟩, rfl, rfl⟩
  | verifyRaises assessment clock out exc ho hu => cases hraised
  | raises n exc clock hp hc => cases hraised
  | act clock action out res hi ho hres =>
    simp only [DefaultInv, graph_record]
    exact hI.state
  | actRaises clock action out exc hi ho hres => cases hraised
  | executed clock hi =>
    obtain ⟨h, hscheduled⟩ := hI.state
    have hplan := hscheduled.plannedActions
    have hresults : ∃ res, s.frame.results = [res] ∧ res.actionId = "ACT-ROLLBACK-01" := by
      rcases hI.calls with ⟨hnil, -⟩ | ⟨hone, -⟩
      · rw [hplan, hnil] at hi
        cases hi
      · exact hone
    have hne : s.graph.state.plannedActions.isEmpty = false := by
      rw [hplan]
      rfl
    simp only [DefaultInv, After, Before, state_conclude, executionUpdate, hne]
    exact ⟨h, ⟨⟨hscheduled.hypothesis, hscheduled.selected, hscheduled.critique, hscheduled.iterationCount⟩,
      hplan, hscheduled.pendingApprovals⟩, hresults⟩
  | join order st' hc ha =>
    -- nobody runs any more, so everybody has reported
    obtain ⟨g, hg, -⟩ := Option.map_eq_some_iff.1 hst
    have hnone := (Superstep.barrier_eq_some hg).1
    obtain ⟨ev, tl, rfl⟩ := hc
    rw [replies_concat_advance]
    refine ⟨hI.state.1, fun a => ?_⟩
    rcases hI.state.2 a with hrunning | hreported
    · rw [hnone] at hrunning
      cases hrunning
    · exact hreported
  | advance n u order hn hw =>
    rw [replies_concat_advance]
    exact before_advance hn hI.state

theorem calls_default (hI : DefaultRun toFloat embedder now policyEngine st skip H p s)
    (hC : AgentsAnswer toFloat embedder now dumpJson s l) (hraised : s'.raised = none)
    (hm : Move policyEngine p s l p' s') : CallsInv (defaultAction policyEngine st.incidentId) skip s' p' := by
  cases hm with
  | world w =>
    cases p with
    | waiting n => cases n <;> exact hI.calls
    | wrote n u => cases n <;> exact hI.calls
    | _ => exact hI.calls
  | collect a output clock hr => exact hI.calls
  | answer reply clock u ha =>
    have hcalls := hI.calls
    cases reply with
    | analyst a output => exact ha.elim
    | verification assessment => exact ha.elim
    | raises n exc => exact ha.elim
    | _ => exact hcalls
  | verify assessment clock out u ho hu =>
    obtain ⟨-, hcall, -⟩ := verificationNode_default hC ho
    have hcalls : Called _ _ s := hI.calls
    rw [hcall, record_none]
    exact hcalls
  | verifyRaises assessment clock out exc ho hu => cases hraised
  | raises n exc clock hp hc => cases hraised
  | act clock action out res hi ho hres =>
    obtain ⟨h, hscheduled⟩ := hI.state
    obtain ⟨hnil, rfl⟩ := eq_of_planned hscheduled hi
    rw [hnil] at hi
    rw [hI.incidentId] at hi ho
    rcases hI.calls with ⟨-, huntouched⟩ | ⟨⟨res', hone, -⟩, -⟩
    · refine .inr ⟨⟨res, by simp [hnil], ?_⟩, ?_⟩
      · exact Runner.actionId_executeAction (ho ▸ hres)
      · rw [hnil]
        exact called_act huntouched hi (ho ▸ call_defaultAction hI.registry clock)
    · rw [hnil] at hone
      cases hone
  | actRaises clock action out exc hi ho hres => cases hraised
  | executed clock hi =>
    obtain ⟨h, hscheduled⟩ := hI.state
    rcases hI.calls with ⟨hnil, -⟩ | ⟨-, hcalled⟩
    · rw [hscheduled.plannedActions, hnil] at hi
      cases hi
    · exact hcalled
  | join order st' hc ha => exact hI.calls
  | advance n u order hn hw =>
    have hcalls := hI.calls
    cases n with
    | analyst a => exact absurd ⟨a, rfl⟩ hn
    | critic =>
      obtain ⟨h, happroved⟩ := hI.state
      rw [after_approved happroved]
      exact hcalls
    | remediationPlanning => exact .inl ⟨rfl, hcalls⟩
    | execution => exact hcalls
    | verification => exact hcalls
    | _ => exact hcalls

/-! ## How long it takes -/

/-- The barrier leads to the next node, or to the end. -/
theorem level_advance {n : Node} {u : NodeUpdate} (hn : ¬ n.IsAnalyst)
    (hI : DefaultInv policyEngine H s (.wrote n u)) {t : Workflow (DefaultWorld V)} (hframe : t.frame = {})
    (hrunning : t.graph.running = (successors (u.apply s.graph.state) n).eraseDups) :
    level t (Position.after (u.apply s.graph.state) n) + 1 = level s (.wrote n u) := by
  cases n with
  | analyst a => exact absurd ⟨a, rfl⟩ hn
  | supervisor =>
    have hfour : t.graph.running.length = 4 := by
      rw [hrunning]
      show analysts.eraseDups.length = 4
      decide
    show 14 + t.graph.running.length + 1 = 19
    rw [hfour]
  | critic =>
    obtain ⟨h, happroved⟩ := hI
    rw [after_approved happroved]
    rfl
  | remediationPlanning =>
    show 5 - t.frame.results.length + 1 = 6
    rw [hframe]
    rfl
  | _ => rfl

/-- Every step but a change of the world lowers the level by one. -/
theorem level_default (hat : s.At p)
    (hI : DefaultRun toFloat embedder now policyEngine st skip H p s)
    (hraised : s'.raised = none) (hst : s.step policyEngine l = some s') (hm : Move policyEngine p s l p' s') :
    level s' p' + (if l.own then 1 else 0) = level s p := by
  cases hm with
  | world w =>
    cases p with
    | waiting n => cases n <;> rfl
    | _ => rfl
  | collect a output clock hr =>
    have hlen := List.length_erase_of_mem hr
    have hpos := List.length_pos_of_mem hr
    show 14 + (s.graph.running.erase (.analyst a)).length + 1 = 14 + s.graph.running.length
    omega
  | answer reply clock u ha =>
    cases reply with
    | analyst a output => exact ha.elim
    | verification assessment => exact ha.elim
    | raises n exc => exact ha.elim
    | _ => rfl
  | verify assessment clock out u ho hu => rfl
  | verifyRaises assessment clock out exc ho hu => cases hraised
  | raises n exc clock hp hc => cases hraised
  | act clock action out res hi ho hres =>
    obtain ⟨h, hscheduled⟩ := hI.state
    obtain ⟨hnil, -⟩ := eq_of_planned hscheduled hi
    show 5 - (s.frame.results ++ [res]).length + 1 = 5 - s.frame.results.length
    rw [hnil]
    rfl
  | actRaises clock action out exc hi ho hres => cases hraised
  | executed clock hi =>
    obtain ⟨h, hscheduled⟩ := hI.state
    rcases hI.calls with ⟨hnil, -⟩ | ⟨⟨res, hone, -⟩, -⟩
    · rw [hscheduled.plannedActions, hnil] at hi
      cases hi
    · show 3 + 1 = 5 - s.frame.results.length
      rw [hone]
      rfl
  | join order st' hc ha =>
    obtain ⟨g, hg, -⟩ := Option.map_eq_some_iff.1 hst
    show 13 + 1 = 14 + s.graph.running.length
    rw [(Superstep.barrier_eq_some hg).1]
    rfl
  | advance n u order hn hw => exact level_advance hn hI.state rfl rfl

/-- A node other than the execution can finish with what its agent answers, if it asks it. -/
theorem exists_reply (s : Workflow (DefaultWorld V)) {n : Node} (hn : n ≠ .execution) (clock : Clock) :
    ∃ reply : Reply, reply.node = n ∧ reply.possible s.graph.state = true ∧
      AgentsAnswer toFloat embedder now dumpJson s (.finish reply clock) := by
  cases hask : n.ask (defaultRegistry toFloat embedder now) (defaultLLM dumpJson clock) s.graph.state clock with
  | some ask =>
    obtain ⟨-, hmeets⟩ := ask_spec hask
    cases hcall : (ask.call s.runner.world).1 with
    | error exc => exact absurd (hmeets.raises _ exc hcall) (not_llmRaises_default exc)
    | ok reply =>
      obtain ⟨rfl, hanswered⟩ := hmeets.returns _ reply hcall
      have hnot : ∀ m exc, reply ≠ .raises m exc := by
        rintro m exc rfl
        exact not_llmRaises_default exc hanswered
      refine ⟨reply, rfl, ?_, fun ask' hask' => ?_⟩
      · cases reply with
        | raises m exc => exact absurd rfl (hnot m exc)
        | _ => rfl
      · obtain rfl := Option.some.inj (hask.symm.trans hask')
        rw [hcall]
        cases reply with
        | raises m exc => exact absurd rfl (hnot m exc)
        | _ => rfl
  | none =>
    have hany : ∀ reply : Reply, reply.node = n →
        AgentsAnswer toFloat embedder now dumpJson s (.finish reply clock) := by
      rintro reply rfl ask hask'
      cases hask.symm.trans hask'
    cases n with
    | joinEvidence => exact ⟨.joinEvidence, rfl, rfl, hany _ rfl⟩
    | critic => exact ⟨.critic MockLLMProvider.critiqueResult, rfl, rfl, hany _ rfl⟩
    | remediationPlanning => exact ⟨.remediationPlanning MockLLMProvider.remediationPlan, rfl, rfl, hany _ rfl⟩
    | execution => exact absurd rfl hn
    | supervisor => cases hask
    | analyst a => cases hask
    | rca => cases hask
    | verification => cases hask

/-- Nobody else acts on the world: it may only be read. -/
def Quiet (s : Workflow (DefaultWorld V)) : Label (DefaultWorld V) → Prop
  | .world w => s.runner.world.Unharmed w
  | _ => True

/-- The agents answer as the mock does, and nobody else acts. -/
def Alone (toFloat : Rat → PyFloat) (embedder : Embedder V S) (now : Nat → Time)
    (dumpJson : (model : ResponseModel) → model.Parsed → String) (s : Workflow (DefaultWorld V))
    (l : Label (DefaultWorld V)) : Prop :=
  AgentsAnswer toFloat embedder now dumpJson s l ∧ Quiet s l

/-- Where a run is not over, a node can go on, or the superstep can end. -/
theorem exists_step (hat : s.At p) (hover : ¬ s.graph.Over) (clock : Clock) :
    ∃ l s', l.own = true ∧ Alone toFloat embedder now dumpJson s l ∧ s.step policyEngine l = some s' := by
  have hfinish : ∀ n ∈ s.graph.running, n ≠ .execution → ∃ l s', l.own = true ∧
      Alone toFloat embedder now dumpJson s l ∧ s.step policyEngine l = some s' := by
    intro n hn hne
    have hreply : ∃ reply : Reply, reply.node = n ∧ reply.possible s.graph.state = true ∧
        AgentsAnswer toFloat embedder now dumpJson s (.finish reply clock) := exists_reply s hne clock
    obtain ⟨reply, rfl, hposs, hanswer⟩ := hreply
    have hsome : ∃ s', s.step policyEngine (.finish reply clock) = some s' := by
      simp only [step, finish, hn, hposs, true_and, if_true]
      exact ⟨_, rfl⟩
    obtain ⟨s', hs'⟩ := hsome
    exact ⟨.finish reply clock, s', rfl, ⟨hanswer, trivial⟩, hs'⟩
  have hadvance : s.graph.running = [] → s.graph.writes ≠ [] → ∃ l s', l.own = true ∧
      Alone toFloat embedder now dumpJson s l ∧ s.step policyEngine l = some s' := by
    intro hr hw
    have hsome : ∃ s', s.step policyEngine (.advance (s.graph.writes.map Prod.fst)) = some s' := by
      simp only [step, advance, Superstep.barrier, hr, hw, ne_eq, not_false_eq_true, true_and, List.Perm.refl, if_true,
        Option.map_some]
      exact ⟨_, rfl⟩
    obtain ⟨s', hs'⟩ := hsome
    exact ⟨.advance (s.graph.writes.map Prod.fst), s', rfl, ⟨trivial, trivial⟩, hs'⟩
  cases p with
  | ended => exact absurd hat hover
  | wrote n u => exact hadvance hat.1 (by simp [hat.2.1])
  | fanOut =>
    cases hr : s.graph.running with
    | nil =>
      refine hadvance hr fun hw => ?_
      have hactive := hat.1.length_eq
      simp [Superstep.active, hr, hw, analysts] at hactive
    | cons n running =>
      have hmem : n ∈ s.graph.running := by simp [hr]
      obtain ⟨a, rfl⟩ := isAnalyst_of_mem_fanOut hat hmem
      exact hfinish _ hmem (by simp)
  | waiting n =>
    have hmem : n ∈ s.graph.running := by simp [hat.1]
    by_cases hn : n = .execution
    · subst hn
      have hsome : ∃ s', s.step policyEngine (.execute clock) = some s' := by
        simp only [step, execute, hmem, if_true]
        split
        · split
          · exact ⟨_, rfl⟩
          · exact ⟨_, rfl⟩
        · exact ⟨_, rfl⟩
      obtain ⟨s', hs'⟩ := hsome
      exact ⟨.execute clock, s', rfl, ⟨trivial, trivial⟩, hs'⟩
    · exact hfinish n hmem hn

/-! ## Whole runs -/

/-- A workflow of the default wiring: `keys` are those that its runner has recorded. -/
def defaultInit (toFloat : Rat → PyFloat) (embedder : Embedder V S) (now : Nat → Time) (st : IncidentState)
    (keys : Finset String) (w : DefaultWorld V) : Workflow (DefaultWorld V) :=
  init st { registry := defaultRegistry toFloat embedder now, executedIdempotencyKeys := keys, world := w }

/-- The workflow of a deployment that has executed nothing. -/
def firstRun (st : IncidentState) : Workflow (DefaultWorld Unit) :=
  defaultInit (fun _ => .zero) (alikeEmbedder 0) (fun _ => ⟨0⟩) st ∅ {}

section
variable {keys : Finset String} {w : DefaultWorld V}

theorem default_step {as : List (Label (DefaultWorld V))} (hfresh : st.Fresh)
    (hrun : Machine.run (step policyEngine) (defaultInit toFloat embedder now st keys w) as = some s) (hat : s.At p)
    (hI : DefaultRun toFloat embedder now policyEngine st skip (replies as) p s)
    (hC : AgentsAnswer toFloat embedder now dumpJson s l) (hst : s.step policyEngine l = some s') :
    ∃ p', Move policyEngine p s l p' s' ∧ s'.At p' ∧
      DefaultRun toFloat embedder now policyEngine st skip (replies (as ++ [l])) p' s' ∧
      level s' p' + (if l.own then 1 else 0) = level s p := by
  obtain ⟨p', hm, hat'⟩ := move_of_step hat hst
  have hraised := raised_default hI hC hm
  have hgathered := gathered_run hfresh as s hrun
  refine ⟨p', hm, hat', ⟨hraised, registry_default hI hC hm, ?_, ?_, ?_, calls_default hI hC hraised hm⟩, ?_⟩
  · exact hm.state_induction (P := fun st' => st'.incidentId = st.incidentId)
      (fun f st' h => by cases f <;> exact h) hI.incidentId
  · exact hm.state_induction (P := fun st' => st'.approvalDecisions = st.approvalDecisions)
      (fun f st' h => by cases f <;> exact h) hI.approvalDecisions
  · exact state_default hat hgathered hI hC hraised hst hm
  · exact level_default hat hI hraised hst hm

/-- Whether the run will skip its action. -/
def skipsDefault (policyEngine : RiskPolicyEngine) (st : IncidentState) (keys : Finset String) : Bool :=
  decide ((defaultAction policyEngine st.incidentId).idempotencyKey ∈ keys)

theorem skips_defaultInit :
    (defaultInit toFloat embedder now st keys w).runner.skips (defaultAction policyEngine st.incidentId) =
      skipsDefault policyEngine st keys := by
  have hne : (defaultAction policyEngine st.incidentId).idempotencyKey ≠ "" :=
    policyEngine.idempotencyKey_assess_ne _ _
  rw [Bool.eq_iff_iff, skipsDefault, decide_eq_true_iff, Runner.skips, decide_eq_true_iff]
  exact and_iff_right hne

theorem at_defaultInit : (defaultInit toFloat embedder now st keys w).At (.waiting .supervisor) :=
  ⟨rfl, rfl, by rintro ⟨a, ⟨⟩⟩⟩

theorem defaultRun_init (hfresh : st.Fresh) :
    DefaultRun toFloat embedder now policyEngine st (skipsDefault policyEngine st keys) [] (.waiting .supervisor)
      (defaultInit toFloat embedder now st keys w) :=
  ⟨rfl, rfl, rfl, rfl, hfresh.iterationCount, rfl, skips_defaultInit⟩

theorem run_default (hfresh : st.Fresh) : ∀ as s,
    Machine.run (step policyEngine) (defaultInit toFloat embedder now st keys w) as = some s →
    Machine.Along (step policyEngine) (AgentsAnswer toFloat embedder now dumpJson)
      (defaultInit toFloat embedder now st keys w) as →
    ∃ p, s.At p ∧ DefaultRun toFloat embedder now policyEngine st (skipsDefault policyEngine st keys) (replies as) p s ∧
      ownSteps as + level s p = 20 := by
  refine Machine.run_induction_along ?_ ?_
  · exact ⟨_, at_defaultInit, defaultRun_init hfresh, rfl⟩
  · rintro as s l s' hrun ⟨p, hat, hI, hlevel⟩ hC hst
    obtain ⟨p', -, hat', hI', hstep⟩ := default_step hfresh hrun hat hI hC hst
    refine ⟨p', hat', hI', ?_⟩
    rw [ownSteps_concat]
    omega

/-- At level zero, and nowhere else, the run is over. -/
theorem over_iff_level (hat : s.At p) (hI : DefaultRun toFloat embedder now policyEngine st skip H p s) :
    s.graph.Over ↔ level s p = 0 := by
  constructor
  · intro hover
    obtain rfl := ended_of_over hat hover
    rfl
  · intro hzero
    cases p with
    | ended => exact hat
    | fanOut => simp [level] at hzero
    | wrote n u =>
      cases n with
      | analyst a => exact absurd ⟨a, rfl⟩ hat.2.2
      | _ => cases hzero
    | waiting n =>
      cases n with
      | analyst a => exact absurd ⟨a, rfl⟩ hat.2.2
      | execution =>
        have hlen : s.frame.results.length ≤ 1 := by
          rcases hI.calls with ⟨hnil, -⟩ | ⟨⟨res, hone, -⟩, -⟩
          · simp [hnil]
          · simp [hone]
        simp only [level] at hzero
        omega
      | _ => cases hzero

/-- A default run can be continued to its end, with nobody else acting. -/
theorem exists_rest (hfresh : st.Fresh) {as : List (Label (DefaultWorld V))} {s : Workflow (DefaultWorld V)}
    (hrun : Machine.run (step policyEngine) (defaultInit toFloat embedder now st keys w) as = some s)
    (hC : Machine.Along (step policyEngine) (AgentsAnswer toFloat embedder now dumpJson)
      (defaultInit toFloat embedder now st keys w) as) (clock : Clock) :
    ∃ bs t, bs.length + ownSteps as = 20 ∧ Machine.run (step policyEngine) s bs = some t ∧
      Machine.Along (step policyEngine) (Alone toFloat embedder now dumpJson) s bs ∧ t.graph.Over := by
  let start := defaultInit toFloat embedder now st keys w
  -- the level of a state is told by the run that leads to it
  let I (n : Nat) (s : Workflow (DefaultWorld V)) : Prop := ∃ as, Machine.run (step policyEngine) start as = some s ∧
    Machine.Along (step policyEngine) (AgentsAnswer toFloat embedder now dumpJson) start as ∧ n + ownSteps as = 20
  have hstep : ∀ n s, I (n + 1) s → ∃ l s', Alone toFloat embedder now dumpJson s l ∧
      step policyEngine s l = some s' ∧ I n s' := by
    rintro n s ⟨as, hrun, hC, hn⟩
    obtain ⟨p, hat, hI, hlevel⟩ := run_default hfresh as s hrun hC
    have hover : ¬ s.graph.Over := by
      rw [over_iff_level hat hI]
      omega
    have hnext : ∃ l s', l.own = true ∧ Alone toFloat embedder now dumpJson s l ∧
      s.step policyEngine l = some s' := exists_step hat hover clock
    obtain ⟨l, s', hown, halone, hst⟩ := hnext
    refine ⟨l, s', halone, hst, as ++ [l], Machine.run_concat_some.2 ⟨s, hrun, hst⟩,
      (Machine.along_concat hrun).2 ⟨hC, halone.1⟩, ?_⟩
    rw [ownSteps_concat, hown]
    simp only [if_true]
    omega
  obtain ⟨p, hat, hI, hlevel⟩ := run_default hfresh as s hrun hC
  have hlevel' : level s p + ownSteps as = 20 := by omega
  obtain ⟨bs, t, hlen, hrest, halong, cs, hrunt, hCt, hzero⟩ :=
    Machine.exists_run_of_level hstep (level s p) s ⟨as, hrun, hC, hlevel'⟩
  obtain ⟨q, hatt, hIt, hlevelt⟩ := run_default hfresh cs t hrunt hCt
  exact ⟨bs, t, by omega, hrest, halong, (over_iff_level hatt hIt).2 (by omega)⟩

theorem answers_of_alone {as : List (Label (DefaultWorld V))} {s : Workflow (DefaultWorld V)}
    (h : Machine.Along (step policyEngine) (Alone toFloat embedder now dumpJson) s as) :
    Machine.Along (step policyEngine) (AgentsAnswer toFloat embedder now dumpJson) s as :=
  Machine.along_mono_of_invariant (I := fun _ => True) (fun _ _ _ _ _ _ => trivial) (fun _ _ _ hC => hC.1) trivial h

end

end

end Workflow

end

/-! ## The whole run -/

namespace Workflow

section
variable {V S : Type} [Unicode] [UnicodeCase] [LinearOrder S] {toFloat : Rat → PyFloat} {embedder : Embedder V S}
  {now : Nat → Time} {dumpJson : (model : ResponseModel) → model.Parsed → String} {policyEngine : RiskPolicyEngine}
  {st : IncidentState} {keys : Finset String} {w : DefaultWorld V}

/-- **A default run resolves, whatever the tools say**: nothing is raised, nobody decides on an approval, and at
the end the incident is `RESOLVED` on the one hypothesis and the one rollback of the mock, which is still
pending; the tool of the rollback has been called once, unless its key was recorded before. -/
theorem default_run_resolves (hfresh : st.Fresh) {as : List (Label (DefaultWorld V))} {s : Workflow (DefaultWorld V)}
    (hrun : Machine.run (step policyEngine) (defaultInit toFloat embedder now st keys w) as = some s)
    (hC : Machine.Along (step policyEngine) (AgentsAnswer toFloat embedder now dumpJson)
      (defaultInit toFloat embedder now st keys w) as) :
    s.raised = none ∧ s.graph.state.approvalDecisions = [] ∧
      (s.graph.Over → ∃ h, Closed policyEngine s.graph.state h ∧
        h.title = "Redis Connection Pool Exhaustion from Deployment Configuration" ∧
        s.audit.map (fun i => (i.phase, i.action, i.call.toolName)) =
          if (defaultAction policyEngine st.incidentId).idempotencyKey ∈ keys then []
          else [(.execute, defaultAction policyEngine st.incidentId, "rollback_deployment")]) := by
  obtain ⟨p, hat, hI, -⟩ := run_default hfresh as s hrun hC
  refine ⟨hI.raised, hI.approvalDecisions.trans hfresh.approvalDecisions, fun hover => ?_⟩
  obtain rfl := ended_of_over hat hover
  obtain ⟨h, hclosed⟩ := hI.state
  refine ⟨h, hclosed, hclosed.hypothesis.title, ?_⟩
  have hcalled : Called _ _ s := hI.calls
  rw [hcalled]
  simp only [skipsDefault, decide_eq_true_eq]

end

/-- The first incident of a deployment. -/
theorem default_run_resolves_first :
    letI := Py.asciiTable
    letI := Py.asciiCase
    ∃ as s, Machine.run (step {}) (firstRun (newIncident 3)) as = some s ∧ s.graph.Over ∧
      s.graph.state.currentStage = .resolved ∧ s.audit.map (fun i => i.call.toolName) = ["rollback_deployment"] := by
  let _ := Py.asciiTable
  let _ := Py.asciiCase
  have hrun : Machine.run (step {}) (firstRun (newIncident 3)) [] = some (firstRun (newIncident 3)) := rfl
  have hC : Machine.Along (step {}) (AgentsAnswer (fun _ => .zero) (alikeEmbedder 0) (fun _ => ⟨0⟩) fun _ _ => "")
    (firstRun (newIncident 3)) [] := trivial
  obtain ⟨as, s, -, has, hCas, hover⟩ := exists_rest (fresh_newIncident 3) hrun hC stillClock
  obtain ⟨-, -, hend⟩ := default_run_resolves (fresh_newIncident 3) has (answers_of_alone hCas)
  obtain ⟨h, hclosed, -, haudit⟩ := hend hover
  refine ⟨as, s, has, hover, hclosed.currentStage, ?_⟩
  have hnames := congrArg (List.map fun x : Invocation.Phase × RemediationAction × String => x.2.2) haudit
  rw [List.map_map] at hnames
  exact hnames

section
variable {V S : Type} [Unicode] [UnicodeCase] [LinearOrder S] {toFloat : Rat → PyFloat} {embedder : Embedder V S}
  {now : Nat → Time} {dumpJson : (model : ResponseModel) → model.Parsed → String} {policyEngine : RiskPolicyEngine}
  {st : IncidentState} {keys : Finset String} {w : DefaultWorld V}

/-- **A default run ends after twenty steps of its own**, and it can always be continued to that end. -/
theorem default_run_ends (hfresh : st.Fresh) {as : List (Label (DefaultWorld V))} {s : Workflow (DefaultWorld V)}
    (hrun : Machine.run (step policyEngine) (defaultInit toFloat embedder now st keys w) as = some s)
    (hC : Machine.Along (step policyEngine) (AgentsAnswer toFloat embedder now dumpJson)
      (defaultInit toFloat embedder now st keys w) as) (clock : Clock) :
    ownSteps as ≤ 20 ∧ (s.graph.Over ↔ ownSteps as = 20) ∧
      ∃ bs t, bs.length + ownSteps as = 20 ∧ Machine.run (step policyEngine) s bs = some t ∧
        Machine.Along (step policyEngine) (Alone toFloat embedder now dumpJson) s bs ∧ t.graph.Over := by
  obtain ⟨p, hat, hI, hlevel⟩ := run_default hfresh as s hrun hC
  refine ⟨by omega, ?_, exists_rest hfresh hrun hC clock⟩
  rw [over_iff_level hat hI]
  omega

end

/-- It takes twenty steps. -/
theorem default_run_ends_first :
    letI := Py.asciiTable
    letI := Py.asciiCase
    ∃ bs t, bs.length = 20 ∧ Machine.run (step {}) (firstRun (newIncident 3)) bs = some t ∧ t.graph.Over := by
  let _ := Py.asciiTable
  let _ := Py.asciiCase
  have hrun : Machine.run (step {}) (firstRun (newIncident 3)) [] = some (firstRun (newIncident 3)) := rfl
  have hC : Machine.Along (step {}) (AgentsAnswer (fun _ => .zero) (alikeEmbedder 0) (fun _ => ⟨0⟩) fun _ _ => "")
    (firstRun (newIncident 3)) [] := trivial
  obtain ⟨-, -, bs, t, hlen, hbs, -, hover⟩ := default_run_ends (fresh_newIncident 3) hrun hC stillClock
  exact ⟨bs, t, hlen, hbs, hover⟩

end Workflow

end OpsPilot
