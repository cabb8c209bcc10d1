import OpsPilot.Lib.Run
import OpsPilot.Lib.Superstep
import OpsPilot.Orchestration.Nodes
/-!
# Runs of the workflow (`IncidentWorkflow.build_graph`, graph.py:346)

A step of the workflow is a node that finishes, an action that `execution_node` dispatches, or
the barrier between two supersteps; between any two of them the world of the tools may change.
The answers of the agents are in the labels. An exception drops the tasks of the superstep and
ends the run.

`audit` records the tool calls made for plan actions, `streamed` the updates in the order in
which `astream` yields them; the source has no such fields.

| here | there |
| --- | --- |
| `successors`          | the edges (graph.py:364) |
| `Workflow.execute`    | one round of the loop of `execution_node` (graph.py:260), or its return |
| `Workflow.advance`    | the end of a superstep |
-/
namespace OpsPilot

/-- The local variables of `execution_node` (graph.py:257). -/
structure ExecutionFrame where
  results : List ActionExecutionResult := []
  events : List TimelineEvent := []

inductive Invocation.Phase where
  | execute | compensate
deriving DecidableEq

/-- A tool call made for the `index`-th action of the plan, or to compensate it. -/
structure Invocation where
  phase : Invocation.Phase
  index : Nat
  action : RemediationAction
  call : ToolCall

structure Workflow (W : Type) where
  graph : Superstep Node IncidentState NodeUpdate
  frame : ExecutionFrame := {}
  runner : Runner W
  audit : List Invocation := []
  streamed : List (Node × NodeUpdate) := []
  raised : Option PyException := none

/-- A node finishes: with the answer of its agent, or because the agent raised. The critic's
verdict is there even when the node does not ask for one. -/
inductive Reply where
  | supervisor (plan : SupervisorPlan)
  | analyst (a : Analyst) (output : AnalystAgentOutput)
  | joinEvidence
  | rca (output : RCAAgentOutput)
  | critic (verdict : CritiqueResult)
  | remediationPlanning (rawPlan : RemediationPlan)
  | verification (assessment : VerificationAssessment)
  | raises (n : Node) (exc : PyException)

def Reply.node : Reply → Node
  | supervisor _ => .supervisor
  | analyst a _ => .analyst a
  | joinEvidence => .joinEvidence
  | rca _ => .rca
  | critic _ => .critic
  | remediationPlanning _ => .remediationPlanning
  | verification _ => .verification
  | raises n _ => n

inductive Workflow.Label (W : Type) where
  | finish (reply : Reply) (clock : Clock)
  | execute (clock : Clock)
  | advance (order : List Node)
  | world (w : W)

/-- Does the node ask its agent for anything in this state? Only then can the agent raise. -/
def Node.consults (st : IncidentState) : Node → Bool
  | .supervisor | .analyst _ | .rca | .verification => true
  | .critic => st.selectedHypothesis.any fun h => (CriticAgent.missingIds h st.evidence).isEmpty
  | .remediationPlanning => st.selectedHypothesis.isSome
  | .joinEvidence | .execution => false

/-- The raising agent is one that was asked. -/
def Reply.possible (st : IncidentState) : Reply → Bool
  | raises n _ => n.consults st
  | _ => true

/-- graph.py:366 -/
def analysts : List Node := [.analyst .log, .analyst .metrics, .analyst .code, .analyst .memory]

/-- graph.py:364 -/
def successors (st : IncidentState) : Node → List Node
  | .supervisor => analysts
  | .analyst _ => [.joinEvidence]
  | .joinEvidence => [.rca]
  | .rca => [.critic]
  | .critic =>
    match routeCriticDecision st with
    | .supervisor => [.supervisor]
    | .remediation => [.remediationPlanning]
    | .complete => []
  | .remediationPlanning => [.execution]
  | .execution => [.verification]
  | .verification => []

/-- The state an incident is created with: nothing has been found or decided yet. -/
structure IncidentState.Fresh (st : IncidentState) : Prop where
  currentStage : st.currentStage = .created
  evidence : st.evidence = []
  hypotheses : st.hypotheses = []
  selectedHypothesis : st.selectedHypothesis = none
  critique : st.critique = none
  remediationPlan : st.remediationPlan = none
  pendingApprovals : st.pendingApprovals = []
  approvalDecisions : st.approvalDecisions = []
  executionResults : st.executionResults = []
  verification : st.verification = none
  iterationCount : st.iterationCount = 0

namespace Workflow

variable {W : Type}

/-- The nodes that have finished in a run, in order. -/
def replies (as : List (Label W)) : List Reply := as.filterMap fun
  | .finish reply _ => some reply
  | _ => none

@[simp] theorem replies_nil : replies ([] : List (Label W)) = [] := rfl

@[simp] theorem replies_concat_finish (as : List (Label W)) (reply : Reply) (clock : Clock) :
    replies (as ++ [.finish reply clock]) = replies as ++ [reply] := by
  simp [replies, List.filterMap_append]

@[simp] theorem replies_concat_execute (as : List (Label W)) (clock : Clock) :
    replies (as ++ [.execute clock]) = replies as := by
  simp [replies, List.filterMap_append]

@[simp] theorem replies_concat_advance (as : List (Label W)) (order : List Node) :
    replies (as ++ [.advance order]) = replies as := by
  simp [replies, List.filterMap_append]

@[simp] theorem replies_concat_world (as : List (Label W)) (w : W) :
    replies (as ++ [.world w]) = replies as := by
  simp [replies, List.filterMap_append]

/-- A run starts at the supervisor. -/
def init (st : IncidentState) (runner : Runner W) : Workflow W where
  graph := { state := st, running := [.supervisor] }
  runner := runner

/-- A node returns its update, or raises. -/
def conclude (s : Workflow W) (n : Node) : Except PyException NodeUpdate → Workflow W
  | .ok u => { s with graph := s.graph.finish n u, streamed := s.streamed ++ [(n, u)] }
  | .error exc => { s with graph := s.graph.stop, raised := some exc }

@[simp] theorem state_conclude (s : Workflow W) (n : Node) (r : Except PyException NodeUpdate) :
    (s.conclude n r).graph.state = s.graph.state := by
  cases r <;> rfl

@[simp] theorem streamed_conclude (s : Workflow W) (n : Node) (u : NodeUpdate) :
    (s.conclude n (.ok u)).streamed = s.streamed ++ [(n, u)] := rfl

@[simp] theorem streamed_conclude_error (s : Workflow W) (n : Node) (exc : PyException) :
    (s.conclude n (.error exc)).streamed = s.streamed := rfl

/-- Notes the call made for the action at `index`, if one was. -/
def record (s : Workflow W) (phase : Invocation.Phase) (index : Nat) (call : Option ToolCall) :
    Workflow W :=
  match s.graph.state.plannedActions[index]?, call with
  | some action, some call => { s with audit := s.audit ++ [{ phase, index, action, call }] }
  | _, _ => s

section
variable (s : Workflow W) (phase : Invocation.Phase) (index : Nat) (call : Option ToolCall)

@[simp] theorem record_none : s.record phase index none = s := by simp [record]

@[simp] theorem graph_record : (s.record phase index call).graph = s.graph := by
  unfold record
  split <;> rfl

@[simp] theorem streamed_record : (s.record phase index call).streamed = s.streamed := by
  unfold record
  split <;> rfl

@[simp] theorem raised_record : (s.record phase index call).raised = s.raised := by
  unfold record
  split <;> rfl

end

def advance (s : Workflow W) (order : List Node) : Option (Workflow W) :=
  (s.graph.barrier NodeUpdate.apply successors order).map fun g => { s with graph := g, frame := {} }

section
variable [Unicode]

/-- What the node of the reply makes of it. -/
def outcome (policyEngine : RiskPolicyEngine) (s : Workflow W) (clock : Clock) : Reply → NodeOutcome W
  | .supervisor plan => { runner := s.runner, result := .ok (supervisorNode plan clock) }
  | .analyst a output => { runner := s.runner, result := .ok (a.node output clock) }
  | .joinEvidence => { runner := s.runner, result := .ok joinEvidenceNode }
  | .rca output => { runner := s.runner, result := .ok (rcaNode output clock) }
  | .critic verdict => { runner := s.runner, result := criticNode s.graph.state (.ok verdict) clock }
  | .remediationPlanning rawPlan =>
    { runner := s.runner, result := .ok (remediationPlanningNode policyEngine s.graph.state rawPlan clock) }
  | .verification assessment => verificationNode s.graph.state assessment s.runner clock
  | .raises _ exc => { runner := s.runner, result := .error exc }

def finish (policyEngine : RiskPolicyEngine) (s : Workflow W) (reply : Reply) (clock : Clock) :
    Option (Workflow W) :=
  if reply.node ∈ s.graph.running ∧ reply.possible s.graph.state then
    let out := s.outcome policyEngine clock reply
    let last := s.graph.state.plannedActions.length - 1
    some ((record { s with runner := out.runner } .compensate last out.call).conclude reply.node out.result)
  else none

/-- graph.py:260: the next action of the plan, or the return once there is none left. -/
def execute (s : Workflow W) (clock : Clock) : Option (Workflow W) :=
  if .execution ∈ s.graph.running then
    let i := s.frame.results.length
    match s.graph.state.plannedActions[i]? with
    | some action =>
      let out := s.runner.executeAction action "OPERATOR" clock
      let s' := record { s with runner := out.runner } .execute i out.call
      match out.result with
      | .ok res => some { s' with frame :=
          { results := s.frame.results ++ [res]
            events := s.frame.events ++ [executionEvent action res clock] } }
      | .error exc => some (s'.conclude .execution (.error exc))
    | none =>
      some (s.conclude .execution (.ok (executionUpdate s.graph.state s.frame.results s.frame.events)))
  else none

def step (policyEngine : RiskPolicyEngine) (s : Workflow W) : Label W → Option (Workflow W)
  | .finish reply clock => s.finish policyEngine reply clock
  | .execute clock => s.execute clock
  | .advance order => s.advance order
  | .world w => some { s with runner := { s.runner with world := w } }

end

end Workflow

end OpsPilot
