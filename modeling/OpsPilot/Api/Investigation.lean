import OpsPilot.Api.Approvals
import OpsPilot.Api.EventStream
import OpsPilot.Orchestration.Moves
/-!
# An investigation (`IncidentService._run_investigation`, incident_service.py:113)

The coroutine drives the workflow, merges what the nodes return into the incident that the API
serves, and publishes events; at any time approvals may be submitted for the same incident. The
workflow runs on a state of its own. `astream` goes on to the next superstep only when the
coroutine has taken in everything it yielded, and it may raise what a node raised before that.

`effects` is what is left of the merge of one update, event by event. `invocations` pairs the
tool calls of the workflow with the decisions that stood when they were made; the source has no
such field.

| here | there |
| --- | --- |
| `mergeEffects`               | the body of the loop over `astream` (incident_service.py:130) |
| `FieldUpdate.merge`          | what it does to `state` with one item of the dict (incident_service.py:136) |
| `Label.exhausted`            | the loop is left (incident_service.py:162) |
| `Label.index`                | `generate_report` and `auto_index_to_memory` (incident_service.py:170) |
| `Investigation.fail`         | `except Exception` (incident_service.py:173) |
| `Label.announce`             | the task that `submit_approval` creates (incident_service.py:339) |
-/
namespace OpsPilot

/-- One thing the coroutine does between two points at which it can be interrupted. -/
inductive Effect where
  | merge (f : FieldUpdate)
  | publish (eventType : String) (payload : Json)
  | stageChange (n : Node)

/-- incident_service.py:136: the two lists are extended, any other attribute is set. -/
def FieldUpdate.merge (st : IncidentState) : FieldUpdate → IncidentState
  | .evidence v => { st with evidence := st.evidence ++ v }
  | .timeline v => { st with timeline := st.timeline ++ v }
  | .currentStage v => { st with currentStage := v }
  | .investigationTasks v => { st with investigationTasks := v }
  | .hypotheses v => { st with hypotheses := v }
  | .selectedHypothesis v => { st with selectedHypothesis := v }
  | .critique v => { st with critique := some v }
  | .remediationPlan v => { st with remediationPlan := some v }
  | .pendingApprovals v => { st with pendingApprovals := v }
  | .executionResults v => { st with executionResults := v }
  | .verification v => { st with verification := some v }
  | .iterationCount v => { st with iterationCount := v }

/-- Of what the nodes return, the coroutine makes what the reducers of the graph make. -/
theorem FieldUpdate.merge_eq_apply (f : FieldUpdate) (st : IncidentState) : f.merge st = f.apply st := by
  cases f <;> rfl

/-- The rounds of the loop with that item (incident_service.py:135). -/
def FieldUpdate.effects : FieldUpdate → List Effect
  | .evidence v => .merge (.evidence v) :: v.map fun item => .publish "evidence_found" item.modelDump
  | .timeline v => .merge (.timeline v) :: v.map fun tEvent => .publish "agent_thought" tEvent.modelDump
  | f => [.merge f]

def mergeEffects (n : Node) (u : NodeUpdate) : List Effect :=
  u.flatMap FieldUpdate.effects ++ [.stageChange n]

inductive Investigation.Phase where
  | opening | running | indexing | finishing
deriving DecidableEq

structure Investigation (W : Type) where
  /-- `self._incidents[incident_id]` -/
  incident : IncidentState
  workflow : Workflow W
  phase : Investigation.Phase := .opening
  /-- How many of the updates that `astream` yielded have been taken in. -/
  consumed : Nat := 0
  effects : List Effect := []
  published : List EventRecord := []
  /-- Filed decisions whose event is not published yet. -/
  unannounced : List ApprovalDecision := []
  invocations : List (Invocation × List ApprovalDecision) := []

inductive Investigation.Label (W : Type) where
  | start (now : Time)
  | graph (l : Workflow.Label W)
  | consume
  | effect (now : Time)
  | exhausted
  | index (result : Except PyException Unit)
  | handle
  | submitApproval (sub : Submission)
  | announce (now : Time)

/-- The label is a barrier. -/
def Workflow.Label.isAdvance {W : Type} : Workflow.Label W → Bool
  | .advance _ => true
  | _ => false

namespace Investigation

variable {W : Type}

def init (st : IncidentState) (runner : Runner W) : Investigation W where
  incident := st
  workflow := Workflow.init st runner

/-- The coroutine has returned. -/
def Returned (s : Investigation W) : Prop := s.phase = .finishing ∧ s.effects = []

/-- Everything that was yielded has been taken in. -/
def caughtUp (s : Investigation W) : Bool :=
  s.effects.isEmpty && s.consumed == s.workflow.streamed.length

/-- The workflow has ended, nothing was raised, and everything has been taken in. -/
def atEnd (s : Investigation W) : Bool :=
  s.caughtUp && s.workflow.graph.active.isEmpty && s.workflow.raised.isNone

def publish (s : Investigation W) (eventType : String) (payload : Json) (now : Time) :
    Investigation W :=
  { s with published := s.published ++ [{ event := eventType, data := payload, timestamp := now.isoformat }] }

def perform (s : Investigation W) (now : Time) : Effect → Investigation W
  | .merge f => { s with incident := f.merge s.incident }
  | .publish eventType payload => s.publish eventType payload now
  | .stageChange n =>
    s.publish "stage_change" (.obj [("stage", .str s.incident.currentStage.name), ("node", .str n.name)]) now

/-- incident_service.py:125 -/
def launch (s : Investigation W) (now : Time) : Investigation W :=
  { s.publish "stage_change"
      (.obj [("stage", .str "PLANNING"), ("message", .str "Supervisor initiating triage")]) now with
    phase := .running }

/-- The workflow has taken a step. -/
def follow (s : Investigation W) (workflow : Workflow W) : Investigation W :=
  { s with
    workflow
    invocations := s.invocations ++
      (workflow.audit.drop s.workflow.audit.length).map fun inv => (inv, s.incident.approvalDecisions) }

/-- incident_service.py:163 -/
def conclude (s : Investigation W) : Investigation W :=
  if s.incident.currentStage = .resolved then
    { s with
      phase := .indexing
      effects := [.publish "resolved"
        (.obj [("incident_id", .str s.incident.incidentId), ("status", .str "RESOLVED")])] }
  else { s with phase := .finishing }

def fail (s : Investigation W) (exc : PyException) : Investigation W :=
  { s with
    incident := { s.incident with currentStage := .failed, errors := s.incident.errors ++ [exc.message] }
    phase := .finishing
    effects := [.publish "failed" (.obj [("error", .str exc.message)])] }

/-- An accepted submission: its decision is filed, and a task will announce it. -/
def file (s : Investigation W) (incident : IncidentState) : Investigation W :=
  { s with
    incident
    unannounced := s.unannounced ++ incident.approvalDecisions.drop s.incident.approvalDecisions.length }

@[simp] theorem workflow_perform (s : Investigation W) (now : Time) (e : Effect) :
    (s.perform now e).workflow = s.workflow := by
  cases e <;> rfl

@[simp] theorem workflow_conclude (s : Investigation W) : s.conclude.workflow = s.workflow := by
  unfold conclude
  split <;> rfl

@[simp] theorem incident_conclude (s : Investigation W) : s.conclude.incident = s.incident := by
  unfold conclude
  split <;> rfl

section
variable [Unicode]

def step (policyEngine : RiskPolicyEngine) (s : Investigation W) : Label W → Option (Investigation W)
  | .start now => if s.phase = .opening then some (s.launch now) else none
  | .graph l =>
    if s.phase = .running ∧ (l.isAdvance → s.caughtUp) then (s.workflow.step policyEngine l).map s.follow else none
  | .consume =>
    match s.phase, s.effects, s.workflow.streamed[s.consumed]? with
    | .running, [], some (n, u) => some { s with consumed := s.consumed + 1, effects := mergeEffects n u }
    | _, _, _ => none
  | .effect now =>
    match s.effects with
    | e :: effects => some (perform { s with effects } now e)
    | [] => none
  | .exhausted => if s.phase = .running ∧ s.atEnd then some s.conclude else none
  | .index result =>
    if s.phase = .indexing ∧ s.effects.isEmpty then
      match result with
      | .ok () => some { s with phase := .finishing }
      | .error exc => some (s.fail exc)
    else none
  | .handle =>
    if s.phase = .running ∧ s.effects.isEmpty then s.workflow.raised.map s.fail else none
  | .submitApproval sub =>
    match s.incident.submitApproval sub with
    | .ok (incident, _) => some (s.file incident)
    | .error _ => some s
  | .announce now =>
    match s.unannounced with
    | d :: unannounced => some (publish { s with unannounced } "approval_decision" d.modelDump now)
    | [] => none

/-- What a step can do. -/
inductive Move (policyEngine : RiskPolicyEngine) : Investigation W → Label W → Investigation W → Prop
  | start {s} (now : Time) (hp : s.phase = .opening) : Move policyEngine s (.start now) (s.launch now)
  | graph {s} (l : Workflow.Label W) (wf : Workflow W) (hp : s.phase = .running)
      (hl : l.isAdvance = true → s.caughtUp = true) (hst : s.workflow.step policyEngine l = some wf) :
      Move policyEngine s (.graph l) (s.follow wf)
  | consume {s} (n : Node) (u : NodeUpdate) (hp : s.phase = .running) (he : s.effects = [])
      (hu : s.workflow.streamed[s.consumed]? = some (n, u)) :
      Move policyEngine s .consume { s with consumed := s.consumed + 1, effects := mergeEffects n u }
  | effect {s} (now : Time) (e : Effect) (effects : List Effect) (he : s.effects = e :: effects) :
      Move policyEngine s (.effect now) (perform { s with effects } now e)
  | exhausted {s} (hp : s.phase = .running) (hend : s.atEnd = true) : Move policyEngine s .exhausted s.conclude
  | indexed {s} (hp : s.phase = .indexing) (he : s.effects = []) :
      Move policyEngine s (.index (.ok ())) { s with phase := .finishing }
  | notIndexed {s} (exc : PyException) (hp : s.phase = .indexing) (he : s.effects = []) :
      Move policyEngine s (.index (.error exc)) (s.fail exc)
  | handle {s} (exc : PyException) (hp : s.phase = .running) (he : s.effects = [])
      (hr : s.workflow.raised = some exc) : Move policyEngine s .handle (s.fail exc)
  | accept {s} (sub : Submission) (incident : IncidentState) (resp : ApprovalRequestResponse)
      (hok : s.incident.submitApproval sub = .ok (incident, resp)) :
      Move policyEngine s (.submitApproval sub) (s.file incident)
  | refuse {s} (sub : Submission) : Move policyEngine s (.submitApproval sub) s
  | announce {s} (now : Time) (d : ApprovalDecision) (unannounced : List ApprovalDecision)
      (hu : s.unannounced = d :: unannounced) :
      Move policyEngine s (.announce now) (publish { s with unannounced } "approval_decision" d.modelDump now)

variable {policyEngine : RiskPolicyEngine} {s s' : Investigation W} {l : Label W}

theorem move_of_step (h : s.step policyEngine l = some s') : Move policyEngine s l s' := by
  cases l with
  | start now =>
    simp only [step] at h
    split at h
    · rename_i hp
      cases h
      exact .start now hp
    · cases h
  | graph l =>
    simp only [step] at h
    split at h
    · rename_i hc
      obtain ⟨wf, hst, rfl⟩ := Option.map_eq_some_iff.1 h
      exact .graph l wf hc.1 hc.2 hst
    · cases h
  | consume =>
    simp only [step] at h
    split at h
    · rename_i n u hp he hu
      cases h
      exact .consume n u hp he hu
    · cases h
  | effect now =>
    simp only [step] at h
    split at h
    · rename_i e effects he
      cases h
      exact .effect now e effects he
    · cases h
  | exhausted =>
    simp only [step] at h
    split at h
    · rename_i hc
      cases h
      exact .exhausted hc.1 hc.2
    · cases h
  | index result =>
    simp only [step] at h
    split at h
    · rename_i hc
      have he := List.isEmpty_iff.1 hc.2
      cases result with
      | ok _ =>
        cases h
        exact .indexed hc.1 he
      | error exc =>
        cases h
        exact .notIndexed exc hc.1 he
    · cases h
  | handle =>
    simp only [step] at h
    split at h
    · rename_i hc
      obtain ⟨exc, hr, rfl⟩ := Option.map_eq_some_iff.1 h
      exact .handle exc hc.1 (List.isEmpty_iff.1 hc.2) hr
    · cases h
  | submitApproval sub =>
    simp only [step] at h
    split at h
    · rename_i incident resp hok
      cases h
      exact .accept sub incident resp hok
    · cases h
      exact .refuse sub
  | announce now =>
    simp only [step] at h
    split at h
    · rename_i d unannounced hu
      cases h
      exact .announce now d unannounced hu
    · cases h

/-- The label of the workflow in a label of the investigation. -/
def graphLabel : Label W → Option (Workflow.Label W)
  | .graph l => some l
  | _ => none

theorem projects_workflow :
    Machine.Projects (step policyEngine) (Workflow.step policyEngine) (Investigation.workflow (W := W)) graphLabel := by
  intro s l s' hst
  cases move_of_step hst with
  | graph l wf hp hl hwf => exact hwf
  | effect now e effects he => exact workflow_perform _ now e
  | exhausted hp hend => exact workflow_conclude s
  | _ => rfl

/-- Seen from the workflow, an investigation is a run of the workflow. -/
theorem run_workflow {st : IncidentState} {runner : Runner W} {as : List (Label W)}
    (h : Machine.run (step policyEngine) (init st runner) as = some s) :
    Machine.run (Workflow.step policyEngine) (Workflow.init st runner) (as.filterMap graphLabel) =
      some s.workflow :=
  Machine.run_project projects_workflow h

end

/-! ## Straight runs -/

/-- How many effects the update of a node has in the runs below. -/
def effectCount : Node → Nat
  | .supervisor => 5
  | .analyst _ => 4
  | .joinEvidence => 2
  | .rca | .critic | .remediationPlanning => 6
  | .execution | .verification => 5

/-- The coroutine takes in every update right before the barrier. -/
def served (labels : List (Workflow.Label W)) : List (Label W) :=
  labels.flatMap fun
    | .advance order =>
      order.flatMap (fun n => .consume :: List.replicate (effectCount n) (.effect ⟨0⟩)) ++ [.graph (.advance order)]
    | l => [.graph l]

end Investigation

end OpsPilot
