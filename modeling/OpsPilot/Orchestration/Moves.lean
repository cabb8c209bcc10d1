import OpsPilot.Orchestration.Workflow
import OpsPilot.Tools.Remediation
/-!
# What a step of the workflow can do

A run is always at one `Position`: a node waits to finish or has finished, the analysts are
out, or everything is over. `Move` lists what a step does, position by position, and
`move_of_step` says that there is nothing else; `run_position` turns it into the induction
rule for runs that the later modules use.
-/
namespace OpsPilot

inductive Position where
  | waiting (n : Node)
  | wrote (n : Node) (u : NodeUpdate)
  | fanOut
  | ended

/-- Where the barrier leads after node `n` has written and the state is `st`. -/
def Position.after (st : IncidentState) : Node → Position
  | .supervisor => .fanOut
  | .analyst _ => .waiting .joinEvidence
  | .joinEvidence => .waiting .rca
  | .rca => .waiting .critic
  | .critic =>
    match routeCriticDecision st with
    | .supervisor => .waiting .supervisor
    | .remediation => .waiting .remediationPlanning
    | .complete => .ended
  | .remediationPlanning => .waiting .execution
  | .execution => .waiting .verification
  | .verification => .ended

def Node.IsAnalyst (n : Node) : Prop := ∃ a, n = .analyst a

/-- The update of an analyst. -/
def AnalystUpdate (n : Node) (u : NodeUpdate) : Prop :=
  ∃ a output clock, n = .analyst a ∧ u = a.node output clock

/-- Evidence and timeline have grown, nothing else has changed. -/
def Collected (st st' : IncidentState) : Prop :=
  ∃ ev tl, st' = { st with evidence := st.evidence ++ ev, timeline := st.timeline ++ tl }

theorem Collected.refl (st : IncidentState) : Collected st st := ⟨[], [], by simp⟩

theorem AnalystUpdate.collected {n : Node} {u : NodeUpdate} (hu : AnalystUpdate n u)
    {st st' : IncidentState} (h : Collected st st') : Collected st (u.apply st') := by
  obtain ⟨a, output, clock, -, rfl⟩ := hu
  obtain ⟨ev, tl, rfl⟩ := h
  refine ⟨ev ++ output.evidenceItems, ?_⟩
  cases a <;>
    exact ⟨_, by simp [Analyst.node, logAnalystNode, metricsAnalystNode, codeAnalystNode, memoryAnalystNode,
      analystNode, FieldUpdate.apply]; rfl⟩

namespace Workflow

variable {W : Type}

def At (s : Workflow W) : Position → Prop
  | .waiting n => s.graph.running = [n] ∧ s.graph.writes = [] ∧ ¬ n.IsAnalyst
  | .wrote n u => s.graph.running = [] ∧ s.graph.writes = [(n, u)] ∧ ¬ n.IsAnalyst
  | .fanOut => s.graph.active.Perm analysts ∧ ∀ n u, (n, u) ∈ s.graph.writes → AnalystUpdate n u
  | .ended => s.graph.Over

/-- Unless it advances, a step leaves the graph and the stream as they are, or then ends a node. -/
theorem step_cases [Unicode] {policyEngine : RiskPolicyEngine} {s s' : Workflow W} {l : Label W}
    (h : s.step policyEngine l = some s') :
    (∃ t : Workflow W, t.graph = s.graph ∧ t.streamed = s.streamed ∧ (s' = t ∨ ∃ n r, s' = t.conclude n r)) ∨
      ∃ order g, s.graph.barrier NodeUpdate.apply successors order = some g ∧
        s' = { s with graph := g, frame := {} } := by
  cases l with
  | finish reply clock =>
    simp only [step, finish] at h
    split at h
    · cases h
      refine .inl ⟨_, ?_, ?_, .inr ⟨_, _, rfl⟩⟩
      · exact graph_record _ _ _ _
      · exact streamed_record _ _ _ _
    · cases h
  | execute clock =>
    simp only [step, execute] at h
    split at h
    case isFalse => cases h
    split at h
    · split at h
      · cases h
        refine .inl ⟨_, ?_, ?_, .inl rfl⟩
        · exact graph_record _ _ _ _
        · exact streamed_record _ _ _ _
      · cases h
        refine .inl ⟨_, ?_, ?_, .inr ⟨_, _, rfl⟩⟩
        · exact graph_record _ _ _ _
        · exact streamed_record _ _ _ _
    · cases h
      exact .inl ⟨s, rfl, rfl, .inr ⟨_, _, rfl⟩⟩
  | advance order =>
    obtain ⟨g, hg, rfl⟩ := Option.map_eq_some_iff.1 h
    exact .inr ⟨order, g, hg, rfl⟩
  | world w =>
    cases h
    refine .inl ⟨_, ?_, ?_, .inl rfl⟩
    · rfl
    · rfl

theorem isAnalyst_of_mem {n : Node} (h : n ∈ analysts) : n.IsAnalyst := by
  simp only [analysts, List.mem_cons, List.not_mem_nil, or_false] at h
  rcases h with rfl | rfl | rfl | rfl <;> exact ⟨_, rfl⟩

theorem isAnalyst_of_mem_fanOut {s : Workflow W} (h : s.At .fanOut) {n : Node}
    (hn : n ∈ s.graph.running) : n.IsAnalyst :=
  isAnalyst_of_mem (h.1.subset (List.mem_append_left _ hn))

/-- A running node that is no analyst is alone. -/
theorem waiting_of_mem {s : Workflow W} {p : Position} (h : s.At p) {n : Node}
    (hn : n ∈ s.graph.running) (ha : ¬ n.IsAnalyst) : p = .waiting n := by
  cases p with
  | waiting m =>
    rw [h.1, List.mem_singleton] at hn
    rw [hn]
  | wrote m u =>
    rw [h.1] at hn
    cases hn
  | fanOut => exact absurd (isAnalyst_of_mem_fanOut h hn) ha
  | ended =>
    rw [h.1] at hn
    cases hn

theorem fanOut_of_mem {s : Workflow W} {p : Position} (h : s.At p) {n : Node}
    (hn : n ∈ s.graph.running) (ha : n.IsAnalyst) : p = .fanOut := by
  cases p with
  | waiting m =>
    rw [h.1, List.mem_singleton] at hn
    exact absurd (hn ▸ ha) h.2.2
  | wrote m u =>
    rw [h.1] at hn
    cases hn
  | fanOut => rfl
  | ended =>
    rw [h.1] at hn
    cases hn

/-- No task is left. -/
theorem ended_of_over {s : Workflow W} {p : Position} (h : s.At p) (ho : s.graph.Over) :
    p = .ended := by
  have hact := (Superstep.over_iff_active _).1 ho
  cases p with
  | waiting n => cases ho.1.symm.trans h.1
  | wrote n u => cases ho.2.symm.trans h.2.1
  | fanOut =>
    have := h.1.length_eq
    rw [hact] at this
    cases this
  | ended => rfl

section
variable {s : Workflow W} {p : Position}

theorem at_conclude_ok {n : Node} (h : s.At (.waiting n)) (u : NodeUpdate) :
    (s.conclude n (.ok u)).At (.wrote n u) := by
  obtain ⟨hr, hw, hn⟩ := h
  simp only [At, conclude, Superstep.finish_singleton hr hw]
  exact ⟨trivial, trivial, hn⟩

theorem at_conclude_error (s : Workflow W) (n : Node) (exc : PyException) :
    (s.conclude n (.error exc)).At .ended := s.graph.over_stop

theorem at_collect (h : s.At .fanOut) {a : Analyst} (hr : .analyst a ∈ s.graph.running)
    (output : AnalystAgentOutput) (clock : Clock) :
    (s.conclude (.analyst a) (.ok (a.node output clock))).At .fanOut := by
  refine ⟨(Superstep.active_finish hr _).trans h.1, fun n u hmem => ?_⟩
  rcases List.mem_append.1 hmem with hold | hnew
  · exact h.2 n u hold
  · cases List.mem_singleton.1 hnew
    exact ⟨a, output, clock, rfl, rfl⟩

theorem at_congr {t : Workflow W} (hg : t.graph = s.graph) : t.At p ↔ s.At p := by
  cases p <;> simp only [At, hg]

/-- Neither the runner nor the record of its call moves the run. -/
theorem at_record (h : s.At p) {r : Runner W} {phase : Invocation.Phase} {index : Nat}
    {call : Option ToolCall} : (record { s with runner := r } phase index call).At p :=
  (at_congr (s := s) (by simp)).2 h

/-- The position after a node's barrier is where its edges lead. -/
theorem at_after (st : IncidentState) {n : Node} (hn : ¬ n.IsAnalyst) (s : Workflow W) :
    ({ s with graph := { state := st, running := (successors st n).eraseDups }, frame := {} } : Workflow W).At
      (Position.after st n) := by
  have hna : ∀ m : Node, (∀ a, m ≠ .analyst a) → ¬ m.IsAnalyst := fun m hm ⟨a, ha⟩ => hm a ha
  cases n with
  | analyst a => exact absurd ⟨a, rfl⟩ hn
  | supervisor =>
    refine ⟨?_, fun n u hmem => by cases hmem⟩
    simp only [Superstep.active, successors, List.map_nil, List.append_nil]
    decide
  | joinEvidence => exact ⟨rfl, rfl, hna _ (by simp)⟩
  | rca => exact ⟨rfl, rfl, hna _ (by simp)⟩
  | critic =>
    simp only [Position.after, successors]
    cases routeCriticDecision st with
    | supervisor => exact ⟨rfl, rfl, hna _ (by simp)⟩
    | remediation => exact ⟨rfl, rfl, hna _ (by simp)⟩
    | complete => exact ⟨rfl, rfl⟩
  | remediationPlanning => exact ⟨rfl, rfl, hna _ (by simp)⟩
  | execution => exact ⟨rfl, rfl, hna _ (by simp)⟩
  | verification => exact ⟨rfl, rfl⟩

end

/-- The answer of a node that works on the state alone. -/
def Answers [Unicode] (policyEngine : RiskPolicyEngine) (st : IncidentState) (clock : Clock) (u : NodeUpdate) :
    Reply → Prop
  | .supervisor plan => u = supervisorNode plan clock
  | .joinEvidence => u = joinEvidenceNode
  | .rca output => u = rcaNode output clock
  | .critic verdict => criticNode st (.ok verdict) clock = .ok u
  | .remediationPlanning rawPlan => u = remediationPlanningNode policyEngine st rawPlan clock
  | .analyst _ _ | .verification _ | .raises _ _ => False

section
variable [Unicode]

inductive Move (policyEngine : RiskPolicyEngine) :
    Position → Workflow W → Label W → Position → Workflow W → Prop
  | world {p s} (w : W) : Move policyEngine p s (.world w) p { s with runner := { s.runner with world := w } }
  | collect {s} (a : Analyst) (output : AnalystAgentOutput) (clock : Clock)
      (hr : .analyst a ∈ s.graph.running) :
      Move policyEngine .fanOut s (.finish (.analyst a output) clock) .fanOut
        (s.conclude (.analyst a) (.ok (a.node output clock)))
  | answer {s} (reply : Reply) (clock : Clock) (u : NodeUpdate)
      (ha : Answers policyEngine s.graph.state clock u reply) :
      Move policyEngine (.waiting reply.node) s (.finish reply clock) (.wrote reply.node u)
        (s.conclude reply.node (.ok u))
  | verify {s} (assessment : VerificationAssessment) (clock : Clock) (out : NodeOutcome W) (u : NodeUpdate)
      (ho : verificationNode s.graph.state assessment s.runner clock = out) (hu : out.result = .ok u) :
      Move policyEngine (.waiting .verification) s (.finish (.verification assessment) clock)
        (.wrote .verification u)
        ((record { s with runner := out.runner } .compensate (s.graph.state.plannedActions.length - 1)
          out.call).conclude .verification (.ok u))
  | verifyRaises {s} (assessment : VerificationAssessment) (clock : Clock) (out : NodeOutcome W)
      (exc : PyException) (ho : verificationNode s.graph.state assessment s.runner clock = out)
      (hu : out.result = .error exc) :
      Move policyEngine (.waiting .verification) s (.finish (.verification assessment) clock) .ended
        ((record { s with runner := out.runner } .compensate (s.graph.state.plannedActions.length - 1)
          out.call).conclude .verification (.error exc))
  | raises {p s} (n : Node) (exc : PyException) (clock : Clock) (hp : p = .fanOut ∨ p = .waiting n)
      (hc : n.consults s.graph.state = true) :
      Move policyEngine p s (.finish (.raises n exc) clock) .ended (s.conclude n (.error exc))
  | act {s} (clock : Clock) (action : RemediationAction) (out : Outcome W) (res : ActionExecutionResult)
      (hi : s.graph.state.plannedActions[s.frame.results.length]? = some action)
      (ho : s.runner.executeAction action "OPERATOR" clock = out) (hres : out.result = .ok res) :
      Move policyEngine (.waiting .execution) s (.execute clock) (.waiting .execution)
        { record { s with runner := out.runner } .execute s.frame.results.length out.call with
          frame := { results := s.frame.results ++ [res]
                     events := s.frame.events ++ [executionEvent action res clock] } }
  | actRaises {s} (clock : Clock) (action : RemediationAction) (out : Outcome W) (exc : PyException)
      (hi : s.graph.state.plannedActions[s.frame.results.length]? = some action)
      (ho : s.runner.executeAction action "OPERATOR" clock = out) (hres : out.result = .error exc) :
      Move policyEngine (.waiting .execution) s (.execute clock) .ended
        ((record { s with runner := out.runner } .execute s.frame.results.length out.call).conclude .execution
          (.error exc))
  | executed {s} (clock : Clock) (hi : s.graph.state.plannedActions[s.frame.results.length]? = none) :
      Move policyEngine (.waiting .execution) s (.execute clock)
        (.wrote .execution (executionUpdate s.graph.state s.frame.results s.frame.events))
        (s.conclude .execution (.ok (executionUpdate s.graph.state s.frame.results s.frame.events)))
  | join {s} (order : List Node) (st' : IncidentState) (hc : Collected s.graph.state st')
      (ha : ∀ n u, (n, u) ∈ s.graph.writes → n.IsAnalyst) :
      Move policyEngine .fanOut s (.advance order) (.waiting .joinEvidence)
        { s with graph := { state := st', running := [.joinEvidence] }, frame := {} }
  | advance {s} (n : Node) (u : NodeUpdate) (order : List Node) (hn : ¬ n.IsAnalyst)
      (hw : s.graph.writes = [(n, u)]) :
      Move policyEngine (.wrote n u) s (.advance order) (Position.after (u.apply s.graph.state) n)
        { s with graph := { state := u.apply s.graph.state,
                            running := (successors (u.apply s.graph.state) n).eraseDups },
                 frame := {} }

variable {policyEngine : RiskPolicyEngine} {s s' : Workflow W} {p : Position} {l : Label W}

/-- A reply that is answered from the state: the node waited, and now it has written. -/
theorem move_answer {reply : Reply} {clock : Clock} {u : NodeUpdate} (h : s.At p)
    (hr : reply.node ∈ s.graph.running) (ha : ¬ reply.node.IsAnalyst)
    (hu : Answers policyEngine s.graph.state clock u reply) :
    ∃ p', Move policyEngine p s (.finish reply clock) p' (s.conclude reply.node (.ok u)) ∧
      (s.conclude reply.node (.ok u)).At p' := by
  obtain rfl := waiting_of_mem h hr ha
  exact ⟨_, .answer reply clock u hu, at_conclude_ok h u⟩

theorem move_of_finish {reply : Reply} {clock : Clock} (h : s.At p)
    (hst : s.finish policyEngine reply clock = some s') :
    ∃ p', Move policyEngine p s (.finish reply clock) p' s' ∧ s'.At p' := by
  unfold finish at hst
  split at hst
  case isFalse => cases hst
  rename_i hc
  obtain ⟨hr, hposs⟩ := hc
  cases hst
  cases reply with
  | supervisor plan =>
    simp only [outcome, record_none]
    exact move_answer h hr (by rintro ⟨a, ⟨⟩⟩) rfl
  | joinEvidence =>
    simp only [outcome, record_none]
    exact move_answer h hr (by rintro ⟨a, ⟨⟩⟩) rfl
  | rca output =>
    simp only [outcome, record_none]
    exact move_answer h hr (by rintro ⟨a, ⟨⟩⟩) rfl
  | critic verdict =>
    obtain ⟨u, hu⟩ := criticNode_ok s.graph.state verdict clock
    simp only [outcome, record_none, hu]
    exact move_answer h hr (by rintro ⟨a, ⟨⟩⟩) hu
  | remediationPlanning rawPlan =>
    simp only [outcome, record_none]
    exact move_answer h hr (by rintro ⟨a, ⟨⟩⟩) rfl
  | analyst a output =>
    obtain rfl := fanOut_of_mem h hr ⟨a, rfl⟩
    simp only [outcome, record_none]
    exact ⟨_, .collect a output clock hr, at_collect h hr output clock⟩
  | verification assessment =>
    obtain rfl := waiting_of_mem h hr (by rintro ⟨a, ⟨⟩⟩)
    cases hres : (verificationNode s.graph.state assessment s.runner clock).result with
    | ok u =>
      simp only [outcome, hres]
      refine ⟨_, .verify assessment clock _ u rfl hres, ?_⟩
      exact at_conclude_ok (at_record h) u
    | error exc =>
      simp only [outcome, hres]
      exact ⟨_, .verifyRaises assessment clock _ exc rfl hres, at_conclude_error _ _ _⟩
  | raises n exc =>
    simp only [outcome, record_none]
    refine ⟨_, .raises n exc clock ?_ hposs, at_conclude_error _ _ _⟩
    by_cases hn : n.IsAnalyst
    · exact .inl (fanOut_of_mem h hr hn)
    · exact .inr (waiting_of_mem h hr hn)

theorem move_of_execute {clock : Clock} (h : s.At p) (hst : s.execute clock = some s') :
    ∃ p', Move policyEngine p s (.execute clock) p' s' ∧ s'.At p' := by
  unfold execute at hst
  split at hst
  case isFalse => cases hst
  rename_i hr
  obtain rfl := waiting_of_mem h hr (by rintro ⟨a, ⟨⟩⟩)
  cases hi : s.graph.state.plannedActions[s.frame.results.length]? with
  | none =>
    simp only [hi] at hst
    cases hst
    exact ⟨_, .executed clock hi, at_conclude_ok h _⟩
  | some action =>
    simp only [hi] at hst
    cases hres : (s.runner.executeAction action "OPERATOR" clock).result with
    | ok res =>
      simp only [hres] at hst
      cases hst
      exact ⟨_, .act clock action _ res hi rfl hres, at_record h⟩
    | error exc =>
      simp only [hres] at hst
      cases hst
      exact ⟨_, .actRaises clock action _ exc hi rfl hres, at_conclude_error _ _ _⟩

theorem move_of_advance {order : List Node} (h : s.At p) (hst : s.advance order = some s') :
    ∃ p', Move policyEngine p s (.advance order) p' s' ∧ s'.At p' := by
  obtain ⟨g, hg, rfl⟩ := Option.map_eq_some_iff.1 hst
  obtain ⟨hrun, hw, hperm, hgw, -, hgr⟩ := Superstep.barrier_eq_some hg
  cases p with
  | waiting n => exact absurd h.2.1 hw
  | ended => exact absurd h.2 hw
  | wrote n u =>
    obtain rfl := Superstep.barrier_singleton h.2.1 hg
    exact ⟨_, .advance n u order h.2.2 h.2.1, at_after _ h.2.2 s⟩
  | fanOut =>
    have hc : Collected s.graph.state g.state :=
      Superstep.barrier_induction hg (Collected.refl _) fun n u st hmem hst => (h.2 n u hmem).collected hst
    have horder : order.Perm analysts := by
      have hact := h.1
      simp only [Superstep.active, hrun, List.nil_append] at hact
      exact hperm.trans hact
    have hrunning : g.running = [.joinEvidence] := by
      have hsucc : order.flatMap (successors g.state) = List.replicate 4 .joinEvidence := by
        have hlen : order.length = 4 := horder.length_eq
        rw [← hlen, ← List.map_const', List.map_eq_flatMap]
        refine List.flatMap_congr fun n hn => ?_
        obtain ⟨a, rfl⟩ := isAnalyst_of_mem (horder.subset hn)
        rfl
      rw [hgr, hsucc]
      decide
    obtain ⟨state, running, writes⟩ := g
    obtain rfl := hgw
    obtain rfl := hrunning
    have hanalyst : ∀ n u, (n, u) ∈ s.graph.writes → n.IsAnalyst := fun n u hmem => by
      obtain ⟨a, -, -, hn, -⟩ := h.2 n u hmem
      exact ⟨a, hn⟩
    exact ⟨_, .join order state hc hanalyst, rfl, rfl, by rintro ⟨a, ⟨⟩⟩⟩

/-- **Nothing else happens**: a step from a position is one of its moves. -/
theorem move_of_step (h : s.At p) (hst : step policyEngine s l = some s') :
    ∃ p', Move policyEngine p s l p' s' ∧ s'.At p' := by
  cases l with
  | finish reply clock => exact move_of_finish h hst
  | execute clock => exact move_of_execute h hst
  | advance order => exact move_of_advance h hst
  | world w =>
    cases hst
    exact ⟨p, .world w, (at_congr rfl).2 h⟩

/-- What every update keeps, every move keeps. -/
theorem Move.state_induction {p' : Position} {P : IncidentState → Prop}
    (hP : ∀ (f : FieldUpdate) (st : IncidentState), P st → P (f.apply st))
    (hm : Move policyEngine p s l p' s') (h : P s.graph.state) : P s'.graph.state := by
  cases hm with
  | world w => exact h
  | collect a output clock hr => exact h
  | answer reply clock u ha => exact h
  | verify assessment clock out u ho hu => simpa using h
  | verifyRaises assessment clock out exc ho hu => simpa using h
  | raises n exc clock hp hc => exact h
  | act clock action out res hi ho hres => simpa using h
  | actRaises clock action out exc hi ho hres => simpa using h
  | executed clock hi => exact h
  | join order st' hc ha =>
    obtain ⟨ev, tl, rfl⟩ := hc
    exact hP (.timeline tl) _ (hP (.evidence ev) _ h)
  | advance n u order hn hw => exact NodeUpdate.apply_induction h fun f _ st hst => hP f st hst

/-- The induction rule of the workflow: `J` speaks about the labels so far, the position and
the state; it holds at the start, and every move that meets `C` keeps it. -/
theorem run_position_along {st : IncidentState} {runner : Runner W} {C : Workflow W → Label W → Prop}
    {J : List (Label W) → Position → Workflow W → Prop} (h0 : J [] (.waiting .supervisor) (init st runner))
    (hs : ∀ as p s l p' s', Machine.run (step policyEngine) (init st runner) as = some s → J as p s → C s l →
      Move policyEngine p s l p' s' → J (as ++ [l]) p' s') :
    ∀ as s, Machine.run (step policyEngine) (init st runner) as = some s →
      Machine.Along (step policyEngine) C (init st runner) as → ∃ p, s.At p ∧ J as p s := by
  refine Machine.run_induction_along (P := fun as s => ∃ p, Workflow.At s p ∧ J as p s)
    ⟨.waiting .supervisor, ⟨rfl, rfl, by rintro ⟨a, ⟨⟩⟩⟩, h0⟩ ?_
  rintro as s l s' hrun ⟨p, hat, hJ⟩ hC hst
  obtain ⟨p', hmove, hat'⟩ := move_of_step hat hst
  exact ⟨p', hat', hs as p s l p' s' hrun hJ hC hmove⟩

theorem run_position {st : IncidentState} {runner : Runner W}
    {J : List (Label W) → Position → Workflow W → Prop} (h0 : J [] (.waiting .supervisor) (init st runner))
    (hs : ∀ as p s l p' s', Machine.run (step policyEngine) (init st runner) as = some s → J as p s →
      Move policyEngine p s l p' s' → J (as ++ [l]) p' s') :
    ∀ as s, Machine.run (step policyEngine) (init st runner) as = some s → ∃ p, s.At p ∧ J as p s :=
  fun as s hrun => run_position_along (C := fun _ _ => True) h0
    (fun as p s l p' s' hr hJ _ hm => hs as p s l p' s' hr hJ hm) as s hrun (Machine.along_true _ as)

end

/-! ## Straight runs -/

/-- A clock that stands still. -/
def stillClock : Clock := ⟨fun _ => ⟨0⟩, fun _ => .zero⟩

/-- An incident just created, with a bound on its iterations. -/
def newIncident (maxIterations : Int) : IncidentState :=
  { incidentId := "inc-1", title := "High latency", severity := .sev1, affectedServices := ["payment-service"],
    createdAt := ⟨0⟩, maxIterations }

theorem fresh_newIncident (maxIterations : Int) : (newIncident maxIterations).Fresh :=
  ⟨rfl, rfl, rfl, rfl, rfl, rfl, rfl, rfl, rfl, rfl, rfl⟩

/-- A hypothesis that cites nothing. -/
def bareHypothesis : Hypothesis :=
  { id := "HYP-01", title := "Pool exhausted", description := "", confidence := default,
    supportingEvidenceIds := [], reasoningSummary := "" }

/-- A restart of the payment service. -/
def restartAction (actionId : String) : RemediationAction :=
  { actionId, actionType := .restartService, targetService := "payment-service", description := "",
    rationale := "", rollbackPlan := "" }

/-- A runner whose only tool restarts services. -/
def restartRunner [Unicode] : Runner Unit where
  registry := (⟨Dict.empty⟩ : ToolRegistry Unit).register
    (restartServiceTool fun _ _ w => (.ok (true, "restarted"), w))
  world := ()

/-- The labels of one round of investigation: the analysts finish one after another and find
nothing, the RCA proposes the hypotheses, the critic decides. -/
def investigationRound (hypotheses : List Hypothesis) (decision : CritiqueDecision) :
    List (Label W) :=
  let plan : SupervisorPlan :=
    { triageAssessment := "", initialSeverity := .sev1, suspectedDomains := [], tasks := [], reasoning := "" }
  let nothing (a : Analyst) : AnalystAgentOutput :=
    { agentType := a.name, service := "", findingsSummary := "", evidenceItems := [], anomaliesDetected := false }
  [.finish (.supervisor plan) stillClock, .advance [.supervisor]] ++
    [Analyst.log, .metrics, .code, .memory].map (fun a => .finish (.analyst a (nothing a)) stillClock) ++
    [.advance analysts, .finish .joinEvidence stillClock, .advance [.joinEvidence],
      .finish (.rca { hypotheses, primaryHypothesisId := "HYP-01", confidenceRationale := "" }) stillClock,
      .advance [.rca], .finish (.critic { decision, critiqueNotes := "" }) stillClock, .advance [.critic]]

/-- The labels of a remediation with the given actions, up to its verification. -/
def remediationRound (actions : List RemediationAction) (status : VerificationStatus)
    (rollback : Bool) : List (Label W) :=
  [.finish (.remediationPlanning { incidentId := "", hypothesisId := "", actions, summary := "" }) stillClock,
    .advance [.remediationPlanning]] ++
    List.replicate (actions.length + 1) (.execute stillClock) ++
    [.advance [.execution],
      .finish (.verification { status, rollbackRecommended := rollback, explanation := "" }) stillClock,
      .advance [.verification]]

end Workflow

end OpsPilot
