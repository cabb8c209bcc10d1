import OpsPilot.Orchestration.LoopBound
/-!
# What a critique left behind can do

Where the critic runs without a hypothesis over a request for more evidence, nothing that the route reads has
changed since it was made, and so it goes round again. `judgesOrDecides_needed` is why `loop_bounded` has to
exclude this: from there on the critic can run as often as one likes.
-/
namespace OpsPilot

/-- The route would follow the request for more evidence. -/
def Asking (st : IncidentState) : Prop :=
  (∃ c, st.critique = some c ∧ c.decision = .needsMoreEvidence) → st.iterationCount < st.maxIterations

/-- In the loop iterations are left. -/
def AskingInv (st : IncidentState) : Position → Prop
  | .fanOut => Asking st
  | .waiting n => n.inLoop = true → Asking st
  | .wrote .critic _ | .ended => True
  | .wrote n u => n.inLoop = true → Asking (u.apply st)

structure Stale (st : IncidentState) : Prop where
  unselected : st.selectedHypothesis = none
  asks : ∃ c, st.critique = some c ∧ c.decision = .needsMoreEvidence
  left : st.iterationCount < st.maxIterations

theorem Stale.collected {st st' : IncidentState} (h : Stale st) (hc : Collected st st') : Stale st' := by
  obtain ⟨ev, tl, rfl⟩ := hc
  exact ⟨h.unselected, h.asks, h.left⟩

theorem Stale.route {st : IncidentState} (h : Stale st) : routeCriticDecision st = .supervisor := by
  obtain ⟨c, hc, hasks⟩ := h.asks
  simp [routeCriticDecision, hc, hasks, h.left]

namespace Workflow

variable {W : Type}

theorem criticRuns_append (labels labels' : List (Label W)) :
    criticRuns (replies (labels ++ labels')) = criticRuns (replies labels) + criticRuns (replies labels') := by
  rw [replies, List.filterMap_append, criticRuns, List.countP_append]
  rfl

theorem criticRuns_cons_critic (verdict : CritiqueResult) (clock : Clock) (labels : List (Label W)) :
    criticRuns (replies (.finish (.critic verdict) clock :: labels)) = criticRuns (replies labels) + 1 :=
  List.countP_cons_of_pos rfl

/-- The critic is about to run, over a request that it will leave standing. -/
structure Stuck (s : Workflow W) : Prop where
  running : s.graph.running = [.critic]
  writes : s.graph.writes = []
  stale : Stale s.graph.state

section
variable [Unicode] {policyEngine : RiskPolicyEngine} {s s' t : Workflow W}

theorem asking_move {p p' : Position} {l : Label W} (hI : AskingInv s.graph.state p)
    (hm : Move policyEngine p s l p' s') : AskingInv s'.graph.state p' := by
  cases hm with
  | world w => exact hI
  | collect a output clock hr => exact hI
  | answer reply clock u ha =>
    cases reply with
    | critic verdict => trivial
    | supervisor plan =>
      cases ha
      exact hI
    | joinEvidence =>
      cases ha
      exact hI
    | rca output =>
      cases ha
      exact hI
    | remediationPlanning rawPlan => exact fun h => Bool.noConfusion h
    | analyst a output => exact ha.elim
    | verification assessment => exact ha.elim
    | raises n exc => exact ha.elim
  | verify assessment clock out u ho hu => exact fun h => Bool.noConfusion h
  | verifyRaises assessment clock out exc ho hu => trivial
  | raises n exc clock hp hc => trivial
  | act clock action out res hi ho hres => exact fun h => Bool.noConfusion h
  | actRaises clock action out exc hi ho hres => trivial
  | executed clock hi => exact fun h => Bool.noConfusion h
  | join order st' hc ha =>
    obtain ⟨ev, tl, rfl⟩ := hc
    exact fun _ => hI
  | advance n u order hn hw =>
    cases n with
    | analyst a => exact absurd ⟨a, rfl⟩ hn
    | supervisor => exact hI rfl
    | joinEvidence => exact fun _ => hI rfl
    | rca => exact fun _ => hI rfl
    | critic =>
      simp only [Position.after]
      cases hroute : routeCriticDecision (u.apply s.graph.state) with
      | supervisor => exact fun _ _ => (route_supervisor hroute).2
      | remediation => exact fun h => Bool.noConfusion h
      | complete => trivial
    | remediationPlanning => exact fun h => Bool.noConfusion h
    | execution => exact fun h => Bool.noConfusion h
    | verification => trivial

/-! ## One more round -/

variable (policyEngine) in
/-- A node that runs alone answers, and the superstep ends. -/
theorem run_alone (reply : Reply) (clock : Clock) (u : NodeUpdate) (hr : s.graph.running = [reply.node])
    (hw : s.graph.writes = []) (hposs : reply.possible s.graph.state = true)
    (hout : s.outcome policyEngine clock reply = { runner := s.runner, result := .ok u }) :
    ∃ t, Machine.run (step policyEngine) s [.finish reply clock, .advance [reply.node]] = some t ∧
      t.graph.writes = [] ∧ t.graph.state = u.apply s.graph.state ∧
      t.graph.running = (successors t.graph.state reply.node).eraseDups := by
  have hfinish : s.step policyEngine (.finish reply clock) = some (s.conclude reply.node (.ok u)) := by
    simp [step, finish, hr, hposs, hout]
  have hgraph : (s.conclude reply.node (.ok u)).graph =
      { state := s.graph.state, running := [], writes := [(reply.node, u)] } := Superstep.finish_singleton hr hw u
  have hadvance : ∃ t, (s.conclude reply.node (.ok u)).step policyEngine (.advance [reply.node]) = some t := by
    simp [step, advance, Superstep.barrier, hgraph]
  obtain ⟨t, ht⟩ := hadvance
  obtain ⟨g, hg, rfl⟩ := Option.map_eq_some_iff.1 ht
  obtain rfl := Superstep.barrier_singleton (congrArg Superstep.writes hgraph) hg
  have hrun := (Machine.run_cons_of_step hfinish).trans ((Machine.run_cons_of_step ht).trans (Machine.run_nil _))
  exact ⟨_, hrun, rfl, rfl, rfl⟩

variable (policyEngine) in
/-- The analysts answer one after another. -/
theorem run_fanOut (output : Analyst → AnalystAgentOutput) (clock : Clock) (hr : s.graph.running = analysts)
    (hw : s.graph.writes = []) :
    ∃ t, Machine.run (step policyEngine) s
        ([Analyst.log, .metrics, .code, .memory].map (fun a => .finish (.analyst a (output a)) clock) ++
          [.advance analysts]) = some t ∧
      t.graph.writes = [] ∧ t.graph.running = [.joinEvidence] ∧ Collected s.graph.state t.graph.state := by
  obtain ⟨⟨st, running, writes⟩, runner, frame, streamed, audit, raised⟩ := s
  simp only at hr hw
  subst hr hw
  simp [step, finish, advance, Superstep.barrier, Reply.node, Reply.possible, Superstep.finish, conclude, outcome,
    analysts, successors, Superstep.inOrder, Dict.look]
  refine ⟨by decide, ?_⟩
  have hupdate : ∀ a : Analyst, AnalystUpdate (.analyst a) (a.node (output a) clock) := fun a => ⟨a, _, _, rfl, rfl⟩
  exact (hupdate .memory).collected ((hupdate .code).collected ((hupdate .metrics).collected
    ((hupdate .log).collected (Collected.refl st))))

/-- A round in which nothing is found. -/
theorem stuck_round (h : Stuck s) (verdict : CritiqueResult) (clock : Clock) :
    ∃ labels t, Machine.run (step policyEngine) s (.finish (.critic verdict) clock :: labels) = some t ∧
      criticRuns (replies labels) = 0 ∧ Stuck t := by
  have hcritic : criticNode s.graph.state (.ok verdict) clock = .ok [.currentStage .critiquing] := by
    simp [criticNode, h.stale.unselected]
  obtain ⟨s₁, h₁, hw₁, hst₁, hr₁⟩ := run_alone policyEngine (.critic verdict) clock [.currentStage .critiquing]
    h.running h.writes rfl (congrArg (NodeOutcome.mk s.runner · none) hcritic)
  have hs₁ : Stale s₁.graph.state := by
    rw [hst₁]
    exact ⟨h.stale.unselected, h.stale.asks, h.stale.left⟩
  have hsupervisor : s₁.graph.running = [.supervisor] := by
    rw [hr₁]
    simp only [Reply.node, successors, hs₁.route]
    decide
  let plan : SupervisorPlan :=
    { triageAssessment := "", initialSeverity := .sev1, suspectedDomains := [], tasks := [], reasoning := "" }
  obtain ⟨s₂, h₂, hw₂, hst₂, hr₂⟩ := run_alone policyEngine (.supervisor plan) clock _ hsupervisor hw₁ rfl rfl
  have hs₂ : Stale s₂.graph.state := by
    rw [hst₂]
    exact ⟨hs₁.unselected, hs₁.asks, hs₁.left⟩
  have hanalysts : s₂.graph.running = analysts := by
    rw [hr₂]
    show analysts.eraseDups = analysts
    decide
  let output (a : Analyst) : AnalystAgentOutput :=
    { agentType := a.name, service := "", findingsSummary := "", evidenceItems := [], anomaliesDetected := false }
  obtain ⟨s₃, h₃, hw₃, hr₃, hc₃⟩ := run_fanOut policyEngine output clock hanalysts hw₂
  have hs₃ : Stale s₃.graph.state := hs₂.collected hc₃
  obtain ⟨s₄, h₄, hw₄, hst₄, hr₄⟩ := run_alone policyEngine .joinEvidence clock _ hr₃ hw₃ rfl rfl
  have hrca : s₄.graph.running = [.rca] := by
    rw [hr₄]
    show [Node.rca].eraseDups = [.rca]
    decide
  let nothing : RCAAgentOutput := { hypotheses := [], primaryHypothesisId := "", confidenceRationale := "" }
  obtain ⟨s₅, h₅, hw₅, hst₅, hr₅⟩ := run_alone policyEngine (.rca nothing) clock _ hrca hw₄ rfl rfl
  have hs₅ : Stale s₅.graph.state := by
    rw [hst₅, hst₄]
    exact ⟨rfl, hs₃.asks, hs₃.left⟩
  have hcritic' : s₅.graph.running = [.critic] := by
    rw [hr₅]
    show [Node.critic].eraseDups = [.critic]
    decide
  have hrun := Machine.run_trans h₁ (Machine.run_trans h₂ (Machine.run_trans h₃ (Machine.run_trans h₄ h₅)))
  exact ⟨_, s₅, hrun, rfl, hcritic', hw₅, hs₅⟩

theorem stuck_rounds (h : Stuck s) (verdict : CritiqueResult) (clock : Clock) (n : Nat) :
    ∃ labels t, Machine.run (step policyEngine) s (.finish (.critic verdict) clock :: labels) = some t ∧
      criticRuns (replies labels) = n := by
  induction n generalizing s with
  | zero =>
    obtain ⟨labels, t, hrun, hnone, -⟩ := stuck_round h verdict clock
    exact ⟨labels, t, hrun, hnone⟩
  | succ n ih =>
    obtain ⟨labels, t, hrun, hnone, ht⟩ := stuck_round h verdict clock
    obtain ⟨labels', t', hrun', hn⟩ := ih ht
    refine ⟨labels ++ .finish (.critic verdict) clock :: labels', t', Machine.run_trans hrun hrun', ?_⟩
    rw [criticRuns_append, hnone, Nat.zero_add, criticRuns_cons_critic, hn]

/-- The condition cannot be weakened: once the critic runs over a request that it leaves standing, the run can be
continued so that it runs any number of times. -/
theorem judgesOrDecides_needed {st : IncidentState} (hfresh : st.Fresh) (runner : Runner W) {as : List (Label W)}
    (hrun : Machine.run (step policyEngine) (init st runner) as = some s) {l : Label W}
    (hst : s.step policyEngine l = some s') (h : ¬ JudgesOrDecides s l) (n : Nat) :
    ∃ labels t, Machine.run (step policyEngine) (init st runner) (as ++ l :: labels) = some t ∧
      n ≤ criticRuns (replies (as ++ l :: labels)) := by
  have h0 : AskingInv st (.waiting .supervisor) := fun _ ⟨c, hc, _⟩ => by
    rw [hfresh.critique] at hc
    cases hc
  obtain ⟨p, hat, hI⟩ := run_position (J := fun _ p s => AskingInv s.graph.state p) h0
    (fun _ _ _ _ _ _ _ hI hm => asking_move hI hm) as s hrun
  cases l with
  | finish reply clock =>
    cases reply with
    | critic verdict =>
      have hmem : .critic ∈ s.graph.running := by
        by_contra hnot
        simp [step, finish, Reply.node, hnot] at hst
      obtain rfl : p = .waiting .critic := waiting_of_mem hat hmem (by rintro ⟨a, ⟨⟩⟩)
      obtain ⟨hnone, hasks⟩ := not_or.1 h
      have hstale : ∃ c, s.graph.state.critique = some c ∧ c.decision = .needsMoreEvidence := by
        cases hc : s.graph.state.critique with
        | none => simp [hc] at hasks
        | some c => exact ⟨c, rfl, by simpa [hc] using hasks⟩
      have hstuck : Stuck s := ⟨hat.1, hat.2.1, ⟨by simpa using hnone, hstale, hI rfl hstale⟩⟩
      have hrounds : ∃ labels t,
          Machine.run (step policyEngine) s (.finish (.critic verdict) clock :: labels) = some t ∧
            criticRuns (replies labels) = n :=
        stuck_rounds hstuck verdict clock n
      obtain ⟨labels, t, hlabels, hn⟩ := hrounds
      refine ⟨labels, t, Machine.run_trans hrun hlabels, ?_⟩
      rw [criticRuns_append, criticRuns_cons_critic, hn]
      omega
    | _ => exact absurd trivial h
  | _ => exact absurd trivial h

end

end Workflow

end OpsPilot
