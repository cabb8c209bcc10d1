import OpsPilot.Orchestration.Moves
/-!
# The critic's gate before remediation

`Endorsed H st`: after the nodes in `H` have finished, the state holds an approval that the
critic, which finished last, gave to a hypothesis of the RCA that finished just before it.
The loop back from the critic is only taken on `NEEDS_MORE_EVIDENCE`, so whatever critique an
earlier round left behind is not an approval (`Undecided`); `GateInv` carries this from
position to position.
-/
namespace OpsPilot

/-- No critique, or one that asks for more evidence. -/
def Undecided (st : IncidentState) : Prop :=
  ∀ c, st.critique = some c → c.decision = .needsMoreEvidence

/-- The hypothesis about to be acted on, and where it comes from. -/
structure Endorsed [Unicode] (H : List Reply) (st : IncidentState) (hypothesis : Hypothesis)
    (output : RCAAgentOutput) (verdict critique : CritiqueResult) : Prop where
  latest : ∃ before, H = before ++ [.rca output, .critic verdict]
  selected : st.selectedHypothesis = some hypothesis
  proposed : hypothesis ∈ output.hypotheses
  hypotheses : st.hypotheses = output.hypotheses
  standing : st.critique = some critique
  approved : critique.decision = .approve
  judged : CriticAgent.critique hypothesis st.evidence (.ok verdict) = .ok critique
  grounded : ∀ id ∈ hypothesis.supportingEvidenceIds, id ∈ st.evidence.map Evidence.id

theorem selectHypothesis_mem {output : RCAAgentOutput} {h : Hypothesis}
    (hs : selectHypothesis output = some h) : h ∈ output.hypotheses := by
  unfold selectHypothesis at hs
  rcases Option.or_eq_some_iff.1 hs with hf | ⟨-, hh⟩
  · exact List.mem_of_find?_eq_some hf
  · exact List.mem_of_mem_head? hh

/-- What the RCA node hands to the critic. -/
structure Proposed (H : List Reply) (st : IncidentState) (output : RCAAgentOutput) : Prop where
  latest : ∃ before, H = before ++ [.rca output]
  hypotheses : st.hypotheses = output.hypotheses
  selected : st.selectedHypothesis = selectHypothesis output
  undecided : Undecided st

theorem proposed_rcaNode {H : List Reply} {st : IncidentState} (h : Undecided st)
    (output : RCAAgentOutput) (clock : Clock) :
    Proposed (H ++ [.rca output]) ((rcaNode output clock).apply st) output :=
  ⟨⟨H, rfl⟩, rfl, rfl, h⟩

theorem Undecided.collected {st st' : IncidentState} (h : Undecided st) (hc : Collected st st') :
    Undecided st' := by
  obtain ⟨ev, tl, rfl⟩ := hc
  exact h

theorem route_supervisor {st : IncidentState} (h : routeCriticDecision st = .supervisor) :
    (∃ c, st.critique = some c ∧ c.decision = .needsMoreEvidence) ∧
      st.iterationCount < st.maxIterations := by
  rcases routeCriticDecision_cases st with ⟨hmore, -⟩ | ⟨-, hr⟩ | ⟨-, hr⟩
  · exact hmore
  · cases h.symm.trans hr
  · cases h.symm.trans hr

theorem route_remediation {st : IncidentState} (h : routeCriticDecision st = .remediation) :
    ∃ c, st.critique = some c ∧ c.decision = .approve := by
  rcases routeCriticDecision_cases st with ⟨-, hr⟩ | ⟨happ, -⟩ | ⟨-, hr⟩
  · cases h.symm.trans hr
  · exact happ
  · cases h.symm.trans hr

section
variable [Unicode]

/-- **The critic's own approval opens the gate**: if the route leads to remediation, it was
given in this round. -/
theorem endorsed_of_route {H : List Reply} {st : IncidentState} {output : RCAAgentOutput}
    {verdict : CritiqueResult} {clock : Clock} {u : NodeUpdate} (hp : Proposed H st output)
    (hu : criticNode st (.ok verdict) clock = .ok u)
    (hr : routeCriticDecision (u.apply st) = .remediation) :
    ∃ h c, Endorsed (H ++ [.critic verdict]) (u.apply st) h output verdict c := by
  obtain ⟨c, hc, happ⟩ := route_remediation hr
  rcases criticNode_cases hu with ⟨-, rfl⟩ | ⟨h, c', event, hs, hjudge, -, rfl⟩
  · -- the critique of an earlier round is not an approval
    have hstale := hp.undecided c hc
    rw [happ] at hstale
    cases hstale
  · obtain rfl : c' = c := Option.some.inj hc
    obtain ⟨before, hH⟩ := hp.latest
    exact ⟨h, c', ⟨before, by simp [hH]⟩, hs, selectHypothesis_mem (hp.selected.symm.trans hs),
      hp.hypotheses, rfl, happ, hjudge, CriticAgent.grounded_of_approve hjudge happ⟩

/-! ## The gate along a run -/

/-- Position by position, after the nodes in `H`. -/
def GateInv (policyEngine : RiskPolicyEngine) (H : List Reply) (st : IncidentState) : Position → Prop
  | .waiting .critic => ∃ output, Proposed H st output
  | .wrote .rca u => ∃ before output clock,
      H = before ++ [.rca output] ∧ Undecided st ∧ u = rcaNode output clock
  | .wrote .critic u => ∃ before output verdict clock,
      H = before ++ [.critic verdict] ∧ Proposed before st output ∧ criticNode st (.ok verdict) clock = .ok u
  | .waiting .remediationPlanning => ∃ h output verdict c, Endorsed H st h output verdict c
  | .wrote .remediationPlanning u => ∃ before rawPlan clock h output verdict c,
      H = before ++ [.remediationPlanning rawPlan] ∧ Endorsed before st h output verdict c ∧
      u = remediationPlanningNode policyEngine st rawPlan clock
  | .waiting .execution | .wrote .execution _ => ∃ before rawPlan h output verdict c,
      H = before ++ [.remediationPlanning rawPlan] ∧ Endorsed before st h output verdict c
  | .waiting .verification | .wrote .verification _ | .ended => True
  | .waiting _ | .fanOut => Undecided st
  | .wrote _ u => Undecided (u.apply st)

/-- Planning the remediation leaves the endorsement alone. -/
theorem Endorsed.planned {H : List Reply} {st : IncidentState} {h : Hypothesis}
    {output : RCAAgentOutput} {verdict c : CritiqueResult} (he : Endorsed H st h output verdict c)
    (policyEngine : RiskPolicyEngine) (rawPlan : RemediationPlan) (clock : Clock) :
    Endorsed H ((remediationPlanningNode policyEngine st rawPlan clock).apply st) h output verdict c := by
  simp only [remediationPlanningNode, he.selected]
  exact ⟨he.latest, he.selected, he.proposed, he.hypotheses, he.standing, he.approved, he.judged, he.grounded⟩

namespace Workflow

variable {W : Type} {policyEngine : RiskPolicyEngine}

theorem gateInv_init {st : IncidentState} (hfresh : st.Fresh) :
    GateInv policyEngine [] st (.waiting .supervisor) := by
  intro c hc
  rw [hfresh.critique] at hc
  cases hc

theorem gate_move {as : List (Label W)} {p p' : Position} {s s' : Workflow W} {l : Label W}
    (hI : GateInv policyEngine (replies as) s.graph.state p) (hm : Move policyEngine p s l p' s') :
    GateInv policyEngine (replies (as ++ [l])) s'.graph.state p' := by
  cases hm with
  | world w => simpa using hI
  | collect a output clock hr => exact hI
  | answer reply clock u ha =>
    simp only [replies_concat_finish]
    cases reply with
    | supervisor plan =>
      cases ha
      exact hI
    | joinEvidence =>
      cases ha
      exact hI
    | rca output =>
      cases ha
      exact ⟨_, output, clock, rfl, hI, rfl⟩
    | critic verdict =>
      obtain ⟨output, hp⟩ := hI
      exact ⟨_, output, verdict, clock, rfl, hp, ha⟩
    | remediationPlanning rawPlan =>
      cases ha
      obtain ⟨h, output, verdict, c, he⟩ := hI
      exact ⟨_, rawPlan, clock, h, output, verdict, c, rfl, he, rfl⟩
    | analyst a output => exact ha.elim
    | verification assessment => exact ha.elim
    | raises n exc => exact ha.elim
  | verify assessment clock out u ho hu => trivial
  | verifyRaises assessment clock out exc ho hu => trivial
  | raises n exc clock hp hc => trivial
  | act clock action out res hi ho hres => simpa using hI
  | actRaises clock action out exc hi ho hres => trivial
  | executed clock hi =>
    rw [replies_concat_execute]
    exact hI
  | join order st' hc ha => exact hI.collected hc
  | advance n u order hn hw =>
    simp only [replies_concat_advance]
    cases n with
    | supervisor => exact hI
    | analyst a => exact absurd ⟨a, rfl⟩ hn
    | joinEvidence => exact hI
    | rca =>
      obtain ⟨before, output, clock, hH, hund, rfl⟩ := hI
      exact ⟨output, hH ▸ proposed_rcaNode hund output clock⟩
    | critic =>
      obtain ⟨before, output, verdict, clock, hH, hp, hu⟩ := hI
      simp only [Position.after]
      cases hroute : routeCriticDecision (u.apply s.graph.state) with
      | supervisor =>
        obtain ⟨⟨c, hc, hnme⟩, -⟩ := route_supervisor hroute
        intro c' hc'
        obtain rfl := Option.some.inj (hc.symm.trans hc')
        exact hnme
      | remediation =>
        obtain ⟨h, c, he⟩ := endorsed_of_route hp hu hroute
        exact ⟨h, output, verdict, c, hH ▸ he⟩
      | complete => trivial
    | remediationPlanning =>
      obtain ⟨before, rawPlan, clock, h, output, verdict, c, hH, he, rfl⟩ := hI
      exact ⟨before, rawPlan, h, output, verdict, c, hH, he.planned policyEngine rawPlan clock⟩
    | execution => trivial
    | verification => trivial

/-- **The critic gate.** Whenever the planning of a remediation runs, the last two nodes that
finished are an RCA and the critic, the critic approved the selected hypothesis, one of that
RCA, and everything it cites is in the evidence; and so it still is while the plan is
executed. -/
theorem critic_gate {st : IncidentState} (hfresh : st.Fresh) (runner : Runner W)
    (as : List (Label W)) (s : Workflow W)
    (hrun : Machine.run (step policyEngine) (init st runner) as = some s) :
    (.remediationPlanning ∈ s.graph.running →
      ∃ h output verdict c, Endorsed (replies as) s.graph.state h output verdict c) ∧
    (.execution ∈ s.graph.running → ∃ before rawPlan h output verdict c,
      replies as = before ++ [.remediationPlanning rawPlan] ∧
        Endorsed before s.graph.state h output verdict c) := by
  obtain ⟨p, hat, hI⟩ := run_position (J := fun as p s => GateInv policyEngine (replies as) s.graph.state p)
    (gateInv_init hfresh) (fun as p s l p' s' _ hI hm => gate_move hI hm) as s hrun
  constructor
  · intro hr
    obtain rfl := waiting_of_mem hat hr (by rintro ⟨a, ⟨⟩⟩)
    exact hI
  · intro hr
    obtain rfl := waiting_of_mem hat hr (by rintro ⟨a, ⟨⟩⟩)
    exact hI

end Workflow

end

/-- A round whose hypothesis is approved at once. -/
theorem Workflow.critic_gate_first_round :
    letI := Py.asciiTable
    ∃ s h output verdict c, Machine.run (step {}) (init (newIncident 3) { registry := {}, world := () })
        (investigationRound [bareHypothesis] .approve : List (Label Unit)) = some s ∧
      Endorsed (replies (investigationRound [bareHypothesis] .approve : List (Label Unit))) s.graph.state h output
        verdict c := by
  let _ := Py.asciiTable
  have hend : ∃ s, Machine.run (step {}) (init (newIncident 3) { registry := {}, world := () })
      (investigationRound [bareHypothesis] .approve : List (Label Unit)) = some s ∧
        .remediationPlanning ∈ s.graph.running := by decide +kernel
  obtain ⟨s, hs, hmem⟩ := hend
  obtain ⟨h, output, verdict, c, he⟩ := (critic_gate (fresh_newIncident 3) _ _ s hs).1 hmem
  exact ⟨s, h, output, verdict, c, hs, he⟩

end OpsPilot
