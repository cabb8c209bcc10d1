import OpsPilot.Orchestration.CriticGate
import OpsPilot.Orchestration.Results
import OpsPilot.Orchestration.Updates
import OpsPilot.Reporting.Postmortem
/-!
# What a report says was done

`generate_report` writes "4. Remediation Executed" from the plan (postmortem.py:40) and never reads
`execution_results`. The evidence that it cites is what the critic has checked. `factual_iff` says in
which states of a run the two agree with the facts.

A report may be asked for at any time: `Workflow.settled` is the incident with everything merged that
the graph has yielded, and at a barrier it is the state of the graph.
-/
namespace OpsPilot

/-! ## What is cited -/

/-- The critic has approved nothing that cites anything else than evidence. -/
def Cites (st : IncidentState) : Prop :=
  ∀ c h, st.critique = some c → c.decision = .approve → st.selectedHypothesis = some h →
    ∀ id ∈ h.supportingEvidenceIds, id ∈ st.evidence.map Evidence.id

theorem Undecided.cites {st : IncidentState} (h : Undecided st) : Cites st := by
  intro c hypothesis hc happ
  have hmore := h c hc
  rw [happ] at hmore
  cases hmore

theorem Cites.collected {st st' : IncidentState} (h : Cites st) (hc : Collected st st') : Cites st' := by
  obtain ⟨ev, tl, rfl⟩ := hc
  intro c hypothesis hcrit happ hs id hid
  rw [List.map_append]
  exact List.mem_append_left _ (h c hypothesis hcrit happ hs id hid)

/-- Neither the critique nor the hypothesis. -/
def FieldUpdate.keepsVerdict : FieldUpdate → Bool
  | .critique _ | .selectedHypothesis _ => false
  | _ => true

theorem Cites.apply {st : IncidentState} (h : Cites st) {u : NodeUpdate}
    (hu : ∀ f ∈ u, f.keepsVerdict = true) : Cites (u.apply st) := by
  refine NodeUpdate.apply_induction h fun f hf st' h' => ?_
  have hkeeps := hu f hf
  cases f with
  | critique v => cases hkeeps
  | selectedHypothesis v => cases hkeeps
  | evidence v => exact h'.collected ⟨v, [], by simp [FieldUpdate.apply]⟩
  | _ => exact h'

/-- What the critic itself approves is grounded. -/
theorem cites_criticNode [Unicode] {st : IncidentState} {verdict : CritiqueResult} {clock : Clock}
    {u : NodeUpdate} (h : Cites st) (hu : criticNode st (.ok verdict) clock = .ok u) : Cites (u.apply st) := by
  rcases criticNode_cases hu with ⟨-, rfl⟩ | ⟨hypothesis, c, event, hs, hjudge, -, rfl⟩
  · exact h.apply (by simp [FieldUpdate.keepsVerdict])
  · intro c' hypothesis' hc' happ hs'
    obtain rfl : c = c' := Option.some.inj hc'
    obtain rfl : hypothesis = hypothesis' := Option.some.inj (hs.symm.trans hs')
    exact CriticAgent.grounded_of_approve hjudge happ

/-! ## What is listed -/

/-- The line of an action (postmortem.py:45). -/
def PostmortemGenerator.actionLine (act : RemediationAction) : String :=
  "- **" ++ act.actionType.name ++ "** on `" ++ act.targetService ++ "`: " ++ act.description

/-- The ids that the report cites as verified are those of evidence once the critic has approved. -/
def Grounded (st : IncidentState) (report : PostmortemReportResponse) : Prop :=
  (∃ c, st.critique = some c ∧ c.decision = .approve) →
    ∀ id ∈ report.supportingEvidenceIds, id ∈ st.evidence.map Evidence.id

/-- The report states only what was done. -/
structure Factual (st : IncidentState) (report : PostmortemReportResponse) : Prop where
  listed : st.plannedActions ≠ [] →
    report.remediationSummary = "\n".intercalate (st.plannedActions.map PostmortemGenerator.actionLine)
  carriedOut : ∀ action ∈ st.plannedActions, st.CarriedOut action
  grounded : Grounded st report

section
variable [UnicodeText] {st : IncidentState} {now : Time}

theorem listed_generateReport (h : st.plannedActions ≠ []) :
    (PostmortemGenerator.generateReport st now).remediationSummary =
      "\n".intercalate (st.plannedActions.map PostmortemGenerator.actionLine) :=
  if_neg fun hempty => h (List.isEmpty_iff.1 hempty)

theorem Cites.grounded (h : Cites st) : Grounded st (PostmortemGenerator.generateReport st now) := by
  rintro ⟨c, hc, happ⟩ id hid
  simp only [PostmortemGenerator.generateReport] at hid
  cases hs : st.selectedHypothesis with
  | none =>
    rw [hs] at hid
    cases hid
  | some hypo =>
    rw [hs] at hid
    exact h c hypo hc happ hs id hid

theorem Cites.factual_iff_carriedOut (h : Cites st) :
    Factual st (PostmortemGenerator.generateReport st now) ↔ ∀ action ∈ st.plannedActions, st.CarriedOut action :=
  ⟨Factual.carriedOut, fun hdone => ⟨listed_generateReport, hdone, h.grounded⟩⟩

end

/-! ## Along a run -/

namespace Workflow

variable {W : Type}

theorem collected_settled {s : Workflow W} {p : Position} (h : s.At p) :
    Collected (p.reduced s.graph.state) s.settled := by
  have hempty : s.graph.writes = [] → Collected s.graph.state s.settled := by
    intro hw
    rw [settled, hw]
    exact Collected.refl _
  cases p with
  | waiting n => exact hempty h.2.1
  | wrote n u =>
    rw [settled, h.2.1]
    exact Collected.refl _
  | fanOut =>
    refine collected_applyAll (Collected.refl _) fun u hu => ?_
    obtain ⟨⟨n, u⟩, hmem, rfl⟩ := List.mem_map.1 hu
    exact ⟨n, h.2 n u hmem⟩
  | ended => exact hempty h.2

theorem reduced_after (st : IncidentState) (n : Node) : (Position.after st n).reduced st = st := by
  cases n with
  | critic =>
    simp only [Position.after]
    cases routeCriticDecision st <;> rfl
  | _ => rfl

/-- Every planned action is carried out exactly if there is none, or `execution_node` has returned and among the
actions it has got done there is one under the id of each. -/
theorem carriedOut_iff {st : IncidentState} {streamed : List (Node × NodeUpdate)}
    {results : List ActionExecutionResult} {done : List RemediationAction}
    (hstanding : Ahead st streamed ∨ Behind results st streamed)
    (hdone : ∀ id, (∃ res ∈ results, res.actionId = id ∧ res.status = .success) ↔
      ∃ action ∈ done, action.actionId = id) :
    (∀ action ∈ st.plannedActions, st.CarriedOut action) ↔
      st.plannedActions = [] ∨ .execution ∈ streamed.map Prod.fst ∧
        ∀ action ∈ st.plannedActions, ∃ action' ∈ done, action'.actionId = action.actionId := by
  rcases hstanding with hahead | hbehind
  · constructor
    · intro hall
      refine .inl (List.eq_nil_iff_forall_not_mem.2 fun action ha => ?_)
      obtain ⟨res, hres, -⟩ := hall action ha
      rw [hahead.noResults] at hres
      cases hres
    · rintro (hnil | ⟨hreturned, -⟩)
      · simp [hnil]
      · exact absurd hreturned hahead.notReturned
  · simp only [IncidentState.CarriedOut, hbehind.results, hdone]
    constructor
    · exact fun hall => .inr ⟨hbehind.returned, hall⟩
    · rintro (hnil | ⟨-, hall⟩)
      · simp [hnil]
      · exact hall

section
variable [Unicode] {policyEngine : RiskPolicyEngine}

theorem cites_answer {H : List Reply} {st : IncidentState} {clock : Clock} {u : NodeUpdate} {reply : Reply}
    (hG : GateInv policyEngine H st (.waiting reply.node)) (h : Cites st)
    (ha : Answers policyEngine st clock u reply) : Cites (u.apply st) := by
  cases reply with
  | supervisor plan =>
    cases ha
    exact h.apply (by simp [supervisorNode, FieldUpdate.keepsVerdict])
  | joinEvidence =>
    cases ha
    exact h.apply (by simp [joinEvidenceNode, FieldUpdate.keepsVerdict])
  | rca output =>
    -- a new hypothesis, and no approval that could be about another one
    cases ha
    have hproposed := proposed_rcaNode (H := H) hG output clock
    exact hproposed.undecided.cites
  | critic verdict => exact cites_criticNode h ha
  | remediationPlanning rawPlan =>
    cases ha
    refine h.apply ?_
    unfold remediationPlanningNode
    split <;> simp [FieldUpdate.keepsVerdict]
  | analyst a output => exact ha.elim
  | verification assessment => exact ha.elim
  | raises n exc => exact ha.elim

theorem cites_move {H : List Reply} {p p' : Position} {s s' : Workflow W} {l : Label W}
    (hG : GateInv policyEngine H s.graph.state p) (h : Cites (p.reduced s.graph.state))
    (hm : Move policyEngine p s l p' s') : Cites (p'.reduced s'.graph.state) := by
  cases hm with
  | world w => exact h
  | collect a output clock hr => exact h
  | answer reply clock u ha => exact cites_answer hG h ha
  | verify assessment clock out u ho hu =>
    obtain ⟨tl, rfl⟩ := verificationNode_ok (ho ▸ hu)
    simp only [Position.reduced, state_conclude, graph_record]
    exact h.apply (by simp [FieldUpdate.keepsVerdict])
  | verifyRaises assessment clock out exc ho hu => simpa [Position.reduced] using h
  | raises n exc clock hp hc =>
    rcases hp with rfl | rfl
    · exact h
    · exact h
  | act clock action out res hi ho hres => simpa [Position.reduced] using h
  | actRaises clock action out exc hi ho hres => simpa [Position.reduced] using h
  | executed clock hi =>
    refine h.apply ?_
    unfold executionUpdate
    split <;> simp [FieldUpdate.keepsVerdict]
  | join order st' hc ha => exact h.collected hc
  | advance n u order hn hw =>
    rw [reduced_after]
    exact h

/-- **A report lists the plan, whatever became of it; what it cites is evidence.** In every state of
every run an approved hypothesis cites evidence alone. The listed actions have all been carried out
exactly if there are none, or `execution_node` has returned and under the id of each it has come to an action
that the runner could get done. -/
theorem factual_iff [UnicodeText] {st : IncidentState} (hfresh : st.Fresh) (runner : Runner W)
    (as : List (Label W)) (s : Workflow W)
    (hrun : Machine.run (step policyEngine) (init st runner) as = some s) (now : Time) :
    Grounded s.settled (PostmortemGenerator.generateReport s.settled now) ∧
      (Factual s.settled (PostmortemGenerator.generateReport s.settled now) ↔
        s.settled.plannedActions = [] ∨
          .execution ∈ s.streamed.map Prod.fst ∧
            ∀ action ∈ s.settled.plannedActions,
              ∃ action' ∈ Machine.trace (step policyEngine) carriesOut (init st runner) as,
                action'.actionId = action.actionId) := by
  have h0 : GateInv policyEngine [] st (.waiting .supervisor) := gateInv_init hfresh
  obtain ⟨p, hat, -, hcites, hI⟩ := run_position
    (J := fun as p s => GateInv policyEngine (replies as) s.graph.state p ∧
      Cites (p.reduced s.graph.state) ∧
      ResultsInv (Machine.trace (step policyEngine) returned (init st runner) as) s p)
    ⟨h0, Undecided.cites h0, ⟨hfresh.executionResults, List.not_mem_nil⟩, rfl⟩
    (fun as p s l p' s' hr ⟨hG, hC, hI⟩ hm =>
      ⟨gate_move hG hm, cites_move hG hC hm, results_move hI (Machine.trace_concat hr) hm⟩) as s hrun
  have hcollected := collected_settled hat
  have hsettled := hcites.collected hcollected
  refine ⟨hsettled.grounded, hsettled.factual_iff_carriedOut.trans (carriedOut_iff ?_ (success_iff as))⟩
  exact hI.standing.imp (·.collected hcollected) (·.collected hcollected)

end

/-- The plan is one restart, and it succeeds. -/
theorem factual_restart :
    letI := Py.asciiTable
    letI := Py.asciiText
    ∃ s, Machine.run (step {}) (init (newIncident 3) restartRunner)
        (investigationRound [bareHypothesis] .approve ++ remediationRound [restartAction "ACT-01"] .recovered false) =
          some s ∧ s.settled.plannedActions.length = 1 ∧
        Factual s.settled (PostmortemGenerator.generateReport s.settled ⟨0⟩) := by
  let _ := Py.asciiTable
  let _ := Py.asciiText
  let as : List (Label Unit) :=
    investigationRound [bareHypothesis] .approve ++ remediationRound [restartAction "ACT-01"] .recovered false
  have hend : ∃ s, Machine.run (step {}) (init (newIncident 3) restartRunner) as = some s ∧
      s.settled.plannedActions.length = 1 ∧ .execution ∈ s.streamed.map Prod.fst ∧
        ∀ action ∈ s.settled.plannedActions,
          ∃ action' ∈ Machine.trace (step {}) carriesOut (init (newIncident 3) restartRunner) as,
            action'.actionId = action.actionId := by decide +kernel
  obtain ⟨s, hs, hplan, hreturned, hall⟩ := hend
  have hfactual := (factual_iff (fresh_newIncident 3) restartRunner as s hs ⟨0⟩).2.2 (.inr ⟨hreturned, hall⟩)
  exact ⟨s, hs, hplan, hfactual⟩

/-- No tool can restart anything, so the one action of the plan fails. The verifier reports a recovery, and
the report of the resolved incident lists the restart as executed. -/
theorem not_factual_failed :
    letI := Py.asciiTable
    letI := Py.asciiText
    ∃ s, Machine.run (step {}) (init (newIncident 3) { registry := {}, world := () })
        (investigationRound [bareHypothesis] .approve ++ remediationRound [restartAction "ACT-01"] .recovered false :
          List (Label Unit)) = some s ∧
      s.graph.Over ∧ s.settled.currentStage = .resolved ∧
        ¬ Factual s.settled (PostmortemGenerator.generateReport s.settled ⟨0⟩) := by
  let _ := Py.asciiTable
  let _ := Py.asciiText
  have hend : ∃ s, Machine.run (step {}) (init (newIncident 3) { registry := {}, world := () })
      (investigationRound [bareHypothesis] .approve ++ remediationRound [restartAction "ACT-01"] .recovered false :
        List (Label Unit)) = some s ∧
      s.graph.Over ∧ s.settled.currentStage = .resolved ∧ s.settled.plannedActions.isEmpty = false ∧
        s.settled.executionResults.map ActionExecutionResult.status = [.failed] := by decide +kernel
  obtain ⟨s, hs, hover, hstage, hplan, hfailed⟩ := hend
  refine ⟨s, hs, hover, hstage, fun h => ?_⟩
  have hne : s.settled.plannedActions ≠ [] := by simpa using hplan
  obtain ⟨action, ha⟩ := List.exists_mem_of_ne_nil _ hne
  obtain ⟨res, hres, -, hsuccess⟩ := h.carriedOut action ha
  have hmem : res.status ∈ s.settled.executionResults.map ActionExecutionResult.status := List.mem_map_of_mem hres
  rw [hfailed, hsuccess] at hmem
  cases List.mem_singleton.1 hmem

end Workflow

end OpsPilot
