import OpsPilot.Orchestration.Exits
import OpsPilot.Orchestration.Updates
/-!
# The evidence at the join

The analysts append what they return to the evidence, and `join_evidence_node` (graph.py:169) only
sets the stage: the evidence is everything that has been returned, in the order of the barriers. So
its ids are distinct at every join exactly when no analyst has returned an id twice by then, and
nothing is ever lost.
-/
namespace OpsPilot

/-- The evidence that a node that finishes returns. -/
def Reply.returned : Reply → List Evidence
  | analyst _ output => output.evidenceItems
  | _ => []

/-- The ids of all the evidence returned so far. -/
def returnedIds (H : List Reply) : List String := (H.flatMap Reply.returned).map Evidence.id

/-! ## What the nodes add -/

theorem evidenceItems_analystNode (a : Analyst) (output : AnalystAgentOutput) (clock : Clock) :
    (a.node output clock).evidenceItems = output.evidenceItems := by
  cases a <;>
    simp [Analyst.node, logAnalystNode, metricsAnalystNode, codeAnalystNode, memoryAnalystNode, analystNode,
      NodeUpdate.evidenceItems, FieldUpdate.evidenceItems]

theorem evidenceItems_executionUpdate (st : IncidentState) (results : List ActionExecutionResult)
    (events : List TimelineEvent) : (executionUpdate st results events).evidenceItems = [] := by
  unfold executionUpdate
  split <;> rfl

namespace Workflow

variable {W : Type}

/-- Only the analysts return evidence. -/
theorem evidenceItems_outcome [Unicode] {policyEngine : RiskPolicyEngine} {s : Workflow W} {reply : Reply}
    {clock : Clock} {u : NodeUpdate} (h : (s.outcome policyEngine clock reply).result = .ok u) :
    u.evidenceItems = reply.returned := by
  cases reply with
  | supervisor plan =>
    cases h
    rfl
  | analyst a output =>
    cases h
    exact evidenceItems_analystNode a output clock
  | joinEvidence =>
    cases h
    rfl
  | rca output =>
    cases h
    rfl
  | critic verdict =>
    rcases criticNode_cases h with ⟨-, rfl⟩ | ⟨_, _, _, -, -, -, rfl⟩ <;> rfl
  | remediationPlanning rawPlan =>
    cases h
    unfold remediationPlanningNode
    split <;> rfl
  | verification assessment =>
    obtain ⟨tl, rfl⟩ := verificationNode_ok h
    rfl
  | raises n exc => cases h

theorem evidence_conclude (s : Workflow W) (n : Node) (u : NodeUpdate) :
    (s.conclude n (.ok u)).settled.evidence = s.settled.evidence ++ u.evidenceItems := by
  rw [settled_of_finish (s := s) rfl, NodeUpdate.evidence_apply]

theorem settled_congr {s t : Workflow W} (h : t.graph = s.graph) : t.settled = s.settled := by
  rw [settled, h, settled]

/-! ## The evidence along a run -/

/-- Unless something was raised, the evidence is what was returned. -/
def Gathered (H : List Reply) (s : Workflow W) : Prop :=
  s.raised = none → s.settled.evidence.Perm (H.flatMap Reply.returned)

section
variable {policyEngine : RiskPolicyEngine} {s s' : Workflow W} {H : List Reply}

/-- The barrier only reorders. -/
theorem gathered_advance {p : Position} (hat : s.At p) {order : List Node} (hI : Gathered H s)
    (hst : s.advance order = some s') : Gathered H s' := by
  obtain ⟨g, hg, rfl⟩ := Option.map_eq_some_iff.1 hst
  obtain ⟨-, -, -, hwrites, -, -⟩ := Superstep.barrier_eq_some hg
  intro hraised
  have hsettled : settled { s with graph := g, frame := {} } = g.state := by
    rw [settled]
    simp only [hwrites, List.map_nil, applyAll_nil]
  rw [hsettled]
  exact (mirrors_barrier hat hg).evidence.symm.trans (hI hraised)

variable [Unicode]

theorem gathered_finish {reply : Reply} {clock : Clock} (hI : Gathered H s)
    (hst : s.finish policyEngine reply clock = some s') : Gathered (H ++ [reply]) s' := by
  unfold finish at hst
  split at hst
  case isFalse => cases hst
  simp only [Option.some.injEq] at hst
  subst hst
  intro hraised
  generalize hout : s.outcome policyEngine clock reply = out at hraised ⊢
  cases hres : out.result with
  | error exc =>
    rw [hres] at hraised
    cases hraised
  | ok u =>
    rw [hres] at hraised
    have hnone : s.raised = none := by simpa [conclude] using hraised
    have hsettled : settled (record { s with runner := out.runner } .compensate
        (s.graph.state.plannedActions.length - 1) out.call) = s.settled := settled_congr (graph_record _ _ _ _)
    rw [evidence_conclude, hsettled, List.flatMap_append, List.flatMap_singleton,
      evidenceItems_outcome (hout ▸ hres)]
    exact (hI hnone).append_right _

theorem gathered_execute {p : Position} (hat : s.At p) {clock : Clock} (hI : Gathered H s)
    (hst : s.step policyEngine (.execute clock) = some s') : Gathered H s' := by
  obtain ⟨p', hm, -⟩ := move_of_step hat hst
  intro hraised
  cases hm with
  | act _ action out res hi ho hres =>
    have hsettled : settled (record { s with runner := out.runner } .execute s.frame.results.length out.call) =
        s.settled := settled_congr (graph_record _ _ _ _)
    have hgathered := hI (by simpa using hraised)
    rw [← hsettled] at hgathered
    exact hgathered
  | actRaises _ action out exc hi ho hres => cases hraised
  | executed _ hi =>
    rw [evidence_conclude, evidenceItems_executionUpdate, List.append_nil]
    exact hI hraised

theorem gathered_run {st : IncidentState} (hfresh : st.Fresh) {runner : Runner W} :
    ∀ as s, Machine.run (step policyEngine) (init st runner) as = some s → Gathered (replies as) s := by
  refine Machine.run_induction ?_ ?_
  · intro _
    simp [settled, init, hfresh.evidence]
  · intro as s l s' hrun hI hst
    obtain ⟨p, hat, -⟩ := run_position (J := fun _ _ _ => True) trivial (fun _ _ _ _ _ _ _ _ _ => trivial) as s hrun
    cases l with
    | finish reply clock =>
      rw [replies_concat_finish]
      exact gathered_finish hI hst
    | execute clock =>
      rw [replies_concat_execute]
      exact gathered_execute hat hI hst
    | advance order =>
      rw [replies_concat_advance]
      exact gathered_advance hat hI hst
    | world w =>
      cases hst
      rw [replies_concat_world]
      exact hI

/-- At the join nothing has been raised. -/
theorem evidence_join {st : IncidentState} (hfresh : st.Fresh) {runner : Runner W} {as : List (Label W)}
    {clock : Clock} {s : Workflow W}
    (hrun : Machine.run (step policyEngine) (init st runner) (as ++ [.finish .joinEvidence clock]) = some s) :
    (s.settled.evidence.map Evidence.id).Perm (returnedIds (replies as)) := by
  have hgathered := gathered_run hfresh _ s hrun
  rw [replies_concat_finish, Gathered, List.flatMap_append] at hgathered
  obtain ⟨t, ht, hst⟩ := Machine.run_concat_some.1 hrun
  have hnone : s.raised = none := by
    simp only [step, finish] at hst
    split at hst
    case isFalse => cases hst
    rename_i hc
    cases hst
    simp only [outcome, record_none, conclude]
    by_contra hsome
    have hover := over_of_raised ht (Option.isSome_iff_ne_none.2 hsome)
    rw [hover.1] at hc
    cases hc.1
  have hperm := (hgathered hnone).map Evidence.id
  simpa only [returnedIds, Reply.returned, List.flatMap_singleton, List.append_nil] using hperm

/-- **When the evidence is free of duplicates**: at every join all the ids returned so far are there; and they
are pairwise distinct at every join exactly when no id had been returned twice by then. -/
theorem evidence_distinct_iff {st : IncidentState} (hfresh : st.Fresh) (runner : Runner W) (as : List (Label W))
    {s : Workflow W} (hrun : Machine.run (step policyEngine) (init st runner) as = some s) :
    (∀ before clock after t, as = before ++ .finish .joinEvidence clock :: after →
      Machine.run (step policyEngine) (init st runner) (before ++ [.finish .joinEvidence clock]) = some t →
      (t.settled.evidence.map Evidence.id).Nodup ∧
        ∀ id ∈ returnedIds (replies before), id ∈ t.settled.evidence.map Evidence.id) ↔
    ∀ before clock after, as = before ++ .finish .joinEvidence clock :: after →
      (returnedIds (replies before)).Nodup := by
  constructor
  · rintro h before clock after rfl
    rw [← List.singleton_append, ← List.append_assoc, Machine.run_append, Option.bind_eq_some_iff] at hrun
    obtain ⟨t, ht, -⟩ := hrun
    exact (evidence_join hfresh ht).nodup_iff.1 (h before clock after t rfl ht).1
  · rintro h before clock after t rfl ht
    have hperm := evidence_join hfresh ht
    exact ⟨hperm.nodup_iff.2 (h before clock after rfl), fun id hid => hperm.mem_iff.2 hid⟩

end

/-- A round up to the join: the log analyst and the metrics analyst find one thing each. -/
def collectingRound (logId metricsId : String) : List (Label Unit) :=
  let plan : SupervisorPlan :=
    { triageAssessment := "", initialSeverity := .sev1, suspectedDomains := [], tasks := [], reasoning := "" }
  let found (a : Analyst) (ids : List String) : AnalystAgentOutput :=
    { agentType := a.name, service := "", findingsSummary := "", anomaliesDetected := false
      evidenceItems := ids.map fun id =>
        { id, type := .log, source := "", timestamp := ⟨0⟩, observation := "", rawReference := ""
          relevanceScore := default } }
  [.finish (.supervisor plan) stillClock, .advance [.supervisor],
    .finish (.analyst .log (found .log [logId])) stillClock,
    .finish (.analyst .metrics (found .metrics [metricsId])) stillClock,
    .finish (.analyst .code (found .code [])) stillClock, .finish (.analyst .memory (found .memory [])) stillClock,
    .advance analysts, .finish .joinEvidence stillClock]

/-- Two ids. -/
theorem evidence_distinct_two_ids :
    letI := Py.asciiTable
    ∃ s, Machine.run (step {}) (init (newIncident 3) { registry := {}, world := () })
        (collectingRound "EVD-01" "EVD-02") = some s ∧
      (s.settled.evidence.map Evidence.id).Nodup ∧
      ∀ id ∈ ["EVD-01", "EVD-02"], id ∈ s.settled.evidence.map Evidence.id := by
  let _ := Py.asciiTable
  have hend : (Machine.run (step {}) (init (newIncident 3) { registry := {}, world := () })
      (collectingRound "EVD-01" "EVD-02")).isSome = true := by decide +kernel
  obtain ⟨s, hs⟩ := Option.isSome_iff_exists.1 hend
  refine ⟨s, hs, (evidence_distinct_iff (fresh_newIncident 3) _ _ hs).2 ?_
    (collectingRound "EVD-01" "EVD-02").dropLast stillClock [] s rfl hs⟩
  intro before clock after hround
  have hall : (returnedIds (replies (collectingRound "EVD-01" "EVD-02"))).Nodup := by decide +kernel
  rw [hround] at hall
  simp only [replies, returnedIds, List.filterMap_append, List.flatMap_append, List.map_append] at hall
  exact (List.nodup_append.1 hall).1

/-- Both have called what they found `EVD-01`. -/
theorem evidence_duplicated :
    letI := Py.asciiTable
    (newIncident 3).Fresh ∧
      ∃ s, Machine.run (step {}) (init (newIncident 3) { registry := {}, world := () })
        (collectingRound "EVD-01" "EVD-01") = some s ∧ ¬ (s.settled.evidence.map Evidence.id).Nodup := by
  let _ := Py.asciiTable
  exact ⟨fresh_newIncident 3, by decide +kernel⟩

end Workflow

end OpsPilot
