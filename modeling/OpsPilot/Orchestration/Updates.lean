import OpsPilot.Orchestration.Moves
/-!
# What updates add to a state

Every update appends to the evidence and to the timeline and overwrites the rest, so that for
the two lists only the order of the updates matters, and for the other fields only the last one.
The four analysts write to the two lists alone: a superstep of theirs ends in the same state for
every order, up to the order of what it appends (`mirrors_barrier`).
-/
namespace OpsPilot

def FieldUpdate.evidenceItems : FieldUpdate → List Evidence
  | evidence v => v
  | _ => []

def FieldUpdate.timelineEvents : FieldUpdate → List TimelineEvent
  | timeline v => v
  | _ => []

@[simp] theorem FieldUpdate.evidence_apply (f : FieldUpdate) (st : IncidentState) :
    (f.apply st).evidence = st.evidence ++ f.evidenceItems := by
  cases f <;> simp [FieldUpdate.apply, FieldUpdate.evidenceItems]

@[simp] theorem FieldUpdate.timeline_apply (f : FieldUpdate) (st : IncidentState) :
    (f.apply st).timeline = st.timeline ++ f.timelineEvents := by
  cases f <;> simp [FieldUpdate.apply, FieldUpdate.timelineEvents]

/-- The evidence that an update adds. -/
def NodeUpdate.evidenceItems (u : NodeUpdate) : List Evidence := u.flatMap FieldUpdate.evidenceItems

/-- The events that an update adds to the timeline. -/
def NodeUpdate.timelineEvents (u : NodeUpdate) : List TimelineEvent :=
  u.flatMap FieldUpdate.timelineEvents

theorem NodeUpdate.evidence_apply (u : NodeUpdate) (st : IncidentState) :
    (u.apply st).evidence = st.evidence ++ u.evidenceItems := by
  induction u generalizing st with
  | nil => simp [evidenceItems]
  | cons f u ih => rw [apply_cons, ih, FieldUpdate.evidence_apply, List.append_assoc]; rfl

theorem NodeUpdate.timeline_apply (u : NodeUpdate) (st : IncidentState) :
    (u.apply st).timeline = st.timeline ++ u.timelineEvents := by
  induction u generalizing st with
  | nil => simp [timelineEvents]
  | cons f u ih => rw [apply_cons, ih, FieldUpdate.timeline_apply, List.append_assoc]; rfl

/-- Updates one after another. -/
def applyAll (st : IncidentState) (us : List NodeUpdate) : IncidentState :=
  us.foldl NodeUpdate.apply st

@[simp] theorem applyAll_nil (st : IncidentState) : applyAll st [] = st := rfl

theorem applyAll_concat (st : IncidentState) (us : List NodeUpdate) (u : NodeUpdate) :
    applyAll st (us ++ [u]) = u.apply (applyAll st us) := by
  rw [applyAll, List.foldl_append]
  rfl

theorem evidence_applyAll (st : IncidentState) (us : List NodeUpdate) :
    (applyAll st us).evidence = st.evidence ++ us.flatMap NodeUpdate.evidenceItems := by
  induction us generalizing st with
  | nil => simp
  | cons u us ih =>
    have hrest := ih (u.apply st)
    rw [NodeUpdate.evidence_apply] at hrest
    rw [List.flatMap_cons, ← List.append_assoc, ← hrest]
    rfl

theorem timeline_applyAll (st : IncidentState) (us : List NodeUpdate) :
    (applyAll st us).timeline = st.timeline ++ us.flatMap NodeUpdate.timelineEvents := by
  induction us generalizing st with
  | nil => simp
  | cons u us ih =>
    have hrest := ih (u.apply st)
    rw [NodeUpdate.timeline_apply] at hrest
    rw [List.flatMap_cons, ← List.append_assoc, ← hrest]
    rfl

/-- The evidence and the timeline of `y` continue those of `x`. -/
def Continues (x y : IncidentState) : Prop := x.evidence <+: y.evidence ∧ x.timeline <+: y.timeline

theorem Continues.refl (x : IncidentState) : Continues x x :=
  ⟨List.prefix_refl _, List.prefix_refl _⟩

theorem Continues.trans {x y z : IncidentState} (h : Continues x y) (h' : Continues y z) :
    Continues x z :=
  ⟨h.1.trans h'.1, h.2.trans h'.2⟩

theorem Continues.of_eq {x y : IncidentState} (hev : y.evidence = x.evidence)
    (htl : y.timeline = x.timeline) : Continues x y := by
  rw [Continues, hev, htl]
  exact ⟨List.prefix_refl _, List.prefix_refl _⟩

theorem continues_field (f : FieldUpdate) (x : IncidentState) : Continues x (f.apply x) := by
  constructor
  · rw [FieldUpdate.evidence_apply]
    exact List.prefix_append _ _
  · rw [FieldUpdate.timeline_apply]
    exact List.prefix_append _ _

theorem continues_applyAll (us : List NodeUpdate) (x : IncidentState) :
    Continues x (applyAll x us) := by
  constructor
  · rw [evidence_applyAll]
    exact List.prefix_append _ _
  · rw [timeline_applyAll]
    exact List.prefix_append _ _

/-- Field by field the same, the two lists up to order. -/
structure Mirrors (x y : IncidentState) : Prop where
  currentStage : x.currentStage = y.currentStage
  investigationTasks : x.investigationTasks = y.investigationTasks
  hypotheses : x.hypotheses = y.hypotheses
  selectedHypothesis : x.selectedHypothesis = y.selectedHypothesis
  critique : x.critique = y.critique
  remediationPlan : x.remediationPlan = y.remediationPlan
  pendingApprovals : x.pendingApprovals = y.pendingApprovals
  executionResults : x.executionResults = y.executionResults
  verification : x.verification = y.verification
  iterationCount : x.iterationCount = y.iterationCount
  evidence : x.evidence.Perm y.evidence
  timeline : x.timeline.Perm y.timeline

namespace Mirrors

variable {x y z : IncidentState}

theorem refl (x : IncidentState) : Mirrors x x :=
  ⟨rfl, rfl, rfl, rfl, rfl, rfl, rfl, rfl, rfl, rfl, .refl _, .refl _⟩

theorem trans (h : Mirrors x y) (h' : Mirrors y z) : Mirrors x z where
  currentStage := h.currentStage.trans h'.currentStage
  investigationTasks := h.investigationTasks.trans h'.investigationTasks
  hypotheses := h.hypotheses.trans h'.hypotheses
  selectedHypothesis := h.selectedHypothesis.trans h'.selectedHypothesis
  critique := h.critique.trans h'.critique
  remediationPlan := h.remediationPlan.trans h'.remediationPlan
  pendingApprovals := h.pendingApprovals.trans h'.pendingApprovals
  executionResults := h.executionResults.trans h'.executionResults
  verification := h.verification.trans h'.verification
  iterationCount := h.iterationCount.trans h'.iterationCount
  evidence := h.evidence.trans h'.evidence
  timeline := h.timeline.trans h'.timeline

/-- One item of an update on both sides. -/
theorem field (h : Mirrors x y) (f : FieldUpdate) : Mirrors (f.apply x) (f.apply y) := by
  obtain ⟨h1, h2, h3, h4, h5, h6, h7, h8, h9, h10, hev, htl⟩ := h
  cases f with
  | evidence v => exact ⟨h1, h2, h3, h4, h5, h6, h7, h8, h9, h10, hev.append_right v, htl⟩
  | timeline v => exact ⟨h1, h2, h3, h4, h5, h6, h7, h8, h9, h10, hev, htl.append_right v⟩
  | _ => constructor <;> first | rfl | assumption

theorem update (h : Mirrors x y) (u : NodeUpdate) : Mirrors (u.apply x) (u.apply y) := by
  induction u generalizing x y with
  | nil => exact h
  | cons f u ih => exact ih (h.field f)

theorem updates (h : Mirrors x y) (us : List NodeUpdate) :
    Mirrors (applyAll x us) (applyAll y us) := by
  induction us generalizing x y with
  | nil => exact h
  | cons u us ih => exact ih (h.update u)

/-- Two ways to collect the same items. -/
theorem of_collected {st : IncidentState} (hx : Collected st x) (hy : Collected st y)
    (hev : x.evidence.Perm y.evidence) (htl : x.timeline.Perm y.timeline) : Mirrors x y := by
  obtain ⟨ev, tl, rfl⟩ := hx
  obtain ⟨ev', tl', rfl⟩ := hy
  exact ⟨rfl, rfl, rfl, rfl, rfl, rfl, rfl, rfl, rfl, rfl, hev, htl⟩

end Mirrors

theorem collected_applyAll {st st' : IncidentState} {us : List NodeUpdate} (h : Collected st st')
    (hus : ∀ u ∈ us, ∃ n, AnalystUpdate n u) : Collected st (applyAll st' us) := by
  induction us generalizing st' with
  | nil => exact h
  | cons u us ih =>
    obtain ⟨n, hu⟩ := hus u List.mem_cons_self
    exact ih (hu.collected h) fun v hv => hus v (List.mem_cons_of_mem u hv)

namespace Workflow

variable {W : Type}

/-- The state once everything is applied that has been written. -/
def settled (s : Workflow W) : IncidentState := applyAll s.graph.state (s.graph.writes.map Prod.snd)

/-- A node that returns adds its update. -/
theorem settled_of_finish {s t : Workflow W} {n : Node} {u : NodeUpdate} (h : t.graph = s.graph.finish n u) :
    t.settled = u.apply s.settled := by
  rw [settled, h, Superstep.finish, List.map_append, List.map_cons, List.map_nil, applyAll_concat]
  rfl

theorem nodup_writes {s : Workflow W} {p : Position} (h : s.At p) :
    (s.graph.writes.map Prod.fst).Nodup := by
  cases p with
  | waiting n => rw [h.2.1]; exact List.nodup_nil
  | wrote n u => rw [h.2.1]; exact List.nodup_singleton n
  | ended => rw [h.2]; exact List.nodup_nil
  | fanOut =>
    have hnodup : s.graph.active.Nodup := h.1.nodup_iff.2 (by decide)
    exact (List.nodup_append.1 hnodup).2.1

/-- Whatever the order at the barrier, the new state is the settled one. -/
theorem mirrors_barrier {s : Workflow W} {p : Position} (h : s.At p) {order : List Node}
    {g : Superstep Node IncidentState NodeUpdate}
    (hg : s.graph.barrier NodeUpdate.apply successors order = some g) :
    Mirrors s.settled g.state := by
  obtain ⟨-, hne, hperm, -, hst, -⟩ := Superstep.barrier_eq_some hg
  have hst : g.state = applyAll s.graph.state (Superstep.inOrder order s.graph.writes) := hst
  have hperm := Superstep.inOrder_perm (nodup_writes h) hperm
  cases p with
  | waiting n => exact absurd h.2.1 hne
  | ended => exact absurd h.2 hne
  | wrote n u =>
    rw [h.2.1] at hperm
    have horder : Superstep.inOrder order s.graph.writes = [u] := by
      rw [h.2.1]
      exact List.perm_singleton.1 hperm
    rw [hst, horder, settled, h.2.1]
    exact Mirrors.refl _
  | fanOut =>
    have hanalyst : ∀ v ∈ s.graph.writes.map Prod.snd, ∃ n, AnalystUpdate n v := by
      intro v hv
      obtain ⟨⟨n, u⟩, hmem, rfl⟩ := List.mem_map.1 hv
      exact ⟨n, h.2 n u hmem⟩
    rw [hst]
    refine Mirrors.of_collected (collected_applyAll (Collected.refl s.graph.state) hanalyst)
      (collected_applyAll (Collected.refl _) fun v hv => hanalyst v (hperm.subset hv)) ?_ ?_
    · have hflat := hperm.symm.flatMap_right NodeUpdate.evidenceItems
      rw [settled, evidence_applyAll, evidence_applyAll]
      exact hflat.append_left _
    · have hflat := hperm.symm.flatMap_right NodeUpdate.timelineEvents
      rw [settled, timeline_applyAll, timeline_applyAll]
      exact hflat.append_left _

/-- A run only adds to the two lists. -/
theorem continues_step [Unicode] {policyEngine : RiskPolicyEngine} {s s' : Workflow W} {l : Label W}
    (h : s.step policyEngine l = some s') : Continues s.graph.state s'.graph.state := by
  rcases step_cases h with ⟨t, ht, -, rfl | ⟨n, r, rfl⟩⟩ | ⟨order, g, hg, rfl⟩
  · rw [ht]
    exact Continues.refl _
  · rw [state_conclude, ht]
    exact Continues.refl _
  · obtain ⟨-, -, -, -, hst, -⟩ := Superstep.barrier_eq_some hg
    show Continues _ g.state
    rw [hst]
    exact continues_applyAll _ _

end Workflow

end OpsPilot
