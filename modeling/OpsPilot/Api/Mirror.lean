import OpsPilot.Api.TerminalSignal
import OpsPilot.Orchestration.Updates
/-!
# The served incident and the state of the graph

The coroutine merges every update by hand into the incident it serves (incident_service.py:136)
while the graph reduces the same updates into a state of its own (state.py:178). `absorbed` is
the incident once everything that the graph has yielded is merged, `Workflow.settled` the state
of the graph once everything that was written is reduced; `MirrorInv` says that the two agree
at every step of a run, so they do in particular between two supersteps (`served_mirrors`).

Both lists only grow, so comparing them at two such points also compares what was added between.
-/
namespace OpsPilot

/-- What an effect does to the incident. -/
def Effect.apply (st : IncidentState) : Effect → IncidentState
  | .merge f => f.merge st
  | _ => st

/-- Publishing changes nothing. -/
theorem foldl_apply_effects (f : FieldUpdate) (st : IncidentState) :
    f.effects.foldl Effect.apply st = f.apply st := by
  have hpublish : ∀ {α : Type} (eventType : String) (dump : α → Json) (l : List α) (st : IncidentState),
      (l.map fun a => Effect.publish eventType (dump a)).foldl Effect.apply st = st := by
    intro α eventType dump l
    induction l with
    | nil => exact fun st => rfl
    | cons a l ih => exact fun st => ih st
  rw [← f.merge_eq_apply]
  cases f with
  | evidence v => exact hpublish "evidence_found" Evidence.modelDump v _
  | timeline v => exact hpublish "agent_thought" TimelineEvent.modelDump v _
  | _ => rfl

/-- The merge of an update is its reduction. -/
theorem foldl_apply_mergeEffects (n : Node) (u : NodeUpdate) (st : IncidentState) :
    (mergeEffects n u).foldl Effect.apply st = u.apply st := by
  have hfields : ∀ st, (u.flatMap FieldUpdate.effects).foldl Effect.apply st = u.apply st := by
    induction u with
    | nil => exact fun st => rfl
    | cons f u ih =>
      intro st
      rw [List.flatMap_cons, List.foldl_append, foldl_apply_effects, ih]
      rfl
  rw [mergeEffects, List.foldl_append, hfields]
  rfl

/-- Approvals are not part of what the graph computes. -/
theorem Mirrors.effects {x y : IncidentState} (h : Mirrors x y) (es : List Effect) :
    Mirrors (es.foldl Effect.apply x) (es.foldl Effect.apply y) := by
  induction es generalizing x y with
  | nil => exact h
  | cons e es ih =>
    cases e with
    | merge f =>
      rw [List.foldl_cons, List.foldl_cons]
      refine ih ?_
      simp only [Effect.apply, FieldUpdate.merge_eq_apply]
      exact h.field f
    | publish eventType payload => exact ih h
    | stageChange n => exact ih h

namespace Investigation

variable {W : Type}

/-- The updates that the graph has yielded and the coroutine has not taken up. -/
def waiting (s : Investigation W) : List NodeUpdate :=
  (s.workflow.streamed.drop s.consumed).map Prod.snd

/-- The incident once everything that the graph has yielded is merged. -/
def absorbed (s : Investigation W) : IncidentState :=
  applyAll (s.effects.foldl Effect.apply s.incident) s.waiting

theorem absorbed_of_caughtUp {s : Investigation W} (h : s.caughtUp = true) :
    s.absorbed = s.incident := by
  simp only [caughtUp, Bool.and_eq_true, List.isEmpty_iff, beq_iff_eq] at h
  obtain ⟨he, hc⟩ := h
  simp [absorbed, waiting, he, hc]

/-- Between two supersteps: every update is merged here and reduced there, and nothing has raised. -/
structure AtBoundary (s : Investigation W) : Prop where
  running : s.phase = .running
  caughtUp : s.caughtUp = true
  reduced : s.workflow.graph.writes = []
  raised : s.workflow.raised = none

instance (s : Investigation W) : Decidable s.AtBoundary :=
  decidable_of_iff (s.phase = .running ∧ s.caughtUp = true ∧ s.workflow.graph.writes.isEmpty = true ∧
      s.workflow.raised = none)
    ⟨fun h => ⟨h.1, h.2.1, List.isEmpty_iff.1 h.2.2.1, h.2.2.2⟩,
      fun h => ⟨h.running, h.caughtUp, List.isEmpty_iff.2 h.reduced, h.raised⟩⟩

/-- While the graph runs. -/
structure MirrorInv (s : Investigation W) : Prop where
  consumed : s.consumed ≤ s.workflow.streamed.length
  agree : s.phase = .opening ∨ s.phase = .running → s.workflow.raised = none →
    Mirrors s.absorbed s.workflow.settled

/-- What changes neither side. -/
theorem MirrorInv.frame {s s' : Investigation W} (h : MirrorInv s) (hc : s'.consumed = s.consumed)
    (hwf : s'.workflow = s.workflow)
    (hp : s'.phase = .opening ∨ s'.phase = .running → s.phase = .opening ∨ s.phase = .running)
    (ha : Mirrors s'.absorbed s.absorbed) : MirrorInv s' := by
  constructor
  · rw [hc, hwf]
    exact h.consumed
  · intro hphase hraised
    rw [hwf] at hraised ⊢
    exact ha.trans (h.agree (hp hphase) hraised)

/-- A node that returns adds its update on both sides. -/
theorem mirrorInv_wrote {s : Investigation W} {wf : Workflow W} {n : Node} {u : NodeUpdate}
    (h : MirrorInv s) (hp : s.phase = .running) (hs : wf.streamed = s.workflow.streamed ++ [(n, u)])
    (hg : wf.graph = s.workflow.graph.finish n u) (hraised : wf.raised = s.workflow.raised) :
    MirrorInv (s.follow wf) := by
  have hwaiting : (s.follow wf).waiting = s.waiting ++ [u] := by
    show (wf.streamed.drop s.consumed).map Prod.snd = _
    rw [hs, List.drop_append_of_le_length h.consumed, List.map_append]
    rfl
  have habsorbed : (s.follow wf).absorbed = u.apply s.absorbed := by
    have : (s.follow wf).absorbed = applyAll (s.effects.foldl Effect.apply s.incident) (s.follow wf).waiting := rfl
    rw [this, hwaiting, applyAll_concat]
    rfl
  have hsettled : wf.settled = u.apply s.workflow.settled := Workflow.settled_of_finish hg
  constructor
  · show s.consumed ≤ wf.streamed.length
    rw [hs, List.length_append]
    have := h.consumed
    omega
  · intro _ hr
    have hr : wf.raised = none := hr
    rw [habsorbed]
    show Mirrors _ wf.settled
    rw [hsettled]
    exact (h.agree (.inr hp) (hraised ▸ hr)).update u

/-- A step of the workflow that yields nothing and reduces nothing. -/
theorem mirrorInv_still {s : Investigation W} {wf : Workflow W} (h : MirrorInv s)
    (hs : wf.streamed = s.workflow.streamed) (hg : wf.graph = s.workflow.graph)
    (hraised : wf.raised = s.workflow.raised) : MirrorInv (s.follow wf) := by
  constructor
  · show s.consumed ≤ wf.streamed.length
    rw [hs]
    exact h.consumed
  · intro hp hr
    have hr : wf.raised = none := hr
    rw [hraised] at hr
    have habsorbed : (s.follow wf).absorbed = s.absorbed := by
      simp only [absorbed, waiting, follow, hs]
    rw [habsorbed]
    show Mirrors _ wf.settled
    rw [Workflow.settled, hg]
    exact h.agree hp hr

/-- Nothing is said about a graph that has raised. -/
theorem mirrorInv_raised {s : Investigation W} {wf : Workflow W} (h : MirrorInv s)
    (hs : wf.streamed = s.workflow.streamed) (hraised : wf.raised ≠ none) :
    MirrorInv (s.follow wf) := by
  constructor
  · show s.consumed ≤ wf.streamed.length
    rw [hs]
    exact h.consumed
  · intro _ hr
    exact absurd hr hraised

/-- The graph reduces what it has collected. -/
theorem mirrorInv_barrier {s : Investigation W} {p : Position} {order : List Node} {wf : Workflow W}
    (h : MirrorInv s) (hat : s.workflow.At p) (hp : s.phase = .running)
    (hst : s.workflow.advance order = some wf) : MirrorInv (s.follow wf) := by
  obtain ⟨g, hg, rfl⟩ := Option.map_eq_some_iff.1 hst
  constructor
  · exact h.consumed
  · intro _ hraised
    have habsorbed : (s.follow { s.workflow with graph := g, frame := {} }).absorbed = s.absorbed := rfl
    rw [habsorbed]
    have hwrites : g.writes = [] := (Superstep.barrier_eq_some hg).2.2.2.1
    have hsettled : Workflow.settled { s.workflow with graph := g, frame := {} } = g.state := by
      simp only [Workflow.settled, hwrites, List.map_nil, applyAll_nil]
    show Mirrors _ (Workflow.settled { s.workflow with graph := g, frame := {} })
    rw [hsettled]
    exact (h.agree (.inr hp) hraised).trans (Workflow.mirrors_barrier hat hg)

theorem continues_perform (s : Investigation W) (now : Time) (e : Effect) :
    Continues s.incident (s.perform now e).incident := by
  cases e with
  | merge f =>
    show Continues s.incident (f.merge s.incident)
    rw [f.merge_eq_apply]
    exact continues_field f s.incident
  | publish eventType payload => exact Continues.refl _
  | stageChange n => exact Continues.refl _

/-- What two lists have added since they were the same up to order is the same up to order. -/
theorem perm_added {α : Type} {l l' m m' : List α} (h : l.Perm l') (hm : m.Perm m') (hl : l <+: m)
    (hl' : l' <+: m') : ∃ new new', m = l ++ new ∧ m' = l' ++ new' ∧ new.Perm new' := by
  obtain ⟨new, rfl⟩ := hl
  obtain ⟨new', rfl⟩ := hl'
  refine ⟨new, new', rfl, rfl, ?_⟩
  have hboth : (l ++ new).Perm (l ++ new') := hm.trans (h.symm.append_right new')
  exact (List.perm_append_left_iff l).1 hboth

section
variable [Unicode] {policyEngine : RiskPolicyEngine}

theorem mirrorInv_follow {s : Investigation W} {p p' : Position} {l : Workflow.Label W}
    {wf : Workflow W} (h : MirrorInv s) (hat : s.workflow.At p) (hp : s.phase = .running)
    (hm : Workflow.Move policyEngine p s.workflow l p' wf)
    (hst : s.workflow.step policyEngine l = some wf) : MirrorInv (s.follow wf) := by
  cases hm with
  | world w => exact mirrorInv_still h rfl rfl rfl
  | collect a output clock hr => exact mirrorInv_wrote h hp rfl rfl rfl
  | answer reply clock u ha => exact mirrorInv_wrote h hp rfl rfl rfl
  | verify assessment clock out u ho hu =>
    exact mirrorInv_wrote (n := .verification) (u := u) h hp (by simp) (by simp [Workflow.conclude])
      (by simp [Workflow.conclude])
  | verifyRaises assessment clock out exc ho hu =>
    exact mirrorInv_raised h (by simp [Workflow.conclude]) (by simp [Workflow.conclude])
  | raises n exc clock hp hc => exact mirrorInv_raised h rfl (by simp [Workflow.conclude])
  | act clock action out res hi ho hres => exact mirrorInv_still h (by simp) (by simp) (by simp)
  | actRaises clock action out exc hi ho hres =>
    exact mirrorInv_raised h (by simp [Workflow.conclude]) (by simp [Workflow.conclude])
  | executed clock hi => exact mirrorInv_wrote h hp rfl rfl rfl
  | join order st' hc ha => exact mirrorInv_barrier h hat hp hst
  | advance n u order hn hw => exact mirrorInv_barrier h hat hp hst

/-- An approval is filed in the incident alone. -/
theorem mirrors_file {s : Investigation W} {sub : Submission} {incident : IncidentState}
    {resp : ApprovalRequestResponse} (hok : s.incident.submitApproval sub = .ok (incident, resp)) :
    Mirrors (s.file incident).absorbed s.absorbed := by
  obtain ⟨plan, action, hacc, -, -⟩ := IncidentState.submitApproval_ok hok
  have hincident : Mirrors incident s.incident := by
    rw [hacc.filed]
    exact ⟨rfl, rfl, rfl, rfl, rfl, rfl, rfl, rfl, rfl, rfl, .refl _, .refl _⟩
  exact (hincident.effects s.effects).updates s.waiting

theorem mirrorInv_move {s s' : Investigation W} {p : Position} {l : Label W} (h : MirrorInv s)
    (hat : s.workflow.At p) (hm : Move policyEngine s l s') : MirrorInv s' := by
  cases hm with
  | start now hp => exact h.frame rfl rfl (fun _ => .inl hp) (Mirrors.refl _)
  | graph l wf hp hl hst =>
    obtain ⟨p', hmove, -⟩ := Workflow.move_of_step hat hst
    exact mirrorInv_follow h hat hp hmove hst
  | consume n u hp he hu =>
    obtain ⟨hlt, hget⟩ := List.getElem?_eq_some_iff.1 hu
    constructor
    · exact hlt
    · intro _ hraised
      have hwaiting : s.waiting = u :: (s.workflow.streamed.drop (s.consumed + 1)).map Prod.snd := by
        rw [waiting, List.drop_eq_getElem_cons hlt, hget]
        rfl
      have habsorbed : absorbed { s with consumed := s.consumed + 1, effects := mergeEffects n u } = s.absorbed := by
        simp only [absorbed, hwaiting, he, foldl_apply_mergeEffects, List.foldl_nil]
        rfl
      rw [habsorbed]
      exact h.agree (.inr hp) hraised
  | effect now e effects he =>
    have habsorbed : (perform { s with effects } now e).absorbed = s.absorbed := by
      cases e <;> simp [absorbed, waiting, perform, publish, he, Effect.apply]
    refine h.frame (consumed_perform _ now e) (workflow_perform _ now e) ?_ (habsorbed ▸ Mirrors.refl _)
    rw [phase_perform]
    exact id
  | exhausted hp hend =>
    constructor
    · rw [workflow_conclude]
      have : s.conclude.consumed = s.consumed := by
        unfold conclude
        split <;> rfl
      rw [this]
      exact h.consumed
    · intro hphase _
      exfalso
      unfold conclude at hphase
      split at hphase <;> simp at hphase
  | indexed hp he => exact ⟨h.consumed, fun hphase => by simp at hphase⟩
  | notIndexed exc hp he => exact ⟨h.consumed, fun hphase => by simp [fail] at hphase⟩
  | handle exc hp he hr => exact ⟨h.consumed, fun hphase => by simp [fail] at hphase⟩
  | accept sub incident resp hok => exact h.frame rfl rfl id (mirrors_file hok)
  | refuse sub => exact h
  | announce now d unannounced hu => exact h.frame rfl rfl id (Mirrors.refl _)

theorem mirrorInv_run {st : IncidentState} {runner : Runner W} {as : List (Label W)}
    {s : Investigation W} (hrun : Machine.run (step policyEngine) (init st runner) as = some s) :
    MirrorInv s := by
  refine Machine.run_induction (P := fun _ s => MirrorInv s) ?_ ?_ as s hrun
  · exact ⟨Nat.le_refl _, fun _ _ => Mirrors.refl st⟩
  · intro as s l s' hr hI hst
    obtain ⟨p, hat, -⟩ := Workflow.run_position (J := fun _ _ _ => True) trivial
      (fun _ _ _ _ _ _ _ _ _ => trivial) _ _ (run_workflow hr)
    exact mirrorInv_move hI hat (move_of_step hst)

/-! ## Between two boundaries -/

theorem continues_step {s s' : Investigation W} {l : Label W}
    (hst : s.step policyEngine l = some s') :
    Continues s.incident s'.incident ∧
      Continues s.workflow.graph.state s'.workflow.graph.state := by
  cases move_of_step hst with
  | start now hp => exact ⟨Continues.refl _, Continues.refl _⟩
  | graph l wf hp hl hwf => exact ⟨Continues.refl _, Workflow.continues_step hwf⟩
  | consume n u hp he hu => exact ⟨Continues.refl _, Continues.refl _⟩
  | effect now e effects he =>
    refine ⟨continues_perform { s with effects } now e, ?_⟩
    rw [workflow_perform]
    exact Continues.refl _
  | exhausted hp hend =>
    rw [workflow_conclude]
    refine ⟨?_, Continues.refl _⟩
    unfold conclude
    split <;> exact Continues.refl _
  | indexed hp he => exact ⟨Continues.refl _, Continues.refl _⟩
  | notIndexed exc hp he => exact ⟨.of_eq rfl rfl, Continues.refl _⟩
  | handle exc hp he hr => exact ⟨.of_eq rfl rfl, Continues.refl _⟩
  | accept sub incident resp hok =>
    obtain ⟨plan, action, hacc, -, -⟩ := IncidentState.submitApproval_ok hok
    refine ⟨.of_eq ?_ ?_, Continues.refl _⟩
    · show incident.evidence = _
      rw [hacc.filed]
    · show incident.timeline = _
      rw [hacc.filed]
  | refuse sub => exact ⟨Continues.refl _, Continues.refl _⟩
  | announce now d unannounced hu => exact ⟨Continues.refl _, Continues.refl _⟩

theorem continues_run {s t : Investigation W} {as : List (Label W)}
    (hrun : Machine.run (step policyEngine) t as = some s) :
    Continues t.incident s.incident ∧ Continues t.workflow.graph.state s.workflow.graph.state := by
  refine Machine.run_induction (P := fun _ s => Continues t.incident s.incident ∧
    Continues t.workflow.graph.state s.workflow.graph.state) ⟨Continues.refl _, Continues.refl _⟩ ?_ as s hrun
  intro as s l s' _ ih hst
  obtain ⟨hincident, hstate⟩ := continues_step hst
  exact ⟨ih.1.trans hincident, ih.2.trans hstate⟩

theorem mirrors_boundary {st : IncidentState} {runner : Runner W} {as : List (Label W)}
    {s : Investigation W} (hrun : Machine.run (step policyEngine) (init st runner) as = some s)
    (hs : s.AtBoundary) : Mirrors s.incident s.workflow.graph.state := by
  have hagree := (mirrorInv_run hrun).agree (.inr hs.running) hs.raised
  rw [absorbed_of_caughtUp hs.caughtUp, Workflow.settled, hs.reduced] at hagree
  exact hagree

/-- **The served incident mirrors the graph**: whenever the updates of a superstep have been taken
in, the incident has the stage, the tasks, the hypotheses, the critique, the plan, the approvals
asked for, the results, the verification and the count of the graph's own state; and since any
earlier such point both have added the same evidence and the same events, in orders of their own. -/
theorem served_mirrors {st : IncidentState} {runner : Runner W} {before after : List (Label W)}
    {t s : Investigation W}
    (hbefore : Machine.run (step policyEngine) (init st runner) before = some t)
    (hafter : Machine.run (step policyEngine) t after = some s) (ht : t.AtBoundary)
    (hs : s.AtBoundary) :
    Mirrors s.incident s.workflow.graph.state ∧
      (∃ new new', s.incident.evidence = t.incident.evidence ++ new ∧
        s.workflow.graph.state.evidence = t.workflow.graph.state.evidence ++ new' ∧ new.Perm new') ∧
      (∃ new new', s.incident.timeline = t.incident.timeline ++ new ∧
        s.workflow.graph.state.timeline = t.workflow.graph.state.timeline ++ new' ∧ new.Perm new') := by
  have hmirror := mirrors_boundary hbefore ht
  have hrun : Machine.run (step policyEngine) (init st runner) (before ++ after) = some s := by
    rw [Machine.run_append, hbefore]
    exact hafter
  have hmirror' := mirrors_boundary hrun hs
  obtain ⟨hincident, hstate⟩ := continues_run hafter
  exact ⟨hmirror', perm_added hmirror.evidence hmirror'.evidence hincident.1 hstate.1,
    perm_added hmirror.timeline hmirror'.timeline hincident.2 hstate.2⟩

end

/-- A round of investigation, from its start to the barrier after the critic. -/
theorem served_mirrors_one_round :
    letI := Py.asciiTable
    ∃ t s, Machine.run (step {}) (init (Workflow.newIncident 3) Workflow.restartRunner) [.start ⟨0⟩] = some t ∧
      Machine.run (step {}) t (served (Workflow.investigationRound [Workflow.bareHypothesis] .approve)) = some s ∧
      Mirrors s.incident s.workflow.graph.state ∧ s.incident.critique.isSome := by
  let _ := Py.asciiTable
  have hstart : ∃ t, Machine.run (step {}) (init (Workflow.newIncident 3) Workflow.restartRunner) [.start ⟨0⟩] =
      some t ∧ t.AtBoundary ∧
        ∃ s, Machine.run (step {}) t (served (Workflow.investigationRound [Workflow.bareHypothesis] .approve)) =
          some s ∧ s.AtBoundary ∧ s.incident.critique.isSome := by decide +kernel
  obtain ⟨t, ht, hbt, s, hs, hbs, hcritique⟩ := hstart
  exact ⟨t, s, ht, hs, (served_mirrors ht hs hbt hbs).1, hcritique⟩

end Investigation

end OpsPilot
