import OpsPilot.Api.Mirror
import OpsPilot.Api.Service
import OpsPilot.Orchestration.DefaultRun
/-!
# The service in its default wiring (`IncidentService`, incident_service.py:43)

`_build_workflow` wires the mock provider, the tools of `default_registry` and a runner of its own for each
incident. The tools are the same objects for all of them; what the others do to these is a `world` step of
the graph, which may leave anything behind. So whatever goes on at the same time, a coroutine returns only
with its incident resolved, its last event `resolved`, and the rollback of the mock called; and as long as it
has not returned it can go on to that end. The decisions that are submitted meanwhile change none of this. That a
coroutine works on its own incident takes ids that are not drawn twice.

| here | there |
| --- | --- |
| `defaultRunner`         | `ExecutionRunner()` with `default_registry` (execution_runner.py:24) |
| `Label.MockAnswers`     | the agents have `ModelRouter([MockLLMProvider()])`, and the report can be embedded |
| `Service.DefaultWiring` | every incident of a service is such, under an id that was not in use |
-/
namespace OpsPilot

section
variable {V S : Type} [Unicode] [UnicodeCase] [LinearOrder S] {toFloat : Rat → PyFloat} {embedder : Embedder V S}
  {now : Nat → Time} {dumpJson : (model : ResponseModel) → model.Parsed → String}
  {policyEngine : RiskPolicyEngine} {st : IncidentState}

/-- The runner of a new incident. -/
def defaultRunner (toFloat : Rat → PyFloat) (embedder : Embedder V S) (now : Nat → Time) (w : DefaultWorld V) :
    Runner (DefaultWorld V) where
  registry := defaultRegistry toFloat embedder now
  world := w

namespace Investigation

/-- A step of the coroutine of the default wiring. -/
def MockAnswers (toFloat : Rat → PyFloat) (embedder : Embedder V S) (now : Nat → Time)
    (dumpJson : (model : ResponseModel) → model.Parsed → String) (s : Investigation (DefaultWorld V)) :
    Label (DefaultWorld V) → Prop
  | .graph l => Workflow.AgentsAnswer toFloat embedder now dumpJson s.workflow l
  | .index result => result = .ok ()
  | _ => True

/-- The coroutine of an incident, after some steps of it and of others. -/
structure DefaultlyRun (toFloat : Rat → PyFloat) (embedder : Embedder V S) (now : Nat → Time)
    (dumpJson : (model : ResponseModel) → model.Parsed → String) (policyEngine : RiskPolicyEngine)
    (st : IncidentState) (w : DefaultWorld V) (as : List (Label (DefaultWorld V)))
    (s : Investigation (DefaultWorld V)) : Prop where
  fresh : st.Fresh
  run : Machine.run (step policyEngine) (init st (defaultRunner toFloat embedder now w)) as = some s
  answers : Machine.Along (step policyEngine) (MockAnswers toFloat embedder now dumpJson)
    (init st (defaultRunner toFloat embedder now w)) as

variable {w : DefaultWorld V} {as : List (Label (DefaultWorld V))} {s s' : Investigation (DefaultWorld V)}
  {l : Label (DefaultWorld V)}

theorem DefaultlyRun.concat (h : DefaultlyRun toFloat embedder now dumpJson policyEngine st w as s)
    (hC : MockAnswers toFloat embedder now dumpJson s l) (hst : s.step policyEngine l = some s') :
    DefaultlyRun toFloat embedder now dumpJson policyEngine st w (as ++ [l]) s' where
  fresh := h.fresh
  run := Machine.run_concat_some.2 ⟨s, h.run, hst⟩
  answers := (Machine.along_concat h.run).2 ⟨h.answers, hC⟩

theorem DefaultlyRun.workflow (h : DefaultlyRun toFloat embedder now dumpJson policyEngine st w as s) :
    ∃ p, s.workflow.At p ∧
      Workflow.DefaultRun toFloat embedder now policyEngine st false (Workflow.replies (as.filterMap graphLabel)) p
        s.workflow ∧
      Workflow.ownSteps (as.filterMap graphLabel) + Workflow.level s.workflow p = 20 := by
  have halong : Machine.Along (Workflow.step policyEngine) (Workflow.AgentsAnswer toFloat embedder now dumpJson)
      (Workflow.defaultInit toFloat embedder now st ∅ w) (as.filterMap graphLabel) := by
    refine Machine.along_project projects_workflow ?_ h.run h.answers
    rintro s l b hC hb
    cases l with
    | graph l =>
      cases hb
      exact hC
    | _ => cases hb
  exact Workflow.run_default h.fresh _ _ (run_workflow h.run) halong

theorem DefaultlyRun.raised (h : DefaultlyRun toFloat embedder now dumpJson policyEngine st w as s) :
    s.workflow.raised = none := by
  obtain ⟨p, -, hI, -⟩ := h.workflow
  exact hI.raised

theorem DefaultlyRun.signal (h : DefaultlyRun toFloat embedder now dumpJson policyEngine st w as s) :
    SignalInv True s := by
  refine Machine.run_induction_along (P := fun _ s => SignalInv True s) ?_ ?_ as s h.run h.answers
  · refine ⟨trivial, by simp [announced, init], Nat.le_refl _, ?_⟩
    simp [mergedStage, settledStage, init, Workflow.init, lastStage, h.fresh.currentStage]
  · intro as s l s' hr hI hC hst
    have hindexed : ∀ exc, l ≠ .index (.error exc) := by
      rintro exc rfl
      cases hC
    exact signal_move hI (iff_of_true trivial ⟨trivial, hindexed⟩) (move_of_step hst)
      (Workflow.over_of_raised (run_workflow hr))

/-! ## The end of a coroutine -/

/-- The run is over, and the incident shows its end. -/
structure Concluded (policyEngine : RiskPolicyEngine) (st : IncidentState) (s : Investigation (DefaultWorld V)) :
    Prop where
  isOver : s.workflow.graph.Over
  signalled : s.workflow.Signalled
  currentStage : s.incident.currentStage = .resolved
  hypothesis : ∃ h, s.incident.selectedHypothesis = some h ∧ DefaultHypothesis h
  plannedActions : s.incident.plannedActions = [defaultAction policyEngine st.incidentId]
  effects : ∀ e ∈ s.effects, e.Aside

/-- Phase by phase. -/
def EndInv (policyEngine : RiskPolicyEngine) (st : IncidentState) (s : Investigation (DefaultWorld V)) : Prop :=
  match s.phase with
  | .opening | .running => True
  | .indexing => Concluded policyEngine st s
  | .finishing => Concluded policyEngine st s ∧ s.effects = []

/-- What is served is what the graph has ended with. -/
theorem DefaultlyRun.resolved (h : DefaultlyRun toFloat embedder now dumpJson policyEngine st w as s)
    (hp : s.phase = .running) (hend : s.atEnd = true) : Concluded policyEngine st s := by
  obtain ⟨⟨he, hc⟩, hover, hraised⟩ := atEnd_iff.1 hend
  obtain ⟨p, hat, hI, -⟩ := h.workflow
  obtain rfl := Workflow.ended_of_over hat hover
  obtain ⟨hyp, hclosed⟩ := hI.state
  have hcaught : s.caughtUp = true := by
    simp [caughtUp, he, hc]
  have hmirrors := mirrors_boundary h.run ⟨hp, hcaught, hover.2, hraised⟩
  have hplan : s.incident.plannedActions = s.workflow.graph.state.plannedActions := by
    rw [IncidentState.plannedActions, IncidentState.plannedActions, hmirrors.remediationPlan]
  have hstage : s.incident.currentStage = .resolved := hmirrors.currentStage.trans hclosed.currentStage
  refine ⟨hover, .inr ?_, hstage, ⟨hyp, ?_, hclosed.hypothesis⟩, ?_, by simp [he]⟩
  · have hsignal := h.signal
    simp only [SignalInv, hp] at hsignal
    rw [← hsignal.2.2.2, mergedStage, settledStage, he, hc, List.drop_length]
    exact hstage
  · exact hmirrors.selectedHypothesis.trans hclosed.selected
  · rw [hplan, hclosed.plannedActions, hI.incidentId]

/-- What changes none of what is seen of the end. -/
theorem EndInv.frame (h : EndInv policyEngine st s) (hp : s'.phase = s.phase) (hwf : s'.workflow = s.workflow)
    (hstage : s'.incident.currentStage = s.incident.currentStage)
    (hhyp : s'.incident.selectedHypothesis = s.incident.selectedHypothesis)
    (hplan : s'.incident.remediationPlan = s.incident.remediationPlan)
    (heffects : ∀ e ∈ s'.effects, e ∈ s.effects) : EndInv policyEngine st s' := by
  have hres : Concluded policyEngine st s → Concluded policyEngine st s' := by
    intro hr
    refine ⟨hwf ▸ hr.isOver, hwf ▸ hr.signalled, hstage.trans hr.currentStage, hhyp ▸ hr.hypothesis, ?_, ?_⟩
    · rw [← hr.plannedActions, IncidentState.plannedActions, IncidentState.plannedActions, hplan]
    · exact fun e he => hr.effects e (heffects e he)
  unfold EndInv at *
  rw [hp]
  split at h
  · exact trivial
  · exact trivial
  · exact hres h
  · refine ⟨hres h.1, List.eq_nil_iff_forall_not_mem.2 fun e he => ?_⟩
    have hmem := heffects e he
    rw [h.2] at hmem
    cases hmem

theorem end_step (h : DefaultlyRun toFloat embedder now dumpJson policyEngine st w as s)
    (hI : EndInv policyEngine st s) (hC : MockAnswers toFloat embedder now dumpJson s l)
    (hst : s.step policyEngine l = some s') : EndInv policyEngine st s' := by
  cases move_of_step hst with
  | start t hp => trivial
  | graph l wf hp hl hwf =>
    have hphase : (s.follow wf).phase = .running := hp
    simp only [EndInv, hphase]
  | consume n u hp he hu =>
    simp only [EndInv, hp]
  | effect t e effects he =>
    have hmem : ∀ e' ∈ effects, e' ∈ s.effects := by
      rw [he]
      exact fun e' => List.mem_cons_of_mem e
    cases e with
    | merge f =>
      -- once the run is over nothing is merged any more
      have haside : ¬ Concluded policyEngine st s := by
        intro hr
        exact hr.effects (.merge f) (by simp [he])
      cases hp : s.phase with
      | opening => simp [EndInv, perform]
      | running => simp [EndInv, perform]
      | indexing =>
        simp only [EndInv, hp] at hI
        exact absurd hI haside
      | finishing =>
        simp only [EndInv, hp] at hI
        exact absurd hI.1 haside
    | publish eventType payload => exact hI.frame rfl rfl rfl rfl rfl hmem
    | stageChange n => exact hI.frame rfl rfl rfl rfl rfl hmem
  | exhausted hp hend =>
    have hres := h.resolved hp hend
    simp only [conclude, hres.currentStage, if_true, EndInv]
    refine ⟨hres.isOver, hres.signalled, hres.currentStage, hres.hypothesis, hres.plannedActions, ?_⟩
    intro e hmem
    obtain rfl := List.mem_singleton.1 hmem
    exact ⟨by decide, by decide⟩
  | indexed hp he =>
    simp only [EndInv, hp] at hI
    exact ⟨⟨hI.isOver, hI.signalled, hI.currentStage, hI.hypothesis, hI.plannedActions, hI.effects⟩, he⟩
  | notIndexed exc hp he => cases hC
  | handle exc hp he hr =>
    rw [h.raised] at hr
    cases hr
  | accept sub incident resp hok =>
    obtain ⟨plan, action, hacc, -, -⟩ := IncidentState.submitApproval_ok hok
    refine hI.frame rfl rfl ?_ ?_ ?_ fun _ => id
    · show incident.currentStage = _
      rw [hacc.filed]
    · show incident.selectedHypothesis = _
      rw [hacc.filed]
    · show incident.remediationPlan = _
      rw [hacc.filed]
  | refuse sub => exact hI
  | announce t d unannounced hu => exact hI.frame rfl rfl rfl rfl rfl fun _ => id

theorem DefaultlyRun.ends (h : DefaultlyRun toFloat embedder now dumpJson policyEngine st w as s) :
    EndInv policyEngine st s := by
  refine Machine.run_induction (P := fun as s =>
    Machine.Along (step policyEngine) (MockAnswers toFloat embedder now dumpJson)
      (init st (defaultRunner toFloat embedder now w)) as → EndInv policyEngine st s) ?_ ?_ as s h.run h.answers
  · exact fun _ => trivial
  · intro as s l s' hr hI hst halong
    obtain ⟨hbefore, hC⟩ := (Machine.along_concat hr).1 halong
    exact end_step ⟨h.fresh, hr, hbefore⟩ (hI hbefore) hC hst

/-! ## The way to the end -/

/-- A step of the coroutine itself, while nobody else does anything. -/
def Undisturbed (toFloat : Rat → PyFloat) (embedder : Embedder V S) (now : Nat → Time)
    (dumpJson : (model : ResponseModel) → model.Parsed → String) (s : Investigation (DefaultWorld V)) :
    Label (DefaultWorld V) → Prop
  | .graph l => l.own = true ∧ Workflow.Alone toFloat embedder now dumpJson s.workflow l
  | .index result => result = .ok ()
  | .submitApproval _ | .announce _ => False
  | _ => True

theorem mockAnswers_of_undisturbed (h : Undisturbed toFloat embedder now dumpJson s l) :
    MockAnswers toFloat embedder now dumpJson s l := by
  cases l with
  | graph l => exact h.2.1
  | index result => exact h
  | _ => trivial

/-- The coroutine gets from here to there on its own, with these steps of the graph. -/
def Leads (toFloat : Rat → PyFloat) (embedder : Embedder V S) (now : Nat → Time)
    (dumpJson : (model : ResponseModel) → model.Parsed → String) (policyEngine : RiskPolicyEngine)
    (s : Investigation (DefaultWorld V)) (ls : List (Workflow.Label (DefaultWorld V)))
    (t : Investigation (DefaultWorld V)) : Prop :=
  ∃ bs, Machine.run (step policyEngine) s bs = some t ∧
    Machine.Along (step policyEngine) (Undisturbed toFloat embedder now dumpJson) s bs ∧
    bs.filterMap graphLabel = ls

namespace Leads

variable {t u : Investigation (DefaultWorld V)} {ls ms : List (Workflow.Label (DefaultWorld V))}

theorem refl (s : Investigation (DefaultWorld V)) : Leads toFloat embedder now dumpJson policyEngine s [] s :=
  ⟨[], rfl, trivial, rfl⟩

theorem trans (h : Leads toFloat embedder now dumpJson policyEngine s ls t)
    (h' : Leads toFloat embedder now dumpJson policyEngine t ms u) :
    Leads toFloat embedder now dumpJson policyEngine s (ls ++ ms) u := by
  obtain ⟨bs, hrun, hC, hls⟩ := h
  obtain ⟨cs, hrun', hC', hms⟩ := h'
  refine ⟨bs ++ cs, ?_, (Machine.along_append hrun).2 ⟨hC, hC'⟩, by rw [List.filterMap_append, hls, hms]⟩
  rw [Machine.run_append, hrun]
  exact hrun'

theorem single (hst : s.step policyEngine l = some t) (hC : Undisturbed toFloat embedder now dumpJson s l) :
    Leads toFloat embedder now dumpJson policyEngine s (graphLabel l).toList t := by
  refine ⟨[l], ?_, ⟨hC, fun _ _ => trivial⟩, ?_⟩
  · rw [Machine.run_cons_of_step hst]
    rfl
  · cases hl : graphLabel l <;> simp [hl]

end Leads

theorem DefaultlyRun.leads {t : Investigation (DefaultWorld V)} {ls : List (Workflow.Label (DefaultWorld V))}
    (h : DefaultlyRun toFloat embedder now dumpJson policyEngine st w as s)
    (hl : Leads toFloat embedder now dumpJson policyEngine s ls t) :
    ∃ as', DefaultlyRun toFloat embedder now dumpJson policyEngine st w as' t ∧
      as'.filterMap graphLabel = as.filterMap graphLabel ++ ls := by
  obtain ⟨bs, hrun, hC, hls⟩ := hl
  have hmock : Machine.Along (Investigation.step policyEngine) (MockAnswers toFloat embedder now dumpJson) s bs :=
    Machine.along_mono_of_invariant (I := fun _ => True) (fun _ _ _ _ _ _ => trivial)
      (fun _ _ _ hC => mockAnswers_of_undisturbed hC) trivial hC
  refine ⟨as ++ bs, ⟨h.fresh, ?_, (Machine.along_append h.run).2 ⟨h.answers, hmock⟩⟩, ?_⟩
  · rw [Machine.run_append, h.run]
    exact hrun
  · rw [List.filterMap_append, hls]

section
variable (toFloat embedder now dumpJson policyEngine)

/-- What is left of the merge of an update can be done. -/
theorem exists_idle (s : Investigation (DefaultWorld V)) :
    ∃ t, Leads toFloat embedder now dumpJson policyEngine s [] t ∧ t.effects = [] ∧ t.workflow = s.workflow ∧
      t.phase = s.phase ∧ t.consumed = s.consumed := by
  generalize he : s.effects = effects
  induction effects generalizing s with
  | nil => exact ⟨s, .refl s, he, rfl, rfl, rfl⟩
  | cons e effects ih =>
    let s' := perform { s with effects } ⟨0⟩ e
    have hst : s.step policyEngine (.effect ⟨0⟩) = some s' := by
      simp only [step, he]
      rfl
    have heffects : s'.effects = effects := by cases e <;> rfl
    obtain ⟨t, hlead, hidle, hwf, hp, hc⟩ := ih s' heffects
    refine ⟨t, (Leads.single hst trivial).trans hlead, hidle, ?_, ?_, ?_⟩
    · rw [hwf]
      exact workflow_perform _ ⟨0⟩ e
    · rw [hp]
      exact phase_perform _ ⟨0⟩ e
    · rw [hc]
      exact consumed_perform _ ⟨0⟩ e

/-- The coroutine can catch up with the graph. -/
theorem exists_caughtUp (hp : s.phase = .running) (hc : s.consumed ≤ s.workflow.streamed.length) :
    ∃ t, Leads toFloat embedder now dumpJson policyEngine s [] t ∧ t.caughtUp = true ∧ t.workflow = s.workflow ∧
      t.phase = .running := by
  generalize hn : s.workflow.streamed.length - s.consumed = n
  induction n generalizing s with
  | zero =>
    obtain ⟨t, hlead, he, hwf, hphase, hsame⟩ := exists_idle toFloat embedder now dumpJson policyEngine s
    refine ⟨t, hlead, ?_, hwf, hphase.trans hp⟩
    have heq : t.consumed = t.workflow.streamed.length := by
      rw [hsame, hwf]
      omega
    simp [caughtUp, he, heq]
  | succ n ih =>
    obtain ⟨t, hlead, he, hwf, hphase, hsame⟩ := exists_idle toFloat embedder now dumpJson policyEngine s
    rw [hp] at hphase
    have hlt : t.consumed < t.workflow.streamed.length := by
      rw [hsame, hwf]
      omega
    obtain ⟨⟨m, u⟩, hu⟩ : ∃ x, t.workflow.streamed[t.consumed]? = some x := ⟨_, List.getElem?_eq_getElem hlt⟩
    let t' : Investigation (DefaultWorld V) := { t with consumed := t.consumed + 1, effects := mergeEffects m u }
    have hst : t.step policyEngine .consume = some t' := by simp only [t', step, hphase, he, hu]
    have hleft : t'.workflow.streamed.length - t'.consumed = n := by
      show t.workflow.streamed.length - (t.consumed + 1) = n
      rw [hsame, hwf]
      omega
    obtain ⟨r, hlead', hcaught, hwf', hphase'⟩ := ih (s := t') hphase hlt hleft
    exact ⟨r, hlead.trans ((Leads.single hst trivial).trans hlead'), hcaught, hwf'.trans hwf, hphase'⟩

end

/-- The graph can be driven to its end. -/
theorem DefaultlyRun.exists_atEnd (h : DefaultlyRun toFloat embedder now dumpJson policyEngine st w as s)
    (hp : s.phase = .running) (clock : Clock) :
    ∃ ls t, Leads toFloat embedder now dumpJson policyEngine s ls t ∧ t.phase = .running ∧ t.atEnd = true := by
  generalize hn : 20 - Workflow.ownSteps (as.filterMap graphLabel) = n
  induction n generalizing as s with
  | zero =>
    obtain ⟨p, hat, hI, hlevel⟩ := h.workflow
    have hover := (Workflow.over_iff_level hat hI).2 (by omega)
    obtain ⟨t, hlead, hcaught, hwf, hphase⟩ :=
      exists_caughtUp toFloat embedder now dumpJson policyEngine hp (mirrorInv_run h.run).consumed
    refine ⟨[], t, hlead, hphase, ?_⟩
    have hactive : t.workflow.graph.active.isEmpty = true := by
      rw [hwf, List.isEmpty_iff]
      exact (Superstep.over_iff_active _).1 hover
    have hraised : t.workflow.raised.isNone = true := by
      rw [hwf, hI.raised]
      rfl
    rw [atEnd, hcaught, hactive, hraised]
    rfl
  | succ n ih =>
    obtain ⟨t, hlead, hcaught, hwf, hphase⟩ :=
      exists_caughtUp toFloat embedder now dumpJson policyEngine hp (mirrorInv_run h.run).consumed
    obtain ⟨p, hat, hI, hlevel⟩ := h.workflow
    have hover : ¬ t.workflow.graph.Over := by
      rw [hwf, Workflow.over_iff_level hat hI]
      omega
    have hnext : ∃ l wf, l.own = true ∧ Workflow.Alone toFloat embedder now dumpJson t.workflow l ∧
        t.workflow.step policyEngine l = some wf := Workflow.exists_step (hwf ▸ hat) hover clock
    obtain ⟨l, wf, hown, halone, hst⟩ := hnext
    have hgraph : t.step policyEngine (.graph l) = some (t.follow wf) := by
      simp [step, hphase, hcaught, hst]
    have hlead' := hlead.trans (Leads.single hgraph ⟨hown, halone⟩)
    obtain ⟨bs, hbs, hlabels⟩ := h.leads hlead'
    have hone : 20 - Workflow.ownSteps (bs.filterMap graphLabel) = n := by
      rw [hlabels]
      show 20 - Workflow.ownSteps (_ ++ [l]) = n
      rw [Workflow.ownSteps_concat, hown, if_pos rfl]
      omega
    obtain ⟨ls, u, hrest, hrunning, hend⟩ := ih hbs hphase hone
    exact ⟨_, u, hlead'.trans hrest, hrunning, hend⟩

/-- As long as it has not returned, the coroutine can go on and return. -/
theorem DefaultlyRun.exists_returned (h : DefaultlyRun toFloat embedder now dumpJson policyEngine st w as s)
    (clock : Clock) : ∃ ls t, Leads toFloat embedder now dumpJson policyEngine s ls t ∧ t.Returned := by
  have hindexing : ∀ {as s}, DefaultlyRun toFloat embedder now dumpJson policyEngine st w as s → s.phase = .indexing →
      ∃ ls t, Leads toFloat embedder now dumpJson policyEngine s ls t ∧ t.Returned := by
    intro as s h hp
    obtain ⟨t, hlead, he, -, hphase, -⟩ := exists_idle toFloat embedder now dumpJson policyEngine s
    let t' : Investigation (DefaultWorld V) := { t with phase := .finishing }
    have hst : t.step policyEngine (.index (.ok ())) = some t' := by simp [step, hphase, hp, he, t']
    exact ⟨_, t', hlead.trans (Leads.single hst rfl), rfl, he⟩
  have hrunning : ∀ {as s}, DefaultlyRun toFloat embedder now dumpJson policyEngine st w as s → s.phase = .running →
      ∃ ls t, Leads toFloat embedder now dumpJson policyEngine s ls t ∧ t.Returned := by
    intro as s h hp
    obtain ⟨ls, t, hlead, hphase, hend⟩ := h.exists_atEnd hp clock
    obtain ⟨bs, ht, -⟩ := h.leads hlead
    have hst : t.step policyEngine .exhausted = some t.conclude := by simp [step, hphase, hend]
    have hp' : t.conclude.phase = .indexing := by
      simp [conclude, (ht.resolved hphase hend).currentStage]
    obtain ⟨ms, u, hrest, hret⟩ := hindexing (ht.concat (l := .exhausted) trivial hst) hp'
    exact ⟨_, u, hlead.trans ((Leads.single hst trivial).trans hrest), hret⟩
  cases hp : s.phase with
  | opening =>
    have hst : s.step policyEngine (.start ⟨0⟩) = some (s.launch ⟨0⟩) := by simp [step, hp]
    obtain ⟨ls, t, hlead, hret⟩ := hrunning (h.concat (l := .start ⟨0⟩) trivial hst) rfl
    exact ⟨_, t, (Leads.single hst trivial).trans hlead, hret⟩
  | running => exact hrunning h hp
  | indexing => exact hindexing h hp
  | finishing =>
    have hend := h.ends
    simp only [EndInv, hp] at hend
    exact ⟨[], s, .refl s, hp, hend.2⟩

/-- What a coroutine has left behind when it returns. -/
structure Resolution (policyEngine : RiskPolicyEngine) (incidentId : String) (s : Investigation (DefaultWorld V)) :
    Prop where
  currentStage : s.incident.currentStage = .resolved
  hypothesis : s.incident.selectedHypothesis.map Hypothesis.title =
    some "Redis Connection Pool Exhaustion from Deployment Configuration"
  plannedActions : s.incident.plannedActions = [defaultAction policyEngine incidentId]
  events : ∃ before, s.runEvents.map EventRecord.event = before ++ ["resolved"] ∧ ∀ e ∈ before, e ∉ terminalEvents
  audit : s.workflow.audit.map (fun i => (i.phase, i.action, i.call.toolName)) =
    [(.execute, defaultAction policyEngine incidentId, "rollback_deployment")]

theorem DefaultlyRun.resolution (h : DefaultlyRun toFloat embedder now dumpJson policyEngine st w as s)
    (hret : s.Returned) : Resolution policyEngine st.incidentId s := by
  obtain ⟨hp, he⟩ := hret
  have hend := h.ends
  simp only [EndInv, hp] at hend
  obtain ⟨hres, -⟩ := hend
  obtain ⟨hyp, hselected, hdefault⟩ := hres.hypothesis
  refine ⟨hres.currentStage, by rw [hselected, Option.map_some, hdefault.title], hres.plannedActions, ?_, ?_⟩
  · have hsignal := h.signal
    simp only [SignalInv, hp] at hsignal
    obtain ⟨-, ⟨hno, -⟩ | ⟨-, -, before, event, hann, hb, hst⟩ | ⟨hbad, -⟩⟩ := hsignal
    · exact absurd hres.signalled hno
    · have hevent : event = "resolved" := by
        rw [settledStage, he, List.foldl_nil, hres.currentStage] at hst
        exact (Option.some.inj hst).symm
      rw [announced_of_idle he, hevent] at hann
      exact ⟨before, hann, hb⟩
    · exact absurd trivial hbad
  · obtain ⟨p, hat, hI, -⟩ := h.workflow
    obtain rfl := Workflow.ended_of_over hat hres.isOver
    exact hI.calls

end Investigation

end

/-! ## The service -/

namespace Service

section
variable {V W : Type}

/-- Every task has an incident of its own. -/
structure Apart (svc : Service V W) : Prop where
  own : ∀ i k, svc.found.get? i = some k → k = i
  begun : ∀ i k, svc.found.get? i = some k → i < svc.objects.length
  named : ∀ i inv, svc.objects[i]? = some inv → svc.table.get? inv.incident.incidentId = some i
  waiting : ∀ i inv, svc.objects[i]? = some inv → svc.found.get? i = none →
    ∃ st runner, st.remediationPlan = none ∧ inv = Investigation.init st runner

/-- Only the `i`-th coroutine moves, or is answered. -/
def MovesOnly (i : Nat) (svc : Service V W) : Label V W → Prop
  | .task j _ | .index j _ => j = i
  | .embedded n _ => ∀ job, svc.indexings[n]? = some job → job.task = some i
  | _ => False

variable {svc svc' : Service V W}

theorem Apart.investigated_eq (h : Apart svc) {i : Nat} {inv : Investigation W} (hi : svc.objects[i]? = some inv) :
    svc.investigated i = some (i, inv) := by
  cases hfound : svc.found.get? i with
  | some k =>
    obtain rfl := h.own i k hfound
    simp [investigated, hi, hfound]
  | none =>
    obtain ⟨st, runner, -, rfl⟩ := h.waiting i inv hi hfound
    simp [investigated, hi, hfound, find, h.named i _ hi]
    rfl

theorem Apart.of_investigated (h : Apart svc) {i k : Nat} {inv : Investigation W}
    (hi : svc.investigated i = some (k, inv)) : k = i ∧ svc.objects[i]? = some inv := by
  obtain ⟨own, -, hown, -⟩ := investigated_cases hi
  rw [h.investigated_eq hown] at hi
  cases hi
  exact ⟨rfl, hown⟩

/-- What a step of the `i`-th task, or for the `i`-th incident, has to keep. -/
theorem Apart.set (h : Apart svc) {i : Nat} {inv inv' : Investigation W} (hi : svc.objects[i]? = some inv)
    (hid : inv'.incident.incidentId = inv.incident.incidentId) (hobjects : svc'.objects = svc.objects.set i inv')
    (htable : svc'.table = svc.table)
    (hfound : svc'.found = svc.found.set i i ∨ svc'.found = svc.found ∧ (svc.found.get? i = none → inv' = inv)) :
    Apart svc' := by
  have hlt := (List.getElem?_eq_some_iff.1 hi).1
  have hget : ∀ j, svc'.found.get? j = svc.found.get? j ∨ j = i ∧ svc'.found.get? j = some i := by
    intro j
    rcases hfound with heq | ⟨heq, -⟩
    · rw [heq, Dict.get?_set]
      split
      · rename_i hij
        exact .inr ⟨hij.symm, rfl⟩
      · exact .inl rfl
    · exact .inl (by rw [heq])
  refine ⟨fun j k hj => ?_, fun j k hj => ?_, fun j other hj => ?_, fun j other hj hnone => ?_⟩
  · rcases hget j with hold | ⟨rfl, hnew⟩
    · exact h.own j k (hold ▸ hj)
    · exact Option.some.inj (hj.symm.trans hnew)
  · rw [hobjects, List.length_set]
    rcases hget j with hold | ⟨rfl, hnew⟩
    · exact h.begun j k (hold ▸ hj)
    · exact hlt
  · rw [htable]
    rw [hobjects, List.getElem?_set, if_pos hlt] at hj
    split at hj
    · rename_i hij
      subst hij
      cases hj
      rw [hid]
      exact h.named i inv hi
    · exact h.named j other hj
  · have hbefore : svc.found.get? j = none := by
      rcases hget j with hold | ⟨-, hnew⟩
      · exact hold ▸ hnone
      · cases hnone.symm.trans hnew
    rw [hobjects, List.getElem?_set, if_pos hlt] at hj
    split at hj
    · rename_i hij
      subst hij
      cases hj
      rcases hfound with heq | ⟨-, hsame⟩
      · simp [heq] at hnone
      · rw [hsame hbefore]
        exact h.waiting i inv hi hbefore
    · exact h.waiting j other hj hbefore

variable [UnicodeText] [Unicode] {policyEngine : RiskPolicyEngine} {label : Label V W}

/-- New ids keep the incidents apart. -/
theorem apart_move (h : Apart svc)
    (hnew : ∀ hex title severity affectedServices symptoms autoRemediate clock executionRunner,
      label = .createIncident hex title severity affectedServices symptoms autoRemediate clock executionRunner →
        svc.table.get? ("inc-" ++ hex) = none) (hm : Move policyEngine svc label svc') : Apart svc' := by
  cases hm with
  | created hex title severity affectedServices symptoms autoRemediate clock executionRunner =>
    have hfree := hnew _ _ _ _ _ _ _ _ rfl
    refine ⟨h.own, fun i k hi => ?_, fun i inv hi => ?_, fun i inv hi hfound => ?_⟩
    · rw [create, List.length_append]
      exact Nat.lt_add_right _ (h.begun i k hi)
    · rw [create, Dict.get?_set]
      have hle : i < svc.objects.length + 1 := by
        simpa [create] using (List.getElem?_eq_some_iff.1 hi).1
      rcases Nat.lt_succ_iff_lt_or_eq.1 hle with hlt | rfl
      · rw [create, List.getElem?_append_left hlt] at hi
        have hget := h.named i inv hi
        rw [if_neg]
        · exact hget
        · intro heq
          rw [← heq] at hget
          cases hfree.symm.trans hget
      · rw [create, List.getElem?_concat_length] at hi
        cases hi
        exact if_pos rfl
    · rw [create, List.getElem?_append] at hi
      split at hi
      · exact h.waiting i inv hi hfound
      · obtain rfl := List.mem_singleton.1 (List.mem_of_getElem? hi)
        exact ⟨_, _, rfl, rfl⟩
  | worked i k l inv inv' hl hi hst =>
    obtain ⟨rfl, hown⟩ := h.of_investigated hi
    exact h.set hown (Investigation.incidentId_step hst) (objects_resume_self hown inv') rfl (.inl rfl)
  | indexed n i k job answer inv inv' hn ht hi hst =>
    obtain ⟨rfl, hown⟩ := h.of_investigated hi
    refine h.set hown (Investigation.incidentId_step hst) ?_ (table_receive svc n job answer) (.inl ?_)
    · have hown' : (svc.receive n job answer).objects[k]? = some inv := by
        rw [objects_receive]
        exact hown
      rw [objects_resume_self hown', objects_receive]
    · show (svc.receive n job answer).found.set k k = _
      rw [found_receive]
  | published n job answer hn ht =>
    refine ⟨?_, ?_, ?_, ?_⟩
    · rw [found_receive]
      exact h.own
    · rw [found_receive, objects_receive]
      exact h.begun
    · rw [objects_receive, table_receive]
      exact h.named
    · rw [objects_receive, found_receive]
      exact h.waiting
  | submitted incidentId sub i inv inv' hfind hst =>
    refine h.set (find_some hfind) (Investigation.incidentId_step hst) rfl rfl (.inr ⟨rfl, fun hnone => ?_⟩)
    -- before the coroutine has begun there is no plan yet
    obtain ⟨st, runner, hplan, rfl⟩ := h.waiting i inv (find_some hfind) hnone
    cases Investigation.move_of_step hst with
    | accept _ incident resp hok =>
      obtain ⟨plan, action, hacc, -, -⟩ := IncidentState.submitApproval_ok hok
      cases hplan.symm.trans hacc.planned
    | refuse _ => rfl
  | announced i now inv inv' hi hst =>
    refine h.set hi (Investigation.incidentId_step hst) rfl rfl (.inr ⟨rfl, fun hnone => ?_⟩)
    obtain ⟨st, runner, -, rfl⟩ := h.waiting i inv hi hnone
    cases hst
  | _ => exact ⟨h.own, h.begun, h.named, h.waiting⟩

end

section
variable {V S : Type} [Unicode] [UnicodeCase] [LinearOrder S] {toFloat : Rat → PyFloat} {embedder : Embedder V S}
  {now : Nat → Time} {dumpJson : (model : ResponseModel) → model.Parsed → String} {policyEngine : RiskPolicyEngine}

/-- A step of a service whose incidents all have the default wiring and ids of their own, and whose coroutines
get their reports embedded. -/
def DefaultWiring (toFloat : Rat → PyFloat) (embedder : Embedder V S) (now : Nat → Time)
    (dumpJson : (model : ResponseModel) → model.Parsed → String) (svc : Service V (DefaultWorld V)) :
    Label V (DefaultWorld V) → Prop
  | .createIncident hex _ _ _ _ _ _ executionRunner =>
    svc.table.get? ("inc-" ++ hex) = none ∧ ∃ w, executionRunner = defaultRunner toFloat embedder now w
  | .task i l => ∀ k inv, svc.investigated i = some (k, inv) → inv.MockAnswers toFloat embedder now dumpJson l
  | .embedded n answer => ∀ job, svc.indexings[n]? = some job → job.task.isSome = true → ∃ v, answer = .ok v
  | _ => True

/-- What an incident of such a service has gone through is a run of its coroutine. -/
def Wired (toFloat : Rat → PyFloat) (embedder : Embedder V S) (now : Nat → Time)
    (dumpJson : (model : ResponseModel) → model.Parsed → String) (policyEngine : RiskPolicyEngine)
    (inv : Investigation (DefaultWorld V)) : Prop :=
  ∃ st w as, Investigation.DefaultlyRun toFloat embedder now dumpJson policyEngine st w as inv ∧
    st.incidentId = inv.incident.incidentId

variable {svc svc' : Service V (DefaultWorld V)} {inv inv' : Investigation (DefaultWorld V)}
  {l : Investigation.Label (DefaultWorld V)} {label : Label V (DefaultWorld V)}

theorem Wired.step (h : Wired toFloat embedder now dumpJson policyEngine inv)
    (hC : inv.MockAnswers toFloat embedder now dumpJson l) (hst : inv.step policyEngine l = some inv') :
    Wired toFloat embedder now dumpJson policyEngine inv' := by
  obtain ⟨st, w, as, hrun, hid⟩ := h
  exact ⟨st, w, as ++ [l], hrun.concat hC hst, hid.trans (Investigation.incidentId_step hst).symm⟩

theorem wired_set {i : Nat} (h : ∀ inv ∈ svc.objects, Wired toFloat embedder now dumpJson policyEngine inv)
    (hi : svc.objects[i]? = some inv) (hC : inv.MockAnswers toFloat embedder now dumpJson l)
    (hst : inv.step policyEngine l = some inv') :
    ∀ other ∈ svc.objects.set i inv', Wired toFloat embedder now dumpJson policyEngine other := by
  intro other hmem
  rcases List.mem_or_eq_of_mem_set hmem with hold | rfl
  · exact h other hold
  · exact (h inv (List.mem_of_getElem? hi)).step hC hst

theorem apart_of_wiring (h : Apart svc) (hC : DefaultWiring toFloat embedder now dumpJson svc label)
    (hst : svc.step policyEngine label = some svc') : Apart svc' := by
  refine apart_move h ?_ (move_of_step hst)
  rintro hex title severity affectedServices symptoms autoRemediate clock executionRunner rfl
  exact hC.1

/-- Every step keeps the incidents in their wiring. -/
theorem wired_step (hapart : Apart svc)
    (h : ∀ inv ∈ svc.objects, Wired toFloat embedder now dumpJson policyEngine inv)
    (hC : DefaultWiring toFloat embedder now dumpJson svc label)
    (hst : svc.step policyEngine label = some svc') :
    ∀ inv ∈ svc'.objects, Wired toFloat embedder now dumpJson policyEngine inv := by
  cases move_of_step hst with
  | created hex title severity affectedServices symptoms autoRemediate clock executionRunner =>
    obtain ⟨-, w, rfl⟩ := hC
    intro inv hmem
    rcases List.mem_append.1 hmem with hold | hnew
    · exact h inv hold
    · obtain rfl := List.mem_singleton.1 hnew
      exact ⟨_, w, [], ⟨fresh_createIncident _ _ _ _ _ _ _, rfl, trivial⟩, rfl⟩
  | worked i k l inv inv' hl hi hstep =>
    obtain ⟨rfl, hown⟩ := hapart.of_investigated hi
    rw [objects_resume_self hown]
    exact wired_set h hown (hC k inv hi) hstep
  | indexed n i k job answer inv inv' hn ht hi hstep =>
    obtain ⟨rfl, hown⟩ := hapart.of_investigated hi
    obtain ⟨v, rfl⟩ := hC job hn (by rw [ht]; rfl)
    have hown' : (svc.receive n job (.ok v)).objects[k]? = some inv := by
      rw [objects_receive]
      exact hown
    rw [objects_resume_self hown', objects_receive]
    exact wired_set (l := .index (.ok ())) h hown rfl hstep
  | published n job answer hn ht =>
    rw [objects_receive]
    exact h
  | submitted incidentId sub i inv inv' hfind hstep =>
    exact wired_set (l := .submitApproval sub) h (find_some hfind) trivial hstep
  | announced i now' inv inv' hi hstep => exact wired_set (l := .announce now') h hi trivial hstep
  | _ => exact h

theorem wired_run {as : List (Label V (DefaultWorld V))} (hrun : Machine.run (step policyEngine) {} as = some svc)
    (hC : Machine.Along (step policyEngine) (DefaultWiring toFloat embedder now dumpJson) {} as) :
    Apart svc ∧ ∀ inv ∈ svc.objects, Wired toFloat embedder now dumpJson policyEngine inv := by
  refine Machine.run_induction_along
    (P := fun _ svc => Apart svc ∧ ∀ inv ∈ svc.objects, Wired toFloat embedder now dumpJson policyEngine inv)
    ?_ ?_ as svc hrun hC
  · refine ⟨⟨fun i k hi => ?_, fun i k hi => ?_, by simp, by simp⟩, by simp⟩
    · cases hi
    · cases hi
  · rintro as svc label svc' - ⟨hapart, ih⟩ hC hst
    exact ⟨apart_of_wiring hapart hC hst, wired_step hapart ih hC hst⟩

/-- The first incident of a service. -/
def firstIncident (toFloat : Rat → PyFloat) (embedder : Embedder V S) (now : Nat → Time) : Label V (DefaultWorld V) :=
  .createIncident "00000001" "High latency" .sev1 ["payment-service"] "" false Workflow.stillClock
    (defaultRunner toFloat embedder now {})

/-! ## Nobody waits for anybody -/

/-- On its own, the coroutine gets from here to there. -/
def Alone (toFloat : Rat → PyFloat) (embedder : Embedder V S) (now : Nat → Time)
    (dumpJson : (model : ResponseModel) → model.Parsed → String) (policyEngine : RiskPolicyEngine) (i : Nat)
    (svc : Service V (DefaultWorld V)) (bs : List (Label V (DefaultWorld V))) (svc' : Service V (DefaultWorld V)) :
    Prop :=
  Machine.run (step policyEngine) svc bs = some svc' ∧
    Machine.Along (step policyEngine) (DefaultWiring toFloat embedder now dumpJson) svc bs ∧
    Machine.Along (step policyEngine) (MovesOnly i) svc bs

theorem Alone.trans {i : Nat} {bs cs : List (Label V (DefaultWorld V))} {svc'' : Service V (DefaultWorld V)}
    (h : Alone toFloat embedder now dumpJson policyEngine i svc bs svc')
    (h' : Alone toFloat embedder now dumpJson policyEngine i svc' cs svc'') :
    Alone toFloat embedder now dumpJson policyEngine i svc (bs ++ cs) svc'' := by
  refine ⟨?_, (Machine.along_append h.1).2 ⟨h.2.1, h'.2.1⟩, (Machine.along_append h.1).2 ⟨h.2.2, h'.2.2⟩⟩
  rw [Machine.run_append, h.1]
  exact h'.1

theorem Alone.single {i : Nat} (hst : svc.step policyEngine label = some svc')
    (hC : DefaultWiring toFloat embedder now dumpJson svc label) (honly : MovesOnly i svc label) :
    Alone toFloat embedder now dumpJson policyEngine i svc [label] svc' := by
  refine ⟨?_, ⟨hC, fun _ _ => trivial⟩, ⟨honly, fun _ _ => trivial⟩⟩
  rw [Machine.run_cons_of_step hst]
  rfl

variable (toFloat embedder now dumpJson) in
/-- The answer for a report of the `i`-th coroutine. -/
theorem alone_embedded (hapart : Apart svc) {i n : Nat} {job : Indexing} (hi : svc.objects[i]? = some inv)
    (hn : svc.indexings[n]? = some job) (ht : job.task = some i) (embedding : V)
    (hst : inv.step policyEngine (.index (.ok ())) = some inv') :
    ∃ svc', Alone toFloat embedder now dumpJson policyEngine i svc [.embedded n (.ok embedding)] svc' ∧
      svc'.objects = svc.objects.set i inv' := by
  have hown : (svc.receive n job (.ok embedding)).objects[i]? = some inv := by
    rw [objects_receive]
    exact hi
  refine ⟨(svc.receive n job (.ok embedding)).resume i i inv', .single ?_ ?_ ?_, ?_⟩
  · simp only [step, hn, ht, hapart.investigated_eq hi]
    rw [Except.map, hst]
    rfl
  · exact fun _ _ _ => ⟨embedding, rfl⟩
  · intro other hother
    cases hn.symm.trans hother
    exact ht
  · rw [objects_resume_self hown, objects_receive]

/-- A step of the coroutine is one or two of the service. -/
theorem step_lift (hapart : Apart svc) {i : Nat} (hi : svc.objects[i]? = some inv)
    (hC : inv.Undisturbed toFloat embedder now dumpJson l) (hst : inv.step policyEngine l = some inv')
    (embedding : V) :
    ∃ bs svc', Alone toFloat embedder now dumpJson policyEngine i svc bs svc' ∧
      svc'.objects = svc.objects.set i inv' := by
  have htask : l.ofTask = true → ∃ bs svc', Alone toFloat embedder now dumpJson policyEngine i svc bs svc' ∧
      svc'.objects = svc.objects.set i inv' := by
    intro htask
    refine ⟨[.task i l], svc.resume i i inv', .single ?_ ?_ rfl, objects_resume_self hi inv'⟩
    · simp [step, hapart.investigated_eq hi, htask, hst]
    · intro k other hother
      obtain ⟨-, hother⟩ := hapart.of_investigated hother
      cases hi.symm.trans hother
      exact Investigation.mockAnswers_of_undisturbed hC
  cases l with
  | index result =>
    obtain rfl := hC
    by_cases hbegun : ∃ job ∈ svc.indexings, job.task = some i
    · obtain ⟨job, hmem, ht⟩ := hbegun
      obtain ⟨n, hn⟩ := List.mem_iff_getElem?.1 hmem
      obtain ⟨svc', halone, hobjects⟩ := alone_embedded toFloat embedder now dumpJson hapart hi hn ht embedding hst
      exact ⟨_, svc', halone, hobjects⟩
    · obtain ⟨hp, he⟩ : inv.phase = .indexing ∧ inv.effects = [] := by
        cases Investigation.move_of_step hst with
        | indexed hp he => exact ⟨hp, he⟩
      let proposed := svc.propose (some i) i (PostmortemGenerator.generateReport inv.incident ⟨0⟩)
      have hindex : svc.step policyEngine (.index i ⟨0⟩) = some proposed := by
        have hfirst : (svc.indexings.all fun job => job.task != some i) = true := by
          simp only [List.all_eq_true, bne_iff_ne]
          exact fun job hmem ht => hbegun ⟨job, hmem, ht⟩
        simp [step, hapart.investigated_eq hi, hp, he, hfirst, proposed]
      have hwritten : Alone toFloat embedder now dumpJson policyEngine i svc [.index i ⟨0⟩] proposed := by
        refine .single hindex ?_ rfl
        exact trivial
      have hproposed : Apart proposed := ⟨hapart.own, hapart.begun, hapart.named, hapart.waiting⟩
      obtain ⟨svc', halone, hobjects⟩ :=
        alone_embedded toFloat embedder now dumpJson hproposed hi List.getElem?_concat_length rfl embedding hst
      exact ⟨_, svc', hwritten.trans halone, hobjects⟩
  | submitApproval sub => exact hC.elim
  | announce now' => exact hC.elim
  | _ => exact htask rfl

theorem Alone.apart {i : Nat} {bs : List (Label V (DefaultWorld V))}
    (h : Alone toFloat embedder now dumpJson policyEngine i svc bs svc') (hapart : Apart svc) : Apart svc' :=
  Machine.run_induction_along (P := fun _ svc => Apart svc) hapart
    (fun _ _ _ _ _ hapart hC hst => apart_of_wiring hapart hC hst) bs svc' h.1 h.2.1

/-- What a coroutine can do on its own it can do in the service. -/
theorem run_lift (hapart : Apart svc) {i : Nat} {ls : List (Investigation.Label (DefaultWorld V))}
    (hi : svc.objects[i]? = some inv) (hrun : Machine.run (Investigation.step policyEngine) inv ls = some inv')
    (hC : Machine.Along (Investigation.step policyEngine)
      (Investigation.Undisturbed toFloat embedder now dumpJson) inv ls) (embedding : V) :
    ∃ bs svc', Alone toFloat embedder now dumpJson policyEngine i svc bs svc' ∧
      svc'.objects = svc.objects.set i inv' := by
  induction ls generalizing svc inv with
  | nil =>
    cases hrun
    obtain ⟨hlt, rfl⟩ := List.getElem?_eq_some_iff.1 hi
    exact ⟨[], svc, ⟨rfl, trivial, trivial⟩, (List.set_getElem_self hlt).symm⟩
  | cons l ls ih =>
    rw [Machine.run_cons, Option.bind_eq_some_iff] at hrun
    obtain ⟨inv₁, hst, hrest⟩ := hrun
    obtain ⟨hfirst, hthen⟩ := hC
    obtain ⟨bs, svc₁, halone, hobjects⟩ := step_lift hapart hi hfirst hst embedding
    have hlt : i < svc.objects.length := (List.getElem?_eq_some_iff.1 hi).1
    have hi₁ : svc₁.objects[i]? = some inv₁ := by
      rw [hobjects, List.getElem?_set_self hlt]
    obtain ⟨cs, svc', halone', hset⟩ := ih (halone.apart hapart) hi₁ hrest (hthen inv₁ hst)
    exact ⟨bs ++ cs, svc', halone.trans halone', by rw [hset, hobjects, List.set_set]⟩

/-- **In the default wiring every incident whose coroutine returns is resolved**, as the mock has it, and
its stream ends with `resolved`. -/
theorem default_service_resolves {as : List (Label V (DefaultWorld V))}
    (hrun : Machine.run (step policyEngine) {} as = some svc)
    (hC : Machine.Along (step policyEngine) (DefaultWiring toFloat embedder now dumpJson) {} as)
    (hmem : inv ∈ svc.objects) (hret : inv.Returned) :
    Investigation.Resolution policyEngine inv.incident.incidentId inv := by
  obtain ⟨-, hwired⟩ := wired_run hrun hC
  obtain ⟨st, w, ls, hinv, hid⟩ := hwired inv hmem
  exact hid ▸ hinv.resolution hret

end

/-- The service with its first incident. -/
theorem exists_first :
    letI := Py.asciiTable
    letI := Py.asciiCase
    ∃ (first : Label Unit (DefaultWorld Unit)) (svc : Service Unit (DefaultWorld Unit))
        (inv : Investigation (DefaultWorld Unit)),
      Machine.run (step {}) {} [first] = some svc ∧ svc.objects = [inv] ∧
      Machine.Along (step {}) (DefaultWiring (fun _ => .zero) (alikeEmbedder 0) (fun _ => ⟨0⟩) fun _ _ => "") {}
        [first] := by
  let _ := Py.asciiTable
  let _ := Py.asciiCase
  exact ⟨firstIncident (fun _ => .zero) (alikeEmbedder 0) (fun _ => ⟨0⟩), _, _, rfl, rfl, ⟨rfl, {}, rfl⟩,
    fun _ _ => trivial⟩

/-- An incident that is left alone. -/
theorem default_service_resolves_first :
    letI := Py.asciiTable
    letI := Py.asciiCase
    ∃ as svc inv, Machine.run (step {}) ({} : Service Unit (DefaultWorld Unit)) as = some svc ∧
      inv ∈ svc.objects ∧ inv.Returned ∧ inv.incident.currentStage = .resolved := by
  let _ := Py.asciiTable
  let _ := Py.asciiCase
  obtain ⟨first, svc, inv, hrun, hobjects, hC⟩ := exists_first
  have hi : svc.objects[0]? = some inv := by simp [hobjects]
  obtain ⟨hapart, hwired⟩ := wired_run hrun hC
  obtain ⟨st, w, ls, hinv, -⟩ := hwired inv (List.mem_of_getElem? hi)
  obtain ⟨gs, inv', ⟨cs, hcs, hundisturbed, -⟩, hret⟩ := hinv.exists_returned Workflow.stillClock
  obtain ⟨bs, svc', ⟨hrun', hwiring, -⟩, hset⟩ := run_lift hapart hi hcs hundisturbed ()
  have hmem : inv' ∈ svc'.objects := by
    rw [hset, hobjects]
    exact List.mem_cons_self
  have hall : Machine.run (step {}) {} ([first] ++ bs) = some svc' := by
    rw [Machine.run_append, hrun]
    exact hrun'
  have halong := (Machine.along_append hrun).2 ⟨hC, hwiring⟩
  exact ⟨_, svc', inv', hall, hmem, hret, (default_service_resolves hall halong hmem hret).currentStage⟩

end Service

end OpsPilot
