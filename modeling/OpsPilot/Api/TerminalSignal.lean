import OpsPilot.Api.Delivery
import OpsPilot.Api.Investigation
import OpsPilot.Orchestration.Exits
/-!
# How an investigation ends

`announced` lists the types of the events that the coroutine has published or is about to, and
`settledStage` is the stage once it has done what it is about to do; doing it changes neither.
So `SignalInv` only has to follow the phases: a run is silent while the workflow runs, and the
stage it has merged is the one the workflow has streamed last.
-/
namespace OpsPilot

/-- event_stream.py:76 -/
def terminalEvents : List String := ["resolved", "failed", "escalated"]

theorem EventRecord.terminal_eq (r : EventRecord) : r.terminal = terminalEvents.contains r.event :=
  rfl

/-- The type of the event that announces a final stage. -/
def IncidentStage.signal? : IncidentStage → Option String
  | resolved => some "resolved"
  | failed => some "failed"
  | escalated => some "escalated"
  | _ => none

theorem IncidentStage.mem_of_signal {stage : IncidentStage} {e : String}
    (h : stage.signal? = some e) : e ∈ terminalEvents := by
  cases stage <;> simp [signal?, terminalEvents] at h ⊢ <;> simp [← h]

/-- The type of the event that an effect publishes. -/
def Effect.event? : Effect → Option String
  | merge _ => none
  | publish eventType _ => some eventType
  | stageChange _ => some "stage_change"

def Effect.stage (v : IncidentStage) : Effect → IncidentStage
  | merge f => f.stage v
  | _ => v

theorem foldl_stage_effects (v : IncidentStage) (f : FieldUpdate) :
    f.effects.foldl Effect.stage v = f.stage v := by
  have hmap : ∀ {α : Type} (g : α → Effect) (l : List α) (v : IncidentStage), (∀ a v, (g a).stage v = v) →
      (l.map g).foldl Effect.stage v = v := by
    intro α g l
    induction l with
    | nil => exact fun v _ => rfl
    | cons a l ih =>
      intro v hg
      rw [List.map_cons, List.foldl_cons, hg]
      exact ih v hg
  cases f with
  | evidence items => exact hmap _ items v fun _ _ => rfl
  | timeline events => exact hmap _ events v fun _ _ => rfl
  | _ => rfl

/-- Merging an update sets the stage that the update sets. -/
theorem foldl_stage_mergeEffects (v : IncidentStage) (n : Node) (u : NodeUpdate) :
    (mergeEffects n u).foldl Effect.stage v = NodeUpdate.stage v u := by
  have h : ∀ v, (u.flatMap FieldUpdate.effects).foldl Effect.stage v = NodeUpdate.stage v u := by
    induction u with
    | nil => exact fun v => rfl
    | cons f u ih =>
      intro v
      rw [List.flatMap_cons, List.foldl_append, foldl_stage_effects, ih]
      rfl
  rw [mergeEffects, List.foldl_append, h]
  rfl

/-- Merging an update publishes no termination event. -/
theorem event_mergeEffects {n : Node} {u : NodeUpdate} {e : String}
    (h : e ∈ (mergeEffects n u).filterMap Effect.event?) : e ∉ terminalEvents := by
  obtain ⟨eff, heff, he⟩ := List.mem_filterMap.1 h
  rcases List.mem_append.1 heff with hf | hs
  · obtain ⟨f, -, hf⟩ := List.mem_flatMap.1 hf
    have hcases : e = "evidence_found" ∨ e = "agent_thought" := by
      cases f <;> simp only [FieldUpdate.effects, List.mem_cons, List.mem_map, List.not_mem_nil, or_false] at hf
      case evidence items =>
        rcases hf with rfl | ⟨item, -, rfl⟩
        · cases he
        · cases he
          exact .inl rfl
      case timeline events =>
        rcases hf with rfl | ⟨event, -, rfl⟩
        · cases he
        · cases he
          exact .inr rfl
      all_goals
        subst hf
        cases he
    rcases hcases with rfl | rfl <;> decide
  · obtain rfl := List.mem_singleton.1 hs
    cases he
    decide

namespace Investigation

variable {W : Type}

/-- What the run has published; the other events are those of submissions. -/
def runEvents (s : Investigation W) : List EventRecord :=
  s.published.filter fun r => r.event != "approval_decision"

/-- The incident is in a final stage; the run has published one termination event, as its last
event and of the type of that stage; and a client that registers while that event can still
reach it, directly or from the history, does not wait for more once it has read everything. -/
structure TerminalSignal (s : Investigation W) : Prop where
  signal : ∃ before event, s.runEvents.map EventRecord.event = before ++ [event] ∧
    (∀ e ∈ before, e ∉ terminalEvents) ∧ s.incident.currentStage.signal? = some event
  streams : ∀ (n : Nat) (incidentId : String) (pre post : List Hub.Label) (h : Hub),
    Machine.run Hub.step (Hub.init n) (pre ++ .subscribe incidentId :: post) = some h →
    (pre ++ post).filterMap (Hub.Label.event? incidentId) = s.published →
    (pre.filterMap (Hub.Label.event? incidentId)).length ≤ s.published.findIdx EventRecord.terminal + n →
    ∃ client, h.sessions[(pre.filter Hub.Label.joins).length]? = some client ∧
      (client.queue = [] → client.status ≠ .reading)

/-- The types of the events published by the run or about to be. -/
def announced (s : Investigation W) : List String :=
  (s.published.map EventRecord.event ++ s.effects.filterMap Effect.event?).filter (· != "approval_decision")

theorem announced_of_idle {s : Investigation W} (he : s.effects = []) :
    s.announced = s.runEvents.map EventRecord.event := by
  simp [announced, he, runEvents, List.filter_map, Function.comp_def]

def settledStage (s : Investigation W) : IncidentStage :=
  s.effects.foldl Effect.stage s.incident.currentStage

/-- The stage after the updates that wait to be taken in. -/
def mergedStage (s : Investigation W) : IncidentStage :=
  (s.workflow.streamed.drop s.consumed).foldl (fun v x => NodeUpdate.stage v x.2) s.settledStage

theorem terminalSignal_of_announced {s : Investigation W} {before : List String} {event : String}
    (he : s.effects = []) (ha : s.announced = before ++ [event])
    (hb : ∀ e ∈ before, e ∉ terminalEvents) (hst : s.settledStage.signal? = some event) :
    TerminalSignal s := by
  have hst : s.incident.currentStage.signal? = some event := by simpa [settledStage, he] using hst
  have hevents : s.runEvents.map EventRecord.event = before ++ [event] := by rw [← announced_of_idle he, ha]
  refine ⟨⟨before, event, hevents, hb, hst⟩, fun n i pre post h hrun hall hlen => ?_⟩
  obtain ⟨client, listening, hc, hI⟩ := Hub.client_inv hrun
  refine ⟨client, hc, hI.not_waiting ?_⟩
  -- the termination event is among those the client is owed
  rw [hall]
  have hex : ∃ r ∈ s.published, r.terminal = true := by
    have hmem : event ∈ s.runEvents.map EventRecord.event := by simp [hevents]
    obtain ⟨r, hr, rfl⟩ := List.mem_map.1 hmem
    exact ⟨r, (List.mem_filter.1 hr).1, by simpa [EventRecord.terminal_eq] using IncidentStage.mem_of_signal hst⟩
  have hlt := List.findIdx_lt_length_of_exists hex
  refine ⟨s.published[s.published.findIdx EventRecord.terminal], ?_, List.findIdx_getElem⟩
  rw [List.mem_drop_iff_getElem]
  refine ⟨s.published.findIdx EventRecord.terminal -
    ((pre.filterMap (Hub.Label.event? i)).length - n), by omega, ?_⟩
  congr 1
  omega

/-- Phase by phase; `I` says that the report has not failed so far. -/
def SignalInv (I : Prop) (s : Investigation W) : Prop :=
  match s.phase with
  | .opening | .running => I ∧ (∀ e ∈ s.announced, e ∉ terminalEvents) ∧
      s.consumed ≤ s.workflow.streamed.length ∧ s.mergedStage = lastStage s.workflow.streamed
  | .indexing => I ∧ s.workflow.graph.Over ∧ s.workflow.Signalled ∧ s.settledStage = .resolved ∧
      ∃ before, s.announced = before ++ ["resolved"] ∧ ∀ e ∈ before, e ∉ terminalEvents
  | .finishing => s.workflow.graph.Over ∧
      (¬ s.workflow.Signalled ∧ (∀ e ∈ s.announced, e ∉ terminalEvents) ∨
        s.workflow.Signalled ∧ I ∧ (∃ before event, s.announced = before ++ [event] ∧
          (∀ e ∈ before, e ∉ terminalEvents) ∧ s.settledStage.signal? = some event) ∨
        ¬ I ∧ ∃ before, s.announced = before ++ ["resolved", "failed"])

/-- What changes neither what is announced nor the stage. -/
theorem SignalInv.frame {I : Prop} {s s' : Investigation W} (h : SignalInv I s)
    (hp : s'.phase = s.phase) (ha : s'.announced = s.announced)
    (hst : s'.settledStage = s.settledStage) (hc : s'.consumed = s.consumed)
    (hwf : s'.workflow = s.workflow) : SignalInv I s' := by
  unfold SignalInv mergedStage at *
  rw [hp, ha, hst, hc, hwf]
  exact h

theorem phase_perform (s : Investigation W) (now : Time) (e : Effect) :
    (s.perform now e).phase = s.phase := by
  cases e <;> rfl

theorem consumed_perform (s : Investigation W) (now : Time) (e : Effect) :
    (s.perform now e).consumed = s.consumed := by
  cases e <;> rfl

/-- Every type but that of the submissions counts. -/
theorem filter_kept {e : String} (h : e ≠ "approval_decision") :
    [e].filter (· != "approval_decision") = [e] :=
  List.filter_cons_of_pos (by simpa using h)

/-- Doing what is announced does not change what is announced. -/
theorem announced_perform {s : Investigation W} {e : Effect} {effects : List Effect}
    (he : s.effects = e :: effects) (now : Time) :
    (perform { s with effects } now e).announced = s.announced := by
  -- the event moves from what is to be published to what is published
  refine congrArg (List.filter (· != "approval_decision")) ?_
  cases e <;> simp [perform, publish, he, Effect.event?, List.filterMap_cons]

theorem settledStage_perform {s : Investigation W} {e : Effect} {effects : List Effect}
    (he : s.effects = e :: effects) (now : Time) :
    (perform { s with effects } now e).settledStage = s.settledStage := by
  cases e <;> simp [settledStage, perform, publish, he, Effect.stage, FieldUpdate.merge_eq_apply]

theorem announced_publish_approval (s : Investigation W) (payload : Json) (now : Time) :
    (s.publish "approval_decision" payload now).announced = s.announced := by
  simp [announced, publish, List.filter_append]

/-- One event is left to publish, and it comes after everything else. -/
theorem announced_last {s s' : Investigation W} (he : s.effects = []) {eventType : String} {payload : Json}
    (heff : s'.effects = [.publish eventType payload]) (hpub : s'.published = s.published)
    (hne : eventType ≠ "approval_decision") : s'.announced = s.announced ++ [eventType] := by
  have hnew : s'.effects.filterMap Effect.event? = [eventType] := by
    rw [heff]
    rfl
  rw [announced, hpub, hnew, List.filter_append, filter_kept hne, announced, he, List.filterMap_nil,
    List.append_nil]

/-- The exception handler announces the failure. -/
theorem announced_fail {s : Investigation W} (he : s.effects = []) (exc : PyException) :
    (s.fail exc).announced = s.announced ++ ["failed"] := by
  have heff : (s.fail exc).effects = [.publish "failed" (.obj [("error", .str exc.message)])] := rfl
  exact announced_last he heff rfl (by decide)

section
variable {I I' : Prop} {s : Investigation W}

theorem signal_launch (h : SignalInv I s) (hp : s.phase = .opening) (now : Time) :
    SignalInv I (s.launch now) := by
  simp only [SignalInv, hp] at h
  obtain ⟨hI, hquiet, hcons, hstage⟩ := h
  refine ⟨hI, fun e he => ?_, hcons, hstage⟩
  simp only [announced, launch, publish, List.map_append, List.filter_append, List.mem_append] at he
  rcases he with (hold | hnew) | heff
  · exact hquiet e (by simp only [announced, List.filter_append, List.mem_append]; exact .inl hold)
  · have hkept := filter_kept (e := "stage_change") (by decide)
    obtain rfl := List.mem_singleton.1 (hkept ▸ hnew)
    decide
  · exact hquiet e (by simp only [announced, List.filter_append, List.mem_append]; exact .inr heff)

/-- The next update is taken in: its merge is now among the effects. -/
theorem signal_consume (h : SignalInv I s) (hp : s.phase = .running) (he : s.effects = [])
    {n : Node} {u : NodeUpdate} (hu : s.workflow.streamed[s.consumed]? = some (n, u)) :
    SignalInv I { s with consumed := s.consumed + 1, effects := mergeEffects n u } := by
  simp only [SignalInv, hp] at h ⊢
  obtain ⟨hI, hquiet, hcons, hstage⟩ := h
  obtain ⟨hlt, hget⟩ := List.getElem?_eq_some_iff.1 hu
  refine ⟨hI, fun e hmem => ?_, hlt, ?_⟩
  · simp only [announced, List.filter_append, List.mem_append] at hmem
    rcases hmem with hold | hnew
    · exact hquiet e (by simp only [announced, he, List.filterMap_nil, List.append_nil]; exact hold)
    · exact event_mergeEffects (List.mem_of_mem_filter hnew)
  · rw [← hstage]
    simp only [mergedStage, settledStage, he, foldl_stage_mergeEffects, List.foldl_nil,
      List.drop_eq_getElem_cons hlt, List.foldl_cons, hget]

/-- The workflow streams more. -/
theorem signal_follow (h : SignalInv I s) (hp : s.phase = .running) {wf : Workflow W}
    (hwf : ∃ new, wf.streamed = s.workflow.streamed ++ new) : SignalInv I (s.follow wf) := by
  simp only [SignalInv, hp, follow] at h ⊢
  obtain ⟨hI, hquiet, hcons, hstage⟩ := h
  obtain ⟨new, hnew⟩ := hwf
  refine ⟨hI, hquiet, by rw [hnew, List.length_append]; omega, ?_⟩
  have hdrop : wf.streamed.drop s.consumed = s.workflow.streamed.drop s.consumed ++ new := by
    rw [hnew, List.drop_append_of_le_length hcons]
  simp only [mergedStage, lastStage] at hstage ⊢
  rw [hdrop, List.foldl_append, hnew, List.foldl_append]
  exact congrArg (fun v => new.foldl (fun v x => NodeUpdate.stage v x.2) v) hstage

theorem atEnd_iff : s.atEnd = true ↔ (s.effects = [] ∧ s.consumed = s.workflow.streamed.length) ∧
    s.workflow.graph.Over ∧ s.workflow.raised = none := by
  simp [atEnd, caughtUp, Superstep.over_iff_active, and_assoc]

/-- The loop is left: what has been merged decides. -/
theorem signal_conclude (h : SignalInv I s) (hp : s.phase = .running) (hend : s.atEnd = true) :
    SignalInv I s.conclude := by
  simp only [SignalInv, hp] at h
  obtain ⟨hI, hquiet, -, hstage⟩ := h
  obtain ⟨⟨he, hcons⟩, hover, hraised⟩ := atEnd_iff.1 hend
  have hlast : s.incident.currentStage = lastStage s.workflow.streamed := by
    rw [← hstage, mergedStage, hcons, List.drop_length, settledStage, he]
    rfl
  have hsignal : s.workflow.Signalled ↔ s.incident.currentStage = .resolved := by
    rw [hlast, Workflow.Signalled, hraised]
    simp
  unfold conclude
  split
  · rename_i hres
    refine ⟨hI, hover, hsignal.2 hres, hres, s.announced, ?_, hquiet⟩
    exact announced_last he rfl rfl (by decide)
  · rename_i hres
    exact ⟨hover, .inl ⟨fun hs => hres (hsignal.1 hs), hquiet⟩⟩

end

section
variable [Unicode] {policyEngine : RiskPolicyEngine}

theorem signal_move {I I' : Prop} {s s' : Investigation W} {l : Label W} (h : SignalInv I s)
    (hI : I' ↔ I ∧ ∀ exc, l ≠ .index (.error exc)) (hm : Move policyEngine s l s')
    (hraised : s.workflow.raised.isSome → s.workflow.graph.Over) : SignalInv I' s' := by
  cases hm with
  | start now hp =>
    obtain rfl := Machine.step_met hI nofun
    exact signal_launch h hp now
  | graph l wf hp hl hst =>
    obtain rfl := Machine.step_met hI nofun
    exact signal_follow h hp (Workflow.streamed_step hst)
  | consume n u hp he hu =>
    obtain rfl := Machine.step_met hI nofun
    exact signal_consume h hp he hu
  | effect now e effects he =>
    obtain rfl := Machine.step_met hI nofun
    exact h.frame (phase_perform _ now e) (announced_perform he now) (settledStage_perform he now)
      (consumed_perform _ now e) (workflow_perform _ now e)
  | exhausted hp hend =>
    obtain rfl := Machine.step_met hI nofun
    exact signal_conclude h hp hend
  | indexed hp he =>
    obtain rfl := Machine.step_met hI nofun
    simp only [SignalInv, hp] at h ⊢
    obtain ⟨hI, hover, hsig, hstage, before, hann, hb⟩ := h
    refine ⟨hover, .inr (.inl ⟨hsig, hI, before, "resolved", hann, hb, ?_⟩)⟩
    have hstage : settledStage { s with phase := .finishing } = .resolved := hstage
    rw [hstage]
    rfl
  | notIndexed exc hp he =>
    simp only [SignalInv, hp] at h
    obtain ⟨-, hover, -, -, before, hann, -⟩ := h
    refine ⟨hover, .inr (.inr ⟨fun hI' => (hI.1 hI').2 exc rfl, before, ?_⟩)⟩
    rw [announced_fail he, hann]
    simp
  | handle exc hp he hr =>
    obtain rfl := Machine.step_met hI nofun
    simp only [SignalInv, hp] at h
    have hsome : s.workflow.raised.isSome := by simp [hr]
    exact ⟨hraised hsome, .inr (.inl ⟨.inl hsome, h.1, s.announced, "failed", announced_fail he exc, h.2.1, rfl⟩)⟩
  | accept sub incident resp hok =>
    obtain rfl := Machine.step_met hI nofun
    obtain ⟨plan, a, hacc, -⟩ := IncidentState.submitApproval_ok hok
    obtain rfl := hacc.filed
    exact h.frame rfl rfl rfl rfl rfl
  | refuse sub =>
    obtain rfl := Machine.step_met hI nofun
    exact h
  | announce now d unannounced hu =>
    obtain rfl := Machine.step_met hI nofun
    exact h.frame rfl (announced_publish_approval _ _ now) rfl rfl rfl

/-- **An investigation ends with its signal exactly when** the critic and the verification lead
to one and the report is written. -/
theorem terminal_signal_iff {st : IncidentState} (hfresh : st.Fresh) (runner : Runner W)
    (as : List (Label W)) (s : Investigation W)
    (hrun : Machine.run (step policyEngine) (init st runner) as = some s) (hret : s.Returned) :
    TerminalSignal s ↔
      Machine.Along (Workflow.step policyEngine) Workflow.LeadsToSignal (Workflow.init st runner)
        (as.filterMap graphLabel) ∧ ∀ exc, .index (.error exc) ∉ as := by
  have hI : SignalInv (∀ exc, .index (.error exc) ∉ as) s := by
    refine Machine.run_induction
      (P := fun as s => SignalInv (∀ exc, .index (.error exc) ∉ as) s) ?_ ?_ as s hrun
    · refine ⟨by simp, by simp [announced, init], Nat.le_refl _, ?_⟩
      simp [mergedStage, settledStage, init, Workflow.init, lastStage, hfresh.currentStage]
    · intro as s l s' hr hI hst
      refine signal_move hI ?_ (move_of_step hst) (Workflow.over_of_raised (run_workflow hr))
      simp only [List.mem_append, List.mem_singleton, not_or, forall_and]
      exact and_congr_right fun _ => forall_congr' fun exc => not_congr eq_comm
  obtain ⟨hp, he⟩ := hret
  simp only [SignalInv, hp] at hI
  obtain ⟨hover, hcases⟩ := hI
  rw [← Workflow.signalled_iff (run_workflow hrun) hover]
  rcases hcases with ⟨hno, hquiet⟩ | ⟨hsig, hok, before, event, hann, hb, hst⟩ | ⟨hbad, before, hann⟩
  · -- no signal
    refine ⟨fun h => ?_, fun h => absurd h.1 hno⟩
    obtain ⟨before, event, hev, -, hst⟩ := h.signal
    exact absurd (IncidentStage.mem_of_signal hst) (hquiet event (by simp [announced_of_idle he, hev]))
  · exact ⟨fun _ => ⟨hsig, hok⟩, fun _ => terminalSignal_of_announced he hann hb hst⟩
  · -- two signals
    refine ⟨fun h => ?_, fun h => absurd h.2 hbad⟩
    obtain ⟨before', event, hev, hb, -⟩ := h.signal
    rw [announced_of_idle he, hev] at hann
    have hsplit : before' ++ [event] = (before ++ ["resolved"]) ++ ["failed"] := by simp [hann]
    have hbefore := (List.append_inj' hsplit rfl).1
    exact absurd (hb "resolved" (by simp [hbefore])) (by decide)

end

instance (s : Investigation W) : Decidable s.Returned :=
  decidable_of_iff (s.phase = .finishing ∧ s.effects.isEmpty = true) (by simp [Returned])

/-- A restart helps, and the report is written. -/
theorem terminal_signal_resolved :
    letI := Py.asciiTable
    ∃ s, Machine.run (step {}) (init (Workflow.newIncident 3) Workflow.restartRunner)
        (.start ⟨0⟩ :: served (Workflow.investigationRound [Workflow.bareHypothesis] .approve ++
          Workflow.remediationRound [Workflow.restartAction "ACT-01"] .recovered false) ++
          [.exhausted, .effect ⟨0⟩, .index (.ok ())]) = some s ∧
      s.incident.currentStage = .resolved ∧ TerminalSignal s := by
  let as : List (Label Unit) := .start ⟨0⟩ :: served (Workflow.investigationRound [Workflow.bareHypothesis] .approve ++
    Workflow.remediationRound [Workflow.restartAction "ACT-01"] .recovered false) ++
    [.exhausted, .effect ⟨0⟩, .index (.ok ())]
  have hend : letI := Py.asciiTable
      ∃ s, Machine.run (step {}) (init (Workflow.newIncident 3) Workflow.restartRunner) as = some s ∧
        s.Returned ∧ s.incident.currentStage = .resolved := by decide +kernel
  have halong : letI := Py.asciiTable
      Machine.Along (Workflow.step {}) Workflow.LeadsToSignal
        (Workflow.init (Workflow.newIncident 3) Workflow.restartRunner) (as.filterMap graphLabel) := by decide +kernel
  let _ := Py.asciiTable
  obtain ⟨s, hs, hret, hres⟩ := hend
  have hindex : ∀ exc, .index (.error exc) ∉ as := by
    simp [as, served, Workflow.investigationRound, Workflow.remediationRound, analysts]
  have hsignal := (terminal_signal_iff (Workflow.fresh_newIncident 3) Workflow.restartRunner as s hs hret).2
    ⟨halong, hindex⟩
  exact ⟨s, hs, hres, hsignal⟩

/-- The critic challenges the hypothesis: the run returns and has said nothing. -/
theorem challenged_without_signal :
    letI := Py.asciiTable
    ∃ s, Machine.run (step {}) (init (Workflow.newIncident 3) Workflow.restartRunner)
        (.start ⟨0⟩ :: served (Workflow.investigationRound [Workflow.bareHypothesis] .challenge) ++ [.exhausted]) =
          some s ∧
      s.Returned ∧ ¬ TerminalSignal s := by
  let as : List (Label Unit) :=
    .start ⟨0⟩ :: served (Workflow.investigationRound [Workflow.bareHypothesis] .challenge) ++ [.exhausted]
  have hend : letI := Py.asciiTable
      ∃ s, Machine.run (step {}) (init (Workflow.newIncident 3) Workflow.restartRunner) as = some s ∧
        s.Returned ∧ s.incident.currentStage = .critiquing := by decide +kernel
  obtain ⟨s, hs, hret, hres⟩ := hend
  refine ⟨s, hs, hret, fun h => ?_⟩
  obtain ⟨before, event, -, -, hst⟩ := h.signal
  rw [hres] at hst
  cases hst

end Investigation

end OpsPilot
