import OpsPilot.Api.TerminalSignal
/-!
# What the stream says and what the API serves

Evidence and timeline reach a client twice: in the responses of `get_evidence` and `get_timeline`,
and as `evidence_found` and `agent_thought` events. The coroutine first extends the list of the
incident by a whole update and then publishes its items one by one, with an `await` in each
(incident_service.py:138); `owed` below are the items that are merged and not yet published.

| here | there |
| --- | --- |
| `createIncident`            | the state of `create_incident` (incident_service.py:74) |
| `IncidentState.getEvidence` | `get_evidence` (incident_service.py:209) |
| `IncidentState.getTimeline` | `get_timeline` (incident_service.py:244) |
-/
namespace OpsPilot

/-- incident_service.py:84; its two readings of the clock are that of the event and that of the
incident. -/
def createIncident (incidentId title : String) (severity : Severity)
    (affectedServices : List String) (symptoms : String) (autoRemediate : Bool) (clock : Clock) :
    IncidentState :=
  let initialEvent : TimelineEvent :=
    { timestamp := clock.now 0, stage := .created, actor := "System",
      message := s!"Incident alert received: {title}",
      metadata := [("symptoms", .str symptoms), ("auto_remediate", .bool autoRemediate)] }
  { incidentId, title, severity, affectedServices, createdAt := clock.now 1, timeline := [initialEvent] }

theorem fresh_createIncident (incidentId title : String) (severity : Severity)
    (affectedServices : List String) (symptoms : String) (autoRemediate : Bool) (clock : Clock) :
    (createIncident incidentId title severity affectedServices symptoms autoRemediate clock).Fresh :=
  ⟨rfl, rfl, rfl, rfl, rfl, rfl, rfl, rfl, rfl, rfl, rfl⟩

/-- schemas/incident.py:21 -/
structure EvidenceResponse where
  id : String
  type : String
  source : String
  timestamp : Time
  observation : String
  rawReference : String
  relevanceScore : PyFloat
  metadata : List (String × Json) := []

/-- schemas/incident.py:46 -/
structure TimelineEventResponse where
  timestamp : Time
  stage : String
  actor : String
  message : String
  metadata : List (String × Json) := []

def EvidenceResponse.modelDump (e : EvidenceResponse) : Json := .obj
  [("id", .str e.id), ("type", .str e.type), ("source", .str e.source), ("timestamp", e.timestamp.toJson),
    ("observation", .str e.observation), ("raw_reference", .str e.rawReference),
    ("relevance_score", .float e.relevanceScore), ("metadata", .obj e.metadata)]

def TimelineEventResponse.modelDump (t : TimelineEventResponse) : Json := .obj
  [("timestamp", t.timestamp.toJson), ("stage", .str t.stage), ("actor", .str t.actor),
    ("message", .str t.message), ("metadata", .obj t.metadata)]

namespace IncidentState

def getEvidence (state : IncidentState) : List EvidenceResponse :=
  state.evidence.map fun e =>
    { id := e.id, type := e.type.name, source := e.source, timestamp := e.timestamp,
      observation := e.observation, rawReference := e.rawReference, relevanceScore := e.relevanceScore.val,
      metadata := e.metadata }

def getTimeline (state : IncidentState) : List TimelineEventResponse :=
  state.timeline.map fun t =>
    { timestamp := t.timestamp, stage := t.stage.name, actor := t.actor, message := t.message,
      metadata := t.metadata }

/-- A response is the item itself. -/
theorem dump_getEvidence (state : IncidentState) :
    state.getEvidence.map EvidenceResponse.modelDump = state.evidence.map Evidence.modelDump := by
  rw [getEvidence, List.map_map]
  rfl

theorem dump_getTimeline (state : IncidentState) :
    state.getTimeline.map TimelineEventResponse.modelDump =
      state.timeline.map TimelineEvent.modelDump := by
  rw [getTimeline, List.map_map]
  rfl

end IncidentState

namespace Effect

def evidenceFound (item : Evidence) : Effect := .publish "evidence_found" item.modelDump

def agentThought (event : TimelineEvent) : Effect := .publish "agent_thought" event.modelDump

/-- The effect has nothing to do with evidence or timeline. -/
def Aside : Effect → Prop
  | .merge _ => False
  | .publish eventType _ => eventType ≠ "evidence_found" ∧ eventType ≠ "agent_thought"
  | .stageChange _ => True

end Effect

namespace Investigation

variable {W : Type}

/-- The payloads published under a type. -/
def payloads (s : Investigation W) (eventType : String) : List Json :=
  (s.published.filter fun r => r.event == eventType).map EventRecord.data

theorem payloads_publish (s : Investigation W) (t eventType : String) (payload : Json) (now : Time) :
    (s.publish t payload now).payloads eventType =
      s.payloads eventType ++ (if t = eventType then [payload] else []) := by
  simp only [payloads, publish, List.filter_append, List.map_append, List.filter_cons, List.filter_nil, beq_iff_eq]
  split <;> rfl

theorem payloads_publish_ne (s : Investigation W) {t eventType : String} (h : t ≠ eventType)
    (payload : Json) (now : Time) :
    (s.publish t payload now).payloads eventType = s.payloads eventType := by
  rw [payloads_publish, if_neg h, List.append_nil]

/-- What is merged is published or owed, item by item and in order; `before` is the timeline the
incident was created with. -/
def StreamInv (before : List TimelineEvent) (s : Investigation W) : Prop :=
  ∃ (owedItems : List Evidence) (owedEvents : List TimelineEvent) (u : NodeUpdate) (rest : List Effect),
    s.effects = owedItems.map Effect.evidenceFound ++ owedEvents.map Effect.agentThought ++
      u.flatMap FieldUpdate.effects ++ rest ∧
    (∀ e ∈ rest, e.Aside) ∧
    s.incident.evidence.map Evidence.modelDump =
      s.payloads "evidence_found" ++ owedItems.map Evidence.modelDump ∧
    s.incident.timeline.map TimelineEvent.modelDump =
      before.map TimelineEvent.modelDump ++ s.payloads "agent_thought" ++ owedEvents.map TimelineEvent.modelDump

/-- Nothing is left to do, so nothing is owed. -/
theorem StreamInv.idle {before : List TimelineEvent} {s : Investigation W} (h : StreamInv before s)
    (he : s.effects = []) :
    s.incident.evidence.map Evidence.modelDump = s.payloads "evidence_found" ∧
      s.incident.timeline.map TimelineEvent.modelDump =
        before.map TimelineEvent.modelDump ++ s.payloads "agent_thought" := by
  obtain ⟨owedItems, owedEvents, u, rest, heff, -, hev, htl⟩ := h
  rw [he] at heff
  obtain ⟨howed, -⟩ := List.append_eq_nil_iff.1 heff.symm
  obtain ⟨howed, -⟩ := List.append_eq_nil_iff.1 howed
  obtain ⟨hitems, hevents⟩ := List.append_eq_nil_iff.1 howed
  rw [hev, htl, List.map_eq_nil_iff.1 hitems, List.map_eq_nil_iff.1 hevents]
  simp

/-- Where nothing is owed, the next effects may be any that say what they merge. -/
theorem StreamInv.of_even {before : List TimelineEvent} {s s' : Investigation W}
    (hev : s.incident.evidence.map Evidence.modelDump = s.payloads "evidence_found")
    (htl : s.incident.timeline.map TimelineEvent.modelDump =
      before.map TimelineEvent.modelDump ++ s.payloads "agent_thought")
    (u : NodeUpdate) {rest : List Effect} (hrest : ∀ e ∈ rest, e.Aside)
    (heff : s'.effects = u.flatMap FieldUpdate.effects ++ rest)
    (hevidence : s'.incident.evidence = s.incident.evidence)
    (htimeline : s'.incident.timeline = s.incident.timeline)
    (hitems : s'.payloads "evidence_found" = s.payloads "evidence_found")
    (hthoughts : s'.payloads "agent_thought" = s.payloads "agent_thought") : StreamInv before s' := by
  refine ⟨[], [], u, rest, heff, hrest, ?_, ?_⟩
  · rw [hevidence, hitems, hev, List.map_nil, List.append_nil]
  · rw [htimeline, hthoughts, htl, List.map_nil, List.append_nil]

/-- New effects on an idle run. -/
theorem StreamInv.schedule {before : List TimelineEvent} {s s' : Investigation W}
    (h : StreamInv before s) (he : s.effects = []) (u : NodeUpdate) (rest : List Effect)
    (hrest : ∀ e ∈ rest, e.Aside) (heff : s'.effects = u.flatMap FieldUpdate.effects ++ rest)
    (hpub : s'.published = s.published) (hev : s'.incident.evidence = s.incident.evidence)
    (htl : s'.incident.timeline = s.incident.timeline) : StreamInv before s' := by
  obtain ⟨hidle, hidle'⟩ := h.idle he
  exact .of_even hidle hidle' u hrest heff hev htl (by rw [payloads, hpub, payloads]) (by rw [payloads, hpub, payloads])

/-- What neither does an effect nor touches the lists. -/
theorem StreamInv.frame {before : List TimelineEvent} {s s' : Investigation W}
    (h : StreamInv before s) (he : s'.effects = s.effects)
    (hev : s'.incident.evidence = s.incident.evidence)
    (htl : s'.incident.timeline = s.incident.timeline)
    (hitems : s'.payloads "evidence_found" = s.payloads "evidence_found")
    (hthoughts : s'.payloads "agent_thought" = s.payloads "agent_thought") :
    StreamInv before s' := by
  obtain ⟨owedItems, owedEvents, u, rest, heff, hrest, hevidence, htimeline⟩ := h
  exact ⟨owedItems, owedEvents, u, rest, he.trans heff, hrest, by rw [hev, hitems, hevidence],
    by rw [htl, hthoughts, htimeline]⟩

/-- Nothing is owed, and the first field of an update is merged: what it adds is owed. -/
theorem streamInv_merge {before : List TimelineEvent} {s : Investigation W}
    (hev : s.incident.evidence.map Evidence.modelDump = s.payloads "evidence_found")
    (htl : s.incident.timeline.map TimelineEvent.modelDump =
      before.map TimelineEvent.modelDump ++ s.payloads "agent_thought")
    {f : FieldUpdate} {u : NodeUpdate} {rest : List Effect} (hrest : ∀ e ∈ rest, e.Aside)
    {e : Effect} {effects : List Effect}
    (heff : e :: effects = f.effects ++ (u.flatMap FieldUpdate.effects ++ rest)) (now : Time) :
    StreamInv before (perform { s with effects } now e) := by
  cases f with
  | evidence v =>
    obtain ⟨rfl, heffects⟩ := List.cons.inj heff
    refine ⟨v, [], u, rest, ?_, hrest, ?_, ?_⟩
    · rw [List.map_nil, List.append_nil, List.append_assoc]
      exact heffects
    · show (s.incident.evidence ++ v).map Evidence.modelDump = s.payloads _ ++ _
      rw [List.map_append, hev]
    · show s.incident.timeline.map TimelineEvent.modelDump = _ ++ s.payloads _ ++ _
      rw [htl, List.map_nil, List.append_nil]
  | timeline v =>
    obtain ⟨rfl, heffects⟩ := List.cons.inj heff
    refine ⟨[], v, u, rest, ?_, hrest, ?_, ?_⟩
    · rw [List.map_nil, List.nil_append, List.append_assoc]
      exact heffects
    · show s.incident.evidence.map Evidence.modelDump = s.payloads _ ++ _
      rw [hev, List.map_nil, List.append_nil]
    · show (s.incident.timeline ++ v).map TimelineEvent.modelDump = _ ++ s.payloads _ ++ _
      rw [List.map_append, htl]
  | _ =>
    obtain ⟨rfl, rfl⟩ := List.cons.inj heff
    exact .of_even hev htl u hrest rfl rfl rfl rfl rfl

/-- Nothing is owed, and an effect is done that has nothing to do with the two lists. -/
theorem streamInv_aside {before : List TimelineEvent} {s : Investigation W}
    (hev : s.incident.evidence.map Evidence.modelDump = s.payloads "evidence_found")
    (htl : s.incident.timeline.map TimelineEvent.modelDump =
      before.map TimelineEvent.modelDump ++ s.payloads "agent_thought")
    {e : Effect} {effects : List Effect} (hrest : ∀ e' ∈ e :: effects, e'.Aside) (now : Time) :
    StreamInv before (perform { s with effects } now e) := by
  have haside := hrest e List.mem_cons_self
  have hrest' : ∀ e' ∈ effects, e'.Aside := fun e' he' => hrest e' (List.mem_cons_of_mem e he')
  cases e with
  | merge f => exact haside.elim
  | publish eventType payload =>
    exact .of_even hev htl [] hrest' rfl rfl rfl (payloads_publish_ne s haside.1 payload now)
      (payloads_publish_ne s haside.2 payload now)
  | stageChange n =>
    exact .of_even hev htl [] hrest' rfl rfl rfl (payloads_publish_ne s (by decide) _ now)
      (payloads_publish_ne s (by decide) _ now)

/-- The first effect is done. -/
theorem streamInv_effect {before : List TimelineEvent} {s : Investigation W}
    (h : StreamInv before s) {e : Effect} {effects : List Effect} (he : s.effects = e :: effects)
    (now : Time) : StreamInv before (perform { s with effects } now e) := by
  obtain ⟨owedItems, owedEvents, u, rest, heff, hrest, hev, htl⟩ := h
  rw [he] at heff
  cases owedItems with
  | cons item owedItems =>
    obtain ⟨rfl, rfl⟩ := List.cons.inj heff
    refine ⟨owedItems, owedEvents, u, rest, rfl, hrest, ?_, ?_⟩
    · show s.incident.evidence.map Evidence.modelDump = (s.publish _ _ now).payloads _ ++ _
      rw [hev, payloads_publish]
      simp
    · show s.incident.timeline.map TimelineEvent.modelDump = _ ++ (s.publish _ _ now).payloads _ ++ _
      rw [htl, payloads_publish_ne s (by decide)]
  | nil =>
    cases owedEvents with
    | cons event owedEvents =>
      obtain ⟨rfl, rfl⟩ := List.cons.inj heff
      refine ⟨[], owedEvents, u, rest, rfl, hrest, ?_, ?_⟩
      · show s.incident.evidence.map Evidence.modelDump = (s.publish _ _ now).payloads _ ++ _
        rw [hev, payloads_publish_ne s (by decide)]
      · show s.incident.timeline.map TimelineEvent.modelDump = _ ++ (s.publish _ _ now).payloads _ ++ _
        rw [htl, payloads_publish]
        simp
    | nil =>
      rw [List.map_nil, List.append_nil] at hev htl
      cases u with
      | cons f u => exact streamInv_merge hev htl hrest (by simpa using heff) now
      | nil =>
        have hall : rest = e :: effects := heff.symm
        exact streamInv_aside hev htl (hall ▸ hrest) now

section
variable [Unicode] {policyEngine : RiskPolicyEngine}

theorem streamInv_move {before : List TimelineEvent} {s s' : Investigation W} {l : Label W}
    (h : StreamInv before s) (hm : Move policyEngine s l s') : StreamInv before s' := by
  cases hm with
  | start now hp =>
    exact h.frame rfl rfl rfl (payloads_publish_ne s (by decide) _ now) (payloads_publish_ne s (by decide) _ now)
  | graph l wf hp hl hst => exact h.frame rfl rfl rfl rfl rfl
  | consume n u hp he hu =>
    refine h.schedule he u [.stageChange n] ?_ rfl rfl rfl rfl
    intro e hmem
    obtain rfl := List.mem_singleton.1 hmem
    trivial
  | effect now e effects he => exact streamInv_effect h he now
  | exhausted hp hend =>
    obtain ⟨⟨he, -⟩, -, -⟩ := atEnd_iff.1 hend
    unfold conclude
    split
    · refine h.schedule he [] [.publish "resolved" _] ?_ rfl rfl rfl rfl
      intro e hmem
      obtain rfl := List.mem_singleton.1 hmem
      exact ⟨by decide, by decide⟩
    · exact h.frame rfl rfl rfl rfl rfl
  | indexed hp he => exact h.frame rfl rfl rfl rfl rfl
  | notIndexed exc hp he =>
    refine h.schedule he [] [.publish "failed" _] ?_ rfl rfl rfl rfl
    intro e hmem
    obtain rfl := List.mem_singleton.1 hmem
    exact ⟨by decide, by decide⟩
  | handle exc hp he hr =>
    refine h.schedule he [] [.publish "failed" _] ?_ rfl rfl rfl rfl
    intro e hmem
    obtain rfl := List.mem_singleton.1 hmem
    exact ⟨by decide, by decide⟩
  | accept sub incident resp hok =>
    obtain ⟨plan, action, hacc, -, -⟩ := IncidentState.submitApproval_ok hok
    refine h.frame rfl ?_ ?_ rfl rfl
    · show incident.evidence = _
      rw [hacc.filed]
    · show incident.timeline = _
      rw [hacc.filed]
  | refuse sub => exact h
  | announce now d unannounced hu =>
    exact h.frame rfl rfl rfl (payloads_publish_ne { s with unannounced } (by decide) _ now)
      (payloads_publish_ne { s with unannounced } (by decide) _ now)

theorem streamInv_run {st : IncidentState} (hev : st.evidence = []) {runner : Runner W}
    {as : List (Label W)} {s : Investigation W}
    (hrun : Machine.run (step policyEngine) (init st runner) as = some s) :
    StreamInv st.timeline s := by
  refine Machine.run_induction (P := fun _ s => StreamInv st.timeline s) ?_ ?_ as s hrun
  · exact ⟨[], [], [], [], rfl, by simp, by simp [init, payloads, hev], by simp [init, payloads]⟩
  · intro as s l s' _ hI hst
    exact streamInv_move hI (move_of_step hst)

/-- **Stream and snapshot agree**: at every point of every run the thoughts that were published are
the first entries of the timeline that is served, after the initial one, and the evidence that was
published is the first of the evidence that is served; once the coroutine has returned nothing is
missing. -/
theorem stream_matches_snapshot (incidentId title : String) (severity : Severity)
    (affectedServices : List String) (symptoms : String) (autoRemediate : Bool) (clock : Clock)
    (runner : Runner W) (as : List (Label W)) (s : Investigation W)
    (hrun : Machine.run (step policyEngine)
      (init (createIncident incidentId title severity affectedServices symptoms autoRemediate clock) runner) as =
        some s) :
    s.payloads "agent_thought" <+: (s.incident.getTimeline.drop 1).map TimelineEventResponse.modelDump ∧
    s.payloads "evidence_found" <+: s.incident.getEvidence.map EvidenceResponse.modelDump ∧
    (s.Returned →
      s.payloads "agent_thought" = (s.incident.getTimeline.drop 1).map TimelineEventResponse.modelDump ∧
      s.payloads "evidence_found" = s.incident.getEvidence.map EvidenceResponse.modelDump) := by
  have hI := streamInv_run rfl hrun
  have hdrop : (s.incident.getTimeline.drop 1).map TimelineEventResponse.modelDump =
      (s.incident.timeline.map TimelineEvent.modelDump).drop 1 := by
    rw [List.map_drop, IncidentState.dump_getTimeline]
  rw [hdrop, IncidentState.dump_getEvidence]
  refine ⟨?_, ?_, ?_⟩
  · obtain ⟨owedItems, owedEvents, u, rest, -, -, -, htl⟩ := hI
    rw [htl]
    exact List.prefix_append _ _
  · obtain ⟨owedItems, owedEvents, u, rest, -, -, hev, -⟩ := hI
    rw [hev]
    exact List.prefix_append _ _
  · rintro ⟨-, he⟩
    obtain ⟨hev, htl⟩ := hI.idle he
    rw [hev, htl]
    exact ⟨rfl, rfl⟩

end

/-- A round whose hypothesis is challenged: the seven thoughts are the seven later entries. -/
theorem stream_matches_challenged :
    letI := Py.asciiTable
    ∃ s, Machine.run (step {})
        (init (createIncident "inc-1" "High latency" .sev1 ["payment-service"] "" true Workflow.stillClock)
          Workflow.restartRunner)
        (.start ⟨0⟩ :: served (Workflow.investigationRound [Workflow.bareHypothesis] .challenge) ++ [.exhausted]) =
          some s ∧
      s.incident.timeline.length = 8 ∧
      s.payloads "agent_thought" = (s.incident.getTimeline.drop 1).map TimelineEventResponse.modelDump := by
  let as : List (Label Unit) :=
    .start ⟨0⟩ :: served (Workflow.investigationRound [Workflow.bareHypothesis] .challenge) ++ [.exhausted]
  have hend : letI := Py.asciiTable
      ∃ s, Machine.run (step {})
        (init (createIncident "inc-1" "High latency" .sev1 ["payment-service"] "" true Workflow.stillClock)
          Workflow.restartRunner) as = some s ∧ s.Returned ∧ s.incident.timeline.length = 8 := by decide +kernel
  let _ := Py.asciiTable
  obtain ⟨s, hs, hret, hlength⟩ := hend
  have hagree := stream_matches_snapshot "inc-1" "High latency" .sev1 ["payment-service"] "" true
    Workflow.stillClock Workflow.restartRunner as s hs
  exact ⟨s, hs, hlength, (hagree.2.2 hret).1⟩

end Investigation

end OpsPilot
