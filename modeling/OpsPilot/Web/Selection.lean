import OpsPilot.Web.AlertBoard
/-!
# The incident that is open (`selectIncident`, app.js:346)

Cards can be clicked while older requests are on their way, and answers come back in any order. What is open
is then the incident whose answer came last, not the one that was clicked last. But the header, the card that
is marked, the services that are marked and the stream are set together, behind the one `await`, so they are
about the same incident at any time: `console_in_step`.

| here | there |
| --- | --- |
| `Registry.Keyed`     | `self._incidents` has every state under its own id |
| `AppController.Open` | the part of the page that `selectIncident` sets |
-/
namespace OpsPilot

/-! ## The stream follows -/

namespace StreamConsumer

variable {κ : Type} (c : StreamConsumer κ) (fails : Bool)

theorem currentIncidentId_scheduleReconnect : c.scheduleReconnect.currentIncidentId = c.currentIncidentId := by
  unfold scheduleReconnect
  split <;> rfl

theorem currentIncidentId_connect : (connect fails c).currentIncidentId = c.currentIncidentId := by
  unfold connect
  split
  · rfl
  · split
    · rfl
    · split
      · exact currentIncidentId_scheduleReconnect _
      · rfl

theorem currentIncidentId_subscribe (incidentId : String) :
    (c.subscribe fails incidentId).currentIncidentId = some incidentId := by
  unfold subscribe
  split
  · rename_i h
    exact h.1
  · exact currentIncidentId_connect _ fails

theorem currentIncidentId_onTimeout {c' : StreamConsumer κ} (h : c.onTimeout fails = some c') :
    c'.currentIncidentId = c.currentIncidentId := by
  unfold onTimeout at h
  split at h
  · cases h
  · obtain rfl := Option.some.inj h
    exact currentIncidentId_connect _ fails

end StreamConsumer

/-! ## The table of the registry -/

namespace Registry

/-- Every entry of the table leads to an alert of that id. -/
def Keyed (reg : Registry) : Prop :=
  ∀ incidentId i, reg.table.get? incidentId = some i → ∃ a, reg.objects[i]? = some a ∧ a.incidentId = incidentId

theorem Keyed.add {reg : Registry} (h : reg.Keyed) (a : Alert) : (reg.add a).Keyed := by
  intro incidentId i hi
  simp only [Registry.add, Dict.get?_set] at hi ⊢
  split at hi
  · rename_i heq
    obtain rfl := Option.some.inj hi
    exact ⟨a, by simp, heq⟩
  · obtain ⟨b, hb, hid⟩ := h incidentId i hi
    obtain ⟨hlt, -⟩ := List.getElem?_eq_some_iff.1 hb
    exact ⟨b, by rw [List.getElem?_append_left hlt, hb], hid⟩

theorem Keyed.known {reg : Registry} (h : reg.Keyed) {incidentId : String} {reading : Alert → Reading} {r : Reading}
    (hr : reg.known incidentId reading = .ok r) : ∃ a ∈ reg.objects, a.incidentId = incidentId ∧ r = reading a := by
  unfold Registry.known at hr
  split at hr
  · rename_i a hfind
    obtain ⟨i, hi, ha⟩ := Option.bind_eq_some_iff.1 hfind
    obtain ⟨b, hb, hid⟩ := h incidentId i hi
    rw [ha] at hb
    cases hb
    exact ⟨a, List.mem_of_getElem? ha, hid, (Except.ok.inj hr).symm⟩
  · cases hr

theorem Keyed.respond {reg : Registry} (h : reg.Keyed) (q : Oracle) (r : ApiRequest) :
    (reg.respond q r).2.Keyed ∧ reg.objects ⊆ (reg.respond q r).2.objects := by
  cases r with
  | createIncident title severity affectedServices symptoms =>
    exact ⟨h.add _, fun a hmem => List.mem_append_left _ hmem⟩
  | _ => exact ⟨h, fun a hmem => hmem⟩

end Registry

/-! ## What is open -/

/-- The alert is open: in the header, in the feed, in the topology and on the stream. -/
structure AppController.Open (app : AppController) (a : Alert) : Prop where
  currentIncident : app.currentIncident = some a.view
  activeIncidentId : app.activeIncidentId = some a.incidentId
  criticalServices : app.criticalServices = topologyNodes.filter fun n => a.affectedServices.contains n
  stream : app.stream.currentIncidentId = some a.incidentId

/-- Nothing has been opened yet. -/
structure AppController.Closed (app : AppController) : Prop where
  currentIncident : app.currentIncident = none
  activeIncidentId : app.activeIncidentId = none
  stream : app.stream.currentIncidentId = none

/-- One alert is open, or none; and what is asked for on a click is that incident. -/
structure AppController.InStep (objects : List Alert) (app : AppController) : Prop where
  shown : app.Closed ∨ ∃ a ∈ objects, app.Open a
  calls : ∀ call ∈ app.calls, ∀ incidentId, call.continuation = .selectIncident incidentId →
    call.request = .getIncident incidentId ∧ ∀ inc, call.answer = some (.ok (.incident inc)) →
      ∃ a ∈ objects, a.incidentId = incidentId ∧ inc = a.view

namespace AppController

variable {objects : List Alert} {app app' : AppController}

/-- What does not touch these parts of the page, and asks for nothing. -/
theorem InStep.frame (h : app.InStep objects) (hcurrent : app'.currentIncident = app.currentIncident)
    (hactive : app'.activeIncidentId = app.activeIncidentId) (hcritical : app'.criticalServices = app.criticalServices)
    (hstream : app'.stream.currentIncidentId = app.stream.currentIncidentId)
    (hcalls : ∀ call ∈ app'.calls, call ∈ app.calls) : app'.InStep objects where
  shown := by
    rcases h.shown with hclosed | ⟨a, hmem, hopen⟩
    · exact .inl ⟨hcurrent.trans hclosed.currentIncident, hactive.trans hclosed.activeIncidentId,
        hstream.trans hclosed.stream⟩
    · exact .inr ⟨a, hmem, hcurrent.trans hopen.currentIncident, hactive.trans hopen.activeIncidentId,
        hcritical.trans hopen.criticalServices, hstream.trans hopen.stream⟩
  calls call hmem := h.calls call (hcalls call hmem)

theorem InStep.send (h : app.InStep objects) {request : ApiRequest} {k : Continuation}
    (hk : ∀ incidentId, k = .selectIncident incidentId → request = .getIncident incidentId) :
    (app.send request k).InStep objects where
  shown := by
    rcases h.shown with hclosed | ⟨a, hmem, hopen⟩
    · exact .inl ⟨hclosed.currentIncident, hclosed.activeIncidentId, hclosed.stream⟩
    · exact .inr ⟨a, hmem, hopen.currentIncident, hopen.activeIncidentId, hopen.criticalServices, hopen.stream⟩
  calls call hmem incidentId hc := by
    rcases List.mem_append.1 hmem with hold | hnew
    · exact h.calls call hold incidentId hc
    · obtain rfl := List.mem_singleton.1 hnew
      exact ⟨hk incidentId hc, by simp⟩

theorem InStep.selectIncident (h : app.InStep objects) (incidentId : String) :
    (app.selectIncident incidentId).InStep objects := by
  refine h.send fun other heq => ?_
  cases heq
  rfl

theorem InStep.sendCurrent (h : app.InStep objects) (request : String → ApiRequest) {k : Continuation}
    (hk : ∀ incidentId, k ≠ .selectIncident incidentId) : (app.sendCurrent request k).InStep objects := by
  unfold AppController.sendCurrent
  split
  · exact h.send fun incidentId heq => absurd heq (hk incidentId)
  · exact h

theorem InStep.simulateScenario (h : app.InStep objects) (scenarioId : String) :
    (app.simulateScenario scenarioId).InStep objects := by
  unfold AppController.simulateScenario
  split
  · exact h.send (by simp)
  · exact h

theorem InStep.reloadCurrentIncident (h : app.InStep objects) : app.reloadCurrentIncident.InStep objects := by
  unfold AppController.reloadCurrentIncident
  split
  · exact h.selectIncident _
  · exact h

theorem InStep.openIncident (h : app.InStep objects) (fails : Bool) {a : Alert} (ha : a ∈ objects) :
    (app.openIncident fails a.incidentId a.view).InStep objects := by
  have hopened : InStep objects { app with
      currentIncident := some a.view
      activeIncidentId := some a.incidentId
      criticalServices := topologyNodes.filter fun n => a.affectedServices.contains n
      pipelineStepper := List.replicate 7 .idle
      messages := []
      stream := app.stream.subscribe fails a.incidentId } :=
    ⟨.inr ⟨a, ha, rfl, rfl, rfl, StreamConsumer.currentIncidentId_subscribe _ _ _⟩, h.calls⟩
  have hevidence := hopened.sendCurrent .getEvidence (k := .reloadEvidence) (by simp)
  have hhypotheses := hevidence.sendCurrent .getHypotheses (k := .reloadHypotheses) (by simp)
  have happrovals := hhypotheses.sendCurrent .getApprovals (k := .checkApprovals) (by simp)
  exact happrovals.sendCurrent .getReport (k := .loadReport) (by simp)

theorem InStep.afterLoad (h : app.InStep objects) (next : AfterLoad) : (app.afterLoad next).InStep objects := by
  cases next with
  | done => exact h
  | select incidentId => exact h.selectIncident incidentId
  | init =>
    simp only [AppController.afterLoad]
    split
    · exact h.selectIncident _
    · exact h.simulateScenario _

theorem InStep.settle (h : app.InStep objects) (fails : Bool) (k : Continuation) {answer : Except Unit Reading}
    (ha : ∀ incidentId, k = .selectIncident incidentId → ∀ inc, answer = .ok (.incident inc) →
      ∃ a ∈ objects, a.incidentId = incidentId ∧ inc = a.view) : (app.settle fails k answer).InStep objects := by
  unfold AppController.settle
  split
  · refine InStep.afterLoad ?_ _
    unfold AppController.takeIncidents
    split
    · exact h.frame rfl rfl rfl rfl fun _ => id
    · exact h
  · obtain ⟨a, hmem, rfl, rfl⟩ := ha _ rfl _ rfl
    exact h.openIncident fails hmem
  · exact h.frame rfl rfl rfl rfl fun _ => id
  · exact h.frame rfl rfl rfl rfl fun _ => id
  · exact h.frame rfl rfl rfl rfl fun _ => id
  · exact h.frame rfl rfl rfl rfl fun _ => id
  · exact h.frame rfl rfl rfl rfl fun _ => id
  · exact h.frame rfl rfl rfl rfl fun _ => id
  · have hchecked := h.sendCurrent .getApprovals (k := .checkApprovals) (by simp)
    exact hchecked.reloadCurrentIncident.frame rfl rfl rfl rfl fun _ => id
  · exact h.frame rfl rfl rfl rfl fun _ => id
  · exact h.send (by simp)
  · exact h

theorem InStep.handle (h : app.InStep objects) (browser : Browser) (e : UserEvent) :
    (app.handle browser e).InStep objects := by
  cases e with
  | openCard incidentId => exact h.selectIncident incidentId
  | refreshTopology =>
    -- the services that are marked are those of the open incident, once more
    simp only [AppController.handle]
    split
    · rename_i inc hinc
      refine ⟨?_, h.calls⟩
      rcases h.shown with hclosed | ⟨a, hmem, hopen⟩
      · rw [hclosed.currentIncident] at hinc
        cases hinc
      · obtain rfl : a.view = inc := Option.some.inj (hopen.currentIncident.symm.trans hinc)
        exact .inr ⟨a, hmem, hopen.currentIncident, hopen.activeIncidentId, rfl, hopen.stream⟩
    · exact h
  | reviewApproval =>
    simp only [AppController.handle]
    split
    · exact h.frame rfl rfl rfl rfl fun _ => id
    · exact h
  | decide approved editor reason =>
    simp only [AppController.handle]
    obtain hsame | ⟨incidentId, approvalId, payload, hpost⟩ :=
      AppController.decide_cases browser app approved editor reason
    · rw [hsame]
      exact h
    · rw [hpost]
      exact h.send (by simp)
  | exportMarkdown =>
    simp only [AppController.handle]
    split
    · split
      · exact h.frame rfl rfl rfl rfl fun _ => id
      · exact h
    · exact h
  | generateReport => exact h.sendCurrent .generateReport (by simp)
  | simulate scenarioId => exact h.simulateScenario scenarioId
  | submitForm title severity service symptoms => exact h.send (by simp)
  | _ => exact h.frame rfl rfl rfl rfl fun _ => id

end AppController

/-- Beside the registry: the table is keyed, and the page is in step. -/
structure Console.InStep (s : Console Registry) : Prop where
  keyed : s.server.Keyed
  app : s.app.InStep s.server.objects

/-- A call gets an answer that is about the incident it was made for. -/
theorem AppController.InStep.answered {objects : List Alert} {app : AppController} (h : app.InStep objects) {k : Nat}
    {call : PendingCall} {answer : Except Unit Reading} (hk : app.calls[k]? = some call)
    (ha : ∀ incidentId, call.request = .getIncident incidentId → ∀ inc, answer = .ok (.incident inc) →
      ∃ a ∈ objects, a.incidentId = incidentId ∧ inc = a.view) :
    (Console.answered app k call answer).InStep objects where
  shown := h.shown.imp (fun hc => ⟨hc.1, hc.2, hc.3⟩) fun ⟨a, hmem, ho⟩ => ⟨a, hmem, ho.1, ho.2, ho.3, ho.4⟩
  calls other hmem incidentId hc := by
    rcases List.mem_or_eq_of_mem_set hmem with hold | rfl
    · exact h.calls other hold incidentId hc
    · obtain ⟨hreq, -⟩ := h.calls call (List.mem_of_getElem? hk) incidentId hc
      exact ⟨hreq, fun inc hinc => ha incidentId hreq inc (Option.some.inj hinc)⟩

/-- More alerts do no harm. -/
theorem AppController.InStep.mono {objects objects' : List Alert} {app : AppController} (h : app.InStep objects)
    (hsub : objects ⊆ objects') : app.InStep objects' where
  shown := h.shown.imp_right fun ⟨a, hmem, hopen⟩ => ⟨a, hsub hmem, hopen⟩
  calls call hmem incidentId hc := by
    obtain ⟨hreq, hans⟩ := h.calls call hmem incidentId hc
    refine ⟨hreq, fun inc hinc => ?_⟩
    obtain ⟨a, ha, hid, hview⟩ := hans inc hinc
    exact ⟨a, hsub ha, hid, hview⟩

theorem inStep_step {browser : Browser} {s s' : Console Registry} {l : Console.Label Oracle Alert} (h : s.InStep)
    (hst : s.step registryServer browser l = some s') : s'.InStep := by
  cases Console.move_of_step hst with
  | server l server hserver =>
    cases hserver
    exact ⟨h.keyed.add l, h.app.mono fun a hmem => List.mem_append_left _ hmem⟩
  | user e hcard => exact ⟨h.keyed, h.app.handle browser e⟩
  | serve k q call hk hnone =>
    obtain ⟨hkeyed, hsub⟩ := h.keyed.respond q call.request
    refine ⟨hkeyed, (h.app.mono hsub).answered hk fun incidentId hreq inc hinc => ?_⟩
    have hans : (s.server.respond q call.request).1 = .ok (.incident inc) := hinc
    rw [hreq] at hans
    obtain ⟨a, ha, hid, hview⟩ := h.keyed.known hans
    cases hview
    exact ⟨a, hsub ha, hid, rfl⟩
  | lose k call hk => exact ⟨h.keyed, h.app.answered hk (by simp)⟩
  | settle k fails call answer hk ha =>
    have hrest : AppController.InStep s.server.objects { s.app with calls := s.app.calls.eraseIdx k } :=
      h.app.frame rfl rfl rfl rfl fun other hmem => List.mem_of_mem_eraseIdx hmem
    refine ⟨h.keyed, hrest.settle fails _ fun incidentId hc inc hinc => ?_⟩
    exact (h.app.calls call (List.mem_of_getElem? hk) incidentId hc).2 inc (by rw [ha, hinc])
  | opened source hs => exact ⟨h.keyed, h.app.frame rfl rfl rfl rfl fun _ => id⟩
  | streamFailed source hs =>
    have hcurrent : s.app.stream.onerror.currentIncidentId = s.app.stream.currentIncidentId :=
      StreamConsumer.currentIncidentId_scheduleReconnect _
    exact ⟨h.keyed, h.app.frame rfl rfl rfl hcurrent fun _ => id⟩
  | timeout fails stream ht =>
    exact ⟨h.keyed, h.app.frame rfl rfl rfl (StreamConsumer.currentIncidentId_onTimeout _ _ ht) fun _ => id⟩
  | frame i k r hr => cases hr

/-- **Header, feed, topology and stream never disagree.** Whatever is clicked, and in whatever order the answers
come back: either nothing has been opened, or all four are about one and the same incident of the service. -/
theorem console_in_step {V W : Type} [Unicode] [UnicodeText] {policyEngine : RiskPolicyEngine} {browser : Browser}
    {as : List (Console.Label (Serving W) (Service.Label V W))} {s : Console (Service V W)}
    (hrun : Machine.run (Console.step (serviceServer policyEngine) browser) ⟨{}, .load⟩ as = some s) :
    s.app.Closed ∨ ∃ inv ∈ s.server.objects, s.app.Open inv.incident.alert := by
  have h : s.board.InStep := by
    refine page_invariant ?_ (fun _ _ _ => inStep_step) hrun
    refine ⟨fun incidentId i hi => ?_, .inl ⟨rfl, rfl, rfl⟩, fun call hmem incidentId hc => ?_⟩
    · cases hi
    · obtain rfl := List.mem_singleton.1 hmem
      cases hc
  rcases h.app.shown with hclosed | ⟨a, hmem, hopen⟩
  · exact .inl hclosed
  · obtain ⟨inv, hinv, rfl⟩ := List.mem_map.1 hmem
    exact .inr ⟨inv, hinv, hopen⟩

/-- The incident that the page has created itself. -/
theorem console_in_step_demonstration :
    letI := Py.asciiTable
    letI := Py.asciiText
    ∃ (s : Console (Service Unit Unit)) (inv : Investigation Unit), Machine.run
        (Console.step (serviceServer {}) plainBrowser) ⟨{}, .load⟩ demonstration = some s ∧
      inv ∈ s.server.objects ∧ s.app.Open inv.incident.alert := by
  let _ := Py.asciiTable
  let _ := Py.asciiText
  obtain ⟨s, hrun, hopen⟩ := demonstration_opens
  rcases console_in_step hrun with hclosed | ⟨inv, hmem, hin⟩
  · simp [hclosed.currentIncident] at hopen
  · exact ⟨s, inv, hrun, hmem, hin⟩

end OpsPilot
