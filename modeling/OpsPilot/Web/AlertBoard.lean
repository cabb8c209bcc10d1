import OpsPilot.Web.AppController
/-!
# What the dashboard shows of the service

The routes and the page do not name the fields in the same way, and the lists that the routes answer are not
under a name at all. So of an incident the page reads what it was created with, the durations in its report and
whether a decision on it was accepted. `Registry` is a server that is told no more: a table of alerts, where
nobody investigates, plans or decides.
`console_refines_board` says that a user cannot tell the service from it.

| here | there |
| --- | --- |
| `serviceServer`    | the service behind its routes, with the streams it delivers |
| `Alert`            | what `create_incident` puts into the state (incident_service.py:84) |
| `Registry`         | nothing of the source: the abstract server |
-/
namespace OpsPilot

/-! ## The abstract server -/

structure Alert where
  incidentId : String
  title : String
  severity : Severity
  affectedServices : List String
  createdAt : Time

def Alert.view (a : Alert) : IncidentView where
  id := a.incidentId
  title := a.title
  severity := a.severity.name
  affectedServices := a.affectedServices
  createdAt := some a.createdAt.toJson
  stage := none
  isResolved := none
  timeline := []

structure Registry where
  objects : List Alert := []
  table : Dict String Nat := Dict.empty

/-- What the registry is told when it answers. -/
structure Oracle where
  hex : String := ""
  createdAt : Time := ⟨0⟩
  mttrSeconds : Int := 0
  accepts : Bool := true

namespace Registry

def add (reg : Registry) (a : Alert) : Registry where
  objects := reg.objects ++ [a]
  table := reg.table.set a.incidentId reg.objects.length

def find (reg : Registry) (incidentId : String) : Option Alert :=
  (reg.table.get? incidentId).bind fun i => reg.objects[i]?

def alerts (reg : Registry) : List Alert := reg.table.entries.filterMap fun e => reg.objects[e.2]?

def listed (reg : Registry) : List Alert := Py.slice (Ranking.rank (fun a => a.createdAt.micros) reg.alerts) 0 100

/-- The same answer for every incident there is. -/
def known (reg : Registry) (incidentId : String) (reading : Alert → Reading) : Except Unit Reading :=
  match reg.find incidentId with
  | some a => .ok (reading a)
  | none => .error ()

def reportView (mttrSeconds : Int) (a : Alert) : ReportView where
  incidentId := some (.str a.incidentId)
  mttdSeconds := some (.int 180)
  mttrSeconds := some (.int mttrSeconds)
  isResolved := none
  markdownContent := none

def respond (reg : Registry) (q : Oracle) : ApiRequest → Except Unit Reading × Registry
  | .getIncidents => (.ok (.incidents (reg.listed.map Alert.view)), reg)
  | .getIncident incidentId => (reg.known incidentId fun a => .incident a.view, reg)
  | .createIncident title severity affectedServices _ =>
    let incidentId := "inc-" ++ q.hex
    (.ok (.created incidentId), reg.add { incidentId, title, severity, affectedServices, createdAt := q.createdAt })
  | .getEvidence incidentId => (reg.known incidentId fun _ => .evidence [], reg)
  | .getHypotheses incidentId => (reg.known incidentId fun _ => .hypotheses [], reg)
  | .getApprovals incidentId => (reg.known incidentId fun _ => .approvals [], reg)
  | .submitApproval _ _ _ => (if q.accepts then .ok .decided else .error (), reg)
  | .getReport incidentId => (reg.known incidentId fun a => .report (reportView q.mttrSeconds a), reg)
  | .generateReport incidentId => (reg.known incidentId fun a => .report (reportView q.mttrSeconds a), reg)

end Registry

/-- Alerts come in, and that is all. -/
def registryServer : Server Registry Oracle Alert where
  step reg a := some (reg.add a)
  respond reg q r := reg.respond q r
  record _ _ _ := none

/-! ## The service is more than it shows -/

def IncidentState.alert (st : IncidentState) : Alert where
  incidentId := st.incidentId
  title := st.title
  severity := st.severity
  affectedServices := st.affectedServices
  createdAt := st.createdAt

/-- What an incident is created with stays. -/
theorem Investigation.alert_step {W : Type} [Unicode] {policyEngine : RiskPolicyEngine} {s s' : Investigation W}
    {l : Investigation.Label W} (hst : s.step policyEngine l = some s') : s'.incident.alert = s.incident.alert := by
  cases Investigation.move_of_step hst with
  | effect now e effects he =>
    cases e with
    | merge f => cases f <;> rfl
    | publish eventType payload => rfl
    | stageChange n => rfl
  | exhausted hp hend => rw [Investigation.incident_conclude]
  | accept sub incident resp hok =>
    obtain ⟨plan, action, hacc, -, -⟩ := IncidentState.submitApproval_ok hok
    show incident.alert = _
    rw [hacc.filed]
    rfl
  | _ => rfl

namespace Service

variable {V W : Type}

def registry (svc : Service V W) : Registry where
  objects := svc.objects.map fun inv => inv.incident.alert
  table := svc.table

theorem registry_create (svc : Service V W) (st : IncidentState) (runner : Runner W) :
    (svc.create st runner).registry = svc.registry.add st.alert := by
  simp only [registry, create, Registry.add, List.map_append, List.map_cons, List.map_nil, List.length_map]
  rfl

theorem registry_eq {svc svc' : Service V W} (htable : svc'.table = svc.table)
    (halert : ∀ j : Nat, (svc'.objects[j]?.map fun inv : Investigation W => inv.incident.alert) =
      svc.objects[j]?.map fun inv => inv.incident.alert) : svc'.registry = svc.registry := by
  have hobjects : (svc'.objects.map fun inv => inv.incident.alert) = svc.objects.map fun inv => inv.incident.alert := by
    refine List.ext_getElem? fun j => ?_
    rw [List.getElem?_map, List.getElem?_map, halert j]
  rw [registry, registry, htable, hobjects]

theorem registry_store {svc : Service V W} {i : Nat} {inv inv' : Investigation W} (hi : svc.objects[i]? = some inv)
    (halert : inv'.incident.alert = inv.incident.alert) : (svc.store i inv').registry = svc.registry := by
  refine registry_eq rfl fun j => ?_
  rw [store, List.getElem?_set, if_pos (List.getElem?_eq_some_iff.1 hi).1]
  split
  · rename_i hij
    subst hij
    rw [hi, Option.map_some, Option.map_some, halert]
  · rfl

theorem find_registry (svc : Service V W) (incidentId : String) :
    svc.registry.find incidentId = (svc.find incidentId).map fun found => found.2.incident.alert := by
  unfold Registry.find find registry
  cases svc.table.get? incidentId with
  | none => rfl
  | some i =>
    cases hi : svc.objects[i]? <;> simp [hi]

theorem alerts_registry (svc : Service V W) : svc.registry.alerts = svc.incidents.map IncidentState.alert := by
  simp only [Registry.alerts, registry, incidents, List.map_filterMap, List.getElem?_map, Option.map_map]
  rfl

theorem registry_step [Unicode] [UnicodeText] {policyEngine : RiskPolicyEngine} {svc svc' : Service V W}
    {l : Label V W} (h : svc.step policyEngine l = some svc') :
    svc'.registry = svc.registry ∨ ∃ a, svc'.registry = svc.registry.add a := by
  have hm := move_of_step h
  cases objects_move hm with
  | created hex title severity affectedServices symptoms autoRemediate clock executionRunner heq =>
    rw [heq]
    exact .inr ⟨_, registry_create _ _ _⟩
  | worked i k l inv inv' hi hst hobjects htable =>
    obtain ⟨other, hother, hincident⟩ := incident_investigated hi
    refine .inl (registry_eq htable fun j => ?_)
    rw [hobjects, getElem?_resume, Option.map_map]
    by_cases hkj : k = j
    · subst hkj
      have halert := Investigation.alert_step hst
      rw [hincident] at halert
      simp [hother, halert]
    · cases hj : svc.objects[j]? <;> simp [hkj]
  | stored i l inv inv' hi hst hobjects htable =>
    have hsame : svc'.registry = (svc.store i inv').registry := registry_eq htable fun j => by rw [hobjects, store]
    exact .inl (hsame.trans (registry_store hi (Investigation.alert_step hst)))
  | kept hobjects htable =>
    refine .inl (registry_eq htable fun j => ?_)
    rw [hobjects]

end Service

/-! ## What is read of its answers -/

theorem mapM_of_some {α β : Type} {f : α → Option β} {g : α → β} (h : ∀ a, f a = some (g a)) (l : List α) :
    l.mapM f = some (l.map g) := by
  rw [funext h]
  exact List.mapM_pure

/-- Of an incident the page reads the alert. -/
theorem ofJson_toResponse (st : IncidentState) (now : Time) :
    IncidentView.ofJson (st.toResponse now).modelDump = some st.alert.view := by
  have hservices : st.affectedServices.mapM (Json.asStr? ∘ Json.str) = some st.affectedServices := by
    have hid := mapM_of_some (f := Json.asStr? ∘ Json.str) (g := id) (fun _ => rfl) st.affectedServices
    rwa [List.map_id] at hid
  simp [IncidentView.ofJson, Json.strField, Json.listField, Json.field, IncidentResponse.modelDump,
    IncidentState.toResponse, Json.ofStrings, Dict.get?_ofList, Dict.look, hservices, Alert.view, IncidentState.alert]

/-- Of a report it reads the incident and the two durations. -/
theorem ofJson_report (r : PostmortemReportResponse) :
    ReportView.ofJson r.modelDump =
      { incidentId := some (.str r.incidentId), mttdSeconds := some (.int r.mttdSeconds),
        mttrSeconds := some (.int r.mttrSeconds), isResolved := none, markdownContent := none } := by
  simp [ReportView.ofJson, Json.field, PostmortemReportResponse.modelDump, Dict.get?_ofList, Dict.look]

namespace Service

variable {V W : Type}

theorem receive_ok {r : ApiRequest} {body : Json} {reading : Reading} (h : r.read body = some reading) :
    r.receive (.ok body) = .ok reading := by
  simp only [ApiRequest.receive, h]

/-- A list that is not under a name is read as an empty one. -/
theorem known_registry (svc : Service V W) (incidentId : String) (items : IncidentState → List Json)
    (r : ApiRequest) (reading : Reading) (hr : ∀ l, r.read (.arr l) = some reading) :
    svc.registry.known incidentId (fun _ => reading) = r.receive (svc.listOf incidentId items) := by
  unfold Registry.known listOf
  rw [find_registry]
  cases svc.find incidentId with
  | none => rfl
  | some found => exact (receive_ok (hr _)).symm

variable [UnicodeText]

theorem read_report (st : IncidentState) (now : Time) {r : ApiRequest}
    (hr : ∀ body, r.read body = some (.report (ReportView.ofJson body))) :
    r.receive (.ok (PostmortemGenerator.generateReport st now).modelDump) =
      .ok (.report (Registry.reportView (PostmortemGenerator.generateReport st now).mttrSeconds st.alert)) := by
  refine receive_ok ?_
  rw [hr, ofJson_report]
  rfl

variable [Unicode]

theorem listed_registry (svc : Service V W) :
    svc.registry.listed = (svc.listed none none none 100 0).map IncidentState.alert := by
  have hsort := Ranking.map_rank (fun a : Alert => a.createdAt.micros) IncidentState.alert svc.incidents
  rw [Registry.listed, alerts_registry, ← hsort]
  simp only [Py.slice, List.length_map, ← List.map_take, ← List.map_drop]
  rfl

/-- The first page is read as the alerts of the registry. -/
theorem read_listIncidents (svc : Service V W) (clock : Clock) :
    ((svc.listIncidents none none none 100 0 clock).map IncidentResponse.modelDump).mapM IncidentView.ofJson =
      some (svc.registry.listed.map Alert.view) := by
  have hread := mapM_of_some (f := IncidentView.ofJson ∘ IncidentResponse.modelDump ∘
      fun x : IncidentState × Nat => x.1.toResponse (clock.now x.2)) (g := fun x => x.1.alert.view)
    (fun x => ofJson_toResponse x.1 _) (svc.listed none none none 100 0).zipIdx
  have hfst : (svc.listed none none none 100 0).zipIdx.map (fun x => x.1.alert.view) =
      (svc.listed none none none 100 0).map fun st => st.alert.view := by
    conv_rhs => rw [← List.zipIdx_map_fst 0 (svc.listed none none none 100 0), List.map_map]
    rfl
  rw [listIncidents, List.map_map, List.mapM_map, listed_registry, List.map_map]
  exact hread.trans (congrArg some hfst)

/-- Every route answers, for what is read of it, as the registry would. -/
theorem receive_respond (svc : Service V W) (p : Serving W) (r : ApiRequest) :
    ∃ q, svc.registry.respond q r =
      (r.receive (svc.respond p r).1, (svc.respond p r).2.registry) := by
  cases r with
  | getIncidents =>
    refine ⟨{}, ?_⟩
    have hread : ApiRequest.getIncidents.read (.arr ((svc.listIncidents none none none 100 0 p.clock).map
        IncidentResponse.modelDump)) = some (.incidents (svc.registry.listed.map Alert.view)) := by
      show Option.map _ (List.mapM _ _) = _
      rw [read_listIncidents]
      rfl
    simp only [Registry.respond, respond, receive_ok hread]
  | getIncident incidentId =>
    refine ⟨{}, ?_⟩
    simp only [Registry.respond, Registry.known, respond, getIncident, find_registry]
    cases svc.find incidentId with
    | none => rfl
    | some found =>
      have hread : (ApiRequest.getIncident incidentId).read
          (found.2.incident.toResponse (p.clock.now 0)).modelDump = some (.incident found.2.incident.alert.view) := by
        show Option.map _ _ = _
        rw [ofJson_toResponse]
        rfl
      simp only [Option.map_some, receive_ok hread]
  | createIncident title severity affectedServices symptoms =>
    refine ⟨{ hex := p.hex, createdAt := p.clock.now 1 }, ?_⟩
    simp only [Registry.respond, respond, registry_create]
    have hread : (ApiRequest.createIncident title severity affectedServices symptoms).read
        ((OpsPilot.createIncident ("inc-" ++ p.hex) title severity affectedServices symptoms false p.clock).toResponse
          (p.clock.now 2)).modelDump = some (.created ("inc-" ++ p.hex)) := by
      simp [ApiRequest.read, Json.strField, Json.field, IncidentResponse.modelDump, IncidentState.toResponse,
        Dict.get?_ofList, Dict.look, OpsPilot.createIncident]
    rw [receive_ok hread]
    rfl
  | getEvidence incidentId =>
    refine ⟨{}, ?_⟩
    simp only [Registry.respond, respond]
    rw [known_registry svc incidentId _ (.getEvidence incidentId) (.evidence []) fun _ => rfl]
  | getHypotheses incidentId =>
    refine ⟨{}, ?_⟩
    simp only [Registry.respond, respond]
    rw [known_registry svc incidentId _ (.getHypotheses incidentId) (.hypotheses []) fun _ => rfl]
  | getApprovals incidentId =>
    refine ⟨{}, ?_⟩
    simp only [Registry.respond, respond]
    rw [known_registry svc incidentId _ (.getApprovals incidentId) (.approvals []) fun _ => rfl]
  | submitApproval incidentId approvalId payload =>
    have hrefused : ∃ q, svc.registry.respond q (.submitApproval incidentId approvalId payload) =
        (.error (), svc.registry) := ⟨{ accepts := false }, rfl⟩
    simp only [respond]
    split
    · rename_i i inv request hfind hreq
      split
      · rename_i incident resp hok
        refine ⟨{}, Prod.ext rfl (registry_store (find_some hfind) ?_).symm⟩
        obtain ⟨plan, action, hacc, -, -⟩ := IncidentState.submitApproval_ok hok
        show incident.alert = _
        rw [hacc.filed]
        rfl
      · exact hrefused
    · exact hrefused
  | getReport incidentId =>
    simp only [Registry.respond, Registry.known, respond, generatePostmortemReport, find_registry]
    cases svc.find incidentId with
    | none => exact ⟨{}, rfl⟩
    | some found =>
      refine ⟨{ mttrSeconds := (PostmortemGenerator.generateReport found.2.incident (p.clock.now 0)).mttrSeconds }, ?_⟩
      simp only [Option.map_some]
      rw [read_report _ _ fun _ => rfl]
  | generateReport incidentId =>
    simp only [Registry.respond, Registry.known, respond, generatePostmortemReport, find_registry]
    cases svc.find incidentId with
    | none => exact ⟨{}, rfl⟩
    | some found =>
      refine ⟨{ mttrSeconds := (PostmortemGenerator.generateReport found.2.incident (p.clock.now 0)).mttrSeconds }, ?_⟩
      simp only [Option.map_some]
      rw [read_report _ _ fun _ => rfl]
      rfl

end Service

/-! ## No callback is ever called -/

/-- The types of what an incident publishes. -/
def publishedTypes : List String :=
  ["stage_change", "evidence_found", "agent_thought", "approval_decision", "resolved", "failed"]

def Effect.Named : Effect → Prop
  | .publish eventType _ => eventType ∈ publishedTypes
  | _ => True

/-- The browser has no listener for an event of such a name. -/
theorem receive_named {browser : Browser} (app : AppController) {r : EventRecord} (h : r.event ∈ publishedTypes) :
    app.receive browser r.frame = app := by
  have hname : ¬ (r.event = "" ∨ r.event = "message") ∧ r.event ≠ "open" ∧ r.event ≠ "error" := by
    simp only [publishedTypes, List.mem_cons, List.not_mem_nil, or_false] at h
    rcases h with h | h | h | h | h | h <;> rw [h] <;> decide
  simp only [AppController.receive, EventRecord.frame, StreamConsumer.receive, StreamConsumer.dispatch,
    if_neg hname.1, if_neg hname.2.1, if_neg hname.2.2, List.foldl_nil]

theorem named_effects (f : FieldUpdate) : ∀ e ∈ f.effects, e.Named := by
  intro e hmem
  cases f with
  | evidence v =>
    rcases List.mem_cons.1 hmem with rfl | hmem
    · trivial
    · obtain ⟨item, -, rfl⟩ := List.mem_map.1 hmem
      simp [Effect.Named, publishedTypes]
  | timeline v =>
    rcases List.mem_cons.1 hmem with rfl | hmem
    · trivial
    · obtain ⟨event, -, rfl⟩ := List.mem_map.1 hmem
      simp [Effect.Named, publishedTypes]
  | _ =>
    obtain rfl := List.mem_singleton.1 hmem
    trivial

/-- What is published, and what is going to be, is named. -/
structure Investigation.Named {W : Type} (s : Investigation W) : Prop where
  published : ∀ r ∈ s.published, r.event ∈ publishedTypes
  effects : ∀ e ∈ s.effects, e.Named

namespace Investigation

variable {W : Type} {s s' : Investigation W}

theorem Named.publish (h : s.Named) {eventType : String} (ht : eventType ∈ publishedTypes) (payload : Json)
    (now : Time) : (s.publish eventType payload now).Named := by
  refine ⟨fun r hmem => ?_, h.effects⟩
  rcases List.mem_append.1 hmem with hold | hnew
  · exact h.published r hold
  · obtain rfl := List.mem_singleton.1 hnew
    exact ht

variable [Unicode] {policyEngine : RiskPolicyEngine} {l : Investigation.Label W}

theorem named_step (h : s.Named) (hst : s.step policyEngine l = some s') : s'.Named := by
  have hfail : ∀ exc, (s.fail exc).Named := by
    intro exc
    refine ⟨h.published, fun e hmem => ?_⟩
    obtain rfl := List.mem_singleton.1 hmem
    simp [Effect.Named, publishedTypes]
  cases move_of_step hst with
  | start now hp =>
    have hstage : "stage_change" ∈ publishedTypes := by simp [publishedTypes]
    exact ⟨(h.publish hstage _ now).published, h.effects⟩
  | consume n u hp he hu =>
    refine ⟨h.published, fun e hmem => ?_⟩
    rcases List.mem_append.1 hmem with hfield | hstage
    · obtain ⟨f, -, hf⟩ := List.mem_flatMap.1 hfield
      exact named_effects f e hf
    · obtain rfl := List.mem_singleton.1 hstage
      trivial
  | effect now e effects he =>
    have hrest : Named { s with effects } :=
      ⟨h.published, fun e' hmem => h.effects e' (by rw [he]; exact List.mem_cons_of_mem e hmem)⟩
    have hnamed := h.effects e (by simp [he])
    cases e with
    | merge f => exact ⟨hrest.published, hrest.effects⟩
    | publish eventType payload => exact hrest.publish hnamed payload now
    | stageChange n => exact hrest.publish (by simp [publishedTypes]) _ now
  | exhausted hp hend =>
    unfold conclude
    split
    · refine ⟨h.published, fun e hmem => ?_⟩
      obtain rfl := List.mem_singleton.1 hmem
      simp [Effect.Named, publishedTypes]
    · exact ⟨h.published, h.effects⟩
  | notIndexed exc hp he => exact hfail exc
  | handle exc hp he hr => exact hfail exc
  | announce now d unannounced hu =>
    have hrest : Named { s with unannounced } := ⟨h.published, h.effects⟩
    exact hrest.publish (by simp [publishedTypes]) _ now
  | _ => exact ⟨h.published, h.effects⟩

end Investigation

/-! ## The service behind its routes -/

section
variable {V W : Type} [Unicode] [UnicodeText] {policyEngine : RiskPolicyEngine}

def serviceServer (policyEngine : RiskPolicyEngine) : Server (Service V W) (Serving W) (Service.Label V W) where
  step := Service.step policyEngine
  respond svc p r := (r.receive (svc.respond p r).1, (svc.respond p r).2)
  record svc i k := svc.objects[i]?.bind fun inv => inv.published[k]?

theorem Service.named_step {svc svc' : Service V W} {l : Service.Label V W} (h : ∀ inv ∈ svc.objects, inv.Named)
    (hmove : svc.step policyEngine l = some svc') : ∀ inv ∈ svc'.objects, inv.Named := by
  cases Service.objects_move (Service.move_of_step hmove) with
  | created hex title severity affectedServices symptoms autoRemediate clock executionRunner heq =>
    intro inv hmem
    rw [heq] at hmem
    rcases List.mem_append.1 hmem with hold | hnew
    · exact h inv hold
    · obtain rfl := List.mem_singleton.1 hnew
      exact ⟨by simp [Investigation.init], by simp [Investigation.init]⟩
  | worked i k l inv inv' hi hst hobjects htable =>
    have hnamed : inv.Named := by
      obtain ⟨own, other, hown, -, ⟨-, rfl⟩ | ⟨-, -, rfl⟩⟩ := Service.investigated_cases hi
      · exact ⟨(h own (List.mem_of_getElem? hown)).published, (h own (List.mem_of_getElem? hown)).effects⟩
      · exact ⟨(h own (List.mem_of_getElem? hown)).published, (h own (List.mem_of_getElem? hown)).effects⟩
    have hnamed' := Investigation.named_step hnamed hst
    intro other hmem
    obtain ⟨j, hj⟩ := List.mem_iff_getElem?.1 hmem
    rw [hobjects, Service.getElem?_resume] at hj
    obtain ⟨own, hown, rfl⟩ := Option.map_eq_some_iff.1 hj
    split
    · exact ⟨hnamed'.published, hnamed'.effects⟩
    · exact ⟨(h own (List.mem_of_getElem? hown)).published, (h own (List.mem_of_getElem? hown)).effects⟩
  | stored i l inv inv' hi hst hobjects htable =>
    intro other hmem
    rw [hobjects] at hmem
    rcases List.mem_or_eq_of_mem_set hmem with hold | rfl
    · exact h other hold
    · exact Investigation.named_step (h inv (List.mem_of_getElem? hi)) hst
  | kept hobjects htable =>
    rw [hobjects]
    exact h

/-! ## The page cannot tell -/

/-- What a user does. -/
def Console.Label.user? {ι α : Type} : Console.Label ι α → Option UserEvent
  | .user e => some e
  | _ => none

def Console.board (s : Console (Service V W)) : Console Registry := ⟨s.server.registry, s.app⟩

/-- The part of the registry in a step of the service. -/
theorem board_step {browser : Browser} {s s' : Console (Service V W)}
    {l : Console.Label (Serving W) (Service.Label V W)}
    (h : ∀ inv ∈ s.server.objects, inv.Named) (hst : s.step (serviceServer policyEngine) browser l = some s') :
    s'.board = s.board ∧ l.user? = none ∨
      ∃ m, s.board.step registryServer browser m = some s'.board ∧ m.user? = l.user? := by
  cases Console.move_of_step hst with
  | server l server hserver =>
    rcases Service.registry_step hserver with hsame | ⟨a, hadd⟩
    · exact .inl ⟨by simp [Console.board, hsame], rfl⟩
    · exact .inr ⟨.server a, by simp [Console.step, registryServer, Console.board, hadd], rfl⟩
  | user e hcard =>
    refine .inr ⟨.user e, ?_, rfl⟩
    cases e with
    | openCard incidentId =>
      obtain ⟨inc, hmem, hid⟩ := hcard incidentId rfl
      have hany : (s.app.visible.any fun inc => inc.id == incidentId) = true :=
        List.any_eq_true.2 ⟨inc, hmem, beq_iff_eq.2 hid⟩
      simp [Console.step, Console.board, hany, AppController.handle]
    | _ => rfl
  | serve k p call hk hnone =>
    obtain ⟨q, hq⟩ : ∃ q, s.server.registry.respond q call.request =
        (call.request.receive (s.server.respond p call.request).1,
          (s.server.respond p call.request).2.registry) := Service.receive_respond _ _ _
    exact .inr ⟨.serve k q, by simp [Console.step, registryServer, serviceServer, Console.board, hk, hnone, hq], rfl⟩
  | lose k call hk => exact .inr ⟨.lose k, by simp [Console.step, Console.board, hk], rfl⟩
  | settle k fails call answer hk ha =>
    refine .inr ⟨.settle k fails, ?_, rfl⟩
    obtain ⟨request, continuation, answer'⟩ := call
    cases ha
    simp [Console.step, Console.board, hk]
  | opened source hs => exact .inr ⟨.opened, by simp [Console.step, Console.board, hs], rfl⟩
  | streamFailed source hs => exact .inr ⟨.streamFailed, by simp [Console.step, Console.board, hs], rfl⟩
  | timeout fails stream ht => exact .inr ⟨.timeout fails, by simp [Console.step, Console.board, ht], rfl⟩
  | frame i k r hr =>
    obtain ⟨inv, hi, hk⟩ := Option.bind_eq_some_iff.1 hr
    have hnamed := (h inv (List.mem_of_getElem? hi)).published r (List.mem_of_getElem? hk)
    exact .inl ⟨by rw [receive_named s.app hnamed], rfl⟩

theorem named_console {browser : Browser} {s s' : Console (Service V W)}
    {l : Console.Label (Serving W) (Service.Label V W)} (h : ∀ inv ∈ s.server.objects, inv.Named)
    (hst : s.step (serviceServer policyEngine) browser l = some s') :
    ∀ inv ∈ s'.server.objects, inv.Named := by
  cases Console.move_of_step hst with
  | server l server hserver => exact Service.named_step h hserver
  | serve k p call hk hnone =>
    rcases Service.move_of_respond policyEngine s.server p call.request with hsame | ⟨l, hstep⟩
    · show ∀ inv ∈ (s.server.respond p call.request).2.objects, inv.Named
      rw [hsame]
      exact h
    · exact Service.named_step h hstep
  | _ => exact h

/-- What holds of every page beside the registry holds of every page beside the service. -/
theorem page_invariant {browser : Browser} {I : Console Registry → Prop} (h0 : I ⟨{}, .load⟩)
    (hs : ∀ s l s', I s → Console.step registryServer browser s l = some s' → I s')
    {as : List (Console.Label (Serving W) (Service.Label V W))} {s : Console (Service V W)}
    (hrun : Machine.run (Console.step (serviceServer policyEngine) browser) ⟨{}, .load⟩ as = some s) :
    I s.board := by
  refine Machine.invariant_of_simulates (I := fun s : Console (Service V W) => ∀ inv ∈ s.server.objects, inv.Named)
    (f := Console.board) (s := ⟨{}, .load⟩) ?_ ?_ hs ?_ h0 hrun
  · exact fun _ _ _ => named_console
  · exact fun _ _ _ h hst => (board_step h hst).imp And.left fun ⟨m, hm, _⟩ => ⟨m, hm⟩
  · exact fun inv hmem => (List.not_mem_nil hmem).elim

end

/-- The page is never asked for anything of these. -/
def plainBrowser : Browser where
  parse _ := none
  stringify _ := ""
  throws _ := false

/-- The list is lost, so the page creates an incident; the list is lost once more, and the incident is opened. -/
def demonstration [Unicode] : List (Console.Label (Serving Unit) (Service.Label Unit Unit)) :=
  let p : Serving Unit :=
    { hex := "00000001", clock := Workflow.stillClock, executionRunner := Workflow.restartRunner }
  [.lose 0, .settle 0 false, .serve 0 p, .settle 0 false, .lose 0, .settle 0 false, .serve 0 p, .settle 0 false]

theorem demonstration_opens :
    letI := Py.asciiTable
    letI := Py.asciiText
    ∃ s : Console (Service Unit Unit), Machine.run
        (Console.step (serviceServer {}) plainBrowser) ⟨{}, .load⟩ demonstration = some s ∧
      s.app.currentIncident.isSome = true := by
  decide +kernel

/-- **A user cannot tell the service from a table of alerts that is told the durations of the reports and which
decisions are accepted.** Whatever else the agents find, decide or do, and in whatever order answers and events
arrive: what the page holds it could hold as well, after the same clicks, beside a server that only knows what
the incidents were created with. -/
theorem console_refines_board {V W : Type} [Unicode] [UnicodeText] {policyEngine : RiskPolicyEngine}
    {browser : Browser} {as : List (Console.Label (Serving W) (Service.Label V W))} {s : Console (Service V W)}
    (hrun : Machine.run (Console.step (serviceServer policyEngine) browser) ⟨{}, .load⟩ as = some s) :
    ∃ bs, Machine.run (Console.step registryServer browser) ⟨{}, .load⟩ bs = some ⟨s.server.registry, s.app⟩ ∧
      bs.filterMap Console.Label.user? = as.filterMap Console.Label.user? := by
  refine Machine.exists_run_of_simulates (I := fun s : Console (Service V W) => ∀ inv ∈ s.server.objects, inv.Named)
    (f := Console.board) ?_ ?_ ?_ hrun
  · exact fun _ _ _ => named_console
  · exact fun _ _ _ => board_step
  · exact fun inv hmem => (List.not_mem_nil hmem).elim

/-- The page with the incident that it has created itself. -/
theorem console_refines_board_demonstration :
    letI := Py.asciiTable
    letI := Py.asciiText
    ∃ s : Console (Service Unit Unit), Machine.run
        (Console.step (serviceServer {}) plainBrowser) ⟨{}, .load⟩ demonstration = some s ∧
      s.app.currentIncident.isSome = true ∧
      ∃ bs, Machine.run (Console.step registryServer plainBrowser) ⟨{}, .load⟩ bs = some ⟨s.server.registry, s.app⟩ ∧
        bs.filterMap Console.Label.user? = [] := by
  let _ := Py.asciiTable
  let _ := Py.asciiText
  obtain ⟨s, hrun, hopen⟩ := demonstration_opens
  exact ⟨s, hrun, hopen, console_refines_board hrun⟩

/-! ## What is never shown, and never sent -/

/-- Nothing of the progress of an incident has been read. -/
def IncidentView.Bare (inc : IncidentView) : Prop := inc.stage = none ∧ inc.isResolved = none ∧ inc.timeline = []

def Reading.Bare : Reading → Prop
  | .incidents l => ∀ inc ∈ l, inc.Bare
  | .incident inc => inc.Bare
  | .evidence l | .hypotheses l => l = []
  | .approvals l => l = []
  | .report r => r.markdownContent = none
  | .created _ | .decided => True

def ApiRequest.decides : ApiRequest → Bool
  | .submitApproval _ _ _ => true
  | _ => false

theorem bare_view (a : Alert) : a.view.Bare := ⟨rfl, rfl, rfl⟩

theorem IncidentView.Bare.not_resolved {inc : IncidentView} (h : inc.Bare) : inc.resolved = false := by
  simp [IncidentView.resolved, h.1, h.2.1, Json.isStr]

theorem Registry.bare_known {reg : Registry} {incidentId : String} (reading : Alert → Reading)
    (hb : ∀ a, (reading a).Bare) {r : Reading} (h : reg.known incidentId reading = .ok r) : r.Bare := by
  unfold Registry.known at h
  split at h
  · rename_i a hfind
    obtain rfl := Except.ok.inj h
    exact hb a
  · cases h

theorem Registry.bare_respond {reg : Registry} {q : Oracle} {r : ApiRequest} {reading : Reading}
    (h : (reg.respond q r).1 = .ok reading) : reading.Bare := by
  cases r with
  | getIncidents =>
    obtain rfl := Except.ok.inj h
    intro inc hmem
    obtain ⟨a, -, rfl⟩ := List.mem_map.1 hmem
    exact bare_view a
  | getIncident incidentId => exact bare_known (fun a => .incident a.view) bare_view h
  | createIncident title severity affectedServices symptoms =>
    obtain rfl := Except.ok.inj h
    trivial
  | getEvidence incidentId => exact bare_known (fun _ => .evidence []) (fun _ => rfl) h
  | getHypotheses incidentId => exact bare_known (fun _ => .hypotheses []) (fun _ => rfl) h
  | getApprovals incidentId => exact bare_known (fun _ => .approvals []) (fun _ => rfl) h
  | submitApproval incidentId approvalId payload =>
    simp only [respond] at h
    split at h
    · obtain rfl := Except.ok.inj h
      trivial
    · cases h
  | getReport incidentId => exact bare_known (fun a => .report (reportView q.mttrSeconds a)) (fun _ => rfl) h
  | generateReport incidentId => exact bare_known (fun a => .report (reportView q.mttrSeconds a)) (fun _ => rfl) h

/-- The page knows nothing of the progress of any incident, and has decided nothing. -/
structure AppController.Blind (app : AppController) : Prop where
  current : ∀ inc, app.currentIncident = some inc → inc.Bare
  incidents : ∀ inc ∈ app.incidents, inc.Bare
  count : app.activeIncidentsCount = app.incidents.length
  pending : app.pendingApprovals = []
  stepper : app.currentIncident = none ∨ app.pipelineStepper = List.replicate 7 .idle
  messages : app.messages = []
  evidence : app.evidence = []
  hypotheses : app.hypotheses = []
  modal : app.approvalModal.currentApproval = none
  report : ∀ r, app.currentReport = some r → r.markdownContent = none
  exported : app.exported = []
  calls : ∀ call ∈ app.calls, ∀ reading, call.answer = some (.ok reading) → reading.Bare
  sent : ∀ r ∈ app.sent, r.decides = false

namespace AppController

variable {app : AppController}

theorem blind_load : load.Blind where
  current := by simp [load, send]
  incidents := by simp [load, send]
  count := rfl
  pending := rfl
  stepper := .inl rfl
  messages := rfl
  evidence := rfl
  hypotheses := rfl
  modal := rfl
  report := by simp [load, send]
  exported := rfl
  calls := by simp [load, send]
  sent := by simp [load, send, ApiRequest.decides]

theorem Blind.send (h : app.Blind) {request : ApiRequest} (hr : request.decides = false) (k : Continuation) :
    (app.send request k).Blind := by
  refine { h with calls := fun call hmem reading ha => ?_, sent := fun r hmem => ?_ }
  · rcases List.mem_append.1 hmem with hold | hnew
    · exact h.calls call hold reading ha
    · obtain rfl := List.mem_singleton.1 hnew
      cases ha
  · rcases List.mem_append.1 hmem with hold | hnew
    · exact h.sent r hold
    · obtain rfl := List.mem_singleton.1 hnew
      exact hr

theorem Blind.sendCurrent (h : app.Blind) (request : String → ApiRequest) (hr : ∀ id, (request id).decides = false)
    (k : Continuation) : (app.sendCurrent request k).Blind := by
  unfold AppController.sendCurrent
  split
  · exact h.send (hr _) k
  · exact h

theorem Blind.simulateScenario (h : app.Blind) (scenarioId : String) : (app.simulateScenario scenarioId).Blind := by
  unfold AppController.simulateScenario
  split
  · exact h.send rfl _
  · exact h

theorem Blind.reloadCurrentIncident (h : app.Blind) : app.reloadCurrentIncident.Blind := by
  unfold AppController.reloadCurrentIncident
  split
  · exact h.send rfl _
  · exact h

theorem Blind.showIncidents (h : app.Blind) {l : List IncidentView} (hl : ∀ inc ∈ l, inc.Bare) :
    (app.showIncidents l).Blind := by
  refine { h with incidents := hl, count := ?_ }
  have hall : l.filter (fun inc => !inc.resolved) = l :=
    List.filter_eq_self.2 fun inc hmem => by simp [(hl inc hmem).not_resolved]
  exact congrArg List.length hall

theorem Blind.openIncident (h : app.Blind) (fails : Bool) (incidentId : String) {inc : IncidentView} (hb : inc.Bare) :
    (app.openIncident fails incidentId inc).Blind := by
  have hshown : Blind { app with
      currentIncident := some inc
      activeIncidentId := some incidentId
      criticalServices := topologyNodes.filter fun n => inc.affectedServices.contains n
      pipelineStepper := List.replicate 7 .idle
      messages := []
      stream := app.stream.subscribe fails inc.id } := by
    refine { h with current := ?_, stepper := .inr rfl, messages := rfl }
    rintro inc' hinc
    obtain rfl := Option.some.inj hinc
    exact hb
  unfold AppController.openIncident
  rw [hb.1, hb.2.2]
  have hevidence := hshown.sendCurrent .getEvidence (fun _ => rfl) .reloadEvidence
  have hhypotheses := hevidence.sendCurrent .getHypotheses (fun _ => rfl) .reloadHypotheses
  have happrovals := hhypotheses.sendCurrent .getApprovals (fun _ => rfl) .checkApprovals
  exact happrovals.sendCurrent .getReport (fun _ => rfl) .loadReport

theorem Blind.takeIncidents (h : app.Blind) {answer : Except Unit Reading}
    (ha : ∀ reading, answer = .ok reading → reading.Bare) : (app.takeIncidents answer).Blind := by
  unfold AppController.takeIncidents
  split
  · exact h.showIncidents (ha _ rfl)
  · exact h

theorem Blind.afterLoad (h : app.Blind) (next : AfterLoad) : (app.afterLoad next).Blind := by
  cases next with
  | done => exact h
  | select incidentId => exact h.send rfl _
  | init =>
    simp only [AppController.afterLoad]
    split
    · exact h.send rfl _
    · exact h.simulateScenario _

theorem Blind.settle (h : app.Blind) (fails : Bool) (k : Continuation) {answer : Except Unit Reading}
    (ha : ∀ reading, answer = .ok reading → reading.Bare) : (app.settle fails k answer).Blind := by
  unfold AppController.settle
  split
  · exact (h.takeIncidents ha).afterLoad _
  · exact h.openIncident fails _ (ha _ rfl)
  · exact { h with evidence := ha _ rfl }
  · exact { h with hypotheses := ha _ rfl }
  · rename_i l
    obtain rfl : l = [] := ha _ rfl
    exact { h with pending := rfl }
  · refine { h with report := ?_ }
    rintro r hr
    obtain rfl := Option.some.inj hr
    exact ha _ rfl
  · exact { h with report := by simp }
  · refine { h with report := ?_ }
    rintro r hr
    obtain rfl := Option.some.inj hr
    exact ha _ rfl
  · exact { (h.sendCurrent .getApprovals (fun _ => rfl) .checkApprovals).reloadCurrentIncident with modal := rfl }
  · exact { h with modal := rfl }
  · exact h.send rfl _
  · exact h

theorem Blind.handle (h : app.Blind) (browser : Browser) (e : UserEvent) : (app.handle browser e).Blind := by
  cases e with
  | setFilter filter => exact { h with }
  | openCard incidentId => exact h.send rfl _
  | refreshTopology =>
    simp only [AppController.handle]
    split
    · exact { h with }
    · exact h
  | reviewApproval =>
    simp only [AppController.handle, h.pending]
    exact h
  | closeModal => exact { h with modal := rfl }
  | decide approved editor reason =>
    simp only [AppController.handle, AppController.decide, h.modal]
    exact h
  | clearStream => exact { h with messages := rfl }
  | exportMarkdown =>
    have hnone : app.currentReport.bind ReportView.markdownContent = none := by
      cases hr : app.currentReport with
      | none => rfl
      | some r => exact h.report r hr
    simp only [AppController.handle, hnone]
    exact h
  | generateReport => exact h.sendCurrent .generateReport (fun _ => rfl) _
  | simulate scenarioId => exact h.simulateScenario scenarioId
  | submitForm title severity service symptoms => exact h.send rfl _

end AppController

/-- Beside the registry the page stays as it is. -/
theorem blind_step {browser : Browser} {s s' : Console Registry} {l : Console.Label Oracle Alert} (h : s.app.Blind)
    (hst : s.step registryServer browser l = some s') : s'.app.Blind := by
  have hanswered : ∀ (k : Nat) (call : PendingCall) (answer : Except Unit Reading), call ∈ s.app.calls →
      (∀ reading, answer = .ok reading → reading.Bare) → (Console.answered s.app k call answer).Blind := by
    intro k call answer hcall hbare
    refine { h with calls := fun other hmem reading ha => ?_ }
    rcases List.mem_or_eq_of_mem_set hmem with hold | rfl
    · exact h.calls other hold reading ha
    · exact hbare reading (Option.some.inj ha)
  cases Console.move_of_step hst with
  | server l server hserver => exact h
  | user e hcard => exact h.handle browser e
  | serve k p call hk hnone =>
    exact hanswered k call _ (List.mem_of_getElem? hk) fun reading hr => Registry.bare_respond hr
  | lose k call hk => exact hanswered k call _ (List.mem_of_getElem? hk) (by simp)
  | settle k fails call answer hk ha =>
    have hrest : AppController.Blind { s.app with calls := s.app.calls.eraseIdx k } :=
      { h with calls := fun other hmem => h.calls other (List.mem_of_mem_eraseIdx hmem) }
    refine hrest.settle fails _ fun reading hr => h.calls call (List.mem_of_getElem? hk) reading ?_
    rw [ha, hr]
  | opened source hs => exact { h with }
  | streamFailed source hs => exact { h with }
  | timeout fails stream ht => exact { h with }
  | frame i k r hr => cases hr

/-- **Nobody can approve anything on the dashboard, or see that anything happens.** No run of the page beside the
service ever posts a decision, lists an approval, a piece of evidence, a hypothesis or a message of an agent, or
exports a report; every incident is counted as active, none is found under the filters for resolved ones or for
those that wait, and once an incident is opened no node of the pipeline is lit. -/
theorem console_never_decides {V W : Type} [Unicode] [UnicodeText] {policyEngine : RiskPolicyEngine}
    {browser : Browser} {as : List (Console.Label (Serving W) (Service.Label V W))} {s : Console (Service V W)}
    (hrun : Machine.run (Console.step (serviceServer policyEngine) browser) ⟨{}, .load⟩ as = some s) :
    (∀ incidentId approvalId payload, .submitApproval incidentId approvalId payload ∉ s.app.sent) ∧
      s.app.pendingApprovals = [] ∧ s.app.evidence = [] ∧ s.app.hypotheses = [] ∧ s.app.messages = [] ∧
      s.app.exported = [] ∧ s.app.activeIncidentsCount = s.app.incidents.length ∧
      (s.app.activeFilter = .resolved ∨ s.app.activeFilter = .awaiting → s.app.visible = []) ∧
      (s.app.currentIncident ≠ none → s.app.pipelineStepper = List.replicate 7 .idle) := by
  have h : s.app.Blind := page_invariant (I := fun s => s.app.Blind) AppController.blind_load
    (fun _ _ _ => blind_step) hrun
  refine ⟨fun incidentId approvalId payload hmem => ?_, h.pending, h.evidence, h.hypotheses, h.messages, h.exported,
    h.count, fun hfilter => ?_, h.stepper.resolve_left⟩
  · have hno := h.sent _ hmem
    cases hno
  · rw [AppController.visible, List.filter_eq_nil_iff]
    intro inc hmem
    have hbare := h.incidents inc hmem
    rcases hfilter with hf | hf
    · simp [hf, hbare.not_resolved]
    · simp [hf, hbare.1, Json.isStr]

/-- The pipeline of the incident that the page has created itself. -/
theorem console_never_decides_demonstration :
    letI := Py.asciiTable
    letI := Py.asciiText
    ∃ s : Console (Service Unit Unit), Machine.run
        (Console.step (serviceServer {}) plainBrowser) ⟨{}, .load⟩ demonstration = some s ∧
      s.app.currentIncident.isSome = true ∧ s.app.pendingApprovals = [] ∧
      s.app.pipelineStepper = List.replicate 7 .idle := by
  let _ := Py.asciiTable
  let _ := Py.asciiText
  obtain ⟨s, hrun, hopen⟩ := demonstration_opens
  obtain ⟨-, hpending, -, -, -, -, -, -, hidle⟩ := console_never_decides hrun
  exact ⟨s, hrun, hopen, hpending, hidle (Option.isSome_iff_ne_none.1 hopen)⟩

end OpsPilot
