import OpsPilot.Api.Routes
import OpsPilot.Web.StreamConsumer
/-!
# The dashboard (`apps/web/js/app.js` and its components)

`AppController` holds what the page holds, the stream client included, and the calls of `ApiClient` whose
promise is not settled. A handler runs to its next `await` without interruption; what follows that `await`
is a `Continuation`, run by `settle` once the answer is there. So answers may come back in any order, and
the user may do anything in between. `ApiRequest.read` is what the code behind the `await` makes of a body: it
reads fields by name, and a field that is missing is `undefined`.

| here | there |
| --- | --- |
| `IncidentView`, `ApprovalView`, `ReportView` | the fields of a body that any function of the page reads |
| `AppController.showIncidents`   | `_loadIncidents` (app.js:332), behind the `await` |
| `AppController.openIncident`    | `selectIncident` (app.js:346), behind the `await` |
| `AppController.showApprovals`   | `_checkApprovals` (app.js:425), behind the `await` |
| `AppController.decide`          | `_handleDecision` (approvalModal.js:92) |
| `AppController.onStreamEvent`   | the callbacks of `_bindEvents` (app.js:172) |
| `Console.step`                  | the page beside a server |

Left out: the health check, tabs, toasts, the search box, what is rendered from the fields, and what a body
of another shape than these does; it counts as an answer that failed.
-/
namespace Json

/-- `v || d` -/
def orElse (v : Option Json) (d : Json) : Json :=
  match v with
  | some v => if v.jsTruthy then v else d
  | none => d

/-- `v === s` -/
def isStr (v : Option Json) (s : String) : Bool :=
  match v with
  | some (.str t) => t == s
  | _ => false

def strField (name : String) (v : Json) : Option String :=
  match v.field name with
  | some (.str s) => some s
  | _ => none

/-- The list that `v.name || []` is. -/
def listField (name : String) (v : Json) : Option (List Json) :=
  match v, v.field name with
  | .null, _ => none
  | _, some (.arr l) => some l
  | _, some w => if w.jsTruthy then none else some []
  | _, none => some []

def asStr? : Json → Option String
  | .str s => some s
  | _ => none

end Json

namespace OpsPilot

/-! ## What is read of a body -/

structure IncidentView where
  id : String
  title : String
  severity : String
  affectedServices : List String
  createdAt : Option Json
  stage : Option Json
  isResolved : Option Json
  timeline : List Json

def IncidentView.ofJson (inc : Json) : Option IncidentView := do
  let id ← inc.strField "id"
  let title ← inc.strField "title"
  let severity ← inc.strField "severity"
  let services ← inc.listField "affected_services"
  let affectedServices ← services.mapM Json.asStr?
  let timeline ← inc.listField "timeline"
  some { id, title, severity, affectedServices, createdAt := inc.field "created_at", stage := inc.field "stage",
         isResolved := inc.field "is_resolved", timeline }

/-- The incident is taken for resolved. -/
def IncidentView.resolved (inc : IncidentView) : Bool :=
  inc.isResolved.any Json.jsTruthy || Json.isStr inc.stage "RESOLVED"

structure ApprovalView where
  id : String
  status : String
  parameters : Json
  blastRadius : List Json

def ApprovalView.ofJson (a : Json) : Option ApprovalView := do
  let id ← a.strField "id"
  let status ← a.strField "status"
  let blastRadius :=
    match a.field "blast_radius" with
    | some (.arr l) => l
    | _ => (a.field "target_service").toList
  some { id, status, parameters := Json.orElse (a.field "parameters") (.obj []), blastRadius }

structure ReportView where
  incidentId : Option Json
  mttdSeconds : Option Json
  mttrSeconds : Option Json
  isResolved : Option Json
  markdownContent : Option Json

def ReportView.ofJson (r : Json) : ReportView where
  incidentId := r.field "incident_id"
  mttdSeconds := r.field "mttd_seconds"
  mttrSeconds := r.field "mttr_seconds"
  isResolved := r.field "is_resolved"
  markdownContent := r.field "markdown_content"

inductive Reading where
  | incidents (l : List IncidentView)
  | incident (inc : IncidentView)
  | created (incidentId : String)
  | evidence (l : List Json)
  | hypotheses (l : List Json)
  | approvals (l : List ApprovalView)
  | decided
  | report (r : ReportView)

def ApiRequest.read (body : Json) : ApiRequest → Option Reading
  | .getIncidents =>
    match body with
    | .arr l => (l.mapM IncidentView.ofJson).map .incidents
    | res => do
      let items ← res.listField "items"
      (items.mapM IncidentView.ofJson).map .incidents
  | .getIncident _ => (IncidentView.ofJson body).map .incident
  | .createIncident _ _ _ _ => (body.strField "id").map .created
  | .getEvidence _ => (body.listField "evidence").map .evidence
  | .getHypotheses _ => (body.listField "hypotheses").map .hypotheses
  | .getApprovals _ => do
    let l ← body.listField "approvals"
    let views ← l.mapM ApprovalView.ofJson
    some (.approvals (views.filter fun a => a.status == "PENDING"))
  | .submitApproval _ _ _ => some .decided
  | .getReport _ | .generateReport _ => some (.report (ReportView.ofJson body))

/-- The answer as the page takes it. -/
def ApiRequest.receive (r : ApiRequest) : Except Unit Json → Except Unit Reading
  | .ok body =>
    match r.read body with
    | some reading => .ok reading
    | none => .error ()
  | .error () => .error ()

/-! ## The page -/

/-- What goes on once `_loadIncidents` is done. -/
inductive AfterLoad where
  | done
  | init
  | select (incidentId : String)

inductive Continuation where
  | loadIncidents (next : AfterLoad)
  | selectIncident (incidentId : String)
  | reloadEvidence
  | reloadHypotheses
  | checkApprovals
  | loadReport
  | generatePostmortem
  | decision
  | created

/-- A call whose promise is not settled. -/
structure PendingCall where
  request : ApiRequest
  continuation : Continuation
  answer : Option (Except Unit Reading) := none

structure Message where
  actor : Json
  stage : Json
  message : Json
  metadata : Json

inductive StepNode where
  | idle | active | completed
deriving DecidableEq

inductive FeedFilter where
  | all | sev1 | active | awaiting | resolved
deriving DecidableEq

structure ApprovalModal where
  currentIncidentId : Option String := none
  currentApproval : Option ApprovalView := none

/-- app.js:389; the nodes of the page are these as well (index.html:127). -/
def stageOrder : List String :=
  ["CREATED", "INVESTIGATING", "HYPOTHESIZING", "AWAITING_APPROVAL", "REMEDIATING", "VERIFYING", "RESOLVED"]

structure AppController where
  currentIncident : Option IncidentView := none
  incidents : List IncidentView := []
  pendingApprovals : List ApprovalView := []
  activeIncidentsCount : Nat := 0
  pipelineStepper : List StepNode := .active :: List.replicate 6 .idle
  criticalServices : List String := []
  blastRadius : List Json := []
  activeIncidentId : Option String := none
  activeFilter : FeedFilter := .all
  messages : List Message := []
  evidence : List Json := []
  hypotheses : List Json := []
  approvalModal : ApprovalModal := {}
  currentReport : Option ReportView := none
  /-- A log of what was exported. -/
  exported : List Json := []
  stream : StreamConsumer String := dashboard
  calls : List PendingCall := []
  /-- A log of the requests that were made. -/
  sent : List ApiRequest := []

/-- What the browser is asked for: `JSON.parse`, `JSON.stringify`, and which callbacks end in an exception. -/
structure Browser where
  parse : String → Option Json
  stringify : Json → String
  throws : Call String → Bool

structure SimulatedScenario where
  id : String
  title : String
  service : String
  sev : Severity
  desc : String

/-- app.js:16 -/
def simulatedScenarios : List SimulatedScenario :=
  [⟨"redis_pool_exhaustion", "Redis Connection Pool Exhaustion", "payment-service", .sev1,
      "Pool exhaustion causing HTTP 500 spike and checkout payment failures."⟩,
    ⟨"deadlock_under_load", "Database Transaction Deadlock", "order-service", .sev1,
      "Concurrent row locking leading to thread stalls and timeout cascades."⟩,
    ⟨"auth_token_leak", "JWT Secret Invalidation / Auth Token Leak", "auth-service", .sev1,
      "Compromised token signature resulting in 401 unauthorized rejection loops."⟩,
    ⟨"circuit_breaker_cascade", "Circuit Breaker Cascade Trip", "api-gateway", .sev1,
      "Cascading timeout tripping upstream circuit breakers across all gateways."⟩,
    ⟨"memory_leak_oom", "Garbage Collection OOM Crash Loop", "order-service", .sev2,
      "Linear memory growth leading to SIGKILL OOMKilled pod restarts."⟩,
    ⟨"dns_resolution_failure", "CoreDNS Upstream Resolution Failure", "inventory-service", .sev2,
      "Intermittent NXDOMAIN failures contacting warehouse database clusters."⟩,
    ⟨"stale_cache_invalidation", "Stale Cache Stampede", "order-service", .sev2,
      "Missing cache lock causing thundering herd database overload."⟩,
    ⟨"slow_database_query", "Missing Index Table Scan Slowdown", "payment-service", .sev3,
      "Unindexed sequential table scans triggering high p99 latency alerts."⟩,
    ⟨"ssl_certificate_expiry", "TLS/SSL Handshake Certificate Expiry", "api-gateway", .sev1,
      "Expired edge TLS certificate halting all customer incoming traffic."⟩,
    ⟨"cpu_throttling_spike", "K8s CFS Quota CPU Throttling", "auth-service", .sev3,
      "Aggressive CPU limit throttling during bursty authentication traffic."⟩]

/-- topology.js:8 -/
def topologyNodes : List String :=
  ["api-gateway", "auth-service", "order-service", "payment-service", "inventory-service"]

inductive UserEvent where
  | setFilter (filter : FeedFilter)
  | openCard (incidentId : String)
  | refreshTopology
  | reviewApproval
  | closeModal
  /-- Approve or reject, with the text of the parameter editor and the reason. -/
  | decide (approved : Bool) (editor reason : String)
  | clearStream
  | exportMarkdown
  | generateReport
  | simulate (scenarioId : String)
  | submitForm (title : String) (severity : Severity) (service symptoms : String)

namespace AppController

/-- incidentList.js:51 -/
def visible (app : AppController) : List IncidentView :=
  app.incidents.filter fun inc =>
    match app.activeFilter with
    | .all => true
    | .sev1 => inc.severity == "SEV1"
    | .active => !inc.resolved
    | .awaiting => Json.isStr inc.stage "AWAITING_APPROVAL"
    | .resolved => inc.resolved

def send (app : AppController) (request : ApiRequest) (continuation : Continuation) : AppController :=
  { app with calls := app.calls ++ [{ request, continuation }], sent := app.sent ++ [request] }

/-- The call of a function that starts with `if (!this.currentIncident) return;`. -/
def sendCurrent (app : AppController) (request : String → ApiRequest) (continuation : Continuation) : AppController :=
  match app.currentIncident with
  | some inc => app.send (request inc.id) continuation
  | none => app

def selectIncident (app : AppController) (incidentId : String) : AppController :=
  app.send (.getIncident incidentId) (.selectIncident incidentId)

/-- app.js:480 -/
def reloadCurrentIncident (app : AppController) : AppController :=
  match app.currentIncident with
  | some inc => app.selectIncident inc.id
  | none => app

def reloadEvidence (app : AppController) : AppController := app.sendCurrent .getEvidence .reloadEvidence

def checkApprovals (app : AppController) : AppController := app.sendCurrent .getApprovals .checkApprovals

/-- app.js:511 -/
def simulateScenario (app : AppController) (scenarioId : String) : AppController :=
  match simulatedScenarios.find? (fun s => s.id == scenarioId) <|> simulatedScenarios.head? with
  | some sc => app.send (.createIncident sc.title sc.sev [sc.service] sc.desc) .created
  | none => app

/-- app.js:388 -/
def updateStepper (app : AppController) (stage : Option Json) : AppController :=
  let currentIdx : Int := match stage with
    | some (.str s) => match stageOrder.idxOf? s with
      | some i => i
      | none => -1
    | _ => -1
  { app with
    pipelineStepper := (List.range stageOrder.length).map fun nodeIdx =>
      if (nodeIdx : Int) < currentIdx then .completed else if (nodeIdx : Int) = currentIdx then .active else .idle }

/-- topology.js:96 -/
def updateIncidentServices (app : AppController) (affectedServices : List String) : AppController :=
  { app with criticalServices := topologyNodes.filter fun n => affectedServices.contains n }

/-- agentStream.js:59 -/
def setTimeline (app : AppController) (timeline : List Json) : AppController :=
  { app with
    messages := timeline.map fun ev =>
      { actor := Json.orElse (ev.field "actor") (.str "Agent"),
        stage := Json.orElse (ev.field "stage") (.str "PROGRESS"),
        message := Json.orElse (ev.field "message") (.str ""),
        metadata := Json.orElse (ev.field "metadata") (.obj []) } }

/-! ## Behind an `await` -/

def showIncidents (app : AppController) (l : List IncidentView) : AppController :=
  { app with incidents := l, activeIncidentsCount := (l.filter fun inc => !inc.resolved).length }

/-- `fails`: the constructor of `EventSource` throws. -/
def openIncident (fails : Bool) (app : AppController) (incidentId : String) (inc : IncidentView) : AppController :=
  let app := { app with currentIncident := some inc, activeIncidentId := some incidentId }
  let app := ((app.updateIncidentServices inc.affectedServices).updateStepper inc.stage).setTimeline inc.timeline
  let app := { app with stream := app.stream.subscribe fails inc.id }
  let app := app.reloadEvidence.sendCurrent .getHypotheses .reloadHypotheses
  app.checkApprovals.sendCurrent .getReport .loadReport

def showApprovals (app : AppController) (l : List ApprovalView) : AppController :=
  { app with
    pendingApprovals := l
    blastRadius := match l with
      | top :: _ => top.blastRadius
      | [] => [] }

/-- approvalModal.js:85 -/
def hide (app : AppController) : AppController :=
  { app with approvalModal := { app.approvalModal with currentApproval := none } }

/-- `_loadIncidents` (app.js:332) -/
def takeIncidents (app : AppController) : Except Unit Reading → AppController
  | .ok (.incidents l) => app.showIncidents l
  | _ => app

/-- What follows `await this._loadIncidents()` (app.js:312, 526, 551). -/
def afterLoad (app : AppController) : AfterLoad → AppController
  | .done => app
  | .init =>
    match app.incidents with
    | inc :: _ => app.selectIncident inc.id
    | [] => app.simulateScenario "redis_pool_exhaustion"
  | .select incidentId => app.selectIncident incidentId

/-- What stands behind the `await`; a `catch` only reports, where it does anything. -/
def settle (fails : Bool) (app : AppController) : Continuation → Except Unit Reading → AppController
  | .loadIncidents next, answer => (app.takeIncidents answer).afterLoad next
  | .selectIncident incidentId, .ok (.incident inc) => app.openIncident fails incidentId inc
  | .reloadEvidence, .ok (.evidence l) => { app with evidence := l }
  | .reloadHypotheses, .ok (.hypotheses l) => { app with hypotheses := l }
  | .checkApprovals, .ok (.approvals l) => app.showApprovals l
  | .loadReport, .ok (.report r) => { app with currentReport := some r }
  | .loadReport, _ => { app with currentReport := none }
  | .generatePostmortem, .ok (.report r) => { app with currentReport := some r }
  | .decision, .ok .decided => app.checkApprovals.reloadCurrentIncident.hide
  | .decision, _ => app.hide
  | .created, .ok (.created incidentId) => app.send .getIncidents (.loadIncidents (.select incidentId))
  | _, _ => app

/-! ## Events -/

/-- approvalModal.js:92; an editor that holds no JSON is refused. -/
def decide (browser : Browser) (app : AppController) (approved : Bool) (editor reason : String) : AppController :=
  match app.approvalModal.currentApproval, app.approvalModal.currentIncidentId with
  | some approval, some incidentId =>
    let post (decision : Decision) (modifiedParameters : Option Json) : AppController :=
      app.send (.submitApproval incidentId approval.id { decision, reason, modifiedParameters }) .decision
    if !approved then post .rejected none
    else if editor = "" then post .approved none
    else match browser.parse editor with
      | none => app
      | some parsed =>
        if browser.stringify parsed = browser.stringify approval.parameters then post .approved none
        else post .modified (some parsed)
  | _, _ => app

/-- A decision is posted, or nothing happens. -/
theorem decide_cases (browser : Browser) (app : AppController) (approved : Bool) (editor reason : String) :
    app.decide browser approved editor reason = app ∨ ∃ incidentId approvalId payload,
      app.decide browser approved editor reason =
        app.send (.submitApproval incidentId approvalId payload) .decision := by
  unfold decide
  split
  · rename_i approval incidentId _ _
    by_cases happroved : approved = true
    · by_cases heditor : editor = ""
      · exact .inr ⟨incidentId, approval.id, { decision := .approved, reason }, by simp [happroved, heditor]⟩
      · cases hparse : browser.parse editor with
        | none => exact .inl (by simp [happroved, heditor])
        | some parsed =>
          by_cases hsame : browser.stringify parsed = browser.stringify approval.parameters
          · exact .inr ⟨incidentId, approval.id, { decision := .approved, reason },
              by simp [happroved, heditor, hsame]⟩
          · exact .inr ⟨incidentId, approval.id, { decision := .modified, reason, modifiedParameters := some parsed },
              by simp [happroved, heditor, hsame]⟩
    · exact .inr ⟨incidentId, approval.id, { decision := .rejected, reason }, by simp [happroved]⟩
  · exact .inl rfl

def handle (browser : Browser) (app : AppController) : UserEvent → AppController
  | .setFilter filter => { app with activeFilter := filter }
  | .openCard incidentId => app.selectIncident incidentId
  | .refreshTopology =>
    match app.currentIncident with
    | some inc => app.updateIncidentServices inc.affectedServices
    | none => app
  | .reviewApproval =>
    match app.pendingApprovals, app.currentIncident with
    | top :: _, some inc =>
      { app with approvalModal := { currentIncidentId := some inc.id, currentApproval := some top } }
    | _, _ => app
  | .closeModal => app.hide
  | .decide approved editor reason => app.decide browser approved editor reason
  | .clearStream => { app with messages := [] }
  | .exportMarkdown =>
    match app.currentReport.bind ReportView.markdownContent with
    | some markdown => if markdown.jsTruthy then { app with exported := app.exported ++ [markdown] } else app
    | none => app
  | .generateReport => app.sendCurrent .generateReport .generatePostmortem
  | .simulate scenarioId => app.simulateScenario scenarioId
  | .submitForm title severity service symptoms =>
    app.send (.createIncident title severity [service] symptoms) .created

/-- A callback with its first argument, the payload. -/
def onStreamEvent (app : AppController) (eventType : String) (payload : Option Json) : AppController :=
  let read (name : String) : Option Json := payload.bind (Json.field name)
  if eventType = "agent_thought" then
    match payload with
    | some v =>
      let message := match read "thought" with
        | some thought => if thought.jsTruthy then some thought else read "message"
        | none => read "message"
      { app with messages := app.messages ++
          [{ actor := Json.orElse (read "actor") (.str "Agent"), stage := Json.orElse (read "stage") (.str "INFO"),
             message := Json.orElse message (.str ""), metadata := v }] }
    | none => app
  else if eventType = "stage_change" then
    match app.currentIncident, read "new_stage" with
    | some inc, some stage =>
      if stage.jsTruthy then
        { app with currentIncident := some { inc with stage := some stage } }.updateStepper (some stage)
      else app
    | _, _ => app
  else if eventType = "evidence_found" then app.reloadEvidence
  else if eventType = "approval_required" then app.checkApprovals
  else if eventType = "resolved" then app.reloadCurrentIncident.send .getIncidents (.loadIncidents .done)
  else app

/-- A frame of the stream arrives. -/
def receive (browser : Browser) (app : AppController) (frame : Frame) : AppController :=
  let (stream, calls) := app.stream.receive browser.parse browser.throws frame
  calls.foldl (fun app call => app.onStreamEvent call.callback (call.args.head?.getD none)) { app with stream }

/-- The page that is loaded has called `init()` (app.js:306). -/
def load : AppController := ({} : AppController).send .getIncidents (.loadIncidents .init)

end AppController

/-! ## The page beside a server -/

/-- A server as the page sees it. -/
structure Server (σ ι α : Type) where
  /-- What goes on there without a request of this page. -/
  step : σ → α → Option σ
  respond : σ → ι → ApiRequest → Except Unit Reading × σ
  /-- The records that a stream may deliver. -/
  record : σ → Nat → Nat → Option EventRecord

structure Console (σ : Type) where
  server : σ
  app : AppController

inductive Console.Label (ι α : Type) where
  | server (l : α)
  | user (e : UserEvent)
  /-- The server answers a request. -/
  | serve (k : Nat) (p : ι)
  /-- A request or its answer is lost. -/
  | lose (k : Nat)
  /-- The promise of a call is settled. -/
  | settle (k : Nat) (fails : Bool)
  | opened
  | streamFailed
  | timeout (fails : Bool)
  | frame (i k : Nat)

namespace Console

variable {σ ι α : Type}

/-- A call gets an answer. -/
def answered (app : AppController) (k : Nat) (call : PendingCall) (answer : Except Unit Reading) : AppController :=
  { app with calls := app.calls.set k { call with answer := some answer } }

def step (S : Server σ ι α) (browser : Browser) (s : Console σ) : Label ι α → Option (Console σ)
  | .server l => (S.step s.server l).map fun server => { s with server }
  | .user (.openCard incidentId) =>
    if s.app.visible.any fun inc => inc.id == incidentId then some { s with app := s.app.selectIncident incidentId }
    else none
  | .user e => some { s with app := s.app.handle browser e }
  | .serve k p =>
    match s.app.calls[k]? with
    | some call =>
      if call.answer.isNone then
        let (answer, server) := S.respond s.server p call.request
        some { server, app := answered s.app k call answer }
      else none
    | none => none
  | .lose k => s.app.calls[k]?.map fun call => { s with app := answered s.app k call (.error ()) }
  | .settle k fails =>
    match s.app.calls[k]? with
    | some { continuation, answer := some answer, .. } =>
      some { s with app := { s.app with calls := s.app.calls.eraseIdx k }.settle fails continuation answer }
    | _ => none
  | .opened => s.app.stream.eventSource.map fun _ => { s with app := { s.app with stream := s.app.stream.onopen } }
  | .streamFailed =>
    s.app.stream.eventSource.map fun _ => { s with app := { s.app with stream := s.app.stream.onerror } }
  | .timeout fails => (s.app.stream.onTimeout fails).map fun stream => { s with app := { s.app with stream } }
  | .frame i k => (S.record s.server i k).map fun r => { s with app := s.app.receive browser r.frame }

/-- What a step can do: to the page, given what the server answers and delivers, or to the server alone. -/
inductive Move (S : Server σ ι α) (browser : Browser) : Console σ → Label ι α → Console σ → Prop
  | server {s} (l : α) (server : σ) (hst : S.step s.server l = some server) :
      Move S browser s (.server l) { s with server }
  | user {s} (e : UserEvent) (hcard : ∀ id, e = .openCard id → ∃ inc ∈ s.app.visible, inc.id = id) :
      Move S browser s (.user e) { s with app := s.app.handle browser e }
  | serve {s} (k : Nat) (p : ι) (call : PendingCall) (hk : s.app.calls[k]? = some call) (hnone : call.answer = none) :
      Move S browser s (.serve k p)
        { server := (S.respond s.server p call.request).2,
          app := answered s.app k call (S.respond s.server p call.request).1 }
  | lose {s} (k : Nat) (call : PendingCall) (hk : s.app.calls[k]? = some call) :
      Move S browser s (.lose k) { s with app := answered s.app k call (.error ()) }
  | settle {s} (k : Nat) (fails : Bool) (call : PendingCall) (answer : Except Unit Reading)
      (hk : s.app.calls[k]? = some call) (ha : call.answer = some answer) :
      Move S browser s (.settle k fails)
        { s with app := { s.app with calls := s.app.calls.eraseIdx k }.settle fails call.continuation answer }
  | opened {s} (source : EventSource) (hs : s.app.stream.eventSource = some source) :
      Move S browser s .opened { s with app := { s.app with stream := s.app.stream.onopen } }
  | streamFailed {s} (source : EventSource) (hs : s.app.stream.eventSource = some source) :
      Move S browser s .streamFailed { s with app := { s.app with stream := s.app.stream.onerror } }
  | timeout {s} (fails : Bool) (stream : StreamConsumer String) (ht : s.app.stream.onTimeout fails = some stream) :
      Move S browser s (.timeout fails) { s with app := { s.app with stream } }
  | frame {s} (i k : Nat) (r : EventRecord) (hr : S.record s.server i k = some r) :
      Move S browser s (.frame i k) { s with app := s.app.receive browser r.frame }

variable {S : Server σ ι α} {browser : Browser} {s s' : Console σ} {l : Label ι α}

theorem move_of_step (h : s.step S browser l = some s') : Move S browser s l s' := by
  cases l with
  | server l =>
    obtain ⟨server, hst, rfl⟩ := Option.map_eq_some_iff.1 h
    exact .server l server hst
  | user e =>
    cases e with
    | openCard incidentId =>
      simp only [step] at h
      split at h
      · rename_i hcard
        cases h
        refine .user (.openCard incidentId) ?_
        rintro id heq
        cases heq
        obtain ⟨inc, hmem, hid⟩ := List.any_eq_true.1 hcard
        exact ⟨inc, hmem, beq_iff_eq.1 hid⟩
      · cases h
    | _ =>
      cases h
      exact .user _ (by simp)
  | serve k p =>
    simp only [step] at h
    split at h
    · rename_i call hk
      split at h
      · rename_i hnone
        cases h
        exact .serve k p call hk (Option.isNone_iff_eq_none.1 hnone)
      · cases h
    · cases h
  | lose k =>
    obtain ⟨call, hk, rfl⟩ := Option.map_eq_some_iff.1 h
    exact .lose k call hk
  | settle k fails =>
    simp only [step] at h
    split at h
    · rename_i request continuation answer hk
      cases h
      exact .settle k fails _ answer hk rfl
    · cases h
  | opened =>
    obtain ⟨source, hs, rfl⟩ := Option.map_eq_some_iff.1 h
    exact .opened source hs
  | streamFailed =>
    obtain ⟨source, hs, rfl⟩ := Option.map_eq_some_iff.1 h
    exact .streamFailed source hs
  | timeout fails =>
    obtain ⟨stream, ht, rfl⟩ := Option.map_eq_some_iff.1 h
    exact .timeout fails stream ht
  | frame i k =>
    obtain ⟨r, hr, rfl⟩ := Option.map_eq_some_iff.1 h
    exact .frame i k r hr

end Console

end OpsPilot
