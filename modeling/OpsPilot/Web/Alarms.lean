import Mathlib.Data.List.Perm.Basic
import OpsPilot.Web.AlertBoard
/-!
# Incidents that the page raises on its own (`init`, app.js:306)

A page that finds no incidents once it has tried to load them runs a scenario as a demonstration, and a request
that fails counts as a list that is empty. `page_raises` counts the incidents that a page asks for: one for
every click on a scenario or a form, and one more exactly when nothing was there behind the first `await`.
-/
namespace OpsPilot

def ApiRequest.creates : ApiRequest → Bool
  | .createIncident _ _ _ _ => true
  | _ => false

def UserEvent.creates : UserEvent → Bool
  | .simulate _ | .submitForm _ _ _ _ => true
  | _ => false

def Continuation.isInit : Continuation → Bool
  | .loadIncidents .init => true
  | _ => false

namespace AppController

/-- How many incidents have been asked for. -/
def raised (app : AppController) : Nat := app.sent.countP ApiRequest.creates

/-- How many calls go on with `init()`. -/
def inits (app : AppController) : Nat := app.calls.countP fun call => call.continuation.isInit

/-- From here to there the page has asked for `n` incidents, and has started no `init()`. -/
def Asks (n : Nat) (app app' : AppController) : Prop := app'.raised = app.raised + n ∧ app'.inits = app.inits

variable {app app' : AppController} {n : Nat}

theorem Asks.send (h : Asks n app app') (request : ApiRequest) (k : Continuation) (hr : request.creates = false)
    (hk : k.isInit = false) : Asks n app (app'.send request k) := by
  constructor
  · rw [← h.1]
    simp [raised, AppController.send, List.countP_append, hr]
  · rw [← h.2]
    simp [inits, AppController.send, List.countP_append, hk]

theorem Asks.sendCurrent (h : Asks n app app') (request : String → ApiRequest) (k : Continuation)
    (hr : ∀ id, (request id).creates = false) (hk : k.isInit = false) : Asks n app (app'.sendCurrent request k) := by
  unfold AppController.sendCurrent
  split
  · exact h.send _ k (hr _) hk
  · exact h

theorem Asks.reloadCurrentIncident (h : Asks n app app') : Asks n app app'.reloadCurrentIncident := by
  unfold AppController.reloadCurrentIncident
  split
  · exact h.send _ _ rfl rfl
  · exact h

theorem Asks.create (h : Asks n app app') (title : String) (severity : Severity) (affectedServices : List String)
    (symptoms : String) :
    Asks (n + 1) app (app'.send (.createIncident title severity affectedServices symptoms) .created) := by
  constructor
  · rw [← Nat.add_assoc, ← h.1]
    simp [raised, AppController.send, List.countP_append, ApiRequest.creates]
  · rw [← h.2]
    simp [inits, AppController.send, List.countP_append, Continuation.isInit]

/-- A scenario that is not in the list is the first one. -/
theorem Asks.simulateScenario (h : Asks n app app') (scenarioId : String) :
    Asks (n + 1) app (app'.simulateScenario scenarioId) := by
  unfold AppController.simulateScenario
  split
  · exact h.create _ _ _ _
  · rename_i hnone
    simp [simulatedScenarios] at hnone

theorem Asks.openIncident (h : Asks n app app') (fails : Bool) (incidentId : String) (inc : IncidentView) :
    Asks n app (app'.openIncident fails incidentId inc) := by
  have hshown : ∀ shown : AppController, shown.sent = app'.sent → shown.calls = app'.calls → Asks n app shown := by
    intro shown hsent hcalls
    exact ⟨by rw [raised, hsent]; exact h.1, by rw [inits, hcalls]; exact h.2⟩
  unfold AppController.openIncident
  refine Asks.sendCurrent ?_ .getReport .loadReport (fun _ => rfl) rfl
  refine Asks.sendCurrent ?_ .getApprovals .checkApprovals (fun _ => rfl) rfl
  refine Asks.sendCurrent ?_ .getHypotheses .reloadHypotheses (fun _ => rfl) rfl
  refine Asks.sendCurrent ?_ .getEvidence .reloadEvidence (fun _ => rfl) rfl
  exact hshown _ rfl rfl

theorem Asks.takeIncidents (h : Asks n app app') (answer : Except Unit Reading) :
    Asks n app (app'.takeIncidents answer) := by
  unfold AppController.takeIncidents
  split
  · exact h
  · exact h

/-- Behind any other `await` nothing is asked for. -/
theorem asks_settle (app : AppController) (fails : Bool) {k : Continuation} (hk : k.isInit = false)
    (answer : Except Unit Reading) : Asks 0 app (app.settle fails k answer) := by
  have hsame : Asks 0 app app := ⟨rfl, rfl⟩
  unfold settle
  split
  · rename_i next
    cases next with
    | done => exact hsame.takeIncidents answer
    | select incidentId => exact (hsame.takeIncidents answer).send _ _ rfl rfl
    | init => cases hk
  · exact hsame.openIncident fails _ _
  · exact hsame
  · exact hsame
  · exact hsame
  · exact hsame
  · exact hsame
  · exact hsame
  · have hchecked := hsame.sendCurrent .getApprovals .checkApprovals (fun _ => rfl) rfl
    have hreloaded := hchecked.reloadCurrentIncident
    exact hreloaded
  · exact hsame
  · exact hsame.send _ _ rfl rfl
  · exact hsame

theorem asks_settle_init (app : AppController) (fails : Bool) (answer : Except Unit Reading) :
    Asks (if (app.takeIncidents answer).incidents.isEmpty then 1 else 0) app
      (app.settle fails (.loadIncidents .init) answer) := by
  have htaken : Asks 0 app (app.takeIncidents answer) := Asks.takeIncidents ⟨rfl, rfl⟩ answer
  simp only [settle, afterLoad]
  cases (app.takeIncidents answer).incidents with
  | nil => exact htaken.simulateScenario _
  | cons inc l => exact htaken.send _ _ rfl rfl

theorem asks_handle (app : AppController) (browser : Browser) (e : UserEvent) :
    Asks (if e.creates then 1 else 0) app (app.handle browser e) := by
  have hsame : Asks 0 app app := ⟨rfl, rfl⟩
  cases e with
  | openCard incidentId => exact hsame.send _ _ rfl rfl
  | refreshTopology =>
    show Asks 0 app _
    simp only [handle]
    split
    · exact hsame
    · exact hsame
  | reviewApproval =>
    show Asks 0 app _
    simp only [handle]
    split
    · exact hsame
    · exact hsame
  | decide approved editor reason =>
    show Asks 0 app (app.decide browser approved editor reason)
    obtain hnone | ⟨incidentId, approvalId, payload, hpost⟩ := decide_cases browser app approved editor reason
    · rw [hnone]
      exact hsame
    · rw [hpost]
      exact hsame.send _ _ rfl rfl
  | exportMarkdown =>
    show Asks 0 app _
    simp only [handle]
    split
    · split
      · exact hsame
      · exact hsame
    · exact hsame
  | generateReport => exact hsame.sendCurrent .generateReport _ (fun _ => rfl) rfl
  | simulate scenarioId => exact hsame.simulateScenario scenarioId
  | submitForm title severity service symptoms => exact hsame.create _ _ _ _
  | _ => exact hsame

theorem Asks.onStreamEvent (h : Asks n app app') (eventType : String) (payload : Option Json) :
    Asks n app (app'.onStreamEvent eventType payload) := by
  simp only [AppController.onStreamEvent]
  split
  · split
    · exact h
    · exact h
  · split
    · split
      · split
        · exact h
        · exact h
      · exact h
    · split
      · exact h.sendCurrent .getEvidence .reloadEvidence (fun _ => rfl) rfl
      · split
        · exact h.sendCurrent .getApprovals .checkApprovals (fun _ => rfl) rfl
        · split
          · exact h.reloadCurrentIncident.send _ _ rfl rfl
          · exact h

theorem asks_receive (app : AppController) (browser : Browser) (frame : Frame) :
    Asks 0 app (app.receive browser frame) := by
  have hcalls : ∀ (calls : List (Call String)) (app' : AppController), Asks 0 app app' →
      Asks 0 app (calls.foldl (fun app call => app.onStreamEvent call.callback (call.args.head?.getD none)) app') := by
    intro calls
    induction calls with
    | nil => exact fun app' h => h
    | cons call calls ih => exact fun app' h => ih _ (h.onStreamEvent _ _)
  exact hcalls _ _ ⟨rfl, rfl⟩

end AppController

namespace Console

variable {σ ι α : Type}

/-- `init()` has found nothing behind its `await`. -/
def alarm (s : Console σ) : Label ι α → List Unit
  | .settle k _ =>
    match s.app.calls[k]? with
    | some call =>
      match call.answer with
      | some answer =>
        if call.continuation.isInit && (s.app.takeIncidents answer).incidents.isEmpty then [()] else []
      | none => []
    | none => []
  | _ => []

/-- A click that creates an incident. -/
def Label.creates : Label ι α → Bool
  | .user e => e.creates
  | _ => false

variable {S : Server σ ι α} {browser : Browser} {s s' : Console σ} {l : Label ι α}

theorem inits_answered {app : AppController} {k : Nat} {call : PendingCall} (hk : app.calls[k]? = some call)
    (answer : Except Unit Reading) : (answered app k call answer).inits = app.inits := by
  obtain ⟨hlt, rfl⟩ := List.getElem?_eq_some_iff.1 hk
  have hperm := List.getElem_cons_eraseIdx_perm hlt
  have hset : (app.calls.set k { app.calls[k] with answer := some answer }).Perm
      ({ app.calls[k] with answer := some answer } :: app.calls.eraseIdx k) := by
    have hlt' : k < (app.calls.set k { app.calls[k] with answer := some answer }).length := by simpa using hlt
    have h := (List.getElem_cons_eraseIdx_perm hlt').symm
    rwa [List.getElem_set_self, List.eraseIdx_set_eq] at h
  simp only [AppController.inits, answered]
  rw [hset.countP_eq, ← hperm.countP_eq, List.countP_cons, List.countP_cons]

theorem inits_eraseIdx {app : AppController} {k : Nat} {call : PendingCall} (hk : app.calls[k]? = some call) :
    app.inits = AppController.inits { app with calls := app.calls.eraseIdx k } +
      if call.continuation.isInit then 1 else 0 := by
  obtain ⟨hlt, rfl⟩ := List.getElem?_eq_some_iff.1 hk
  have hperm := List.getElem_cons_eraseIdx_perm hlt
  rw [AppController.inits, ← hperm.countP_eq, List.countP_cons]
  rfl

theorem raised_step (hst : s.step S browser l = some s') :
    s'.app.raised = s.app.raised + (if l.creates then 1 else 0) + (s.alarm l).length ∧
      s'.app.inits + (s.alarm l).length ≤ s.app.inits := by
  have hasks : ∀ {app' : AppController}, s.alarm l = [] → s'.app = app' →
      AppController.Asks (if l.creates then 1 else 0) s.app app' →
      s'.app.raised = s.app.raised + (if l.creates then 1 else 0) + (s.alarm l).length ∧
        s'.app.inits + (s.alarm l).length ≤ s.app.inits := by
    rintro app' hnone rfl ⟨hraised, hinits⟩
    rw [hnone, hraised, hinits]
    exact ⟨rfl, Nat.le_refl _⟩
  cases move_of_step hst with
  | server l server hserver => exact hasks rfl rfl ⟨rfl, rfl⟩
  | user e hcard => exact hasks rfl rfl (AppController.asks_handle _ _ _)
  | serve k p call hk hnone => exact hasks rfl rfl ⟨rfl, inits_answered hk _⟩
  | lose k call hk => exact hasks rfl rfl ⟨rfl, inits_answered hk _⟩
  | settle k fails call answer hk ha =>
    have hinits := inits_eraseIdx hk
    have halarm : s.alarm (.settle k fails : Label ι α) =
        if call.continuation.isInit && (s.app.takeIncidents answer).incidents.isEmpty then [()] else [] := by
      simp only [alarm, hk, ha]
    cases hinit : call.continuation.isInit with
    | false =>
      rw [hinit] at hinits halarm
      refine hasks halarm rfl ?_
      obtain ⟨hraised, hsame⟩ :=
        AppController.asks_settle { s.app with calls := s.app.calls.eraseIdx k } fails hinit answer
      exact ⟨hraised, hsame.trans hinits.symm⟩
    | true =>
      have hk' : call.continuation = .loadIncidents .init := by
        unfold Continuation.isInit at hinit
        split at hinit
        · assumption
        · cases hinit
      have hfound : (AppController.takeIncidents { s.app with calls := s.app.calls.eraseIdx k } answer).incidents =
          (s.app.takeIncidents answer).incidents := by
        unfold AppController.takeIncidents
        split <;> rfl
      obtain ⟨hraised, hsame⟩ :=
        AppController.asks_settle_init { s.app with calls := s.app.calls.eraseIdx k } fails answer
      rw [hfound] at hraised
      rw [hinit] at hinits halarm
      rw [halarm, hk', hraised, hsame, hinits]
      cases hempty : (s.app.takeIncidents answer).incidents.isEmpty with
      | false => exact ⟨rfl, Nat.le_add_right _ _⟩
      | true => exact ⟨rfl, Nat.le_refl _⟩
  | opened source hs => exact hasks rfl rfl ⟨rfl, rfl⟩
  | streamFailed source hs => exact hasks rfl rfl ⟨rfl, rfl⟩
  | timeout fails stream ht => exact hasks rfl rfl ⟨rfl, rfl⟩
  | frame i k r hr => exact hasks rfl rfl (AppController.asks_receive _ _ _)

/-- **A page raises one incident of its own accord, or none.** Beside any server, and in any order of clicks,
answers and events: the incidents a page has asked for are those that its user asked for, and one more exactly
when `init()` found no incident behind its `await`, be it that there is none or that the request failed. -/
theorem page_raises {server : σ} {as : List (Label ι α)}
    (hrun : Machine.run (Console.step S browser) ⟨server, .load⟩ as = some s) :
    s.app.raised = as.countP Label.creates + (Machine.trace (Console.step S browser) alarm ⟨server, .load⟩ as).length ∧
      (Machine.trace (Console.step S browser) alarm ⟨server, .load⟩ as).length ≤ 1 := by
  have h : s.app.raised = as.countP Label.creates +
        (Machine.trace (Console.step S browser) alarm ⟨server, .load⟩ as).length ∧
      (Machine.trace (Console.step S browser) alarm ⟨server, .load⟩ as).length + s.app.inits ≤ 1 := by
    refine Machine.run_induction (P := fun as s => s.app.raised = as.countP Label.creates +
        (Machine.trace (Console.step S browser) alarm ⟨server, .load⟩ as).length ∧
      (Machine.trace (Console.step S browser) alarm ⟨server, .load⟩ as).length + s.app.inits ≤ 1) ?_ ?_ as s hrun
    · exact ⟨rfl, Nat.le_refl 1⟩
    · rintro as s l s' hr ⟨hraised, hinits⟩ hst
      obtain ⟨hraised', hinits'⟩ := raised_step hst
      rw [Machine.trace_concat hr, List.length_append, List.countP_append, List.countP_singleton]
      omega
  exact ⟨h.1, Nat.le_of_add_right_le h.2⟩

/-- The list is lost, and the page creates an incident. -/
theorem page_raises_demonstration :
    letI := Py.asciiTable
    letI := Py.asciiText
    ∃ s : Console (Service Unit Unit), Machine.run
        (Console.step (serviceServer {}) plainBrowser) ⟨{}, .load⟩ demonstration = some s ∧
      s.app.raised = 1 := by
  let _ := Py.asciiTable
  let _ := Py.asciiText
  obtain ⟨s, hrun, -⟩ := demonstration_opens
  exact ⟨s, hrun, (page_raises hrun).1⟩

end Console

end OpsPilot
