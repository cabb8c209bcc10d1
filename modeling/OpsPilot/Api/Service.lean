import OpsPilot.Api.Snapshot
import OpsPilot.Reporting.Postmortem
/-!
# The incident service and its memory (`apps/api/services/incident_service.py`, `apps/api/routes/incidents.py`)

A step is an API call, or a step of the coroutine of one incident. A coroutine holds the id of its incident
until it begins, and works on the incident that it finds under it then. Two paths write to the memory: the
coroutine, once the incident is resolved, and `POST /{incident_id}/report`, at any time. Both write the report
first and then wait for the embedding of its text, which may be refused; what else goes on meanwhile are
steps in between.

`lessons` pairs the documents that were added with the incident as it stood then; the source has no such field.

| here | there |
| --- | --- |
| `Service.objects`        | the incidents and their tasks, in the order of their creation |
| `Service.table`          | `self._incidents` |
| `Service.investigated`   | `state` of `_run_investigation` (incident_service.py:115) |
| `Label.index`            | `generate_report` and `auto_index_to_memory` (incident_service.py:170) |
| `Label.embedded`         | the answer to `await … embed_text(doc_text)` (episodic.py:51), and what comes after it |
| `Label.announce`         | the task that `submit_approval` creates (incident_service.py:339) |
| `Label.getReport`        | `get_incident_report` (incidents.py:172) |
| `Label.postReport`       | `generate_incident_report` (incidents.py:184) |
-/
namespace OpsPilot

/-- A report on its way into the memory: its text is being embedded. -/
structure Indexing where
  /-- The coroutine that waits for it; none does for a report that was posted. -/
  task : Option Nat
  object : Nat
  report : PostmortemReportResponse

structure Service (V W : Type) where
  objects : List (Investigation W) := []
  table : Dict String Nat := Dict.empty
  /-- The incident that each task has found under its id. -/
  found : Dict Nat Nat := Dict.empty
  indexings : List Indexing := []
  memoryManager : EpisodicMemoryManager V := {}
  lessons : List (VectorDocument V × IncidentState) := []

inductive Service.Label (V W : Type) where
  | createIncident (hex title : String) (severity : Severity) (affectedServices : List String) (symptoms : String)
      (autoRemediate : Bool) (clock : Clock) (executionRunner : Runner W)
  | task (i : Nat) (l : Investigation.Label W)
  | index (i : Nat) (now : Time)
  | embedded (n : Nat) (answer : Except PyException V)
  | submitApproval (incidentId : String) (sub : Submission)
  | announce (i : Nat) (now : Time)
  | getReport (incidentId : String) (now : Time)
  | postReport (incidentId : String) (now : Time)

/-- A step of the coroutine other than the indexing. -/
def Investigation.Label.ofTask {W : Type} : Investigation.Label W → Bool
  | .submitApproval _ | .announce _ | .index _ => false
  | _ => true

namespace Investigation

variable {W : Type}

/-- A task begins: its graph starts from the incident that it has found. -/
def enter (own : Investigation W) (incident : IncidentState) : Investigation W :=
  { own with incident, workflow := Workflow.init incident own.workflow.runner }

/-- An incident keeps its id. -/
theorem incidentId_step [Unicode] {policyEngine : RiskPolicyEngine} {s s' : Investigation W} {l : Label W}
    (hst : s.step policyEngine l = some s') : s'.incident.incidentId = s.incident.incidentId := by
  cases move_of_step hst with
  | effect now e effects he =>
    cases e with
    | merge f => cases f <;> rfl
    | publish eventType payload => rfl
    | stageChange n => rfl
  | exhausted hp hend => rw [incident_conclude]
  | accept sub incident resp hok =>
    obtain ⟨plan, action, hacc, -, -⟩ := IncidentState.submitApproval_ok hok
    show incident.incidentId = _
    rw [hacc.filed]
  | _ => rfl

end Investigation

namespace Service

variable {V W : Type}

/-- `self._incidents.get(incident_id)` -/
def find (svc : Service V W) (incidentId : String) : Option (Nat × Investigation W) :=
  (svc.table.get? incidentId).bind fun i => svc.objects[i]?.map fun inv => (i, inv)

def store (svc : Service V W) (i : Nat) (inv : Investigation W) : Service V W :=
  { svc with objects := svc.objects.set i inv }

/-- incident_service.py:84 -/
def create (svc : Service V W) (state : IncidentState) (executionRunner : Runner W) : Service V W :=
  { svc with
    objects := svc.objects ++ [Investigation.init state executionRunner]
    table := svc.table.set state.incidentId svc.objects.length }

/-- The incident is resolved. -/
def isResolved (svc : Service V W) (k : Nat) : Bool :=
  svc.objects[k]?.any fun inv => inv.incident.currentStage = .resolved

/-- The incident that the `i`-th task works on, and how far it is with it. -/
def investigated (svc : Service V W) (i : Nat) : Option (Nat × Investigation W) :=
  svc.objects[i]?.bind fun own =>
    match svc.found.get? i with
    | some k => svc.objects[k]?.map fun inv => (k, { own with incident := inv.incident })
    | none => (svc.find own.incident.incidentId).map fun (k, inv) => (k, own.enter inv.incident)

/-- The `i`-th task has taken a step on the `k`-th incident. -/
def resume (svc : Service V W) (i k : Nat) (inv : Investigation W) : Service V W :=
  { svc with
    objects := (svc.objects.modify i fun own => { inv with incident := own.incident }).modify k
      fun other => { other with incident := inv.incident }
    found := svc.found.set i k }

/-- A report is written, and its text given to the provider. -/
def propose (svc : Service V W) (task : Option Nat) (object : Nat) (report : PostmortemReportResponse) : Service V W :=
  { svc with indexings := svc.indexings ++ [{ task, object, report }] }

/-- The report of the incident goes into the memory. -/
def learn (svc : Service V W) (job : Indexing) (embedding : V) : Service V W :=
  let memoryManager := PostmortemGenerator.autoIndexToMemory svc.memoryManager job.report embedding
  let added := memoryManager.vectorStore.documents.drop svc.memoryManager.vectorStore.documents.length
  { svc with
    memoryManager
    lessons := svc.lessons ++
      svc.objects[job.object]?.toList.flatMap fun inv => added.map fun doc => (doc, inv.incident) }

/-- The provider answers for the `n`-th report. -/
def receive (svc : Service V W) (n : Nat) (job : Indexing) (answer : Except PyException V) : Service V W :=
  let svc := { svc with indexings := svc.indexings.eraseIdx n }
  match answer with
  | .ok embedding => svc.learn job embedding
  | .error _ => svc

/-! ## What an update of the service leaves -/

theorem find_some {svc : Service V W} {incidentId : String} {i : Nat} {inv : Investigation W}
    (h : svc.find incidentId = some (i, inv)) : svc.objects[i]? = some inv := by
  obtain ⟨j, -, hj⟩ := Option.bind_eq_some_iff.1 h
  obtain ⟨inv', hinv, heq⟩ := Option.map_eq_some_iff.1 hj
  cases heq
  exact hinv

theorem isResolved_of_getElem? {svc : Service V W} {k : Nat} {inv : Investigation W}
    (h : svc.objects[k]? = some inv) : svc.isResolved k = true ↔ inv.incident.currentStage = .resolved := by
  simp [isResolved, h]

/-- What the `i`-th task has found: an incident with its own id, or one that it works on already. -/
theorem investigated_cases {svc : Service V W} {i k : Nat} {inv : Investigation W}
    (h : svc.investigated i = some (k, inv)) :
    ∃ own other, svc.objects[i]? = some own ∧ svc.objects[k]? = some other ∧
      (svc.found.get? i = some k ∧ inv = { own with incident := other.incident } ∨
        svc.found.get? i = none ∧ svc.find own.incident.incidentId = some (k, other) ∧
          inv = own.enter other.incident) := by
  obtain ⟨own, hown, hmatch⟩ := Option.bind_eq_some_iff.1 h
  split at hmatch
  · rename_i k' hfound
    obtain ⟨other, hother, heq⟩ := Option.map_eq_some_iff.1 hmatch
    cases heq
    exact ⟨own, other, hown, hother, .inl ⟨hfound, rfl⟩⟩
  · rename_i hfound
    obtain ⟨⟨k', other⟩, hfind, heq⟩ := Option.map_eq_some_iff.1 hmatch
    cases heq
    exact ⟨own, other, hown, find_some hfind, .inr ⟨hfound, hfind, rfl⟩⟩

/-- The incident of a task is one of the service. -/
theorem incident_investigated {svc : Service V W} {i k : Nat} {inv : Investigation W}
    (h : svc.investigated i = some (k, inv)) :
    ∃ other, svc.objects[k]? = some other ∧ inv.incident = other.incident := by
  obtain ⟨own, other, -, hother, ⟨-, rfl⟩ | ⟨-, -, rfl⟩⟩ := investigated_cases h
  · exact ⟨other, hother, rfl⟩
  · exact ⟨other, hother, rfl⟩

theorem getElem?_resume (svc : Service V W) (i k j : Nat) (inv : Investigation W) :
    (svc.resume i k inv).objects[j]? = svc.objects[j]?.map fun own =>
      { (if i = j then inv else own) with incident := if k = j then inv.incident else own.incident } := by
  simp only [resume, List.getElem?_modify, Option.map_eq_map, Option.map_map]
  congr 1
  funext own
  simp only [Function.comp_apply]
  by_cases hi : i = j
  · simp only [if_pos hi]
    split <;> rfl
  · simp only [if_neg hi]
    split <;> rfl

/-- A task that works on its own incident. -/
theorem objects_resume_self {svc : Service V W} {i : Nat} {own : Investigation W} (hi : svc.objects[i]? = some own)
    (inv : Investigation W) : (svc.resume i i inv).objects = svc.objects.set i inv := by
  refine List.ext_getElem? fun j => ?_
  have hlt := (List.getElem?_eq_some_iff.1 hi).1
  rw [getElem?_resume, List.getElem?_set]
  by_cases hij : i = j
  · subst hij
    simp [hlt]
  · simp [hij]

section
variable (svc : Service V W) (n : Nat) (job : Indexing) (answer : Except PyException V)

@[simp] theorem objects_receive : (svc.receive n job answer).objects = svc.objects := by
  cases answer <;> rfl

@[simp] theorem table_receive : (svc.receive n job answer).table = svc.table := by
  cases answer <;> rfl

@[simp] theorem found_receive : (svc.receive n job answer).found = svc.found := by
  cases answer <;> rfl

@[simp] theorem indexings_receive : (svc.receive n job answer).indexings = svc.indexings.eraseIdx n := by
  cases answer <;> rfl

end

section
variable [UnicodeText]

/-- incident_service.py:366 -/
def generatePostmortemReport (svc : Service V W) (incidentId : String) (now : Time) :
    Except PyException PostmortemReportResponse :=
  match svc.find incidentId with
  | some (_, inv) => .ok (PostmortemGenerator.generateReport inv.incident now)
  | none => .error (.valueError ("Incident " ++ incidentId ++ " not found"))

variable [Unicode]

def step (policyEngine : RiskPolicyEngine) (svc : Service V W) : Label V W → Option (Service V W)
  | .createIncident hex title severity affectedServices symptoms autoRemediate clock executionRunner =>
    some (svc.create (createIncident ("inc-" ++ hex) title severity affectedServices symptoms autoRemediate clock)
      executionRunner)
  | .task i l =>
    match svc.investigated i with
    | some (k, inv) => if l.ofTask then (inv.step policyEngine l).map (svc.resume i k) else none
    | none => none
  | .index i now =>
    match svc.investigated i with
    | some (k, inv) =>
      if inv.phase = .indexing ∧ inv.effects.isEmpty ∧ (svc.indexings.all fun job => job.task != some i) then
        some (svc.propose (some i) k (PostmortemGenerator.generateReport inv.incident now))
      else none
    | none => none
  | .embedded n answer =>
    match svc.indexings[n]? with
    | some job =>
      match job.task with
      | none => some (svc.receive n job answer)
      | some i =>
        match svc.investigated i with
        | some (k, inv) =>
          (inv.step policyEngine (.index (answer.map fun _ => ()))).map ((svc.receive n job answer).resume i k)
        | none => none
    | none => none
  | .submitApproval incidentId sub =>
    match svc.find incidentId with
    | some (i, inv) => (inv.step policyEngine (.submitApproval sub)).map (svc.store i)
    | none => some svc
  | .announce i now =>
    match svc.objects[i]? with
    | some inv => (inv.step policyEngine (.announce now)).map (svc.store i)
    | none => none
  | .getReport _ _ => some svc
  | .postReport incidentId now =>
    match svc.find incidentId, svc.generatePostmortemReport incidentId now with
    | some (i, _), .ok report => some (svc.propose none i report)
    | _, _ => some svc

/-- What a step can do. -/
inductive Move (policyEngine : RiskPolicyEngine) : Service V W → Label V W → Service V W → Prop
  | created {svc} (hex title : String) (severity : Severity) (affectedServices : List String) (symptoms : String)
      (autoRemediate : Bool) (clock : Clock) (executionRunner : Runner W) :
      Move policyEngine svc
        (.createIncident hex title severity affectedServices symptoms autoRemediate clock executionRunner)
        (svc.create
          (OpsPilot.createIncident ("inc-" ++ hex) title severity affectedServices symptoms autoRemediate clock)
          executionRunner)
  | worked {svc} (i k : Nat) (l : Investigation.Label W) (inv inv' : Investigation W) (hl : l.ofTask = true)
      (hi : svc.investigated i = some (k, inv)) (hst : inv.step policyEngine l = some inv') :
      Move policyEngine svc (.task i l) (svc.resume i k inv')
  | indexing {svc} (i k : Nat) (now : Time) (inv : Investigation W) (hi : svc.investigated i = some (k, inv))
      (hp : inv.phase = .indexing) (he : inv.effects = []) (hfirst : ∀ job ∈ svc.indexings, job.task ≠ some i) :
      Move policyEngine svc (.index i now)
        (svc.propose (some i) k (PostmortemGenerator.generateReport inv.incident now))
  | indexed {svc} (n i k : Nat) (job : Indexing) (answer : Except PyException V) (inv inv' : Investigation W)
      (hn : svc.indexings[n]? = some job) (ht : job.task = some i) (hi : svc.investigated i = some (k, inv))
      (hst : inv.step policyEngine (.index (answer.map fun _ => ())) = some inv') :
      Move policyEngine svc (.embedded n answer) ((svc.receive n job answer).resume i k inv')
  | published {svc} (n : Nat) (job : Indexing) (answer : Except PyException V) (hn : svc.indexings[n]? = some job)
      (ht : job.task = none) : Move policyEngine svc (.embedded n answer) (svc.receive n job answer)
  | submitted {svc} (incidentId : String) (sub : Submission) (i : Nat) (inv inv' : Investigation W)
      (hfind : svc.find incidentId = some (i, inv)) (hst : inv.step policyEngine (.submitApproval sub) = some inv') :
      Move policyEngine svc (.submitApproval incidentId sub) (svc.store i inv')
  | announced {svc} (i : Nat) (now : Time) (inv inv' : Investigation W) (hi : svc.objects[i]? = some inv)
      (hst : inv.step policyEngine (.announce now) = some inv') :
      Move policyEngine svc (.announce i now) (svc.store i inv')
  | posted {svc} (incidentId : String) (now : Time) (i : Nat) (inv : Investigation W)
      (hfind : svc.find incidentId = some (i, inv)) :
      Move policyEngine svc (.postReport incidentId now)
        (svc.propose none i (PostmortemGenerator.generateReport inv.incident now))
  | nothing {svc} (label : Label V W) : Move policyEngine svc label svc

variable {policyEngine : RiskPolicyEngine} {svc svc' : Service V W} {label : Label V W}

theorem move_of_step (h : svc.step policyEngine label = some svc') : Move policyEngine svc label svc' := by
  cases label with
  | createIncident hex title severity affectedServices symptoms autoRemediate clock executionRunner =>
    cases h
    exact .created hex title severity affectedServices symptoms autoRemediate clock executionRunner
  | task i l =>
    simp only [step] at h
    split at h
    · rename_i k inv hi
      split at h
      · rename_i hl
        obtain ⟨inv', hst, rfl⟩ := Option.map_eq_some_iff.1 h
        exact .worked i k l inv inv' hl hi hst
      · cases h
    · cases h
  | index i now =>
    simp only [step] at h
    split at h
    · rename_i k inv hi
      split at h
      · rename_i hc
        cases h
        refine .indexing i k now inv hi hc.1 (List.isEmpty_iff.1 hc.2.1) ?_
        simpa using hc.2.2
      · cases h
    · cases h
  | embedded n answer =>
    simp only [step] at h
    split at h
    · rename_i job hn
      split at h
      · rename_i ht
        cases h
        exact .published n job answer hn ht
      · rename_i i ht
        split at h
        · rename_i k inv hi
          obtain ⟨inv', hst, rfl⟩ := Option.map_eq_some_iff.1 h
          exact .indexed n i k job answer inv inv' hn ht hi hst
        · cases h
    · cases h
  | submitApproval incidentId sub =>
    simp only [step] at h
    split at h
    · rename_i i inv hfind
      obtain ⟨inv', hst, rfl⟩ := Option.map_eq_some_iff.1 h
      exact .submitted incidentId sub i inv inv' hfind hst
    · cases h
      exact .nothing _
  | announce i now =>
    simp only [step] at h
    split at h
    · rename_i inv hi
      obtain ⟨inv', hst, rfl⟩ := Option.map_eq_some_iff.1 h
      exact .announced i now inv inv' hi hst
    · cases h
  | getReport incidentId now =>
    cases h
    exact .nothing _
  | postReport incidentId now =>
    simp only [step, generatePostmortemReport] at h
    cases hfind : svc.find incidentId with
    | none =>
      simp only [hfind] at h
      cases h
      exact .nothing _
    | some found =>
      simp only [hfind] at h
      cases h
      exact .posted incidentId now found.1 found.2 hfind

/-! ## What becomes of the incidents -/

/-- What a step does to the incidents and their tasks. -/
inductive ObjectsMove (policyEngine : RiskPolicyEngine) (svc svc' : Service V W) : Prop
  | created (hex title : String) (severity : Severity) (affectedServices : List String) (symptoms : String)
      (autoRemediate : Bool) (clock : Clock) (executionRunner : Runner W)
      (heq : svc' = svc.create
        (createIncident ("inc-" ++ hex) title severity affectedServices symptoms autoRemediate clock) executionRunner)
  | worked (i k : Nat) (l : Investigation.Label W) (inv inv' : Investigation W)
      (hi : svc.investigated i = some (k, inv)) (hst : inv.step policyEngine l = some inv')
      (hobjects : svc'.objects = (svc.resume i k inv').objects) (htable : svc'.table = svc.table)
  | stored (i : Nat) (l : Investigation.Label W) (inv inv' : Investigation W) (hi : svc.objects[i]? = some inv)
      (hst : inv.step policyEngine l = some inv') (hobjects : svc'.objects = svc.objects.set i inv')
      (htable : svc'.table = svc.table)
  | kept (hobjects : svc'.objects = svc.objects) (htable : svc'.table = svc.table)

theorem objects_move (hm : Move policyEngine svc label svc') : ObjectsMove policyEngine svc svc' := by
  cases hm with
  | created hex title severity affectedServices symptoms autoRemediate clock executionRunner =>
    exact .created hex title severity affectedServices symptoms autoRemediate clock executionRunner rfl
  | worked i k l inv inv' hl hi hst => exact .worked i k l inv inv' hi hst rfl rfl
  | indexing i k now inv hi hp he hfirst => exact .kept rfl rfl
  | indexed n i k job answer inv inv' hn ht hi hst =>
    refine .worked i k _ inv inv' hi hst ?_ (table_receive svc n job answer)
    simp only [resume, objects_receive]
  | published n job answer hn ht => exact .kept (objects_receive svc n job answer) (table_receive svc n job answer)
  | submitted incidentId sub i inv inv' hfind hst => exact .stored i _ inv inv' (find_some hfind) hst rfl rfl
  | announced i now inv inv' hi hst => exact .stored i _ inv inv' hi hst rfl rfl
  | posted incidentId now i inv hfind => exact .kept rfl rfl
  | nothing label => exact .kept rfl rfl

/-- What every step of a coroutine, and every submission, does to an incident, a step of the service does
to each of its incidents. -/
theorem incident_move {R : IncidentState → IncidentState → Prop} (hrefl : ∀ st, R st st)
    (hstep : ∀ (s s' : Investigation W) l, s.step policyEngine l = some s' → R s.incident s'.incident)
    (hm : Move policyEngine svc label svc') {j : Nat} {inv : Investigation W} (hj : svc.objects[j]? = some inv) :
    ∃ inv', svc'.objects[j]? = some inv' ∧ R inv.incident inv'.incident := by
  have hlt := (List.getElem?_eq_some_iff.1 hj).1
  cases objects_move hm with
  | created hex title severity affectedServices symptoms autoRemediate clock executionRunner heq =>
    refine ⟨inv, ?_, hrefl _⟩
    rw [heq, create, List.getElem?_append_left hlt, hj]
  | worked i k l s s' hi hst hobjects htable =>
    obtain ⟨other, hother, hincident⟩ := incident_investigated hi
    rw [hobjects, getElem?_resume, hj]
    refine ⟨_, rfl, ?_⟩
    by_cases hkj : k = j
    · subst hkj
      cases hj.symm.trans hother
      simp only [if_true]
      exact hincident ▸ hstep s s' l hst
    · simp only [if_neg hkj]
      exact hrefl _
  | stored i l s s' hi hst hobjects htable =>
    rw [hobjects, List.getElem?_set]
    by_cases hij : i = j
    · subst hij
      cases hj.symm.trans hi
      exact ⟨s', by simp [hlt], hstep inv s' l hst⟩
    · exact ⟨inv, by rw [if_neg hij, hj], hrefl _⟩
  | kept hobjects htable => exact ⟨inv, by rw [hobjects, hj], hrefl _⟩

/-- What holds of every new incident, and is kept by what is done to one, holds of all of them. -/
theorem forall_incident_move {P : IncidentState → Prop}
    (hcreate : ∀ hex title severity affectedServices symptoms autoRemediate clock,
      P (createIncident ("inc-" ++ hex) title severity affectedServices symptoms autoRemediate clock))
    (hstep : ∀ (s s' : Investigation W) l, s.step policyEngine l = some s' → P s.incident → P s'.incident)
    (hm : Move policyEngine svc label svc') (h : ∀ inv ∈ svc.objects, P inv.incident) :
    ∀ inv ∈ svc'.objects, P inv.incident := by
  intro inv hmem
  obtain ⟨j, hj⟩ := List.mem_iff_getElem?.1 hmem
  cases hold : svc.objects[j]? with
  | some before =>
    obtain ⟨inv', hj', hR⟩ := incident_move (R := fun st st' => P st → P st') (fun _ => id) hstep hm hold
    cases hj.symm.trans hj'
    exact hR (h before (List.mem_of_getElem? hold))
  | none =>
    -- only a created incident was not there before
    cases objects_move hm with
    | created hex title severity affectedServices symptoms autoRemediate clock executionRunner heq =>
      rw [heq] at hmem
      rcases List.mem_append.1 hmem with hmem | hnew
      · exact h inv hmem
      · obtain rfl := List.mem_singleton.1 hnew
        exact hcreate hex title severity affectedServices symptoms autoRemediate clock
    | worked i k l s s' hi hst hobjects htable =>
      rw [hobjects, getElem?_resume, hold] at hj
      cases hj
    | stored i l s s' hi hst hobjects htable =>
      have hlen : svc'.objects.length = svc.objects.length := by rw [hobjects, List.length_set]
      have hlt := (List.getElem?_eq_some_iff.1 hj).1
      rw [List.getElem?_eq_none_iff] at hold
      omega
    | kept hobjects htable =>
      rw [hobjects, hold] at hj
      cases hj

end

/-! ## Straight runs -/

/-- An incident of the payment service is created. -/
def createPayment [Unicode] : Label Unit Unit :=
  .createIncident "00000001" "High latency" .sev1 ["payment-service"] "" true Workflow.stillClock Workflow.restartRunner

/-- A restart helps, and the incident is indexed. -/
def resolvePayment [Unicode] : List (Label Unit Unit) :=
  let investigation : List (Investigation.Label Unit) :=
    .start ⟨0⟩ :: Investigation.served (Workflow.investigationRound [Workflow.bareHypothesis] .approve ++
      Workflow.remediationRound [Workflow.restartAction "ACT-01"] .recovered false) ++ [.exhausted, .effect ⟨0⟩]
  createPayment :: investigation.map (.task 0) ++ [.index 0 ⟨0⟩, .embedded 0 (.ok ())]

end Service

end OpsPilot
