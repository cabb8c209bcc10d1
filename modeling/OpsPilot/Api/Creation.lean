import OpsPilot.Api.Service
import OpsPilot.Safety.KeyText
/-!
# The incidents and their ids (`IncidentService.create_incident`, `ingest_alert_webhook`)

`self._incidents` holds the incidents under the first eight hexadecimal digits of a UUID, and the task
of an incident looks it up there when it begins (incident_service.py:115). Two UUIDs with the same
first digits name the same entry: the later incident takes it over, and both tasks work on that one.

| here | there |
| --- | --- |
| `AlertWebhookPayload`        | schemas/webhook.py:9, the fields that are read |
| `Creation`                   | what a call of `create_incident` makes: an incident and its task |
| `Creation.running`           | `state` and the rest of the coroutine (incident_service.py:113) |
| `Label.ingestAlert`          | `ingest_alert_webhook` (webhooks.py:21) |
| `IncidentStore.Kept`, `OwnChange` | no function of the source: what is said of the incidents below |

The order of `made` is that of the calls. `self._tasks` is written and never read.
-/
namespace OpsPilot

structure AlertWebhookPayload where
  resolved : Bool := false
  alertName : String
  service : String
  severity : Severity := .sev1
  summary : String
  description : String := ""

structure Creation (W : Type) where
  incidentId : String
  state : IncidentState
  executionRunner : Runner W
  /-- There is an event loop, and the task is launched. -/
  launched : Bool := true
  /-- Which incident the task has found under the id, and how far it is with it. -/
  running : Option (Nat × Investigation W) := none

structure IncidentStore (W : Type) where
  made : List (Creation W) := []
  incidents : Dict String Nat := Dict.empty

inductive IncidentStore.Label (W : Type) where
  | createIncident (uuid : Nat) (title : String) (severity : Severity) (affectedServices : List String)
      (symptoms : String) (autoRemediate : Bool) (clock : Clock) (executionRunner : Runner W) (launched : Bool)
  | ingestAlert (uuid : Nat) (payload : AlertWebhookPayload) (clock : Clock) (executionRunner : Runner W)
  | task (i : Nat) (l : Investigation.Label W)
  | submitApproval (incidentId : String) (sub : Submission)

/-- A step of the coroutine. -/
def Investigation.Label.ofCoroutine {W : Type} : Investigation.Label W → Bool
  | .submitApproval _ => false
  | _ => true

namespace IncidentStore

variable {W : Type}

/-- incident_service.py:74 -/
def createIncident (store : IncidentStore W) (uuid : Nat) (title : String) (severity : Severity)
    (affectedServices : List String) (symptoms : String) (autoRemediate : Bool) (clock : Clock)
    (executionRunner : Runner W) (launched : Bool) : IncidentStore W :=
  let incidentId := createIncidentId uuid
  let state := OpsPilot.createIncident incidentId title severity affectedServices symptoms autoRemediate clock
  { made := store.made ++ [{ incidentId, state, executionRunner, launched }]
    incidents := store.incidents.set incidentId store.made.length }

/-- webhooks.py:28 -/
def ingestAlert (store : IncidentStore W) (uuid : Nat) (payload : AlertWebhookPayload) (clock : Clock)
    (executionRunner : Runner W) : IncidentStore W :=
  if payload.resolved then store
  else
    store.createIncident uuid (payload.alertName ++ ": " ++ payload.summary) payload.severity [payload.service]
      (if payload.description = "" then payload.summary else payload.description) false clock executionRunner true

/-- `self._incidents.get(incident_id)` -/
def find (store : IncidentStore W) (incidentId : String) : Option (Nat × IncidentState) :=
  (store.incidents.get? incidentId).bind fun k => store.made[k]?.map fun c => (k, c.state)

/-- The incident that the task works on. Until its first step it has none, and looks its id up. -/
def investigated (store : IncidentStore W) (c : Creation W) : Option (Nat × Investigation W) :=
  match c.running with
  | some (k, inv) => store.made[k]?.map fun found => (k, { inv with incident := found.state })
  | none => (store.find c.incidentId).map fun (k, state) => (k, Investigation.init state c.executionRunner)

def setState (store : IncidentStore W) (k : Nat) (state : IncidentState) : IncidentStore W :=
  { store with made := store.made.modify k fun c => { c with state } }

def setRunning (store : IncidentStore W) (i k : Nat) (inv : Investigation W) : IncidentStore W :=
  { store with made := store.made.modify i fun c => { c with running := some (k, inv) } }

section
variable [Unicode]

def step (policyEngine : RiskPolicyEngine) (store : IncidentStore W) : Label W → Option (IncidentStore W)
  | .createIncident uuid title severity affectedServices symptoms autoRemediate clock executionRunner launched =>
    some (store.createIncident uuid title severity affectedServices symptoms autoRemediate clock executionRunner
      launched)
  | .ingestAlert uuid payload clock executionRunner => some (store.ingestAlert uuid payload clock executionRunner)
  | .task i l =>
    match store.made[i]? with
    | some c =>
      if c.launched && l.ofCoroutine then
        match store.investigated c with
        | some (k, inv) =>
          (inv.step policyEngine l).map fun inv' => (store.setState k inv'.incident).setRunning i k inv'
        | none => none
      else none
    | none => none
  | .submitApproval incidentId sub =>
    match store.find incidentId with
    | some (k, state) =>
      match state.submitApproval sub with
      | .ok (state', _) => some (store.setState k state')
      | .error _ => some store
    | none => some store

/-- The id that a call draws. -/
def Label.drawn : Label W → Option String
  | .createIncident uuid .. => some (createIncidentId uuid)
  | .ingestAlert uuid payload .. => if payload.resolved then none else some (createIncidentId uuid)
  | .task .. | .submitApproval .. => none

/-- What a step can do. -/
inductive Move (policyEngine : RiskPolicyEngine) : IncidentStore W → Label W → IncidentStore W → Prop
  | created {store} (label : Label W) (c : Creation W) (hdrawn : label.drawn = some c.incidentId)
      (hid : c.state.incidentId = c.incidentId) (hnew : c.running = none) :
      Move policyEngine store label
        { made := store.made ++ [c], incidents := store.incidents.set c.incidentId store.made.length }
  | worked {store} (i k : Nat) (l : Investigation.Label W) (c : Creation W) (inv inv' : Investigation W)
      (hi : store.made[i]? = some c) (hinv : store.investigated c = some (k, inv))
      (hst : inv.step policyEngine l = some inv') :
      Move policyEngine store (.task i l) ((store.setState k inv'.incident).setRunning i k inv')
  | approved {store} (incidentId : String) (sub : Submission) (k : Nat) (state state' : IncidentState)
      (resp : ApprovalRequestResponse) (hfind : store.find incidentId = some (k, state))
      (hok : state.submitApproval sub = .ok (state', resp)) :
      Move policyEngine store (.submitApproval incidentId sub) (store.setState k state')
  | ignored {store} (label : Label W) (hdrawn : label.drawn = none) : Move policyEngine store label store

variable {policyEngine : RiskPolicyEngine} {store store' : IncidentStore W} {label : Label W}

theorem move_of_step (h : store.step policyEngine label = some store') : Move policyEngine store label store' := by
  cases label with
  | createIncident uuid title severity affectedServices symptoms autoRemediate clock executionRunner launched =>
    cases h
    exact .created _ _ rfl rfl rfl
  | ingestAlert uuid payload clock executionRunner =>
    cases h
    unfold ingestAlert
    split
    · rename_i hresolved
      exact .ignored _ (by simp [Label.drawn, hresolved])
    · rename_i hfiring
      exact .created _ _ (by simp [Label.drawn, hfiring]) rfl rfl
  | task i l =>
    simp only [step] at h
    split at h
    · rename_i c hi
      split at h
      · split at h
        · rename_i k inv hinv
          obtain ⟨inv', hst, rfl⟩ := Option.map_eq_some_iff.1 h
          exact .worked i k l c inv inv' hi hinv hst
        · cases h
      · cases h
    · cases h
  | submitApproval incidentId sub =>
    simp only [step] at h
    split at h
    · rename_i k state hfind
      split at h
      · rename_i state' resp hok
        cases h
        exact .approved incidentId sub k state state' resp hfind hok
      · cases h
        exact .ignored _ rfl
    · cases h
      exact .ignored _ rfl

end

/-! ## What is made, and what an id leads to -/

section
variable {store : IncidentStore W}

/-- The ids that have been drawn, in the order of the calls. -/
def ids (store : IncidentStore W) : List String := store.made.map Creation.incidentId

theorem getElem?_setState (store : IncidentStore W) (k : Nat) (state : IncidentState) (j : Nat) :
    (store.setState k state).made[j]? =
      if k = j then store.made[j]?.map fun c => { c with state } else store.made[j]? := by
  rw [setState, List.getElem?_modify]
  split
  · rfl
  · simp

theorem getElem?_setRunning (store : IncidentStore W) (i k : Nat) (inv : Investigation W) (j : Nat) :
    (store.setRunning i k inv).made[j]? =
      if i = j then store.made[j]?.map fun c => { c with running := some (k, inv) } else store.made[j]? := by
  rw [setRunning, List.getElem?_modify]
  split
  · rfl
  · simp

theorem ids_setState (store : IncidentStore W) (k : Nat) (state : IncidentState) :
    (store.setState k state).ids = store.ids := by
  refine List.ext_getElem? fun j => ?_
  rw [ids, ids, List.getElem?_map, List.getElem?_map, getElem?_setState]
  split
  · rw [Option.map_map]
    rfl
  · rfl

theorem ids_setRunning (store : IncidentStore W) (i k : Nat) (inv : Investigation W) :
    (store.setRunning i k inv).ids = store.ids := by
  refine List.ext_getElem? fun j => ?_
  rw [ids, ids, List.getElem?_map, List.getElem?_map, getElem?_setRunning]
  split
  · rw [Option.map_map]
    rfl
  · rfl

theorem ids_append (made : List (Creation W)) (c : Creation W) (incidents : Dict String Nat) :
    ids { made := made ++ [c], incidents } = made.map Creation.incidentId ++ [c.incidentId] := by
  rw [ids, List.map_append]
  rfl

theorem found_of_find {store : IncidentStore W} {incidentId : String} {k : Nat} {state : IncidentState}
    (h : store.find incidentId = some (k, state)) :
    store.incidents.get? incidentId = some k ∧ ∃ found, store.made[k]? = some found ∧ found.state = state := by
  obtain ⟨k', hget, hmap⟩ := Option.bind_eq_some_iff.1 h
  obtain ⟨found, hfound, heq⟩ := Option.map_eq_some_iff.1 hmap
  cases heq
  exact ⟨hget, found, hfound, rfl⟩

/-- The store has one entry for each call, which leads from the id that was drawn to the incident that was made. -/
def Kept (store : IncidentStore W) : Prop := store.incidents.entries = store.ids.zipIdx

theorem Kept.get? (h : Kept store) {k : Nat} {c : Creation W} (hk : store.made[k]? = some c) :
    store.incidents.get? c.incidentId = some k := by
  have hid : store.ids[k]? = some c.incidentId := by rw [ids, List.getElem?_map, hk, Option.map_some]
  have hmem : (c.incidentId, k) ∈ store.incidents.entries := by
    rw [h]
    exact List.mk_mem_zipIdx_iff_getElem?.2 hid
  exact Dict.look_of_mem store.incidents.nodup hmem

/-- Every incident is found under its id, as it is. -/
theorem Kept.find (h : Kept store) {k : Nat} {c : Creation W} (hk : store.made[k]? = some c) :
    store.find c.incidentId = some (k, c.state) := by
  rw [IncidentStore.find, h.get? hk, Option.bind_some, hk, Option.map_some]

theorem Kept.of_get? (h : Kept store) {incidentId : String} {k : Nat}
    (hget : store.incidents.get? incidentId = some k) : store.ids[k]? = some incidentId := by
  have hmem := Dict.mem_of_look hget
  rw [h] at hmem
  exact List.mk_mem_zipIdx_iff_getElem?.1 hmem

theorem Kept.nodup_ids (h : Kept store) : store.ids.Nodup := by
  have hkeys := store.incidents.nodup
  rw [h, List.zipIdx_map_fst] at hkeys
  exact hkeys

/-- The incident that a call made changes in a step of its own task, or by a submission for it. -/
def OwnChange (store : IncidentStore W) (label : Label W) (store' : IncidentStore W) : Prop :=
  ∀ k (c c' : Creation W), store.made[k]? = some c → store'.made[k]? = some c' → c'.state ≠ c.state →
    (∃ l, label = .task k l) ∨ ∃ sub, label = .submitApproval c.incidentId sub

/-- A task works on the incident it was launched for. -/
def OwnIncident (store : IncidentStore W) : Prop :=
  ∀ i (c : Creation W) k inv, store.made[i]? = some c → c.running = some (k, inv) → k = i

theorem eq_of_investigated (hkept : Kept store) (hown : OwnIncident store) {i k : Nat} {c : Creation W}
    {inv : Investigation W} (hi : store.made[i]? = some c) (hinv : store.investigated c = some (k, inv)) :
    k = i := by
  unfold investigated at hinv
  split at hinv
  · rename_i k' inv' hrunning
    obtain ⟨found, -, heq⟩ := Option.map_eq_some_iff.1 hinv
    cases heq
    exact hown i c k inv' hi hrunning
  · rw [hkept.find hi] at hinv
    cases hinv
    rfl

end

section
variable [Unicode] {policyEngine : RiskPolicyEngine} {store store' : IncidentStore W} {label : Label W}

theorem ids_move (hm : Move policyEngine store label store') : store'.ids = store.ids ++ label.drawn.toList := by
  cases hm with
  | created label c hdrawn hid hnew =>
    rw [ids_append, hdrawn]
    rfl
  | worked i k l c inv inv' hi hinv hst =>
    rw [ids_setRunning, ids_setState]
    exact (List.append_nil _).symm
  | approved incidentId sub k state state' resp hfind hok =>
    rw [ids_setState]
    exact (List.append_nil _).symm
  | ignored label hdrawn =>
    rw [hdrawn]
    exact (List.append_nil _).symm

theorem ids_run {as : List (Label W)} (hrun : Machine.run (step policyEngine) {} as = some store) :
    store.ids = as.filterMap Label.drawn := by
  refine Machine.run_induction (P := fun as store => store.ids = as.filterMap Label.drawn) rfl ?_ as store hrun
  intro as store label store' _ ih hst
  rw [ids_move (move_of_step hst), ih, List.filterMap_append]
  cases hdrawn : label.drawn with
  | none => rw [List.filterMap_cons_none hdrawn, Option.toList_none, List.filterMap_nil]
  | some incidentId => rw [List.filterMap_cons_some hdrawn, Option.toList_some, List.filterMap_nil]

/-- As long as no id is drawn twice, all incidents are kept, and each is left to its own task. -/
theorem kept_move (hkept : Kept store) (hown : OwnIncident store) (hm : Move policyEngine store label store')
    (hfresh : ∀ incidentId, label.drawn = some incidentId → incidentId ∉ store.ids) :
    Kept store' ∧ OwnIncident store' ∧ OwnChange store label store' := by
  cases hm with
  | created label c hdrawn hid hnew =>
    refine ⟨?_, ?_, ?_⟩
    · have hkey : c.incidentId ∉ store.incidents.entries.map Prod.fst := by
        rw [hkept, List.zipIdx_map_fst]
        exact hfresh c.incidentId hdrawn
      have hlen : store.ids.length = store.made.length := List.length_map _
      show Dict.put c.incidentId store.made.length store.incidents.entries = _
      rw [Dict.put_of_notMem _ hkey, hkept, ids_append, List.zipIdx_append, ids]
      simp
    · intro i c' k inv hi hrunning
      rw [List.getElem?_append] at hi
      split at hi
      · exact hown i c' k inv hi hrunning
      · obtain rfl := List.mem_singleton.1 (List.mem_of_getElem? hi)
        rw [hnew] at hrunning
        cases hrunning
    · intro k c' c'' hk hk' hne
      rw [List.getElem?_append_left (List.getElem?_eq_some_iff.1 hk).1] at hk'
      cases hk.symm.trans hk'
      exact absurd rfl hne
  | worked i k l c inv inv' hi hinv hst =>
    obtain rfl := eq_of_investigated hkept hown hi hinv
    refine ⟨?_, ?_, ?_⟩
    · rw [Kept, ids_setRunning, ids_setState]
      exact hkept
    · intro j c' k' inv'' hj hrunning
      rw [getElem?_setRunning] at hj
      split at hj
      · rename_i hij
        obtain ⟨c'', -, rfl⟩ := Option.map_eq_some_iff.1 hj
        cases hrunning
        exact hij
      · rename_i hij
        rw [getElem?_setState, if_neg hij] at hj
        exact hown j c' k' inv'' hj hrunning
    · intro j c' c'' hj hj' hne
      by_cases hij : k = j
      · subst hij
        exact .inl ⟨l, rfl⟩
      · rw [getElem?_setRunning, if_neg hij, getElem?_setState, if_neg hij] at hj'
        cases hj.symm.trans hj'
        exact absurd rfl hne
  | approved incidentId sub k state state' resp hfind hok =>
    refine ⟨?_, ?_, ?_⟩
    · rw [Kept, ids_setState]
      exact hkept
    · intro j c' k' inv hj hrunning
      rw [getElem?_setState] at hj
      split at hj
      · obtain ⟨c'', hold, rfl⟩ := Option.map_eq_some_iff.1 hj
        exact hown j c'' k' inv hold hrunning
      · exact hown j c' k' inv hj hrunning
    · intro j c' c'' hj hj' hne
      by_cases hkj : k = j
      · subst hkj
        have hid := hkept.of_get? (found_of_find hfind).1
        rw [ids, List.getElem?_map, hj, Option.map_some] at hid
        rw [Option.some.inj hid]
        exact .inr ⟨sub, rfl⟩
      · rw [getElem?_setState, if_neg hkj] at hj'
        cases hj.symm.trans hj'
        exact absurd rfl hne
  | ignored label hdrawn =>
    refine ⟨hkept, hown, ?_⟩
    intro k c c' hk hk' hne
    cases hk.symm.trans hk'
    exact absurd rfl hne

/-! ## When creating an incident destroys none -/

/-- After the step all incidents are kept, and only the incident that the step is for may have changed. -/
def Harmless (policyEngine : RiskPolicyEngine) (store : IncidentStore W) (label : Label W) : Prop :=
  ∀ store', store.step policyEngine label = some store' → Kept store' ∧ OwnChange store label store'

theorem kept_run {as : List (Label W)} (hrun : Machine.run (step policyEngine) {} as = some store)
    (hnodup : store.ids.Nodup) :
    Kept store ∧ OwnIncident store ∧ Machine.Along (step policyEngine) (Harmless policyEngine) {} as := by
  refine Machine.run_induction
    (P := fun as store => store.ids.Nodup → Kept store ∧ OwnIncident store ∧
      Machine.Along (step policyEngine) (Harmless policyEngine) {} as) ?_ ?_ as store hrun hnodup
  · intro _
    exact ⟨rfl, by simp [OwnIncident], trivial⟩
  · intro as store label store' hr ih hst hnodup
    have hm := move_of_step hst
    rw [ids_move hm] at hnodup
    obtain ⟨hkept, hown, halong⟩ := ih (List.nodup_append.1 hnodup).1
    have hfresh : ∀ incidentId, label.drawn = some incidentId → incidentId ∉ store.ids := by
      intro incidentId hdrawn hmem
      rw [hdrawn] at hnodup
      exact (List.nodup_append.1 hnodup).2.2 incidentId hmem incidentId List.mem_cons_self rfl
    obtain ⟨hkept', hown', hchange⟩ := kept_move hkept hown hm hfresh
    refine ⟨hkept', hown', (Machine.along_concat hr).2 ⟨halong, ?_⟩⟩
    intro store'' hst'
    cases hst.symm.trans hst'
    exact ⟨hkept', hchange⟩

/-- **Creating an incident destroys none exactly when** the ids that are drawn, which are the first eight
digits of the UUIDs, are pairwise distinct: in every run every call adds one entry, every incident is found
under its id, and is changed by its own task and by submissions for it only. -/
theorem harmless_iff (as : List (Label W)) (store : IncidentStore W)
    (hrun : Machine.run (step policyEngine) {} as = some store) :
    Machine.Along (step policyEngine) (Harmless policyEngine) {} as ↔ (as.filterMap Label.drawn).Nodup := by
  rw [← ids_run hrun]
  constructor
  · intro halong
    refine Machine.run_induction_along (P := fun _ store => store.ids.Nodup) List.nodup_nil ?_ as store hrun halong
    intro as store label store' _ _ hharmless hst
    exact (hharmless store' hst).1.nodup_ids
  · intro hnodup
    exact (kept_run hrun hnodup).2.2

end

/-- An alert of the order service. -/
def firing : AlertWebhookPayload where
  alertName := "HighLatency"
  service := "order-service"
  summary := "slow"

/-- An incident of the payment service, and an alert of the order service. -/
def paymentAndOrder [Unicode] (uuid uuid' : Nat) : List (Label Unit) :=
  [.createIncident uuid "High latency" .sev1 ["payment-service"] "" true Workflow.stillClock Workflow.restartRunner
    true, .ingestAlert uuid' firing Workflow.stillClock Workflow.restartRunner]

/-- Two UUIDs that differ in their first digits; the task of the first incident begins. -/
theorem harmless_distinct :
    letI := Py.asciiTable
    let labels :=
      paymentAndOrder 0x00000001000040008000000000000000 0x00000002000040008000000000000000 ++ [.task 0 (.start ⟨0⟩)]
    ∃ store : IncidentStore Unit, Machine.run (step {}) {} labels = some store ∧ store.ids.length = 2 ∧
      Machine.Along (step {}) (Harmless {}) {} labels := by
  have hend : letI := Py.asciiTable
      ∃ store : IncidentStore Unit,
        Machine.run (step {}) {}
          (paymentAndOrder 0x00000001000040008000000000000000 0x00000002000040008000000000000000 ++
            [.task 0 (.start ⟨0⟩)]) = some store ∧
        store.ids.length = 2 := by decide +kernel
  let _ := Py.asciiTable
  intro labels
  obtain ⟨store, hrun, hlength⟩ := hend
  exact ⟨store, hrun, hlength, (harmless_iff _ store hrun).2 (by decide +kernel)⟩

/-- Two UUIDs that differ in their last digit only: the incident of the payment service is gone. -/
theorem harmful_collision :
    letI := Py.asciiTable
    ∃ store : IncidentStore Unit,
      Machine.run (step {}) {}
        (paymentAndOrder 0x00000001000040008000000000000001 0x00000001000040008000000000000002) = some store ∧
      store.ids = ["inc-00000001", "inc-00000001"] ∧ ¬ Kept store ∧
      (store.find "inc-00000001").map (fun found => found.2.affectedServices) = some ["order-service"] := by
  have hid : createIncidentId 0x00000001000040008000000000000001 = "inc-00000001" := by decide +kernel
  have hid' : createIncidentId 0x00000001000040008000000000000002 = "inc-00000001" := by decide +kernel
  let _ := Py.asciiTable
  refine ⟨_, rfl, ?_⟩
  have hids : ids (ingestAlert (createIncident {} 0x00000001000040008000000000000001 "High latency" .sev1
      ["payment-service"] "" true Workflow.stillClock Workflow.restartRunner true)
      0x00000001000040008000000000000002 firing Workflow.stillClock Workflow.restartRunner) =
      ["inc-00000001", "inc-00000001"] := by
    simp [ids, createIncident, ingestAlert, firing, hid, hid']
  refine ⟨hids, fun hkept => ?_, ?_⟩
  · have hnodup := hkept.nodup_ids
    rw [hids] at hnodup
    simp at hnodup
  · simp [find, createIncident, ingestAlert, firing, hid, hid', OpsPilot.createIncident]

end IncidentStore

end OpsPilot
