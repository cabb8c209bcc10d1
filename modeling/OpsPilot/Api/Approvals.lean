import OpsPilot.Agents
/-!
# Approvals (`IncidentService.get_approvals` and `submit_approval`)

Both work on the state that `_incidents` holds for the incident. A request names its action
either by the id or by `appr-` and the id, the first match of the plan counts, and a decision
is filed under the bare id; so two actions are confused when they share an id, and an action is
out of reach when an earlier one is called `appr-` and its id. `integrity_iff_distinct` says
that nothing else goes wrong.

| here | there |
| --- | --- |
| `IncidentState.getApprovals`   | `get_approvals` (incident_service.py:259) |
| `IncidentState.submitApproval` | `submit_approval` (incident_service.py:290), less the event |
-/
namespace OpsPilot

inductive ApproverRole where
  | viewer | operator | admin
deriving DecidableEq

def ApproverRole.name : ApproverRole → String
  | viewer => "VIEWER"
  | operator => "OPERATOR"
  | admin => "ADMIN"

/-- approval.py:9 -/
structure ApprovalDecisionRequest where
  decision : Decision
  approverId : String
  approverRole : ApproverRole := .operator
  reason : String
  modifiedParameters : Option (List (String × Json)) := none

/-- approval.py:21 -/
structure ApprovalRequestResponse where
  id : String
  incidentId : String
  actionId : String
  actionType : String
  targetService : String
  riskLevel : String
  status : String
  description : String
  rollbackPlan : String
  parameters : Json
  createdAt : Time
  respondedAt : Option Time := none
  approverId : Option String := none
  comment : Option String := none

/-- `f"appr-{a.action_id}"` -/
def RemediationAction.approvalId (a : RemediationAction) : String := "appr-" ++ a.actionId

/-- incident_service.py:302 -/
def RemediationAction.answersTo (approvalId : String) (a : RemediationAction) : Bool :=
  a.approvalId == approvalId || a.actionId == approvalId

/-- A call of `submit_approval` for the incident, and the time at which it is decided. -/
structure Submission where
  approvalId : String
  request : ApprovalDecisionRequest
  decidedAt : Time

namespace IncidentState

def decisionsByAction (state : IncidentState) : Dict String ApprovalDecision :=
  Dict.ofList (state.approvalDecisions.map fun d => (d.actionId, d))

/-- incident_service.py:269 -/
def approvalStatus (a : RemediationAction) : Option ApprovalDecision → String
  | some dec => dec.decision.name
  | none => if a.requiresApproval then "PENDING" else "AUTO_APPROVED"

/-- incident_service.py:271 -/
def listedApproval (state : IncidentState) (a : RemediationAction) : ApprovalRequestResponse :=
  let dec := state.decisionsByAction.get? a.actionId
  { id := a.approvalId, incidentId := state.incidentId, actionId := a.actionId, actionType := a.actionType.name,
    targetService := a.targetService, riskLevel := a.riskTier.name, status := approvalStatus a dec,
    description := a.description, rollbackPlan := a.rollbackPlan, parameters := a.parameters,
    createdAt := state.createdAt, respondedAt := dec.map ApprovalDecision.decidedAt,
    approverId := dec.map ApprovalDecision.decidedBy, comment := dec.map ApprovalDecision.reason }

/-- incident_service.py:259 -/
def getApprovals (state : IncidentState) : List ApprovalRequestResponse :=
  match state.remediationPlan with
  | none => []
  | some plan => plan.actions.map state.listedApproval

/-- The decision that is filed for the action (incident_service.py:328). -/
def decisionOn (targetAction : RemediationAction) (sub : Submission) : ApprovalDecision :=
  { actionId := targetAction.actionId, decision := sub.request.decision, decidedBy := sub.request.approverId,
    reason := sub.request.reason, modifiedParameters := sub.request.modifiedParameters,
    decidedAt := sub.decidedAt }

/-! ## What the listing shows -/

theorem getApprovals_getElem? {state : IncidentState} {plan : RemediationPlan}
    (hp : state.remediationPlan = some plan) (i : Nat) :
    state.getApprovals[i]? = plan.actions[i]?.map state.listedApproval := by
  simp only [getApprovals, hp, List.getElem?_map]

/-- Filing a decision changes what is listed under its action id. -/
theorem get?_decisionsByAction_concat (state : IncidentState) (d : ApprovalDecision) (id : String) :
    ({ state with approvalDecisions := state.approvalDecisions ++ [d] } : IncidentState).decisionsByAction.get? id =
      if d.actionId = id then some d else state.decisionsByAction.get? id := by
  simp only [decisionsByAction, Dict.get?_ofList, List.map_append, List.map_cons, List.map_nil,
    List.reverse_append, List.reverse_cons, List.reverse_nil, List.nil_append, List.cons_append, Dict.look]

theorem listedApproval_filed (state : IncidentState) (d : ApprovalDecision) (a : RemediationAction) :
    ({ state with approvalDecisions := state.approvalDecisions ++ [d] } : IncidentState).listedApproval a =
      if d.actionId = a.actionId then
        { state.listedApproval a with
          status := d.decision.name, respondedAt := some d.decidedAt, approverId := some d.decidedBy,
          comment := some d.reason }
      else state.listedApproval a := by
  simp only [listedApproval, get?_decisionsByAction_concat]
  split <;> rfl

theorem exists_decision_of_status {state : IncidentState} {a : RemediationAction}
    (h : (state.listedApproval a).status = "APPROVED" ∨ (state.listedApproval a).status = "MODIFIED") :
    ∃ d ∈ state.approvalDecisions, d.actionId = a.actionId := by
  simp only [listedApproval] at h
  cases hd : state.decisionsByAction.get? a.actionId with
  | none =>
    simp only [hd, approvalStatus] at h
    split at h <;> simp at h
  | some d =>
    simp only [decisionsByAction, Dict.get?_ofList] at hd
    have hmem := Dict.mem_of_look hd
    rw [List.mem_reverse, List.mem_map] at hmem
    obtain ⟨d', hd', he⟩ := hmem
    exact ⟨d', hd', congrArg Prod.fst he⟩

/-! ## Ids that can be told apart -/

/-- No two actions share an id, and none is called `appr-` and the id of a later one. -/
def DistinctIds (actions : List RemediationAction) : Prop :=
  actions.Pairwise fun earlier later => earlier.actionId ≠ later.actionId ∧ earlier.actionId ≠ later.approvalId

theorem approvalId_inj {a b : RemediationAction} :
    a.approvalId = b.approvalId ↔ a.actionId = b.actionId := by
  simp [RemediationAction.approvalId]

theorem DistinctIds.ne {actions : List RemediationAction} (h : DistinctIds actions) {i j : Nat}
    (hij : i ≠ j) {a b : RemediationAction} (ha : actions[i]? = some a) (hb : actions[j]? = some b) :
    a.actionId ≠ b.actionId := by
  obtain ⟨hi, rfl⟩ := List.getElem?_eq_some_iff.1 ha
  obtain ⟨hj, rfl⟩ := List.getElem?_eq_some_iff.1 hb
  have hp := List.pairwise_iff_getElem.1 h
  rcases Nat.lt_or_gt_of_ne hij with hlt | hgt
  · exact (hp i j hi hj hlt).1
  · exact (hp j i hj hi hgt).1.symm

/-- A listed id finds the action it is listed for. -/
theorem DistinctIds.find {actions : List RemediationAction} (h : DistinctIds actions)
    {a : RemediationAction} (ha : a ∈ actions) :
    actions.find? (RemediationAction.answersTo a.approvalId) = some a := by
  induction actions with
  | nil => cases ha
  | cons b actions ih =>
    obtain ⟨hb, htail⟩ := List.pairwise_cons.1 h
    rcases List.mem_cons.1 ha with rfl | hmem
    · exact List.find?_cons_of_pos (by simp [RemediationAction.answersTo])
    · obtain ⟨hne, hpre⟩ := hb a hmem
      have hskip : RemediationAction.answersTo a.approvalId b = false := by
        simp [RemediationAction.answersTo, approvalId_inj, hne, hpre]
      rw [List.find?_cons_of_neg (by simp [hskip])]
      exact ih htail hmem

/-- If every listed id finds its own action, and no other action has the id of the one it finds,
then the ids are distinct. -/
theorem distinctIds_of_find {actions : List RemediationAction}
    (h : ∀ (i : Nat) (a : RemediationAction), actions[i]? = some a →
      ∃ b, actions.find? (RemediationAction.answersTo a.approvalId) = some b ∧ b.actionId = a.actionId ∧
      ∀ (j : Nat) (c : RemediationAction), actions[j]? = some c → c.actionId = b.actionId → j = i) :
    DistinctIds actions := by
  refine List.pairwise_iff_getElem.2 fun i j hi hj hij => ⟨fun he => ?_, fun he => ?_⟩
  · obtain ⟨b, -, hid, hone⟩ := h i _ (List.getElem?_eq_getElem hi)
    exact absurd (hone j _ (List.getElem?_eq_getElem hj) (he ▸ hid.symm)) (by omega)
  · -- the first match of the later id is at its own place, but the earlier action matches too
    obtain ⟨b, hf, hid, hone⟩ := h j _ (List.getElem?_eq_getElem hj)
    obtain ⟨-, k, hk, rfl, hbefore⟩ := List.find?_eq_some_iff_getElem.1 hf
    obtain rfl := hone k _ (List.getElem?_eq_getElem hk) rfl
    have := hbefore i hij
    simp [RemediationAction.answersTo, he] at this

/-! ## Submitting -/

section
variable [Unicode]

/-- incident_service.py:290 -/
def submitApproval (state : IncidentState) (sub : Submission) :
    Except PyException (IncidentState × ApprovalRequestResponse) :=
  match state.remediationPlan with
  | none => .error (.valueError ("No remediation plan found for incident " ++ state.incidentId))
  | some plan =>
    match plan.actions.find? (RemediationAction.answersTo sub.approvalId) with
    | none =>
      .error (.valueError ("Approval " ++ sub.approvalId ++ " not found in incident " ++ state.incidentId))
    | some targetAction =>
      match state.approvalDecisions.find? fun d => d.actionId == targetAction.actionId with
      | some existing =>
        .error (.valueError ("Action [" ++ targetAction.actionId ++ "] was already " ++ existing.decision.name ++
          " by [" ++ existing.decidedBy ++ "]"))
      | none =>
        let (authorized, msg) := RiskPolicyEngine.authorizeApproval targetAction sub.request.approverRole.name
        if authorized then
          let decision := decisionOn targetAction sub
          .ok ({ state with approvalDecisions := state.approvalDecisions ++ [decision] },
            { id := sub.approvalId, incidentId := state.incidentId, actionId := targetAction.actionId,
              actionType := targetAction.actionType.name, targetService := targetAction.targetService,
              riskLevel := targetAction.riskTier.name, status := sub.request.decision.name,
              description := targetAction.description, rollbackPlan := targetAction.rollbackPlan,
              parameters := targetAction.parameters, createdAt := state.createdAt,
              respondedAt := some decision.decidedAt, approverId := some sub.request.approverId,
              comment := some sub.request.reason })
        else .error (.permissionError ("Authorization denied: " ++ msg))

/-- The submissions one after another; a refused one changes nothing. -/
def submitAll (state : IncidentState) (subs : List Submission) : IncidentState :=
  subs.foldl (fun st sub => match st.submitApproval sub with
    | .ok (st', _) => st'
    | .error _ => st) state

/-- The accepted ones among the submissions, with their responses. -/
def accepted (state : IncidentState) : List Submission → List (Submission × ApprovalRequestResponse)
  | [] => []
  | sub :: subs =>
    match state.submitApproval sub with
    | .ok (st', resp) => (sub, resp) :: accepted st' subs
    | .error _ => accepted state subs

/-! ## One submission -/

/-- What an accepted submission has found and what it leaves. -/
structure Accepts (state : IncidentState) (sub : Submission) (plan : RemediationPlan)
    (targetAction : RemediationAction) (state' : IncidentState) : Prop where
  planned : state.remediationPlan = some plan
  found : plan.actions.find? (RemediationAction.answersTo sub.approvalId) = some targetAction
  undecided : ∀ d ∈ state.approvalDecisions, d.actionId ≠ targetAction.actionId
  authorized : (RiskPolicyEngine.authorizeApproval targetAction sub.request.approverRole.name).1 = true
  filed : state' = { state with approvalDecisions := state.approvalDecisions ++ [decisionOn targetAction sub] }

theorem submitApproval_ok {state state' : IncidentState} {sub : Submission}
    {resp : ApprovalRequestResponse} (h : state.submitApproval sub = .ok (state', resp)) :
    ∃ plan targetAction, Accepts state sub plan targetAction state' ∧ resp.actionId = targetAction.actionId ∧
      resp.status = sub.request.decision.name := by
  unfold submitApproval at h
  cases hp : state.remediationPlan with
  | none => simp [hp] at h
  | some plan =>
    simp only [hp] at h
    cases hf : plan.actions.find? (RemediationAction.answersTo sub.approvalId) with
    | none => simp [hf] at h
    | some a =>
      simp only [hf] at h
      cases hd : state.approvalDecisions.find? fun d => d.actionId == a.actionId with
      | some existing => simp [hd] at h
      | none =>
        simp only [hd] at h
        split at h
        · rename_i ha
          simp only [Except.ok.injEq, Prod.mk.injEq] at h
          obtain ⟨rfl, rfl⟩ := h
          have hund : ∀ d ∈ state.approvalDecisions, d.actionId ≠ a.actionId := by
            intro d hmem
            have := List.find?_eq_none.1 hd d hmem
            simpa using this
          exact ⟨plan, a, ⟨hp, hf, hund, ha, by rw [hp]⟩, rfl, rfl⟩
        · cases h

theorem submitApproval_of_accepts {state state' : IncidentState} {sub : Submission}
    {plan : RemediationPlan} {a : RemediationAction} (h : Accepts state sub plan a state') :
    ∃ resp, state.submitApproval sub = .ok (state', resp) := by
  have hd : state.approvalDecisions.find? (fun d => d.actionId == a.actionId) = none :=
    List.find?_eq_none.2 fun d hmem => by simpa using h.undecided d hmem
  simp only [submitApproval, h.planned, h.found, hd, h.authorized, if_true, h.filed]
  exact ⟨_, rfl⟩

/-! ## Any sequence of submissions -/

@[simp] theorem submitAll_nil (state : IncidentState) : state.submitAll [] = state := rfl

/-- After any submissions the plan is the same, every accepted one was authorized for the action
it found, and every decision that is new was made by one of them. -/
theorem submitAll_spec {plan : RemediationPlan} (subs : List Submission) (state : IncidentState)
    (hp : state.remediationPlan = some plan) :
    (state.submitAll subs).remediationPlan = some plan ∧
      (∀ x ∈ state.accepted subs, ∃ b ∈ plan.actions, b.actionId = x.2.actionId ∧
        (RiskPolicyEngine.authorizeApproval b x.1.request.approverRole.name).1 = true) ∧
      ∀ d ∈ (state.submitAll subs).approvalDecisions, d ∈ state.approvalDecisions ∨
        ∃ x ∈ state.accepted subs, x.2.actionId = d.actionId := by
  induction subs generalizing state with
  | nil => exact ⟨hp, by simp [accepted], fun d hd => .inl hd⟩
  | cons sub subs ih =>
    cases hs : state.submitApproval sub with
    | error exc =>
      simp only [submitAll, List.foldl_cons, accepted, hs]
      exact ih state hp
    | ok r =>
      obtain ⟨st', resp⟩ := r
      obtain ⟨plan', a, hacc, hid, -⟩ := submitApproval_ok hs
      obtain rfl : plan' = plan := Option.some.inj (hacc.planned.symm.trans hp)
      obtain ⟨hp', hauth, hdec⟩ := ih st' (by rw [hacc.filed]; exact hp)
      simp only [submitAll, List.foldl_cons, accepted, hs] at *
      refine ⟨hp', fun x hx => ?_, fun d hd => ?_⟩
      · rcases List.mem_cons.1 hx with rfl | hx
        · exact ⟨a, List.mem_of_find?_eq_some hacc.found, hid.symm, hacc.authorized⟩
        · exact hauth x hx
      · rcases hdec d hd with hold | ⟨x, hx, he⟩
        · rw [hacc.filed] at hold
          rcases List.mem_append.1 hold with hold | hnew
          · exact .inl hold
          · obtain rfl := List.mem_singleton.1 hnew
            exact .inr ⟨_, List.mem_cons_self, hid⟩
        · exact .inr ⟨x, List.mem_cons_of_mem _ hx, he⟩

/-! ## Integrity -/

/-- After any submissions, what is listed as approved was decided by someone whose role suffices
for it, and submitting a listed id decides the action it is listed for and no other. -/
structure ApprovalIntegrity (state : IncidentState) : Prop where
  authorized : ∀ (subs : List Submission) (i : Nat) (a : RemediationAction) (resp : ApprovalRequestResponse),
    (state.submitAll subs).plannedActions[i]? = some a → (state.submitAll subs).getApprovals[i]? = some resp →
    resp.status = "APPROVED" ∨ resp.status = "MODIFIED" →
    (∃ x ∈ state.accepted subs, x.2.actionId = a.actionId) ∧
      ∀ x ∈ state.accepted subs, x.2.actionId = a.actionId →
        (RiskPolicyEngine.authorizeApproval a x.1.request.approverRole.name).1 = true
  separate : ∀ (subs : List Submission) (i : Nat) (listed : ApprovalRequestResponse) (sub : Submission)
      (state' : IncidentState) (resp : ApprovalRequestResponse),
    (state.submitAll subs).getApprovals[i]? = some listed → sub.approvalId = listed.id →
    (state.submitAll subs).submitApproval sub = .ok (state', resp) →
    ∀ (j : Nat) (r : ApprovalRequestResponse), state'.getApprovals[j]? = some r →
      if j = i then r.status = sub.request.decision.name
      else (state.submitAll subs).getApprovals[j]? = some r

theorem integrity_of_distinctIds {state : IncidentState} {plan : RemediationPlan}
    (hp : state.remediationPlan = some plan) (hnew : state.approvalDecisions = [])
    (h : DistinctIds plan.actions) : ApprovalIntegrity state where
  authorized := by
    intro subs i a resp ha hresp hst
    obtain ⟨hplan, hauth, hdec⟩ := submitAll_spec subs state hp
    rw [plannedActions, hplan] at ha
    rw [getApprovals_getElem? hplan, ha] at hresp
    cases hresp
    constructor
    · obtain ⟨d, hd, hid⟩ := exists_decision_of_status hst
      rcases hdec d hd with hold | ⟨x, hx, hxd⟩
      · rw [hnew] at hold
        cases hold
      · exact ⟨x, hx, hxd.trans hid⟩
    · intro x hx hid
      obtain ⟨b, hb, hbid, hrole⟩ := hauth x hx
      obtain ⟨j, hj⟩ := List.mem_iff_getElem?.1 hb
      by_cases hij : i = j
      · subst hij
        cases ha.symm.trans hj
        exact hrole
      · exact absurd (hid.symm.trans hbid.symm) (h.ne hij ha hj)
  separate := by
    intro subs i listed sub state' resp hlisted hsub hok j r hr
    obtain ⟨hplan, -, -⟩ := submitAll_spec subs state hp
    obtain ⟨plan', b, hacc, -, -⟩ := submitApproval_ok hok
    obtain rfl : plan' = plan := Option.some.inj (hacc.planned.symm.trans hplan)
    rw [getApprovals_getElem? hplan] at hlisted
    obtain ⟨a, ha, rfl⟩ := Option.map_eq_some_iff.1 hlisted
    obtain rfl : a = b := by
      have hf := hacc.found
      rw [hsub] at hf
      exact Option.some.inj ((h.find (List.mem_of_getElem? ha)).symm.trans hf)
    rw [getApprovals_getElem? (by rw [hacc.filed]; exact hplan)] at hr
    obtain ⟨c, hc, rfl⟩ := Option.map_eq_some_iff.1 hr
    rw [hacc.filed, listedApproval_filed]
    split
    · rename_i hji
      subst hji
      cases ha.symm.trans hc
      simp [decisionOn]
    · rename_i hji
      have hne : (decisionOn a sub).actionId ≠ c.actionId := h.ne (fun he => hji he.symm) ha hc
      simp only [hne, if_false]
      rw [getApprovals_getElem? hplan, hc]
      rfl

/-- An approval by an administrator, who may approve anything. -/
def adminApproves (approvalId : String) : Submission where
  approvalId := approvalId
  request := { decision := .approved, approverId := "", approverRole := .admin, reason := "" }
  decidedAt := ⟨0⟩

theorem distinctIds_of_integrity {state : IncidentState} {plan : RemediationPlan}
    (hp : state.remediationPlan = some plan) (hnew : state.approvalDecisions = [])
    (h : ApprovalIntegrity state) : DistinctIds plan.actions := by
  refine distinctIds_of_find fun i a ha => ?_
  -- an administrator approves what is listed at `i`
  have hsome : (plan.actions.find? (RemediationAction.answersTo a.approvalId)).isSome = true := by
    rw [List.find?_isSome]
    exact ⟨a, List.mem_of_getElem? ha, by simp [RemediationAction.answersTo]⟩
  obtain ⟨b, hb⟩ := Option.isSome_iff_exists.1 hsome
  refine ⟨b, hb, ?_⟩
  have hadmin : (RiskPolicyEngine.authorizeApproval b "ADMIN").1 = true := by
    rw [RiskPolicyEngine.authorizeApproval_iff]
    exact .inl RiskPolicyEngine.upper_admin
  let d := decisionOn b (adminApproves a.approvalId)
  let state' : IncidentState := { state with approvalDecisions := state.approvalDecisions ++ [d] }
  have hacc : Accepts state (adminApproves a.approvalId) plan b state' :=
    ⟨hp, hb, by simp [hnew], hadmin, rfl⟩
  obtain ⟨resp, hok⟩ := submitApproval_of_accepts hacc
  have hsep := h.separate [] i (state.listedApproval a) _ state' resp
    (by rw [submitAll_nil, getApprovals_getElem? hp, ha]; rfl) rfl hok
  have hlist : ∀ (j : Nat) (c : RemediationAction), plan.actions[j]? = some c →
      state'.getApprovals[j]? = some (state'.listedApproval c) := by
    intro j c hc
    rw [getApprovals_getElem? (show state'.remediationPlan = some plan from hp), hc]
    rfl
  -- nothing was approved before
  have hopen : ∀ c, (state.listedApproval c).status ≠ "APPROVED" := by
    intro c hst
    obtain ⟨e, he, -⟩ := exists_decision_of_status (.inl hst)
    rw [hnew] at he
    cases he
  have hstatus : ∀ c : RemediationAction, b.actionId = c.actionId → (state'.listedApproval c).status = "APPROVED" := by
    intro c hc
    have hd : d.actionId = c.actionId := hc
    simp only [state', listedApproval_filed, hd, if_true]
    rfl
  constructor
  · by_contra hne
    have := hsep i _ (hlist i a ha)
    have hd : ¬ d.actionId = a.actionId := hne
    simp only [if_true, state', listedApproval_filed, hd, if_false] at this
    exact hopen a this
  · intro j c hc hid
    by_contra hji
    have := hsep j _ (hlist j c hc)
    rw [if_neg hji, submitAll_nil, getApprovals_getElem? hp, hc] at this
    have heq : state.listedApproval c = state'.listedApproval c := Option.some.inj this
    exact hopen c (by rw [heq]; exact hstatus c hid.symm)

/-- **Approvals mean what they say exactly when the ids are distinct**, whatever plan the
remediation model has returned. -/
theorem integrity_iff_distinct (policyEngine : RiskPolicyEngine) (hypothesis : Hypothesis)
    (rawPlan : RemediationPlan) (state : IncidentState) :
    ApprovalIntegrity { state with
      remediationPlan := some (RemediationAgent.planRemediation policyEngine state.incidentId hypothesis rawPlan)
      approvalDecisions := [] } ↔ DistinctIds rawPlan.actions := by
  have hids : DistinctIds (RemediationAgent.planRemediation policyEngine state.incidentId hypothesis rawPlan).actions ↔
      DistinctIds rawPlan.actions := by
    simp only [DistinctIds, RemediationAgent.planRemediation, List.pairwise_map, RemediationAction.approvalId,
      RiskPolicyEngine.actionId_assess]
  rw [← hids]
  exact ⟨distinctIds_of_integrity rfl rfl, integrity_of_distinctIds rfl rfl⟩

end

/-- Two actions share an id: an operator approves the purge of a cache, and the critical rollback
of a deployment is listed as approved. -/
theorem operator_approves_critical :
    letI := Py.asciiTable
    let hypothesis : Hypothesis :=
      { id := "HYP-01", title := "", description := "", confidence := default, supportingEvidenceIds := [],
        reasoningSummary := "" }
    let purge : RemediationAction :=
      { actionId := "ACT-01", actionType := .clearCache, targetService := "payment-service", description := "",
        rationale := "", rollbackPlan := "" }
    let rawPlan : RemediationPlan :=
      { incidentId := "", hypothesisId := "", actions := [purge, { purge with actionType := .rollbackDeployment }],
        summary := "" }
    ¬ ApprovalIntegrity
      { incidentId := "inc-1", title := "", severity := .sev1, affectedServices := [], createdAt := ⟨0⟩
        remediationPlan := some (RemediationAgent.planRemediation {} "inc-1" hypothesis rawPlan) } := by
  intro hypothesis purge rawPlan h
  let _ := Py.asciiTable
  let state : IncidentState :=
    { incidentId := "inc-1", title := "", severity := .sev1, affectedServices := [], createdAt := ⟨0⟩
      remediationPlan := some (RemediationAgent.planRemediation {} "inc-1" hypothesis rawPlan) }
  let subs : List Submission :=
    [{ approvalId := "appr-ACT-01", request := { decision := .approved, approverId := "", reason := "" },
       decidedAt := ⟨0⟩ }]
  have hlisted : (state.submitAll subs).plannedActions[1]?.any (fun a =>
      (state.submitAll subs).getApprovals[1]?.any (fun resp => resp.status == "APPROVED") &&
        (state.accepted subs).any fun x => x.2.actionId == a.actionId &&
          !(RiskPolicyEngine.authorizeApproval a x.1.request.approverRole.name).1) = true := by decide +kernel
  obtain ⟨a, ha, hbad⟩ := (Option.any_eq_true _ _).1 hlisted
  simp only [Bool.and_eq_true, Option.any_eq_true, List.any_eq_true, beq_iff_eq, Bool.not_eq_true'] at hbad
  obtain ⟨⟨resp, hresp, hst⟩, x, hx, hid, hdenied⟩ := hbad
  have := (h.authorized subs 1 a resp ha hresp (.inl hst)).2 x hx hid
  rw [hdenied] at this
  cases this

end IncidentState

end OpsPilot
