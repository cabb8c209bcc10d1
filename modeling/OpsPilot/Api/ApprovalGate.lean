import OpsPilot.Api.Mirror
import OpsPilot.Orchestration.Invocations
/-!
# Are tools only called for approved actions?

Nothing in the workflow reads the decisions, so it is up to the moment at which they are filed. What would be
enough is a gate between `remediation_planning` and `execution` (graph.py:390): `approval_gate` says so for
every run that passes there with an approved plan only, `advance_unapproved` that a run which does not can
call a tool unasked.

`ConsentInv` keeps, next to the run, that every call so far has found the decision it needed; decisions are
only added, one per action, so a later one cannot take it back.
-/
namespace OpsPilot

/-- An `APPROVED` or `MODIFIED` decision on the action is among these. -/
def Consents (decisions : List ApprovalDecision) (action : RemediationAction) : Prop :=
  ∃ d ∈ decisions, d.actionId = action.actionId ∧ d.decision ≠ .rejected

instance (decisions : List ApprovalDecision) (action : RemediationAction) :
    Decidable (Consents decisions action) :=
  inferInstanceAs (Decidable (∃ d ∈ decisions, _ ∧ _))

@[simp] theorem FieldUpdate.approvalDecisions_merge (f : FieldUpdate) (st : IncidentState) :
    (f.merge st).approvalDecisions = st.approvalDecisions := by
  cases f <;> rfl

namespace Investigation

variable {W : Type}

/-- Every tool call for an action that needs approval has found it approved, and no action that
a tool was called for is rejected, then or later. -/
structure ApprovalGate (s : Investigation W) : Prop where
  approved : ∀ x ∈ s.invocations, x.1.action.requiresApproval = true → Consents x.2 x.1.action
  notRejected : ∀ inv ∈ s.workflow.audit, ∀ d ∈ s.incident.approvalDecisions,
    d.actionId = inv.action.actionId → d.decision ≠ .rejected

/-- The action that this step calls a tool for has been approved. -/
def ApprovedFirst [Unicode] (s : Investigation W) : Label W → Prop
  | .graph l => ∀ action ∈ s.workflow.invokes l, Consents s.incident.approvalDecisions action
  | _ => True

structure ConsentInv (s : Investigation W) : Prop where
  audit : s.invocations.map Prod.fst = s.workflow.audit
  before : ∀ x ∈ s.invocations, x.2 ⊆ s.incident.approvalDecisions
  unique : (s.incident.approvalDecisions.map ApprovalDecision.actionId).Nodup
  consented : ∀ x ∈ s.invocations, Consents x.2 x.1.action

/-- What touches neither the calls nor the decisions. -/
theorem ConsentInv.frame {s s' : Investigation W} (h : ConsentInv s)
    (hinv : s'.invocations = s.invocations) (hwf : s'.workflow = s.workflow)
    (hdec : s'.incident.approvalDecisions = s.incident.approvalDecisions) : ConsentInv s' where
  audit := by rw [hinv, hwf, h.audit]
  before := by rw [hinv, hdec]; exact h.before
  unique := by rw [hdec]; exact h.unique
  consented := by rw [hinv]; exact h.consented

theorem ConsentInv.gate {s : Investigation W} (h : ConsentInv s) : ApprovalGate s := by
  refine ⟨fun x hx _ => h.consented x hx, fun inv hinv d hd hid => ?_⟩
  rw [← h.audit] at hinv
  obtain ⟨x, hx, rfl⟩ := List.mem_map.1 hinv
  -- the decision that approved the call is the only one on its action
  obtain ⟨e, he, heid, hok⟩ := h.consented x hx
  obtain rfl : d = e := List.inj_on_of_nodup_map h.unique hd (h.before x hx he) (hid.trans heid.symm)
  exact hok

theorem approvalDecisions_perform (s : Investigation W) (now : Time) (e : Effect) :
    (s.perform now e).incident.approvalDecisions = s.incident.approvalDecisions := by
  cases e with
  | merge f => exact f.approvalDecisions_merge _
  | _ => rfl

theorem invocations_perform (s : Investigation W) (now : Time) (e : Effect) :
    (s.perform now e).invocations = s.invocations := by
  cases e <;> rfl

section
variable [Unicode] {policyEngine : RiskPolicyEngine}

/-- The workflow calls a tool, or none. -/
theorem consent_follow {s : Investigation W} {l : Workflow.Label W} {wf : Workflow W} (h : ConsentInv s)
    (happroved : ApprovedFirst s (.graph l)) (hst : s.workflow.step policyEngine l = some wf) :
    ConsentInv (s.follow wf) := by
  obtain ⟨new, hnew, hact⟩ := Workflow.audit_step hst
  have hinv : (s.follow wf).invocations =
      s.invocations ++ new.map fun inv => (inv, s.incident.approvalDecisions) := by
    simp [follow, hnew]
  -- the new calls are for the action that `invokes` names
  have hmem : ∀ inv ∈ new, s.workflow.invokes l = some inv.action := by
    intro inv hi
    have : inv.action ∈ (s.workflow.invokes l).toList := hact ▸ List.mem_map_of_mem hi
    exact Option.mem_toList.1 this
  refine ⟨?_, ?_, h.unique, ?_⟩
  · have hwf : (s.follow wf).workflow.audit = s.workflow.audit ++ new := hnew
    rw [hinv, hwf, List.map_append, h.audit]
    simp [Function.comp_def]
  · rw [hinv]
    intro x hx
    rcases List.mem_append.1 hx with hold | hx
    · exact h.before x hold
    · obtain ⟨inv, hi, rfl⟩ := List.mem_map.1 hx
      exact fun d hd => hd
  · rw [hinv]
    intro x hx
    rcases List.mem_append.1 hx with hold | hx
    · exact h.consented x hold
    · obtain ⟨inv, hi, rfl⟩ := List.mem_map.1 hx
      exact happroved _ (hmem inv hi)

/-- A decision is filed for an action that had none. -/
theorem consent_file {s : Investigation W} {sub : Submission} {incident : IncidentState}
    {resp : ApprovalRequestResponse} (h : ConsentInv s)
    (hok : s.incident.submitApproval sub = .ok (incident, resp)) :
    ConsentInv (s.file incident) := by
  obtain ⟨plan, a, hacc, -⟩ := IncidentState.submitApproval_ok hok
  obtain rfl := hacc.filed
  refine ⟨h.audit, fun x hx d hd => List.mem_append_left _ (h.before x hx hd), ?_, h.consented⟩
  simp only [file, List.map_append, List.map_cons, List.map_nil]
  refine List.nodup_append.2 ⟨h.unique, by simp, ?_⟩
  rintro id hid id' hid' rfl
  obtain ⟨d, hd, rfl⟩ := List.mem_map.1 hid
  exact hacc.undecided d hd (List.mem_singleton.1 hid')

theorem consent_move {s s' : Investigation W} {l : Label W} (h : ConsentInv s) (happroved : ApprovedFirst s l)
    (hm : Move policyEngine s l s') : ConsentInv s' := by
  cases hm with
  | graph l wf hp hl hst => exact consent_follow h happroved hst
  | accept sub incident resp hok => exact consent_file h hok
  | effect now e effects he =>
    exact h.frame (invocations_perform _ now e) (workflow_perform _ now e) (approvalDecisions_perform _ now e)
  | exhausted hp hend =>
    unfold conclude
    split
    · exact h.frame rfl rfl rfl
    · exact h.frame rfl rfl rfl
  | _ => exact h.frame rfl rfl rfl

end

/-! ## A gate before the execution -/

/-- The barrier to the execution is only taken once every action of the plan that needs approval has it. -/
def HoldsForApproval (s : Investigation W) : Label W → Prop
  | .graph (.advance _) => Node.remediationPlanning ∈ s.workflow.graph.active →
    ∀ action ∈ s.incident.plannedActions, action.requiresApproval = true →
      Consents s.incident.approvalDecisions action
  | _ => True

instance (s : Investigation W) : DecidablePred s.HoldsForApproval
  | .graph (.advance _) =>
    inferInstanceAs (Decidable (Node.remediationPlanning ∈ s.workflow.graph.active →
      ∀ action ∈ s.incident.plannedActions, action.requiresApproval = true →
        Consents s.incident.approvalDecisions action))
  | .graph (.finish _ _) | .graph (.execute _) | .graph (.world _) | .start _ | .consume | .effect _ | .exhausted
  | .index _ | .handle | .submitApproval _ | .announce _ => isTrue trivial

/-- What the graph plans has been approved. -/
def PlanApproved (s : Investigation W) : Prop :=
  ∀ action ∈ s.workflow.graph.state.plannedActions, Consents s.incident.approvalDecisions action

/-- From its execution on the plan is approved, and stays what it is. -/
def GateInv (s : Investigation W) : Position → Prop
  | .waiting .execution | .waiting .verification => s.PlanApproved
  | .wrote .execution u => s.PlanApproved ∧ ∀ st, (u.apply st).plannedActions = st.plannedActions
  | _ => True

/-- What leaves the graph and takes no decision back. -/
theorem GateInv.mono {s s' : Investigation W} {p : Position} (h : GateInv s p) (hwf : s'.workflow = s.workflow)
    (hdec : s.incident.approvalDecisions ⊆ s'.incident.approvalDecisions) : GateInv s' p := by
  have hplan : s.PlanApproved → s'.PlanApproved := by
    intro hs action hmem
    rw [hwf] at hmem
    obtain ⟨d, hd, hok⟩ := hs action hmem
    exact ⟨d, hdec hd, hok⟩
  cases p with
  | waiting n => cases n <;> first | exact hplan h | trivial
  | wrote n u => cases n <;> first | exact ⟨hplan h.1, h.2⟩ | trivial
  | _ => trivial

section
variable [Unicode] {policyEngine : RiskPolicyEngine}

/-- Where a tool may be called, the plan is approved. -/
theorem approvedFirst_of_gate {s : Investigation W} {p p' : Position} {l : Workflow.Label W} {wf : Workflow W}
    (h : GateInv s p) (hm : Workflow.Move policyEngine p s.workflow l p' wf) : ApprovedFirst s (.graph l) := by
  intro action hact
  have hplanned := Workflow.invokes_mem hact
  cases hm with
  | verify assessment clock out u ho hu => exact h action hplanned
  | verifyRaises assessment clock out exc ho hu => exact h action hplanned
  | act clock action' out res hi ho hres => exact h action hplanned
  | actRaises clock action' out exc hi ho hres => exact h action hplanned
  | executed clock hi => exact h action hplanned
  | answer reply clock u ha => cases reply <;> first | exact ha.elim | cases hact
  | _ => cases hact

/-- A step of the graph; `hpass` is what the barrier to the execution has to find. -/
theorem gate_follow {s : Investigation W} {p p' : Position} {l : Workflow.Label W} {wf : Workflow W}
    (h : GateInv s p) (hm : Workflow.Move policyEngine p s.workflow l p' wf)
    (hpass : ∀ order, l = .advance order → Node.remediationPlanning ∈ s.workflow.graph.active →
      (s.follow wf).PlanApproved) :
    GateInv (s.follow wf) p' := by
  have hsame : wf.graph.state = s.workflow.graph.state → s.PlanApproved → (s.follow wf).PlanApproved := by
    intro hstate hs action hmem
    refine hs action ?_
    rw [← hstate]
    exact hmem
  cases hm with
  | world w =>
    cases p with
    | waiting n => cases n <;> exact h
    | wrote n u => cases n <;> exact h
    | _ => trivial
  | answer reply clock u ha =>
    cases reply with
    | analyst a output => exact ha.elim
    | verification assessment => exact ha.elim
    | raises n exc => exact ha.elim
    | _ => trivial
  | act clock action out res hi ho hres => exact hsame (by simp) h
  | executed clock hi =>
    refine ⟨h, fun st => ?_⟩
    unfold executionUpdate
    split <;> rfl
  | advance n u order hn hw =>
    cases n with
    | critic =>
      simp only [Position.after]
      split <;> trivial
    | remediationPlanning => exact hpass order rfl (by simp [Superstep.active, hw])
    | execution =>
      intro action hmem
      exact h.1 action ((h.2 _) ▸ hmem)
    | _ => trivial
  | _ => trivial

/-- After the barrier the graph plans what is served. -/
theorem planned_follow {st : IncidentState} {runner : Runner W} {as : List (Label W)} {s : Investigation W}
    (hrun : Machine.run (step policyEngine) (init st runner) as = some s) (hp : s.phase = .running)
    (hcaught : s.caughtUp = true) {order : List Node} {wf : Workflow W}
    (hst : s.workflow.step policyEngine (.advance order) = some wf) :
    s.incident.plannedActions = wf.graph.state.plannedActions := by
  obtain ⟨g, hg, hwf⟩ := Option.map_eq_some_iff.1 hst
  obtain ⟨-, hwrites, -, hempty, -⟩ := Superstep.barrier_eq_some hg
  have hraised : s.workflow.raised = none := by
    refine Option.eq_none_iff_forall_ne_some.2 fun exc hexc => hwrites ?_
    exact (Workflow.over_of_raised (run_workflow hrun) (by rw [hexc]; rfl)).2
  have hrun' : Machine.run (step policyEngine) (init st runner) (as ++ [.graph (.advance order)]) =
      some (s.follow wf) := by
    refine Machine.run_concat_some.2 ⟨s, hrun, ?_⟩
    simp [step, hp, hcaught, hst]
  have hmirrors := mirrors_boundary hrun' (s := s.follow wf) ⟨hp, ?_, ?_, ?_⟩
  · have hplan : s.incident.remediationPlan = wf.graph.state.remediationPlan := hmirrors.remediationPlan
    rw [IncidentState.plannedActions, hplan]
    rfl
  · rw [← hwf]
    exact hcaught
  · rw [← hwf]
    exact hempty
  · rw [← hwf]
    exact hraised

/-- What a step of the service keeps, and that it only calls a tool for an approved action. -/
theorem gate_move {st : IncidentState} (hfresh : st.Fresh) {runner : Runner W} {as : List (Label W)}
    {s s' : Investigation W} {l : Label W} {p : Position}
    (hrun : Machine.run (step policyEngine) (init st runner) as = some s)
    (hst : s.step policyEngine l = some s') (hat : s.workflow.At p) (h : GateInv s p) (hholds : HoldsForApproval s l) :
    (∃ p', s'.workflow.At p' ∧ GateInv s' p') ∧ ApprovedFirst s l := by
  cases move_of_step hst with
  | graph l wf hp hl hwf =>
    obtain ⟨p', hm, hat'⟩ := Workflow.move_of_step hat hwf
    refine ⟨⟨p', hat', gate_follow h hm ?_⟩, approvedFirst_of_gate h hm⟩
    rintro order rfl hplanning action hmem
    have hsame := planned_follow hrun hp (hl rfl) hwf
    have hneeds := Workflow.requiresApproval_planned hfresh (run_workflow (Machine.run_concat_some.2 ⟨s, hrun, hst⟩))
    exact hholds hplanning action (hsame ▸ hmem) (hneeds action hmem)
  | effect now e effects he =>
    refine ⟨⟨p, ?_, h.mono (workflow_perform _ now e) ?_⟩, trivial⟩
    · rw [workflow_perform]
      exact hat
    · rw [approvalDecisions_perform]
      exact List.Subset.refl _
  | exhausted hp hend =>
    refine ⟨⟨p, ?_, h.mono (workflow_conclude s) ?_⟩, trivial⟩
    · rw [workflow_conclude]
      exact hat
    · rw [incident_conclude]
      exact List.Subset.refl _
  | accept sub incident resp hok =>
    obtain ⟨plan, action, hacc, -, -⟩ := IncidentState.submitApproval_ok hok
    refine ⟨⟨p, hat, h.mono rfl ?_⟩, trivial⟩
    show _ ⊆ incident.approvalDecisions
    rw [hacc.filed]
    exact List.subset_append_left _ _
  | _ => exact ⟨⟨p, hat, h.mono rfl (List.Subset.refl _)⟩, trivial⟩

theorem gate_run {st : IncidentState} (hfresh : st.Fresh) {runner : Runner W} {as : List (Label W)}
    {s : Investigation W} (hrun : Machine.run (step policyEngine) (init st runner) as = some s)
    (hholds : Machine.Along (step policyEngine) HoldsForApproval (init st runner) as) :
    (∃ p, s.workflow.At p ∧ GateInv s p) ∧ ConsentInv s := by
  refine Machine.run_induction_along (P := fun _ s => (∃ p, s.workflow.At p ∧ GateInv s p) ∧ ConsentInv s)
    ?_ ?_ as s hrun hholds
  · refine ⟨⟨.waiting .supervisor, ⟨rfl, rfl, by rintro ⟨a, ⟨⟩⟩⟩, trivial⟩, rfl, by simp [init], ?_, by simp [init]⟩
    have hst : (init st runner).incident = st := rfl
    rw [hst, hfresh.approvalDecisions]
    exact List.nodup_nil
  · rintro as s l s' hr ⟨⟨p, hat, hI⟩, hconsent⟩ hC hst
    obtain ⟨hgate, happroved⟩ := gate_move hfresh hr hst hat hI hC
    exact ⟨hgate, consent_move hconsent happroved (move_of_step hst)⟩

/-- **A gate before the execution would be enough**: in every run that passes from the planning to the execution
only with an approved plan, every call has found its approval, and no action that was called is rejected. -/
theorem approval_gate {st : IncidentState} (hfresh : st.Fresh) (runner : Runner W) (as : List (Label W))
    (s : Investigation W) (hrun : Machine.run (step policyEngine) (init st runner) as = some s)
    (hholds : Machine.Along (step policyEngine) HoldsForApproval (init st runner) as) : ApprovalGate s :=
  (gate_run hfresh hrun hholds).2.gate

/-- And nothing less would: with an action in front that is not approved and can be called, the run that passes
may go on to call its tool. -/
theorem advance_unapproved {s : Investigation W} {order : List Node} {wf : Workflow W} {action : RemediationAction}
    (hp : s.phase = .running) (hcaught : s.caughtUp = true)
    (hst : s.workflow.step policyEngine (.advance order) = some wf) (hex : Node.execution ∈ wf.graph.running)
    (hfirst : wf.graph.state.plannedActions.head? = some action) (hneeds : action.requiresApproval = true)
    (hno : ¬ Consents s.incident.approvalDecisions action) (hreach : wf.runner.reaches action "OPERATOR" = true)
    (clock : Clock) :
    ∃ s', Machine.run (step policyEngine) s [.graph (.advance order), .graph (.execute clock)] = some s' ∧
      ¬ ApprovalGate s' := by
  have hframe : wf.frame.results = [] := by
    obtain ⟨g, -, rfl⟩ := Option.map_eq_some_iff.1 hst
    rfl
  obtain ⟨wf', hst'⟩ : ∃ wf', wf.step policyEngine (.execute clock) = some wf' := by
    simp only [Workflow.step, Workflow.execute, if_pos hex]
    split
    · split
      · exact ⟨_, rfl⟩
      · exact ⟨_, rfl⟩
    · exact ⟨_, rfl⟩
  obtain ⟨new, hnew, hact⟩ := Workflow.audit_step hst'
  have hinvokes : wf.invokes (.execute clock) = some action := by
    simp only [Workflow.invokes, hframe, List.length_nil, ← List.head?_eq_getElem?, hfirst]
    simp [Option.filter, hreach]
  rw [hinvokes] at hact
  obtain ⟨inv, rfl⟩ : ∃ inv, new = [inv] := List.length_eq_one_iff.1 (by simpa using congrArg List.length hact)
  obtain rfl : inv.action = action := by simpa using hact
  refine ⟨(s.follow wf).follow wf', ?_, fun hgate => hno ?_⟩
  · have hbarrier : s.step policyEngine (.graph (.advance order)) = some (s.follow wf) := by
      simp [step, hp, hcaught, hst]
    have hexecute : (s.follow wf).step policyEngine (.graph (.execute clock)) = some ((s.follow wf).follow wf') := by
      have hphase : (s.follow wf).phase = .running := hp
      have hwf : (s.follow wf).workflow = wf := rfl
      simp [step, hphase, hwf, hst', Workflow.Label.isAdvance]
    rw [Machine.run_cons_of_step hbarrier, Machine.run_cons_of_step hexecute]
    rfl
  · refine hgate.approved (inv, s.incident.approvalDecisions) ?_ hneeds
    have hmem : (inv, s.incident.approvalDecisions) ∈
        (wf'.audit.drop wf.audit.length).map fun inv => (inv, s.incident.approvalDecisions) := by
      rw [hnew]
      simp
    exact List.mem_append_right _ hmem

end

/-- An operator approves the action before it is executed. -/
theorem approval_gate_approved :
    letI := Py.asciiTable
    let remediation := Workflow.remediationRound [Workflow.restartAction "ACT-01"] .recovered false
    let approval : Submission :=
      { approvalId := "appr-ACT-01"
        request := { decision := .approved, approverId := "", approverRole := .admin, reason := "" }
        decidedAt := ⟨0⟩ }
    let planned : List (Label Unit) := .start ⟨0⟩ ::
      served (Workflow.investigationRound [Workflow.bareHypothesis] .approve ++ remediation.take 2)
    ∃ s, Machine.run (step {}) (init (Workflow.newIncident 3) Workflow.restartRunner)
        (planned.dropLast ++ [.submitApproval approval, .graph (.advance [.remediationPlanning])] ++
          served (remediation.drop 2)) = some s ∧
      s.workflow.audit.length = 1 ∧ ApprovalGate s := by
  intro remediation approval planned
  let as : List (Label Unit) :=
    planned.dropLast ++ [.submitApproval approval, .graph (.advance [.remediationPlanning])] ++
      served (remediation.drop 2)
  have hend : letI := Py.asciiTable
      (∃ s, Machine.run (step {}) (init (Workflow.newIncident 3) Workflow.restartRunner) as = some s ∧
        s.workflow.audit.length = 1) ∧
      Machine.Along (step {}) HoldsForApproval (init (Workflow.newIncident 3) Workflow.restartRunner) as := by
    decide +kernel
  let _ := Py.asciiTable
  obtain ⟨⟨s, hs, hlen⟩, hholds⟩ := hend
  exact ⟨s, hs, hlen, approval_gate (Workflow.fresh_newIncident 3) Workflow.restartRunner as s hs hholds⟩

/-- Nobody decides anything, and the service is restarted. -/
theorem restarted_without_approval :
    letI := Py.asciiTable
    ∃ s, Machine.run (step {}) (init (Workflow.newIncident 3) Workflow.restartRunner)
        (.start ⟨0⟩ :: served (Workflow.investigationRound [Workflow.bareHypothesis] .approve ++
          Workflow.remediationRound [Workflow.restartAction "ACT-01"] .recovered false)) = some s ∧
      ¬ ApprovalGate s := by
  let as : List (Label Unit) := .start ⟨0⟩ :: served (Workflow.investigationRound [Workflow.bareHypothesis] .approve ++
    Workflow.remediationRound [Workflow.restartAction "ACT-01"] .recovered false)
  have hend : letI := Py.asciiTable
      ∃ s, Machine.run (step {}) (init (Workflow.newIncident 3) Workflow.restartRunner) as = some s ∧
        ∃ x ∈ s.invocations, x.1.action.requiresApproval = true ∧ ¬ Consents x.2 x.1.action := by
    decide +kernel
  obtain ⟨s, hs, x, hx, hwaits, hno⟩ := hend
  exact ⟨s, hs, fun h => hno (h.approved x hx hwaits)⟩

end Investigation

end OpsPilot
