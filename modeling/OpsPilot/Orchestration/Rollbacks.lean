import OpsPilot.Orchestration.Invocations
/-!
# Which actions are compensated

`execution_node` runs the whole plan, `verification_node` rolls back its last action at most.
`Compensated` is what a saga would have to achieve; `compensated_iff` says on which
verifications the run achieves it.
-/
namespace OpsPilot

/-- The actions, by their place in the plan, whose tool was called and reported a success. -/
def executedIdx (audit : List Invocation) : List Nat :=
  (audit.filter fun inv => inv.phase = .execute ∧ inv.call.status = .success).map Invocation.index

/-- The actions for which a compensating tool was called, in the order of the calls. -/
def compensatedIdx (audit : List Invocation) : List Nat :=
  (audit.filter fun inv => inv.phase = .compensate).map Invocation.index

/-- Exactly the executed actions have been compensated, later ones first. -/
structure Compensated (audit : List Invocation) : Prop where
  complete : ∀ i, i ∈ compensatedIdx audit ↔ i ∈ executedIdx audit
  reversed : (compensatedIdx audit).Pairwise (· > ·)

/-- The verifier calls for compensation. -/
def VerificationAssessment.flagged (a : VerificationAssessment) : Bool :=
  a.status = .degraded || a.rollbackRecommended

theorem compensated_iff_nil {audit : List Invocation} (h : compensatedIdx audit = []) :
    Compensated audit ↔ executedIdx audit = [] := by
  constructor
  · intro hc
    refine List.eq_nil_iff_forall_not_mem.2 fun i hi => ?_
    have := (hc.complete i).2 hi
    rw [h] at this
    cases this
  · intro he
    exact ⟨fun i => by rw [h, he], by rw [h]; exact List.Pairwise.nil⟩

theorem compensated_iff_singleton {audit : List Invocation} {last : Nat}
    (h : compensatedIdx audit = [last]) :
    Compensated audit ↔ executedIdx audit ≠ [] ∧ ∀ i ∈ executedIdx audit, i = last := by
  constructor
  · intro hc
    refine ⟨fun he => ?_, fun i hi => ?_⟩
    · have := (hc.complete last).1 (by simp [h])
      rw [he] at this
      cases this
    · have := (hc.complete i).2 hi
      simpa [h] using this
  · rintro ⟨hne, hlast⟩
    refine ⟨fun i => ?_, by simp [h]⟩
    rw [h, List.mem_singleton]
    refine ⟨?_, hlast i⟩
    rintro rfl
    obtain ⟨j, hj⟩ := List.exists_mem_of_ne_nil _ hne
    exact hlast j hj ▸ hj

namespace Workflow

variable {W : Type}

theorem compensatedIdx_record_execute (s : Workflow W) (index : Nat) (call : Option ToolCall) :
    compensatedIdx (s.record .execute index call).audit = compensatedIdx s.audit := by
  unfold record
  split
  · simp [compensatedIdx]
  · rfl

theorem executedIdx_record_compensate (s : Workflow W) (index : Nat) (call : Option ToolCall) :
    executedIdx (s.record .compensate index call).audit = executedIdx s.audit := by
  unfold record
  split
  · simp [executedIdx]
  · rfl

theorem compensatedIdx_record_compensate {s : Workflow W} {index : Nat}
    (h : index < s.graph.state.plannedActions.length) (call : ToolCall) :
    compensatedIdx (s.record .compensate index (some call)).audit =
      compensatedIdx s.audit ++ [index] := by
  simp [record, List.getElem?_eq_getElem h, compensatedIdx]

/-- What has been executed is the last action, if the verification compensates it, and nothing
otherwise. -/
def CompensatesAll [Unicode] (s : Workflow W) : Label W → Prop
  | .finish (.verification a) _ => a.flagged →
    if s.compensates a then
      executedIdx s.audit ≠ [] ∧ ∀ i ∈ executedIdx s.audit, i = s.graph.state.plannedActions.length - 1
    else executedIdx s.audit = []
  | _ => True

/-- Before the verification. -/
structure Uncompensated (H : List Reply) (audit : List Invocation) : Prop where
  unverified : ∀ a, .verification a ∉ H
  nothing : compensatedIdx audit = []

/-- Position by position, after the nodes in `H`; `A` says that every step so far has met
`CompensatesAll`. -/
def RollbackInv (H : List Reply) (A : Prop) (audit : List Invocation) : Position → Prop
  | .wrote .verification _ => Settled H A audit
  | .ended => Uncompensated H audit ∧ A ∨ Settled H A audit
  | _ => Uncompensated H audit ∧ A
where
  /-- After the verification. -/
  Settled (H : List Reply) (A : Prop) (audit : List Invocation) : Prop :=
    ∃ before a, H = before ++ [.verification a] ∧ (∀ b, .verification b ∉ before) ∧
      (A ↔ (a.flagged → Compensated audit))

theorem Uncompensated.concat {H : List Reply} {audit : List Invocation} (h : Uncompensated H audit)
    {r : Reply} (hr : ∀ a, r ≠ .verification a) : Uncompensated (H ++ [r]) audit := by
  refine ⟨fun a hmem => ?_, h.nothing⟩
  rcases List.mem_append.1 hmem with hold | hnew
  · exact h.unverified a hold
  · exact hr a (List.mem_singleton.1 hnew).symm

section
variable [Unicode] {policyEngine : RiskPolicyEngine}

/-- What the verification leaves in the audit. -/
theorem settled_verification {H : List Reply} {A A' : Prop} {s : Workflow W}
    {a : VerificationAssessment} {clock : Clock} {out : NodeOutcome W} (h : Uncompensated H s.audit)
    (hA : A) (hA' : A' ↔ A ∧ CompensatesAll s (.finish (.verification a) clock))
    (ho : verificationNode s.graph.state a s.runner clock = out) :
    RollbackInv.Settled (H ++ [.verification a]) A'
      (record { s with runner := out.runner } .compensate (s.graph.state.plannedActions.length - 1)
        out.call).audit := by
  refine ⟨H, a, rfl, h.unverified, ?_⟩
  simp only [hA', hA, true_and, CompensatesAll]
  refine imp_congr_right fun _ => ?_
  have hcall := isSome_call_verificationNode s a clock
  rw [ho] at hcall
  rw [← hcall]
  cases hc : out.call with
  | none =>
    rw [record_none]
    exact (compensated_iff_nil h.nothing).symm
  | some call =>
    -- there is a call, so there is an action that is rolled back
    have hpos : 0 < s.graph.state.plannedActions.length := by
      rw [hc, Option.isSome_some] at hcall
      obtain ⟨last, hlast, -⟩ := Option.any_eq_true _ _ |>.1 hcall.symm
      unfold rollbackTarget at hlast
      split at hlast
      · exact List.length_pos_of_mem (List.mem_of_getLast? hlast)
      · cases hlast
    have hidx := compensatedIdx_record_compensate (s := { s with runner := out.runner })
      (Nat.sub_one_lt_of_lt hpos) call
    rw [show compensatedIdx s.audit = [] from h.nothing, List.nil_append] at hidx
    rw [compensated_iff_singleton hidx, executedIdx_record_compensate]
    rfl

theorem rollback_move {as : List (Label W)} {A A' : Prop} {p p' : Position} {s s' : Workflow W}
    {l : Label W} (hI : RollbackInv (replies as) A s.audit p) (hA : A' ↔ A ∧ CompensatesAll s l)
    (hm : Move policyEngine p s l p' s') : RollbackInv (replies (as ++ [l])) A' s'.audit p' := by
  cases hm with
  | world w =>
    obtain rfl := Machine.step_met hA trivial
    rw [replies_concat_world]
    exact hI
  | collect a output clock hr =>
    obtain rfl := Machine.step_met hA trivial
    rw [replies_concat_finish]
    exact ⟨hI.1.concat (by simp), hI.2⟩
  | answer reply clock u ha =>
    rw [replies_concat_finish]
    cases reply with
    | analyst a output => exact ha.elim
    | verification assessment => exact ha.elim
    | raises n exc => exact ha.elim
    | _ =>
      obtain rfl := Machine.step_met hA trivial
      exact ⟨hI.1.concat (by simp), hI.2⟩
  | verify assessment clock out u ho hu =>
    rw [replies_concat_finish, audit_conclude]
    exact settled_verification hI.1 hI.2 hA ho
  | verifyRaises assessment clock out exc ho hu =>
    rw [replies_concat_finish, audit_conclude]
    exact .inr (settled_verification hI.1 hI.2 hA ho)
  | raises n exc clock hp hc =>
    obtain rfl := Machine.step_met hA trivial
    rw [replies_concat_finish]
    have hI : Uncompensated (replies as) s.audit ∧ A' := by
      rcases hp with rfl | rfl <;> exact hI
    exact .inl ⟨hI.1.concat (by simp), hI.2⟩
  | act clock action out res hi ho hres =>
    obtain rfl := Machine.step_met hA trivial
    rw [replies_concat_execute]
    refine ⟨⟨hI.1.unverified, ?_⟩, hI.2⟩
    rw [compensatedIdx_record_execute]
    exact hI.1.nothing
  | actRaises clock action out exc hi ho hres =>
    obtain rfl := Machine.step_met hA trivial
    rw [replies_concat_execute, audit_conclude]
    refine .inl ⟨⟨hI.1.unverified, ?_⟩, hI.2⟩
    rw [compensatedIdx_record_execute]
    exact hI.1.nothing
  | executed clock hi =>
    obtain rfl := Machine.step_met hA trivial
    rw [replies_concat_execute]
    exact hI
  | join order st' hc ha =>
    obtain rfl := Machine.step_met hA trivial
    rw [replies_concat_advance]
    exact hI
  | advance n u order hn hw =>
    obtain rfl := Machine.step_met hA trivial
    rw [replies_concat_advance]
    cases n with
    | critic =>
      simp only [Position.after]
      cases routeCriticDecision (u.apply s.graph.state) with
      | supervisor => exact hI
      | remediation => exact hI
      | complete => exact .inl hI
    | verification => exact .inr hI
    | analyst a => exact absurd ⟨a, rfl⟩ hn
    | _ => exact hI

/-- **Compensation is complete exactly when at most the last action was executed**: in a run
that has ended, a verification that calls for compensation finds everything compensated if and
only if what it found executed was what it rolled back. -/
theorem compensated_iff {st : IncidentState} (runner : Runner W) (as : List (Label W))
    (s : Workflow W) (hrun : Machine.run (step policyEngine) (init st runner) as = some s)
    (hover : s.graph.Over) :
    (∀ a, .verification a ∈ replies as → a.flagged → Compensated s.audit) ↔
      Machine.Along (step policyEngine) CompensatesAll (init st runner) as := by
  obtain ⟨p, hat, hI⟩ := run_position
    (J := fun as p s => RollbackInv (replies as)
      (Machine.Along (step policyEngine) CompensatesAll (init st runner) as) s.audit p)
    ⟨⟨fun a hmem => (List.not_mem_nil hmem).elim, rfl⟩, trivial⟩
    (fun as p s l p' s' hr hI hm => rollback_move hI (Machine.along_concat hr) hm) as s hrun
  obtain rfl := ended_of_over hat hover
  rcases hI with ⟨hun, hA⟩ | ⟨before, a, hH, hnew, hA⟩
  · exact ⟨fun _ => hA, fun _ a ha => absurd ha (hun.unverified a)⟩
  · rw [hA]
    constructor
    · intro h
      exact h a (by simp [hH])
    · intro h b hb
      rw [hH] at hb
      rcases List.mem_append.1 hb with hold | hnow
      · exact absurd hold (hnew b)
      · cases List.mem_singleton.1 hnow
        exact h

instance (s : Workflow W) : ∀ l : Label W, Decidable (CompensatesAll s l)
  | .finish (.verification a) _ => inferInstanceAs (Decidable (a.flagged → ite _ _ _))
  | .finish (.supervisor _) _ | .finish (.analyst _ _) _ | .finish .joinEvidence _ | .finish (.rca _) _
  | .finish (.critic _) _ | .finish (.remediationPlanning _) _ | .finish (.raises _ _) _
  | .execute _ | .advance _ | .world _ => isTrue trivial

end

/-- One action, rolled back. -/
theorem compensated_one_action :
    letI := Py.asciiTable
    ∃ s, Machine.run (step {}) (init (newIncident 3) restartRunner)
        (investigationRound [bareHypothesis] .approve ++ remediationRound [restartAction "ACT-01"] .degraded true) =
          some s ∧ executedIdx s.audit = [0] ∧ Compensated s.audit := by
  let as : List (Label Unit) :=
    investigationRound [bareHypothesis] .approve ++ remediationRound [restartAction "ACT-01"] .degraded true
  have halong : letI := Py.asciiTable
      Machine.Along (step {}) CompensatesAll (init (newIncident 3) restartRunner) as := by decide +kernel
  let _ := Py.asciiTable
  have hend : ∃ s, Machine.run (step {}) (init (newIncident 3) restartRunner) as = some s ∧
      s.graph.Over ∧ executedIdx s.audit = [0] := by decide +kernel
  obtain ⟨s, hs, hover, hex⟩ := hend
  have hcomp := (compensated_iff restartRunner as s hs hover).2 halong
    { status := .degraded, rollbackRecommended := true, explanation := "" }
    (by simp [as, replies, investigationRound, remediationRound, analysts]) rfl
  exact ⟨s, hs, hex, hcomp⟩

/-- Two actions are executed and the rollback is asked for: only the second is compensated. -/
theorem not_compensated_two_actions :
    letI := Py.asciiTable
    let cacheRestart : RemediationAction := { restartAction "ACT-02" with targetService := "cache" }
    ∃ s, Machine.run (step {}) (init (newIncident 3) restartRunner)
        (investigationRound [bareHypothesis] .approve ++
          remediationRound [restartAction "ACT-01", cacheRestart] .degraded true) = some s ∧
      s.graph.Over ∧ 0 ∈ executedIdx s.audit ∧ ¬ Compensated s.audit := by
  intro cacheRestart
  let as : List (Label Unit) := investigationRound [bareHypothesis] .approve ++
    remediationRound [restartAction "ACT-01", cacheRestart] .degraded true
  have hend : letI := Py.asciiTable
      ∃ s, Machine.run (step {}) (init (newIncident 3) restartRunner) as = some s ∧
        s.graph.Over ∧ executedIdx s.audit = [0, 1] ∧ compensatedIdx s.audit = [1] := by decide +kernel
  obtain ⟨s, hs, hover, hex, hcomp⟩ := hend
  refine ⟨s, hs, hover, by simp [hex], fun h => ?_⟩
  have := (h.complete 0).2 (by simp [hex])
  simp [hcomp] at this

end Workflow

end OpsPilot
