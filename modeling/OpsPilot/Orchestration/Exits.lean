import OpsPilot.Orchestration.Moves
/-!
# How a run ends

A run ends when a node raises, when the critic leads nowhere, or after the verification.
`lastStage` is the stage that whoever follows the stream of updates has seen last; the ends that
the service turns into a termination event are those with an exception and those with `RESOLVED`.
`signalled_iff` says on which steps it depends that a run ends so.
-/
namespace OpsPilot

/-- The stage after an item, from `v` before it. -/
def FieldUpdate.stage (v : IncidentStage) : FieldUpdate → IncidentStage
  | currentStage v' => v'
  | _ => v

@[simp] theorem FieldUpdate.currentStage_apply (f : FieldUpdate) (st : IncidentState) :
    (f.apply st).currentStage = f.stage st.currentStage := by
  cases f <;> rfl

def NodeUpdate.stage (v : IncidentStage) (u : NodeUpdate) : IncidentStage :=
  u.foldl FieldUpdate.stage v

/-- The stage after a stream of updates, from the one an incident is created with. -/
def lastStage (streamed : List (Node × NodeUpdate)) : IncidentStage :=
  streamed.foldl (fun v x => NodeUpdate.stage v x.2) .created

theorem lastStage_concat (streamed : List (Node × NodeUpdate)) (n : Node) (u : NodeUpdate) :
    lastStage (streamed ++ [(n, u)]) = NodeUpdate.stage (lastStage streamed) u := by
  simp [lastStage]

namespace Workflow

variable {W : Type}

/-- The run has ended in a way that the service announces. -/
def Signalled (s : Workflow W) : Prop := s.raised.isSome ∨ lastStage s.streamed = .resolved

/-- The critic leads on, and the verification finds a recovery with nothing to roll back, or its
rollback raises. -/
def LeadsToSignal [Unicode] (s : Workflow W) : Label W → Prop
  | .advance _ =>
    match s.graph.writes with
    | [(.critic, u)] => routeCriticDecision (u.apply s.graph.state) ≠ .complete
    | _ => True
  | .finish (.verification a) clock =>
    match rollbackTarget s.graph.state a with
    | some last => (s.runner.executeRollback last "OPERATOR" clock).result.toOption.isNone
    | none => a.status = .recovered
  | _ => True

/-- Position by position; `A` says that every step so far has met `LeadsToSignal`. -/
def ExitInv (A : Prop) (s : Workflow W) : Position → Prop
  | .wrote .critic _ => s.raised = none ∧ A ∧ lastStage s.streamed = .critiquing
  | .wrote .verification _ => s.raised = none ∧ (A ↔ lastStage s.streamed = .resolved)
  | .ended => A ↔ s.Signalled
  | _ => s.raised = none ∧ A

theorem ExitInv.waiting {A : Prop} {s : Workflow W} {n : Node} (h : ExitInv A s (.waiting n)) :
    s.raised = none ∧ A := h

theorem signalled_of_raised {A : Prop} {s : Workflow W} (hA : A) (h : s.raised.isSome) :
    A ↔ s.Signalled :=
  ⟨fun _ => .inl h, fun _ => hA⟩

section
variable [Unicode] {policyEngine : RiskPolicyEngine}

/-- A step only adds to what is streamed. -/
theorem streamed_step {s s' : Workflow W} {l : Label W} (h : s.step policyEngine l = some s') :
    ∃ new, s'.streamed = s.streamed ++ new := by
  rcases step_cases h with ⟨t, -, ht, rfl | ⟨n, exc | u, rfl⟩⟩ | ⟨order, g, -, rfl⟩
  · exact ⟨[], by simp [ht]⟩
  · exact ⟨[], by simp [conclude, ht]⟩
  · exact ⟨[(n, u)], by rw [streamed_conclude, ht]⟩
  · exact ⟨[], by simp⟩

/-- What the verification's own condition means for its update. -/
theorem leadsToSignal_verify {s : Workflow W} {a : VerificationAssessment} {clock : Clock}
    {u : NodeUpdate} {streamed : List (Node × NodeUpdate)}
    (hu : (verificationNode s.graph.state a s.runner clock).result = .ok u) :
    LeadsToSignal s (.finish (.verification a) clock) ↔
      lastStage (streamed ++ [(.verification, u)]) = .resolved := by
  have hok := hu
  obtain ⟨tl, rfl⟩ := verificationNode_ok hu
  rw [lastStage_concat]
  simp only [LeadsToSignal, NodeUpdate.stage, List.foldl_cons, List.foldl_nil, FieldUpdate.stage]
  cases ht : rollbackTarget s.graph.state a with
  | none => by_cases hr : a.status = .recovered <;> simp [hr]
  | some last =>
    -- the node has not raised, so neither has the rollback
    cases hres : (s.runner.executeRollback last "OPERATOR" clock).result with
    | error exc => cases hok.symm.trans (verificationNode_error_iff.2 ⟨last, ht, hres⟩)
    | ok res => simp [hres, Except.toOption]

theorem exit_move {A A' : Prop} {p p' : Position} {s s' : Workflow W} {l : Label W}
    (hI : ExitInv A s p) (hA : A' ↔ A ∧ LeadsToSignal s l) (hm : Move policyEngine p s l p' s') :
    ExitInv A' s' p' := by
  cases hm with
  | world w =>
    obtain rfl := Machine.step_met hA trivial
    cases p with
    | wrote n u => cases n <;> exact hI
    | _ => exact hI
  | collect a output clock hr =>
    obtain rfl := Machine.step_met hA trivial
    exact hI
  | answer reply clock u ha =>
    have hI := hI.waiting
    cases reply with
    | analyst a output => exact ha.elim
    | verification assessment => exact ha.elim
    | raises n exc => exact ha.elim
    | critic verdict =>
      obtain rfl := Machine.step_met hA trivial
      refine ⟨hI.1, hI.2, ?_⟩
      rw [streamed_conclude, lastStage_concat]
      rcases criticNode_cases ha with ⟨-, rfl⟩ | ⟨h, c, event, -, -, -, rfl⟩ <;> rfl
    | _ =>
      obtain rfl := Machine.step_met hA trivial
      exact hI
  | verify assessment clock out u ho hu =>
    obtain ⟨hr, hA0⟩ := hI.waiting
    refine ⟨by rw [← hr]; exact raised_record _ _ _ _, ?_⟩
    rw [hA, streamed_conclude, streamed_record, leadsToSignal_verify (ho ▸ hu)]
    exact and_iff_right hA0
  | verifyRaises assessment clock out exc ho hu =>
    refine signalled_of_raised (hA.2 ⟨hI.waiting.2, ?_⟩) rfl
    obtain ⟨last, ht, hres⟩ := verificationNode_error_iff.1 (ho ▸ hu)
    simp [LeadsToSignal, ht, hres, Except.toOption]
  | raises n exc clock hp hc =>
    obtain rfl := Machine.step_met hA trivial
    refine signalled_of_raised ?_ rfl
    rcases hp with rfl | rfl
    · exact hI.2
    · exact hI.waiting.2
  | act clock action out res hi ho hres =>
    obtain rfl := Machine.step_met hA trivial
    exact ⟨(raised_record _ _ _ _).trans hI.waiting.1, hI.waiting.2⟩
  | actRaises clock action out exc hi ho hres =>
    obtain rfl := Machine.step_met hA trivial
    exact signalled_of_raised hI.waiting.2 rfl
  | executed clock hi =>
    obtain rfl := Machine.step_met hA trivial
    exact hI
  | join order st' hc ha =>
    have hC : LeadsToSignal s (.advance order) := by
      simp only [LeadsToSignal]
      split
      · rename_i u hw
        obtain ⟨a, ha⟩ := ha .critic u (by simp [hw])
        cases ha
      · trivial
    exact ⟨hI.1, hA.2 ⟨hI.2, hC⟩⟩
  | advance n u order hn hw =>
    simp only [LeadsToSignal, hw] at hA
    cases n with
    | analyst a => exact absurd ⟨a, rfl⟩ hn
    | critic =>
      obtain ⟨hr, hA0, hlast⟩ := hI
      simp only [Position.after]
      cases hroute : routeCriticDecision (u.apply s.graph.state) with
      | supervisor => exact ⟨hr, hA.2 ⟨hA0, by simp [hroute]⟩⟩
      | remediation => exact ⟨hr, hA.2 ⟨hA0, by simp [hroute]⟩⟩
      | complete =>
        -- the run is over, and nothing says so
        have hno : ¬ A' := fun h => (hA.1 h).2 hroute
        simp [ExitInv, Signalled, hno, hr, hlast]
    | verification =>
      obtain rfl := Machine.step_met hA trivial
      show A' ↔ _
      rw [Signalled, hI.2, hI.1]
      simp
    | _ =>
      obtain rfl := Machine.step_met hA trivial
      exact hI

theorem exitInv_run {st : IncidentState} {runner : Runner W} {as : List (Label W)} {s : Workflow W}
    (hrun : Machine.run (step policyEngine) (init st runner) as = some s) : ∃ p, s.At p ∧
      ExitInv (Machine.Along (step policyEngine) LeadsToSignal (init st runner) as) s p :=
  run_position
    (J := fun as p s => ExitInv (Machine.Along (step policyEngine) LeadsToSignal (init st runner) as) s p)
    ⟨rfl, trivial⟩ (fun _ _ _ _ _ _ hr hI hm => exit_move hI (Machine.along_concat hr) hm) as s hrun

/-- **How a run must go to end with a signal**: it has ended with an exception or resolved if and
only if the critic and the verification have always led there. -/
theorem signalled_iff {st : IncidentState} {runner : Runner W} {as : List (Label W)}
    {s : Workflow W} (hrun : Machine.run (step policyEngine) (init st runner) as = some s)
    (hover : s.graph.Over) :
    s.Signalled ↔ Machine.Along (step policyEngine) LeadsToSignal (init st runner) as := by
  obtain ⟨p, hat, hI⟩ := exitInv_run hrun
  obtain rfl := ended_of_over hat hover
  exact hI.symm

/-- Nothing runs after an exception. -/
theorem over_of_raised {st : IncidentState} {runner : Runner W} {as : List (Label W)}
    {s : Workflow W} (hrun : Machine.run (step policyEngine) (init st runner) as = some s)
    (hr : s.raised.isSome) : s.graph.Over := by
  obtain ⟨p, hat, hI⟩ := exitInv_run hrun
  have hsome : s.raised ≠ none := Option.isSome_iff_ne_none.1 hr
  cases p with
  | ended => exact hat
  | waiting n => exact absurd hI.1 hsome
  | fanOut => exact absurd hI.1 hsome
  | wrote n u => cases n <;> exact absurd hI.1 hsome

instance (s : Workflow W) (l : Label W) : Decidable (LeadsToSignal s l) := by
  unfold LeadsToSignal
  split
  · split <;> infer_instance
  · split <;> infer_instance
  · infer_instance

end

end Workflow

end OpsPilot
