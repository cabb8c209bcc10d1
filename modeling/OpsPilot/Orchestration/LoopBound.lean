import OpsPilot.Orchestration.CriticGate
/-!
# How often the investigation loops

`iteration_count` only advances when the critic has a hypothesis to judge, while the route
also reads a critique that an earlier round left behind. In a run in which these do not meet
(`JudgesOrDecides`) the counter and the number of critic runs agree in the loop, which bounds
both the critic runs and the supersteps.
-/
namespace OpsPilot

def Reply.isCritic : Reply → Bool
  | critic _ => true
  | _ => false

/-- How often the critic node has finished. -/
def criticRuns (H : List Reply) : Nat := H.countP Reply.isCritic

/-- The distance of a node from the start of the loop, or of the remediation. -/
def Node.depth : Node → Nat
  | supervisor | remediationPlanning => 0
  | analyst _ | execution => 1
  | joinEvidence | verification => 2
  | rca => 3
  | critic => 4

def Node.inLoop : Node → Bool
  | supervisor | analyst _ | joinEvidence | rca | critic => true
  | remediationPlanning | execution | verification => false

theorem Node.depth_le (n : Node) : n.depth ≤ 4 := by
  cases n <;> simp [depth]

theorem Node.depth_le_of_not_inLoop {n : Node} (h : n.inLoop = false) : n.depth ≤ 2 := by
  cases n <;> simp [inLoop, depth] at *

/-- Inside the loop after `k` runs of the critic: the counter says so, and lets one more happen. -/
structure Budget (k : Nat) (st : IncidentState) : Prop where
  counted : (k : Int) = st.iterationCount
  left : k = 0 ∨ (k : Int) < st.maxIterations

/-- Position by position, after `k` runs of the critic and `b` barriers. -/
def BoundInv (k b : Nat) (st : IncidentState) : Position → Prop
  | .fanOut => Budget k st ∧ b = 5 * k + 1
  | .waiting n =>
    if n.inLoop then Budget k st ∧ b = 5 * k + n.depth
    else (k : Int) ≤ max 1 st.maxIterations ∧ b = 5 * k + n.depth
  | .wrote .critic u => (k : Int) ≤ max 1 st.maxIterations ∧ b + 1 = 5 * k ∧
      ((∃ c, (u.apply st).critique = some c ∧ c.decision = .needsMoreEvidence) →
        (k : Int) = (u.apply st).iterationCount)
  | .wrote n u =>
    if n.inLoop then Budget k (u.apply st) ∧ b = 5 * k + n.depth
    else (k : Int) ≤ max 1 st.maxIterations ∧ b = 5 * k + n.depth
  | .ended => (k : Int) ≤ max 1 st.maxIterations ∧ (b : Int) ≤ 5 * max 1 st.maxIterations + 3

theorem Budget.le {k : Nat} {st : IncidentState} (h : Budget k st) :
    (k : Int) + 1 ≤ max 1 st.maxIterations := by
  rcases h.left with rfl | hlt
  · exact Int.le_max_left _ _
  · exact Int.le_trans (by omega) (Int.le_max_right _ _)

theorem Budget.collected {k : Nat} {st st' : IncidentState} (h : Budget k st)
    (hc : Collected st st') : Budget k st' := by
  obtain ⟨ev, tl, rfl⟩ := hc
  exact ⟨h.counted, h.left⟩

/-- Everywhere in the run both bounds hold. -/
theorem BoundInv.bounds {k b : Nat} {st : IncidentState} {p : Position} (h : BoundInv k b st p) :
    (k : Int) ≤ max 1 st.maxIterations ∧ (b : Int) ≤ 5 * max 1 st.maxIterations + 3 := by
  cases p with
  | fanOut =>
    have := h.1.le
    have := h.2
    omega
  | ended => exact h
  | waiting n =>
    simp only [BoundInv] at h
    have h4 := n.depth_le
    split at h
    · have := h.1.le
      omega
    · rename_i hn
      have := Node.depth_le_of_not_inLoop (by simpa using hn)
      omega
  | wrote n u =>
    by_cases hcrit : n = .critic
    · subst hcrit
      obtain ⟨hk, hb, -⟩ := h
      omega
    · have hgen : if n.inLoop then Budget k (u.apply st) ∧ b = 5 * k + n.depth
          else (k : Int) ≤ max 1 st.maxIterations ∧ b = 5 * k + n.depth := by
        cases n <;> first | exact h | exact absurd rfl hcrit
      have h4 := n.depth_le
      split at hgen
      · have hle := hgen.1.le
        rw [NodeUpdate.maxIterations_apply] at hle
        omega
      · rename_i hn
        have := Node.depth_le_of_not_inLoop (by simpa using hn)
        omega

namespace Workflow

variable {W : Type}

/-- How many supersteps have ended. -/
def barriers (as : List (Label W)) : Nat := as.countP fun
  | .advance _ => true
  | _ => false

@[simp] theorem barriers_concat_finish (as : List (Label W)) (r : Reply) (clock : Clock) :
    barriers (as ++ [.finish r clock]) = barriers as := by
  simp [barriers]

@[simp] theorem barriers_concat_execute (as : List (Label W)) (clock : Clock) :
    barriers (as ++ [.execute clock]) = barriers as := by
  simp [barriers]

@[simp] theorem barriers_concat_world (as : List (Label W)) (w : W) :
    barriers (as ++ [.world w]) = barriers as := by
  simp [barriers]

@[simp] theorem barriers_concat_advance (as : List (Label W)) (order : List Node) :
    barriers (as ++ [.advance order]) = barriers as + 1 := by
  simp [barriers]

theorem criticRuns_critic (H : List Reply) (v : CritiqueResult) :
    criticRuns (H ++ [.critic v]) = criticRuns H + 1 := by
  simp [criticRuns, Reply.isCritic]

theorem criticRuns_other (H : List Reply) {r : Reply} (h : r.isCritic = false) :
    criticRuns (H ++ [r]) = criticRuns H := by
  simp [criticRuns, h]

/-- A critic that is run has a hypothesis, or there is no request for more evidence that it
would leave standing. -/
def JudgesOrDecides (s : Workflow W) : Label W → Prop
  | .finish (.critic _) _ =>
    s.graph.state.selectedHypothesis.isSome ∨
      s.graph.state.critique.all fun c => c.decision != .needsMoreEvidence
  | _ => True

instance (s : Workflow W) : ∀ l : Label W, Decidable (JudgesOrDecides s l)
  | .finish (.critic _) _ => inferInstanceAs (Decidable (_ ∨ _))
  | .finish (.supervisor _) _ | .finish (.analyst _ _) _ | .finish .joinEvidence _ | .finish (.rca _) _
  | .finish (.remediationPlanning _) _ | .finish (.verification _) _ | .finish (.raises _ _) _
  | .execute _ | .advance _ | .world _ => isTrue trivial

/-- After the critic, the route goes round again only while the budget lasts. -/
theorem bound_after_critic {k b : Nat} {st : IncidentState} {u : NodeUpdate}
    (hI : BoundInv k b st (.wrote .critic u)) :
    BoundInv k (b + 1) (u.apply st) (Position.after (u.apply st) .critic) := by
  obtain ⟨hk, hb, hcount⟩ := hI
  simp only [Position.after]
  cases hroute : routeCriticDecision (u.apply st) with
  | supervisor =>
    obtain ⟨hnme, hlt⟩ := route_supervisor hroute
    have hk' := hcount hnme
    exact ⟨⟨hk', .inr (hk' ▸ hlt)⟩, by simp only [Node.depth]; omega⟩
  | remediation =>
    refine ⟨by simpa using hk, by simp only [Node.depth]; omega⟩
  | complete =>
    simp only [BoundInv, NodeUpdate.maxIterations_apply]
    omega

section
variable [Unicode] {policyEngine : RiskPolicyEngine}

/-- The critic uses up one run of the budget. -/
theorem bound_critic {k b : Nat} {st : IncidentState} {verdict : CritiqueResult} {clock : Clock}
    {u : NodeUpdate} (hI : BoundInv k b st (.waiting .critic))
    (hC : st.selectedHypothesis.isSome ∨ st.critique.all fun c => c.decision != .needsMoreEvidence)
    (hu : criticNode st (.ok verdict) clock = .ok u) :
    BoundInv (k + 1) b st (.wrote .critic u) := by
  obtain ⟨hbudget, hb⟩ := hI
  refine ⟨by exact_mod_cast hbudget.le, ?_, ?_⟩
  · simp only [Node.depth] at hb
    omega
  · rcases criticNode_cases hu with ⟨hnone, rfl⟩ | ⟨h, c, event, hs, -, -, rfl⟩
    · -- the old critique stands, and it does not ask for another round
      rintro ⟨c, hc, hnme⟩
      have hc : st.critique = some c := hc
      simp [hnone, hc, hnme] at hC
    · intro _
      have hcount := hbudget.counted
      show ((k + 1 : Nat) : Int) = st.iterationCount + 1
      omega

theorem bound_move {as : List (Label W)} {p p' : Position} {s s' : Workflow W} {l : Label W}
    (hI : BoundInv (criticRuns (replies as)) (barriers as) s.graph.state p)
    (hC : JudgesOrDecides s l) (hm : Move policyEngine p s l p' s') :
    BoundInv (criticRuns (replies (as ++ [l]))) (barriers (as ++ [l])) s'.graph.state p' := by
  cases hm with
  | world w =>
    rw [replies_concat_world, barriers_concat_world]
    exact hI
  | collect a output clock hr =>
    rw [replies_concat_finish, barriers_concat_finish, criticRuns_other _ rfl]
    exact hI
  | answer reply clock u ha =>
    rw [replies_concat_finish, barriers_concat_finish, state_conclude]
    cases reply with
    | critic verdict =>
      rw [criticRuns_critic]
      exact bound_critic hI hC ha
    | supervisor plan =>
      cases ha
      rw [criticRuns_other _ rfl]
      exact ⟨⟨hI.1.counted, hI.1.left⟩, hI.2⟩
    | joinEvidence =>
      cases ha
      rw [criticRuns_other _ rfl]
      exact ⟨⟨hI.1.counted, hI.1.left⟩, hI.2⟩
    | rca output =>
      cases ha
      rw [criticRuns_other _ rfl]
      exact ⟨⟨hI.1.counted, hI.1.left⟩, hI.2⟩
    | remediationPlanning rawPlan =>
      rw [criticRuns_other _ rfl]
      exact hI
    | analyst a output => exact ha.elim
    | verification assessment => exact ha.elim
    | raises n exc => exact ha.elim
  | verify assessment clock out u ho hu =>
    rw [replies_concat_finish, barriers_concat_finish, criticRuns_other _ rfl, state_conclude, graph_record]
    exact hI
  | verifyRaises assessment clock out exc ho hu =>
    rw [replies_concat_finish, barriers_concat_finish, criticRuns_other _ rfl, state_conclude, graph_record]
    exact hI.bounds
  | raises n exc clock hp hc =>
    rw [replies_concat_finish, barriers_concat_finish, criticRuns_other _ rfl]
    exact hI.bounds
  | act clock action out res hi ho hres =>
    rw [replies_concat_execute, barriers_concat_execute, graph_record]
    exact hI
  | actRaises clock action out exc hi ho hres =>
    rw [replies_concat_execute, barriers_concat_execute, state_conclude, graph_record]
    exact hI.bounds
  | executed clock hi =>
    rw [replies_concat_execute, barriers_concat_execute]
    exact hI
  | join order st' hc ha =>
    rw [replies_concat_advance, barriers_concat_advance]
    exact ⟨hI.1.collected hc, congrArg (· + 1) hI.2⟩
  | advance n u order hn hw =>
    rw [replies_concat_advance, barriers_concat_advance]
    cases n with
    | critic => exact bound_after_critic hI
    | supervisor => exact ⟨hI.1, congrArg (· + 1) hI.2⟩
    | joinEvidence => exact ⟨hI.1, congrArg (· + 1) hI.2⟩
    | rca => exact ⟨hI.1, congrArg (· + 1) hI.2⟩
    | remediationPlanning => exact ⟨by simpa using hI.1, congrArg (· + 1) hI.2⟩
    | execution => exact ⟨by simpa using hI.1, congrArg (· + 1) hI.2⟩
    | verification =>
      have := hI.bounds
      obtain ⟨hk, hb⟩ := hI
      simp only [Position.after, BoundInv, NodeUpdate.maxIterations_apply, Node.depth] at *
      omega
    | analyst a => exact absurd ⟨a, rfl⟩ hn

/-- **The investigation is bounded while the critic judges**: if no critic runs without a
hypothesis over a request for more evidence, then in every state reached it has run at most
`max 1 max_iterations` times, and the supersteps are bounded too. -/
theorem loop_bounded {st : IncidentState} (hfresh : st.Fresh) (runner : Runner W)
    (as : List (Label W)) (s : Workflow W)
    (hrun : Machine.run (step policyEngine) (init st runner) as = some s)
    (hC : Machine.Along (step policyEngine) JudgesOrDecides (init st runner) as) :
    (criticRuns (replies as) : Int) ≤ max 1 st.maxIterations ∧
      (barriers as : Int) ≤ 5 * max 1 st.maxIterations + 3 := by
  obtain ⟨p, -, hI, hmax⟩ := run_position_along (C := JudgesOrDecides)
    (J := fun as p s => BoundInv (criticRuns (replies as)) (barriers as) s.graph.state p ∧
      s.graph.state.maxIterations = st.maxIterations)
    ⟨⟨⟨by simp [hfresh.iterationCount, init, criticRuns], .inl rfl⟩, rfl⟩, rfl⟩
    (fun as p s l p' s' _ ⟨hI, hmax⟩ hC hm => ⟨bound_move hI hC hm,
      hm.state_induction (P := fun st' => st'.maxIterations = st.maxIterations)
        (fun f st' h => (f.maxIterations_apply st').trans h) hmax⟩) as s hrun hC
  rw [← hmax]
  exact hI.bounds

end

/-- One round allowed and taken. -/
theorem loop_bounded_one_round :
    letI := Py.asciiTable
    let as : List (Label Unit) := investigationRound [bareHypothesis] .needsMoreEvidence
    (∃ s, Machine.run (step {}) (init (newIncident 1) { registry := {}, world := () }) as = some s) ∧
      (criticRuns (replies as) : Int) ≤ max 1 1 ∧ (barriers as : Int) ≤ 5 * max 1 1 + 3 := by
  intro as
  let _ := Py.asciiTable
  have hsome : (Machine.run (step {}) (init (newIncident 1) { registry := {}, world := () }) as).isSome = true := by
    decide +kernel
  obtain ⟨s, hs⟩ := Option.isSome_iff_exists.1 hsome
  exact ⟨⟨s, hs⟩, loop_bounded (fresh_newIncident 1) _ as s hs (by decide +kernel)⟩

/-- Two rounds allowed: the critic asks for more evidence, then the RCA proposes nothing, twice;
the critic has run three times. -/
theorem loop_not_bounded :
    letI := Py.asciiTable
    let as : List (Label Unit) := investigationRound [bareHypothesis] .needsMoreEvidence ++
      investigationRound [] .needsMoreEvidence ++ investigationRound [] .needsMoreEvidence
    (newIncident 2).Fresh ∧
      (∃ s, Machine.run (step {}) (init (newIncident 2) { registry := {}, world := () }) as = some s) ∧
      ¬ (criticRuns (replies as) : Int) ≤ max 1 (newIncident 2).maxIterations := by
  intro as
  let _ := Py.asciiTable
  have hsome : (Machine.run (step {}) (init (newIncident 2) { registry := {}, world := () }) as).isSome = true := by
    decide +kernel
  exact ⟨fresh_newIncident 2, Option.isSome_iff_exists.1 hsome, by decide +kernel⟩

end Workflow

end OpsPilot
