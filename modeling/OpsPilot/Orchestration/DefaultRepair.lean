import OpsPilot.Orchestration.DefaultRun
import OpsPilot.Simulator.OffTarget
/-!
# What a default run repairs

Where nobody else acts on the world while the run goes on, the simulator goes through one call of its own:
the rollback of the payment service. Two of the ten scenarios take that for a remediation, one of them
because it looks at no target; under the others the services are as degraded as before when the run
reports `RESOLVED`.

| here | there |
| --- | --- |
| `rollbackParameters`  | the map that `RollbackDeploymentTool` hands to the simulator |
| `Phase`               | no function of the source: the world, position by position |
-/
namespace OpsPilot

open ScenarioCatalog

def rollbackParameters : Dict String Json := Dict.ofList
  [("target_service", .str "payment-service"), ("target_version", .str "v2.4.0"), ("previous_version", .str "v2.4.1")]

/-! ## What the rollback does to a scenario -/

/-- The scenarios that the rollback of the payment service remediates. -/
def rolledBackScenarios : List String := ["redis_pool_exhaustion", "invalid_config"]

theorem targets_rollbackParameters (service : String) :
    targets rollbackParameters service = ("payment-service" == service) := by
  have hget : rollbackParameters.getD "target_service" .null = .str "payment-service" := rfl
  rw [targets, hget]
  rfl

theorem isRemediated_remediesIf_or (cond : Except PyException Bool) (fixed failed : String) (s : ScenarioState)
    (now : Time) :
    (remediesIf cond fixed failed s now).2.isRemediated = true ↔ s.isRemediated = true ∨ cond = .ok true := by
  cases cond with
  | error exc => simp [remediesIf, Remediation.ifThen]
  | ok b => cases b <;> simp [remediesIf, Remediation.ifThen, Remediation.remediated, Remediation.returns]

/-- A scenario is remediated after the rollback if it was before, or is one of the two. -/
theorem isRemediated_rollback [UnicodeText] {cls : ScenarioClass} (hcls : Registered cls) (s : ScenarioState)
    (now : Time) :
    (cls.applyRemediation "rollback_deployment" rollbackParameters s now).2.isRemediated = true ↔
      s.isRemediated = true ∨ cls.groundTruth.scenarioId ∈ rolledBackScenarios := by
  refine hcls.cases (P := fun cls =>
    (cls.applyRemediation "rollback_deployment" rollbackParameters s now).2.isRemediated = true ↔
      s.isRemediated = true ∨ cls.groundTruth.scenarioId ∈ rolledBackScenarios) ?redisPoolExhaustion
    ?dbConnectionExhaustion ?slowQuery ?memoryLeak ?cpuSaturation ?downstreamFailure ?badDeployment ?invalidConfig
    ?apiTimeout ?queueBacklog
  case redisPoolExhaustion =>
    simp [redisPoolExhaustionScenario, targets_rollbackParameters, Remediation.ifThen, Remediation.remediated,
      rolledBackScenarios]
  case badDeployment =>
    rw [badDeploymentScenario, isRemediated_remediesIf_or, targets_rollbackParameters]
    simp [rolledBackScenarios]
  case invalidConfig =>
    rw [invalidConfigScenario, isRemediated_remediesIf_or]
    simp [rolledBackScenarios]
  case slowQuery =>
    rw [slowQueryScenario, isRemediated_remediesIf_or]
    simp [rolledBackScenarios]
  case dbConnectionExhaustion =>
    rw [dbConnectionExhaustionScenario, isRemediated_remediesIf_or]
    simp [rolledBackScenarios]
  case memoryLeak =>
    rw [memoryLeakScenario, isRemediated_remediesIf_or]
    simp [rolledBackScenarios]
  case cpuSaturation =>
    rw [cpuSaturationScenario, isRemediated_remediesIf_or]
    simp [rolledBackScenarios]
  case downstreamFailure =>
    rw [downstreamFailureScenario, isRemediated_remediesIf_or]
    simp [rolledBackScenarios]
  case apiTimeout =>
    rw [apiTimeoutScenario, isRemediated_remediesIf_or]
    simp [rolledBackScenarios]
  case queueBacklog =>
    rw [queueBacklogScenario, isRemediated_remediesIf_or]
    simp [rolledBackScenarios]

namespace SimulationEngine

/-- An action changes the scenario as the scenario says, and no other. -/
theorem activeScenario_executeAction [Unicode] (engine : SimulationEngine) (now : Nat → Time) (actionType : String)
    (parameters : Dict String Json) :
    (engine.executeAction now actionType parameters).2.activeScenario = engine.activeScenario.map fun scenario =>
      { scenario with state := (scenario.cls.applyRemediation actionType parameters scenario.state (now 0)).2 } := by
  unfold executeAction
  cases hs : engine.activeScenario with
  | none => rw [hs]; rfl
  | some scenario => exact activeScenario_conclude _ _ _ _ _ _

end SimulationEngine

/-! ## The world of a run -/

theorem world_recordKey {W : Type} (r : Runner W) (action : RemediationAction) :
    (r.recordKey action).world = r.world := by
  unfold Runner.recordKey
  split <;> rfl

section
variable {V : Type} [Unicode] {now : Nat → Time}

/-- The world after the rollback. -/
def DefaultWorld.rolledBack (now : Nat → Time) (w : DefaultWorld V) : DefaultWorld V :=
  { w with simulator := (w.simulator.executeAction now "rollback_deployment" rollbackParameters).2 }

theorem DefaultWorld.Unharmed.rolledBack {w w' : DefaultWorld V} (h : w.Unharmed w') :
    (w.rolledBack now).Unharmed (w'.rolledBack now) :=
  ⟨h.simulator.executeAction now "rollback_deployment" rollbackParameters, h.memory⟩

end

section
variable {V S : Type} [Unicode] [UnicodeCase] [LinearOrder S] {toFloat : Rat → PyFloat} {embedder : Embedder V S}
  {now : Nat → Time} {dumpJson : (model : ResponseModel) → model.Parsed → String}

/-- The action of the plan rolls the payment service back, unless it is skipped. -/
theorem world_defaultAction {runner : Runner (DefaultWorld V)} {policyEngine : RiskPolicyEngine} {incidentId : String}
    (hreg : runner.registry = defaultRegistry toFloat embedder now) (clock : Clock) :
    (runner.executeAction (defaultAction policyEngine incidentId) "OPERATOR" clock).runner.world =
      if runner.skips (defaultAction policyEngine incidentId) then runner.world else runner.world.rolledBack now := by
  have hreach : runner.reaches (defaultAction policyEngine incidentId) "OPERATOR" = _ := reaches_defaultAction hreg
  cases hskip : runner.skips (defaultAction policyEngine incidentId) with
  | true =>
    rw [hskip] at hreach
    obtain ⟨result, hout⟩ := Runner.executeAction_unchanged clock hreach
    rw [hout]
    rfl
  | false =>
    rw [hskip] at hreach
    obtain ⟨tool, parameters, htool, hp, hout⟩ := Runner.executeAction_of_reaches clock hreach
    rw [getTool_defaultAction hreg] at htool
    obtain rfl := Option.some.inj htool
    obtain rfl := Option.some.inj hp
    have hparams : rollbackDeploymentParams (Runner.toolArgs (defaultAction policyEngine incidentId) (Dict.ofList
        [("target_version", .str "v2.4.0"), ("previous_version", .str "v2.4.1")])) = .ok rollbackParameters := rfl
    have hworld : ((rollbackDeploymentTool (defaultSimulator now)).run (Runner.toolArgs
        (defaultAction policyEngine incidentId) (Dict.ofList [("target_version", .str "v2.4.0"),
          ("previous_version", .str "v2.4.1")])) runner.world).2 = runner.world.rolledBack now :=
      world_runOn hparams _
    rw [hout]
    simp only [Bool.false_eq_true, if_false]
    rw [← hworld, ← world_execute _ _ clock]
    split
    · exact world_recordKey _ _
    · rfl

namespace Workflow

/-- Position by position: the world is `w`, but for what has been read, and then `w'`. -/
def Phase (w w' : DefaultWorld V) (s : Workflow (DefaultWorld V)) : Position → Prop
  | .waiting .execution =>
    s.frame.results = [] ∧ w.Unharmed s.runner.world ∨ s.frame.results ≠ [] ∧ w'.Unharmed s.runner.world
  | .wrote .execution _ | .waiting .verification | .wrote .verification _ | .ended => w'.Unharmed s.runner.world
  | _ => w.Unharmed s.runner.world

section
variable {policyEngine : RiskPolicyEngine} {st : IncidentState} {skip : Bool} {H : List Reply} {p p' : Position}
  {s s' : Workflow (DefaultWorld V)} {l : Label (DefaultWorld V)} {w : DefaultWorld V}

theorem phase_default (hI : DefaultRun toFloat embedder now policyEngine st skip H p s)
    (hP : Phase w (if skip then w else w.rolledBack now) s p)
    (hC : AgentsAnswer toFloat embedder now dumpJson s l) (hquiet : Quiet s l) (hraised : s'.raised = none)
    (hm : Move policyEngine p s l p' s') : Phase w (if skip then w else w.rolledBack now) s' p' := by
  cases hm with
  | world w₁ =>
    have htrans : ∀ {w₀ : DefaultWorld V}, w₀.Unharmed s.runner.world → w₀.Unharmed w₁ :=
      fun h => IsTrans.trans _ _ _ h hquiet
    cases p with
    | waiting n =>
      cases n with
      | execution =>
        rcases hP with ⟨hnil, hbefore⟩ | ⟨hne, hafter⟩
        · exact .inl ⟨hnil, htrans hbefore⟩
        · exact .inr ⟨hne, htrans hafter⟩
      | _ => exact htrans hP
    | wrote n u => cases n <;> exact htrans hP
    | fanOut => exact htrans hP
    | ended => exact htrans hP
  | collect a output clock hr => exact hP
  | answer reply clock u ha =>
    cases reply with
    | analyst a output => exact ha.elim
    | verification assessment => exact ha.elim
    | raises n exc => exact ha.elim
    | _ => exact hP
  | verify assessment clock out u ho hu =>
    obtain ⟨hrunner, hcall, -⟩ := verificationNode_default hC ho
    rw [hcall, record_none, hrunner]
    exact hP
  | verifyRaises assessment clock out exc ho hu => cases hraised
  | raises n exc clock hp hc => cases hraised
  | act clock action out res hi ho hres =>
    obtain ⟨h, hscheduled⟩ := hI.state
    obtain ⟨hnil, rfl⟩ := eq_of_planned hscheduled hi
    have hbefore : w.Unharmed s.runner.world := by
      rcases hP with ⟨-, hbefore⟩ | ⟨hne, -⟩
      · exact hbefore
      · exact absurd hnil hne
    have hskip : s.runner.skips (defaultAction policyEngine s.graph.state.incidentId) = skip := by
      rw [hI.incidentId]
      rcases hI.calls with ⟨-, huntouched⟩ | ⟨⟨res', hone, -⟩, -⟩
      · exact huntouched.2
      · rw [hnil] at hone
        cases hone
    have hworld : (s.runner.executeAction (defaultAction policyEngine s.graph.state.incidentId) "OPERATOR"
        clock).runner.world = _ := world_defaultAction hI.registry clock
    rw [ho, hskip] at hworld
    refine .inr ⟨by simp, ?_⟩
    show (if skip then w else w.rolledBack now).Unharmed (record _ _ _ _).runner.world
    rw [runner_record, hworld]
    cases skip with
    | true => exact hbefore
    | false => exact hbefore.rolledBack
  | actRaises clock action out exc hi ho hres => cases hraised
  | executed clock hi =>
    obtain ⟨h, hscheduled⟩ := hI.state
    rcases hP with ⟨hnil, -⟩ | ⟨-, hafter⟩
    · rw [hscheduled.plannedActions, hnil] at hi
      cases hi
    · exact hafter
  | join order st' hc ha => exact hP
  | advance n u order hn hw =>
    cases n with
    | analyst a => exact absurd ⟨a, rfl⟩ hn
    | critic =>
      obtain ⟨h, happroved⟩ := hI.state
      rw [after_approved happroved]
      exact hP
    | remediationPlanning => exact .inl ⟨rfl, hP⟩
    | _ => exact hP

variable {keys : Finset String}

theorem run_phase (hfresh : st.Fresh) : ∀ as s,
    Machine.run (step policyEngine) (defaultInit toFloat embedder now st keys w) as = some s →
    Machine.Along (step policyEngine) (Alone toFloat embedder now dumpJson)
      (defaultInit toFloat embedder now st keys w) as →
    ∃ p, s.At p ∧ DefaultRun toFloat embedder now policyEngine st (skipsDefault policyEngine st keys) (replies as) p s ∧
      Phase w (if skipsDefault policyEngine st keys then w else w.rolledBack now) s p := by
  refine Machine.run_induction_along ?_ ?_
  · exact ⟨_, at_defaultInit, defaultRun_init hfresh, Std.Refl.refl (r := DefaultWorld.Unharmed) w⟩
  · rintro as s l s' hrun ⟨p, hat, hI, hP⟩ ⟨hC, hquiet⟩ hst
    obtain ⟨p', hm, hat', hI', -⟩ := default_step hfresh hrun hat hI hC hst
    exact ⟨p', hat', hI', phase_default hI hP hC hquiet hI'.raised hm⟩

/-- The simulator after a rollback of the payment service, where every scenario but two is as open as before. -/
structure Repaired (now : Nat → Time) (calls : List SimulationEngine.Call) (engine : SimulationEngine) : Prop where
  agrees : (SimulationEngine.after (calls ++ [.executeAction now "rollback_deployment" rollbackParameters])).Agrees
    engine
  degraded_iff : ∀ scenario, (SimulationEngine.after calls).activeScenario = some scenario →
    ((∀ service ∈ scenario.cls.groundTruth.affectedServices,
        (engine.topology.services.get? service).map LiveService.status = some .degraded) ↔
      scenario.state.isRemediated = false ∧ scenario.cls.groundTruth.scenarioId ∉ rolledBackScenarios)

theorem repaired_of_agrees {calls : List SimulationEngine.Call} {engine : SimulationEngine}
    (h : (SimulationEngine.after
      (calls ++ [.executeAction now "rollback_deployment" rollbackParameters])).Agrees engine) :
    Repaired now calls engine where
  agrees := h
  degraded_iff scenario hs := by
    have hcls := SimulationEngine.registered_after hs
    let applied := scenario.cls.applyRemediation "rollback_deployment" rollbackParameters scenario.state (now 0)
    have hactive : engine.activeScenario = some { scenario with state := applied.2 } := by
      rw [h.activeScenario, SimulationEngine.after_concat]
      show ((SimulationEngine.after calls).executeAction now "rollback_deployment"
        rollbackParameters).2.activeScenario = _
      rw [SimulationEngine.activeScenario_executeAction, hs]
      rfl
    have hconsistent := h.keeps_consistent (SimulationEngine.consistent_after _)
    have hdegraded := SimulationEngine.degraded_iff hconsistent hactive hcls
    rw [hdegraded, ← Bool.not_eq_true, isRemediated_rollback hcls, not_or, Bool.not_eq_true]

/-- The end of a run whose action is not skipped. -/
theorem closed_of_alone (hfresh : st.Fresh) {calls : List SimulationEngine.Call}
    {memory : SearchIncidentMemoryTool V} (hkey : (defaultAction policyEngine st.incidentId).idempotencyKey ∉ keys)
    {as : List (Label (DefaultWorld V))}
    (hrun : Machine.run (step policyEngine)
      (defaultInit toFloat embedder now st keys { simulator := SimulationEngine.after calls, memory }) as = some s)
    (hC : Machine.Along (step policyEngine) (Alone toFloat embedder now dumpJson)
      (defaultInit toFloat embedder now st keys { simulator := SimulationEngine.after calls, memory }) as)
    (hover : s.graph.Over) :
    (∃ h, Closed policyEngine s.graph.state h) ∧ Repaired now calls s.runner.world.simulator := by
  obtain ⟨p, hat, hI, hP⟩ := run_phase hfresh as s hrun hC
  obtain rfl := ended_of_over hat hover
  have hskip : skipsDefault policyEngine st keys = false := decide_eq_false hkey
  have hharmless : DefaultWorld.Unharmed _ s.runner.world := hP
  rw [hskip] at hharmless
  refine ⟨hI.state, repaired_of_agrees ?_⟩
  rw [SimulationEngine.after_concat]
  exact hharmless.simulator

/-- **What a default run repairs**: where nobody else acts, it ends `RESOLVED` in a simulator that a rollback
of the payment service has been applied to, and nothing else. So the services of the active scenario are
still degraded exactly if it was open and is not one of the two that this remediates. -/
theorem default_run_repairs (hfresh : st.Fresh) {calls : List SimulationEngine.Call}
    {memory : SearchIncidentMemoryTool V} (hkey : (defaultAction policyEngine st.incidentId).idempotencyKey ∉ keys)
    {as : List (Label (DefaultWorld V))}
    (hrun : Machine.run (step policyEngine)
      (defaultInit toFloat embedder now st keys { simulator := SimulationEngine.after calls, memory }) as = some s)
    (hC : Machine.Along (step policyEngine) (Alone toFloat embedder now dumpJson)
      (defaultInit toFloat embedder now st keys { simulator := SimulationEngine.after calls, memory }) as)
    (hover : s.graph.Over) :
    s.graph.state.currentStage = .resolved ∧ Repaired now calls s.runner.world.simulator := by
  obtain ⟨⟨h, hclosed⟩, hrepaired⟩ := closed_of_alone hfresh hkey hrun hC hover
  exact ⟨hclosed.currentStage, hrepaired⟩

end

end Workflow

end

namespace Workflow

/-- A bad deployment of the gateway is open, and stays so. -/
theorem default_run_repairs_nothing :
    letI := Py.asciiTable
    letI := Py.asciiCase
    let calls : List SimulationEngine.Call := [.loadScenario (fun _ => ⟨0⟩) "bad_deployment"]
    let start : Workflow (DefaultWorld Unit) := defaultInit (fun _ => .zero) (alikeEmbedder 0) (fun _ => ⟨0⟩)
      (newIncident 3) ∅ { simulator := SimulationEngine.after calls }
    ∃ as s, Machine.run (step {}) start as = some s ∧ s.graph.state.currentStage = .resolved ∧
      (s.runner.world.simulator.topology.services.get? "api-gateway").map LiveService.status = some .degraded := by
  let _ := Py.asciiTable
  let _ := Py.asciiCase
  intro calls start
  have hrun : Machine.run (step {}) start [] = some start := rfl
  have hC : Machine.Along (step {}) (AgentsAnswer (fun _ => .zero) (alikeEmbedder 0) (fun _ => ⟨0⟩) fun _ _ => "")
    start [] := trivial
  obtain ⟨as, s, -, has, hCas, hover⟩ := exists_rest (fresh_newIncident 3) hrun hC stillClock
  obtain ⟨hresolved, hrepaired⟩ := default_run_repairs (fresh_newIncident 3) (Finset.notMem_empty _) has hCas hover
  have hactive : (SimulationEngine.after calls).activeScenario = some
      { cls := badDeploymentScenario, state := { isActive := true, incidentStartedAt := some ⟨0⟩ } } := rfl
  refine ⟨as, s, has, hresolved, (hrepaired.degraded_iff _ hactive).2 ⟨rfl, by decide⟩ "api-gateway" ?_⟩
  simp [badDeploymentScenario]

end Workflow

end OpsPilot
