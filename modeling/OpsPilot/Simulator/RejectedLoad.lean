import OpsPilot.Simulator.Repository
/-!
# Scenarios that there are not (`SimulationEngine.load_scenario`, engine.py:34)

`load_scenario` resets the engine first and looks the scenario up afterwards. An id that is not in the
registry is refused with a `KeyError`, and the engine that refuses it is a new one. This passes
unnoticed only where there was nothing to lose.

| here | there |
| --- | --- |
| `Access`                   | a call of the engine, or of its repository or its telemetry store |
| `SimulationEngine.Quiet`   | no function of the source: nothing is loaded and nothing is recorded |
-/
namespace OpsPilot

namespace SimulationEngine

inductive Access where
  | call (call : Call)
  | repository (call : MockCodeRepository.Call)
  | telemetry (batch : TelemetryStore.Batch)

structure Quiet (engine : SimulationEngine) : Prop where
  scenario : engine.activeScenario = none
  commits : engine.repository.commits = []
  deployments : engine.repository.deployments = []
  logs : engine.telemetryStore.logs = []
  metrics : engine.telemetryStore.metrics = []

/-- Unless a scenario is active, no service has been touched and no time is kept. -/
def Untouched (engine : SimulationEngine) : Prop :=
  engine.activeScenario = none → engine.topology = .fresh ∧ engine.scenarioStartTime = none

theorem untouched_init : Untouched {} := fun _ => ⟨rfl, rfl⟩

/-- An untouched engine is as new exactly when it is quiet. -/
theorem quiet_iff {engine : SimulationEngine} (h : engine.Untouched) : engine.reset = engine ↔ engine.Quiet := by
  constructor
  · intro hreset
    rw [← hreset]
    exact ⟨rfl, rfl, rfl, rfl, rfl⟩
  · intro hquiet
    obtain ⟨htopology, hstart⟩ := h hquiet.scenario
    obtain ⟨topology, ⟨commits, deployments⟩, ⟨logs, metrics⟩, activeScenario, scenarioStartTime⟩ := engine
    obtain ⟨rfl, rfl, rfl, rfl, rfl⟩ := hquiet
    cases htopology
    cases hstart
    rfl

section
variable [Unicode] [UnicodeText]

/-- The engine after an access, whatever the access returns or raises. -/
def access (engine : SimulationEngine) : Access → SimulationEngine
  | .call call => engine.step call
  | .repository call => { engine with repository := engine.repository.step call }
  | .telemetry batch => { engine with telemetryStore := engine.telemetryStore.add batch }

def accessed (accesses : List Access) : SimulationEngine := accesses.foldl access {}

theorem accessed_concat (accesses : List Access) (a : Access) :
    accessed (accesses ++ [a]) = (accessed accesses).access a := by
  rw [accessed, List.foldl_append]
  rfl

theorem untouched_loadScenario (engine : SimulationEngine) (now : Nat → Time) (scenarioId : String) :
    (engine.loadScenario now scenarioId).2.Untouched := by
  unfold loadScenario
  cases ScenarioCatalog.createScenario scenarioId with
  | error exc => exact untouched_init
  | ok scenario =>
    intro hnone
    cases hnone

theorem untouched_step {engine : SimulationEngine} (h : engine.Untouched) (call : Call) :
    (engine.step call).Untouched := by
  cases call with
  | reset => exact untouched_init
  | loadScenario now scenarioId => exact engine.untouched_loadScenario now scenarioId
  | executeAction now actionType parameters =>
    cases hs : engine.activeScenario with
    | none =>
      have hsame : engine.step (.executeAction now actionType parameters) = engine := by
        simp only [step, executeAction, hs]
      rw [hsame]
      exact h
    | some scenario =>
      obtain ⟨scenario', hs', -⟩ := scenario_executeAction hs now actionType parameters
      intro hnone
      cases hs'.symm.trans hnone

theorem untouched_accessed (accesses : List Access) : (accessed accesses).Untouched := by
  induction accesses using List.reverseRecOn with
  | nil => exact untouched_init
  | append_singleton accesses a ih =>
    rw [accessed_concat]
    cases a with
    | call call => exact untouched_step ih call
    | repository call => exact ih
    | telemetry batch => exact ih

theorem loadScenario_unknown {scenarioId : String} (h : ScenarioCatalog.scenarioRegistry.get? scenarioId = none)
    (now : Nat → Time) (engine : SimulationEngine) :
    ∃ message, engine.loadScenario now scenarioId = (.error (.other "KeyError" message), engine.reset) := by
  simp only [loadScenario, ScenarioCatalog.createScenario, h]
  exact ⟨_, rfl⟩

/-- **A load that is rejected changes nothing exactly when** no scenario is active and neither commits nor
deployments nor telemetry are recorded; it is always a `KeyError`. -/
theorem rejected_load_iff (accesses : List Access) (scenarioId : String)
    (hunknown : ScenarioCatalog.scenarioRegistry.get? scenarioId = none) (now : Nat → Time) :
    let engine := accessed accesses
    (∃ message, (engine.loadScenario now scenarioId).1 = .error (.other "KeyError" message)) ∧
      ((engine.loadScenario now scenarioId).2 = engine ↔ engine.Quiet) := by
  intro engine
  obtain ⟨message, hload⟩ := engine.loadScenario_unknown hunknown now
  rw [hload]
  exact ⟨⟨message, rfl⟩, quiet_iff (untouched_accessed accesses)⟩

end

/-- An engine that a rejected load has emptied has nothing more to lose. -/
theorem rejected_load_again :
    letI := Py.asciiTable
    letI := Py.asciiText
    let now (_ : Nat) : Time := ⟨0⟩
    let engine := accessed [.call (.loadScenario now "redis_pool_exhaustion"), .call (.loadScenario now "unknown")]
    ScenarioCatalog.scenarioRegistry.get? "unknown" = none ∧ (engine.loadScenario now "unknown").2 = engine := by
  let _ := Py.asciiTable
  let _ := Py.asciiText
  intro now engine
  have hunknown : ScenarioCatalog.scenarioRegistry.get? "unknown" = none := by decide +kernel
  have hemptied : engine = (accessed [.call (.loadScenario now "redis_pool_exhaustion")]).reset := by
    obtain ⟨message, hload⟩ :=
      (accessed [.call (.loadScenario now "redis_pool_exhaustion")]).loadScenario_unknown hunknown now
    exact congrArg Prod.snd hload
  have hiff := (rejected_load_iff
    [.call (.loadScenario now "redis_pool_exhaustion"), .call (.loadScenario now "unknown")] "unknown" hunknown now).2
  refine ⟨hunknown, hiff.2 ?_⟩
  show engine.Quiet
  rw [hemptied]
  exact ⟨rfl, rfl, rfl, rfl, rfl⟩

/-- The load of an unknown scenario takes the active one away, with the alert still open. -/
theorem rejected_load_forgets :
    letI := Py.asciiTable
    letI := Py.asciiText
    let now (_ : Nat) : Time := ⟨0⟩
    let engine := accessed [.call (.loadScenario now "redis_pool_exhaustion")]
    ScenarioCatalog.scenarioRegistry.get? "unknown" = none ∧ engine.activeScenario.isSome = true ∧
      (engine.loadScenario now "unknown").2.activeScenario.isSome = false := by decide +kernel

end SimulationEngine

end OpsPilot
