import OpsPilot.Lib.Time
import OpsPilot.Simulator.Topology
/-!
# Incident scenarios (`simulator/scenarios/base.py`)

A scenario is an object with four attributes of its own; all else belongs to its class. What
`apply_remediation` does to the attributes is kept when it raises.

| here | there |
| --- | --- |
| `ScenarioState`            | the attributes of `BaseScenario` (base.py:42) |
| `ScenarioClass`            | the abstract methods of `BaseScenario`, and `ground_truth` |
| `ScenarioClass.settles`    | no method of the source: what every `apply_remediation` keeps to |
| `remediated`, `ifThen`     | the statements that the ten `apply_remediation` are made of |

Left out: the expected evidence and the other texts of the ground truth that nothing reads.
-/
namespace OpsPilot

/-! ## What a scenario hands out -/

/-- base.py:19, what the engine and the benchmark read of it. -/
structure GroundTruth where
  scenarioId : String
  name : String
  rootCause : String
  affectedServices : List String

/-- `get_initial_alert` (base.py:50) -/
structure InitialAlert where
  alertId : String
  title : String
  severity : String
  service : String
  timestamp : Time
  metricName : String
  thresholdValue : Rat
  currentValue : Rat
  description : String

/-- An item of `generate_logs`. -/
structure LogItem where
  timestamp : Time
  level : String
  service : String
  traceId : Option String := none
  message : String
  exceptionClass : Option String := none

/-- mock_repo.py:9 -/
structure CommitRecord where
  commitSha : String
  service : String
  author : String
  message : String
  timestamp : Time
  changedFiles : List String := []
  diff : String := ""

/-- mock_repo.py:19 -/
structure DeploymentEvent where
  deploymentId : String
  service : String
  version : String
  previousVersion : String
  timestamp : Time
  deployedBy : String
  status : String := "SUCCESS"
  commitSha : String
  configChanges : Dict String Json := Dict.empty

/-- `cur = start; while cur <= end: …; cur += timedelta(seconds=step)` -/
def ticks (step : Nat) (hstep : 0 < step) (cur stop : Time) : List Time :=
  if cur.micros ≤ stop.micros then cur :: ticks step hstep (cur.addSeconds step) stop else []
termination_by stop.micros + 1 - cur.micros
decreasing_by
  simp only [Time.addSeconds]
  omega

/-- The half-minute steps of the metrics. -/
def halfMinutes (start stop : Time) : List Time := ticks 30 (by decide) start stop

/-- `generate_logs` with the items of one round. -/
def logsEvery (step : Nat) (hstep : 0 < step) (items : Bool → Time → List LogItem) (isRemediated : Bool)
    (start stop : Time) : List LogItem :=
  (ticks step hstep start stop).flatMap (items isRemediated)

/-- `generate_metrics` with one value for a remediated scenario and one for another. -/
def steadyMetrics (rows : List (String × Rat × Rat)) (isRemediated : Bool) (start stop : Time) :
    List (String × List (Time × Rat)) :=
  let ts := halfMinutes start stop
  rows.map fun (name, recovered, failing) => (name, ts.map fun t => (t, if isRemediated then recovered else failing))

/-! ## Remediation -/

/-- base.py:42 -/
structure ScenarioState where
  isActive : Bool := false
  isRemediated : Bool := false
  incidentStartedAt : Option Time := none
  remediatedAt : Option Time := none
deriving DecidableEq

/-- What `apply_remediation` returns or raises, and the attributes after it. -/
abbrev Remediation := ScenarioState → Time → Except PyException (Bool × String) × ScenarioState

namespace Remediation

def remediated (message : String) : Remediation := fun s now =>
  (.ok (true, message), { s with isRemediated := true, remediatedAt := some now })

def returns (success : Bool) (message : String) : Remediation := fun s _ => (.ok (success, message), s)

/-- `if cond: …` and what comes after it; to evaluate the condition may raise. -/
def ifThen (cond : Except PyException Bool) (yes no : Remediation) : Remediation := fun s now =>
  match cond with
  | .error exc => (.error exc, s)
  | .ok true => yes s now
  | .ok false => no s now

/-- The scenario is remediated, with success, or is left alone. -/
def Settles (r : Remediation) : Prop :=
  ∀ s now, (r s now).2 = s ∨
    ∃ message, r s now = (.ok (true, message), { s with isRemediated := true, remediatedAt := some now })

theorem settles_remediated (message : String) : Settles (remediated message) := fun _ _ => .inr ⟨message, rfl⟩

theorem settles_returns (success : Bool) (message : String) : Settles (returns success message) := fun _ _ => .inl rfl

theorem settles_ifThen {cond : Except PyException Bool} {yes no : Remediation} (hyes : Settles yes)
    (hno : Settles no) : Settles (ifThen cond yes no) := by
  intro s now
  cases cond with
  | error exc => exact .inl rfl
  | ok b =>
    cases b with
    | true => exact hyes s now
    | false => exact hno s now

end Remediation

/-- A class of scenarios: it affects services that there are, and at least one. -/
structure ScenarioClass where
  groundTruth : GroundTruth
  getInitialAlert : Time → InitialAlert
  generateLogs : Bool → Time → Time → List LogItem
  generateMetrics : Bool → Time → Time → List (String × List (Time × Rat))
  getCommits : Time → List CommitRecord := fun _ => []
  getDeployments : Time → List DeploymentEvent := fun _ => []
  applyRemediation : String → Dict String Json → Remediation
  affected_ne : groundTruth.affectedServices ≠ []
  settles : ∀ actionType parameters, (applyRemediation actionType parameters).Settles

structure Scenario where
  cls : ScenarioClass
  state : ScenarioState := {}

namespace Scenario

/-- It lists the service, and is not remediated. -/
def impairs (scenario : Scenario) (service : String) : Bool :=
  !scenario.state.isRemediated && scenario.cls.groundTruth.affectedServices.contains service

end Scenario

end OpsPilot
