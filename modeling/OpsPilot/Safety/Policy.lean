import OpsPilot.Domain.State
import OpsPilot.Lib.Regex
import OpsPilot.Lib.Sha256
import OpsPilot.Simulator.Topology
/-!
# Risk assessment and approval rights (`src/safety/policy.py`)

Scores are in hundredths: every constant of the source is one, and its float sums
(`0.65 + 0.20`, `3 * 0.05`, …) fall on the same side of 0.35, 0.60 and 0.85 as the exact ones.

`extractStrings` and `dumps` go as deep as the parameters are nested. Beyond the recursion limit of the interpreter
the source raises a `RecursionError` instead, which is left out.

| here | there |
| --- | --- |
| `destructivePatterns`     | `DESTRUCTIVE_PATTERNS` (policy.py:17) |
| `baseActionRisk`          | `BASE_ACTION_RISK` (policy.py:21) |
| `autoRemediateEnabled`    | `getattr(settings, "auto_remediate_low_risk", False)` (policy.py:105) |
-/
namespace OpsPilot

open Regex in
/-- policy.py:17 -/
def destructivePatterns : Regex :=
  cat [.boundary,
    oneOf [
      cat [word "drop", plus space,
        oneOf [word "table", word "database", word "schema", word "view", word "index"]],
      cat [word "truncate", opt (cat [plus space, word "table"])],
      cat [word "delete", plus space, word "from"],
      cat [word "rm", plus space, word "-", oneOf [word "r", word "f", word "rf", word "fr"], .boundary],
      cat [word "format", plus space, letter, word ":"],
      word "flushall",
      word "flushdb",
      cat [word "alter", plus space, word "table", plus space, plus nonSpace, plus space, word "drop"]],
    .boundary]

/-- policy.py:21 -/
def baseActionRisk : Dict ActionType Nat := Dict.ofList
  [(.clearCache, 20), (.scaleReplicas, 30), (.modifyConfiguration, 45), (.restartService, 65),
    (.rollbackDeployment, 70), (.runQuery, 85)]

/-- `Settings` declares no such field and drops unknown ones, so the default stands. -/
def autoRemediateEnabled : Bool := false

mutual
/-- policy.py:46 -/
def extractStrings : Json → List String
  | .str s => [s]
  | .obj kvs => extractStringsFields kvs
  | .arr xs => extractStringsList xs
  | _ => []

def extractStringsList : List Json → List String
  | [] => []
  | v :: vs => extractStrings v ++ extractStringsList vs

def extractStringsFields : List (String × Json) → List String
  | [] => []
  | (k, v) :: kvs => k :: extractStrings v ++ extractStringsFields kvs
end

/-- policy.py:34 -/
structure RiskPolicyEngine where
  topology : ServiceTopology := .default

namespace RiskPolicyEngine

/-- policy.py:37 -/
def calculateBlastRadius (e : RiskPolicyEngine) (targetService : String) : List String :=
  let dependents := e.topology.getUpstreamDependents targetService
  let dependencies := e.topology.getDownstreamDependencies targetService
  (targetService :: dependents ++ dependencies).eraseDups

/-- policy.py:96 -/
def riskTier (totalScore : Nat) : RiskTier :=
  if totalScore < 35 then .low
  else if totalScore < 60 then .medium
  else if totalScore < 85 then .high
  else .critical

/-- policy.py:65 -/
def generateIdempotencyKey (incidentId : String) (actionType : ActionType) (targetService : String)
    (parameters : Json) : String :=
  let serializedParams := parameters.dumps true
  let rawKey := incidentId ++ ":" ++ actionType.name ++ ":" ++ targetService ++ ":" ++ serializedParams
  Py.take (Sha256.hexdigest rawKey.toUTF8.toList) 32

section
variable [Unicode]

/-- policy.py:44 -/
def detectDestructivePayload (parameters : Json) : Bool :=
  (extractStrings parameters).any destructivePatterns.search ||
    destructivePatterns.search (parameters.dumps false)

/-- policy.py:85, before the cap -/
def baseRisk (action : RemediationAction) : Nat :=
  if detectDestructivePayload action.parameters then 100 else baseActionRisk.getD action.actionType 50

/-- policy.py:94 -/
def totalScore (e : RiskPolicyEngine) (action : RemediationAction) : Nat :=
  let blastRadius := e.calculateBlastRadius action.targetService
  let blastPenalty := min 20 (blastRadius.length * 5)
  min 100 (baseRisk action + blastPenalty)

theorem totalScore_le (e : RiskPolicyEngine) (action : RemediationAction) :
    e.totalScore action ≤ 100 :=
  Nat.min_le_left _ _

/-- policy.py:77 -/
def assessActionRisk (e : RiskPolicyEngine) (action : RemediationAction) (incidentId : String) :
    RemediationAction :=
  let total := e.totalScore action
  let tier := riskTier total
  let isDestructive := detectDestructivePayload action.parameters
  { action with
    riskScore := ⟨.ofHundredths total, PyFloat.inUnit_ofHundredths (e.totalScore_le action)⟩
    riskTier := tier
    requiresApproval := !(tier == .low && autoRemediateEnabled && !isDestructive)
    idempotencyKey :=
      generateIdempotencyKey incidentId action.actionType action.targetService action.parameters }

/-- policy.py:129 -/
def authorizeApproval (action : RemediationAction) (approverRole : String) : Bool × String :=
  let role := Py.upper approverRole
  if !(["VIEWER", "OPERATOR", "ADMIN"].contains role) then
    (false, "Unknown approver role '" ++ approverRole ++ "'")
  else if role = "VIEWER" then
    (false, "VIEWER role has read-only access and cannot approve remediation actions")
  else if action.riskTier = .critical ∧ role ≠ "ADMIN" then
    (false, "CRITICAL risk remediation actions strictly require ADMIN role approval")
  else if action.riskTier = .high ∧ !(["ADMIN", "OPERATOR"].contains role) then
    (false, "HIGH risk remediation actions require at least OPERATOR role approval")
  else (true, "Authorized")

/-! ## What an assessment leaves alone -/

variable (e : RiskPolicyEngine) (action : RemediationAction) (incidentId : String)

@[simp] theorem actionId_assess :
    (e.assessActionRisk action incidentId).actionId = action.actionId :=
  rfl

@[simp] theorem actionType_assess :
    (e.assessActionRisk action incidentId).actionType = action.actionType :=
  rfl

@[simp] theorem targetService_assess :
    (e.assessActionRisk action incidentId).targetService = action.targetService := rfl

@[simp] theorem parameters_assess :
    (e.assessActionRisk action incidentId).parameters = action.parameters :=
  rfl

/-- No assessed action is exempt from approval: the flag that would allow it cannot be set. -/
@[simp] theorem requiresApproval_assess :
    (e.assessActionRisk action incidentId).requiresApproval = true := by
  simp [assessActionRisk, autoRemediateEnabled]

/-- An assessed action always carries a key. -/
theorem idempotencyKey_assess_ne : (e.assessActionRisk action incidentId).idempotencyKey ≠ "" := by
  intro h
  have hlen : (e.assessActionRisk action incidentId).idempotencyKey.length = 32 := by
    simp only [assessActionRisk, generateIdempotencyKey, Py.take, String.length_ofList, List.length_take,
      String.length_toList, Sha256.length_hexdigest]
    omega
  simp [h] at hlen

@[simp] theorem upper_admin : Py.upper "ADMIN" = "ADMIN" := by
  rw [Py.upper_ascii (by simp)]
  rfl

@[simp] theorem upper_operator : Py.upper "OPERATOR" = "OPERATOR" := by
  rw [Py.upper_ascii (by simp)]
  rfl

/-- Who may approve what: an administrator anything, an operator all but critical actions. -/
theorem authorizeApproval_iff (approverRole : String) :
    (authorizeApproval action approverRole).1 = true ↔
    Py.upper approverRole = "ADMIN" ∨ Py.upper approverRole = "OPERATOR" ∧ action.riskTier ≠ .critical := by
  unfold authorizeApproval
  by_cases hA : Py.upper approverRole = "ADMIN"
  · simp [hA]
  · by_cases hO : Py.upper approverRole = "OPERATOR"
    · by_cases hc : action.riskTier = .critical <;> simp [hO, hc]
    · by_cases hV : Py.upper approverRole = "VIEWER"
      · simp [hV]
      · simp [hA, hO, hV]

end

end RiskPolicyEngine

end OpsPilot
