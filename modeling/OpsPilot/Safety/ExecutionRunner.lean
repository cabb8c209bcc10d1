import Mathlib.Data.Finset.Insert
import OpsPilot.Tools.Registry
/-!
# The execution runner (`src/safety/execution_runner.py`)

`Runner` is an `ExecutionRunner`: the registry, the keys executed so far, and the world its
tools act on. Both operations return what the source returns or raises and, as a record of
ours, the tool call they made.

`Runner.reaches` says when `executeAction` gets as far as calling the tool; it is decided by
the action and the runner before the call.
-/
namespace OpsPilot

structure Runner (W : Type) where
  registry : ToolRegistry W
  executedIdempotencyKeys : Finset String := ∅
  world : W

variable {W : Type}

/-- What an operation of the runner leaves behind. -/
structure Outcome (W : Type) where
  runner : Runner W
  result : Except PyException ActionExecutionResult
  call : Option ToolCall := none

namespace Runner

/-- The idempotency guard (execution_runner.py:27). -/
def skips (r : Runner W) (action : RemediationAction) : Bool :=
  action.idempotencyKey ≠ "" ∧ action.idempotencyKey ∈ r.executedIdempotencyKeys

/-- execution_runner.py:75 -/
def recordKey (r : Runner W) (action : RemediationAction) : Runner W :=
  if action.idempotencyKey = "" then r
  else { r with executedIdempotencyKeys := insert action.idempotencyKey r.executedIdempotencyKeys }

/-- The key of the action is recorded, unless it is empty. -/
theorem mem_recordKey {r : Runner W} {action : RemediationAction} {key : String} :
    key ∈ (r.recordKey action).executedIdempotencyKeys ↔
      key ∈ r.executedIdempotencyKeys ∨ key = action.idempotencyKey ∧ key ≠ "" := by
  unfold recordKey
  split
  · rename_i hempty
    constructor
    · exact .inl
    · rintro (hmem | ⟨rfl, hne⟩)
      · exact hmem
      · exact absurd hempty hne
  · rename_i hne
    rw [Finset.mem_insert]
    constructor
    · rintro (rfl | hmem)
      · exact .inr ⟨rfl, hne⟩
      · exact .inl hmem
    · rintro (hmem | ⟨rfl, -⟩)
      · exact .inr hmem
      · exact .inl rfl

/-- execution_runner.py:56 -/
def toolArgs (action : RemediationAction) (parameters : Dict String Json) : Dict String Json :=
  (Dict.ofList [("target_service", .str action.targetService)]).update parameters

/-- `tool_result.data.get("message", …)`, and the check of `ActionExecutionResult` that it is a
string (execution_runner.py:77). -/
def outputMessage (data : Json) : Except PyException String :=
  match data.asDict? with
  | none => .error (.attributeError ("'" ++ data.typeName ++ "' object has no attribute 'get'"))
  | some d =>
    match d.getD "message" (.str "Remediation action completed successfully") with
    | .str msg => .ok msg
    | _ => .error (.validationError "1 validation error for ActionExecutionResult")

/-- `tool_result.error_message or "Tool execution failed"` -/
def failureMessage : Option String → String
  | some m => if m = "" then "Tool execution failed" else m
  | none => "Tool execution failed"

/-- What is returned once the registry has answered (execution_runner.py:71). -/
def report (action : RemediationAction) (clock : Clock) (res : ToolResult) :
    Except PyException ActionExecutionResult :=
  if res.status = .success then do
    let msg ← outputMessage res.data
    .ok { actionId := action.actionId, status := .success, output := msg, durationMs := clock.elapsed 1,
          executedAt := clock.now 1 }
  else
    .ok { actionId := action.actionId, status := .failed, output := "",
          errorMessage := some (failureMessage res.errorMessage), durationMs := clock.elapsed 1,
          executedAt := clock.now 1 }

theorem actionId_report {action : RemediationAction} {clock : Clock} {res : ToolResult}
    {result : ActionExecutionResult} (h : report action clock res = .ok result) :
    result.actionId = action.actionId := by
  unfold report at h
  split at h
  · cases hm : outputMessage res.data <;> simp only [hm] at h <;> cases h
    rfl
  · cases h
    rfl

/-- A tool that has returned is reported as a success unless its data cannot be. -/
theorem report_success_iff {action : RemediationAction} {clock : Clock} {tool : Tool W} {kwargs : Dict String Json}
    {w : W} :
    (∃ res, report action clock (tool.execute kwargs clock w).1 = .ok res ∧ res.status = .success) ↔
      (match (tool.run kwargs w).1 with
        | .ok data => (outputMessage data).isOk
        | .error _ => false) = true := by
  unfold Tool.execute
  split
  · rename_i data w' hrun
    simp only [hrun, report, if_true]
    cases outputMessage data with
    | ok msg => exact iff_of_true ⟨_, rfl, rfl⟩ rfl
    | error exc =>
      refine iff_of_false ?_ Bool.false_ne_true
      rintro ⟨res, hres, -⟩
      cases hres
  · rename_i exc w' hrun
    simp [hrun, report]

theorem contains_self_toolArgs (action : RemediationAction) (parameters : Dict String Json) :
    (toolArgs action parameters).contains "self" = parameters.contains "self" := by
  simp [toolArgs, Dict.contains, Dict.get?_update, Dict.get?_ofList, Dict.look]

theorem get?_target_toolArgs (action : RemediationAction) (parameters : Dict String Json) :
    (toolArgs action parameters).get? "target_service" =
      (parameters.get? "target_service").or (some (.str action.targetService)) := by
  simp [toolArgs, Dict.get?_update, Dict.get?_ofList, Dict.look]

section
variable [Unicode]

/-- execution_runner.py:20 -/
def executeAction (r : Runner W) (action : RemediationAction) (callerRole : String) (clock : Clock) :
    Outcome W :=
  if r.skips action then
    { runner := r, result := .ok
        { actionId := action.actionId, status := .success,
          output := "Skipped: action was already executed idempotently.", durationMs := .zero,
          executedAt := clock.now 1 } }
  else
    let toolName := action.actionType.name
    match r.registry.getTool toolName with
    | none =>
      { runner := r, result := .ok
          { actionId := action.actionId, status := .failed, output := "",
            errorMessage := some ("No executable tool found for action type '" ++ toolName ++ "'"),
            durationMs := clock.elapsed 1, executedAt := clock.now 1 } }
    | some _ =>
      match action.parameters.asDict? with
      | none => -- `**action.parameters`
        { runner := r, result := .error
            (.typeError ("'" ++ action.parameters.typeName ++ "' object is not a mapping")) }
      | some parameters =>
        let inv := r.registry.invoke toolName (toolArgs action parameters) callerRole clock r.world
        let r := { r with world := inv.world }
        match inv.result with
        | .error exc => { runner := r, result := .error exc, call := inv.call }
        | .ok res =>
          { runner := if res.status = .success then r.recordKey action else r
            result := report action clock res
            call := inv.call }

/-- `action.parameters.get` exists on a dict only. -/
def getParameters (action : RemediationAction) : Except PyException (Dict String Json) :=
  match action.parameters.asDict? with
  | some parameters => .ok parameters
  | none => .error (.attributeError ("'" ++ action.parameters.typeName ++ "' object has no attribute 'get'"))

/-- The action that `execute_rollback` executes (execution_runner.py:104). -/
def compensation (action : RemediationAction) : Except PyException RemediationAction :=
  match action.actionType with
  | .rollbackDeployment => (getParameters action).map fun parameters =>
    { action with parameters := .obj [("target_version", parameters.getD "previous_version" .null)] }
  | .modifyConfiguration => (getParameters action).map fun parameters =>
    { action with parameters := parameters.getD "rollback_config" (.obj []) }
  | _ => .ok
    { actionId := "rb-" ++ action.actionId, actionType := .restartService,
      targetService := action.targetService, description := "Compensatory pod restart during rollback",
      rationale := "Reset pod state following failed action", rollbackPlan := "None", riskTier := .high }

/-- What `execute_rollback` makes of the result of the compensation. -/
def rolledBack (action : RemediationAction) (clock : Clock) (res : ActionExecutionResult) :
    ActionExecutionResult :=
  match action.actionType with
  | .rollbackDeployment | .modifyConfiguration => { res with status := .rolledBack }
  | _ =>
    { actionId := action.actionId, status := .rolledBack,
      output := "Executed compensatory rollback: " ++ res.output, durationMs := clock.elapsed 2,
      executedAt := clock.now 2 }

/-- execution_runner.py:91 -/
def executeRollback (r : Runner W) (action : RemediationAction) (callerRole : String)
    (clock : Clock) : Outcome W :=
  match compensation action with
  | .error exc => { runner := r, result := .error exc }
  | .ok comp =>
    let out := r.executeAction comp callerRole clock
    { out with result := out.result.map (rolledBack action clock) }

/-! ## How far an action gets -/

/-- Its tool is registered. -/
def registered (r : Runner W) (action : RemediationAction) : Bool :=
  (r.registry.getTool action.actionType.name).isSome

/-- Its tool is registered for a role that the caller's covers. -/
def permitted (r : Runner W) (action : RemediationAction) (callerRole : String) : Bool :=
  (r.registry.getTool action.actionType.name).any fun tool => ToolRegistry.authorized tool callerRole

/-- Its parameters can be passed as keyword arguments: a dict without the key `self`. -/
def passable (action : RemediationAction) : Bool :=
  action.parameters.asDict?.any fun parameters => !parameters.contains "self"

/-- The body of the action's tool is entered. -/
def reaches (r : Runner W) (action : RemediationAction) (callerRole : String) : Bool :=
  !r.skips action && r.permitted action callerRole && passable action

/-- In this world the tool's `_run` returns, and with data that can be reported. -/
def works (r : Runner W) (action : RemediationAction) : Bool :=
  (r.registry.getTool action.actionType.name).any fun tool => action.parameters.asDict?.any fun parameters =>
    match (tool.run (toolArgs action parameters) r.world).1 with
    | .ok data => (outputMessage data).isOk
    | .error _ => false

/-- The action counts as done: under its key it was done before, or its tool is called and works. -/
def accomplishes (r : Runner W) (action : RemediationAction) (callerRole : String) : Bool :=
  r.skips action || r.reaches action callerRole && r.works action

variable {r : Runner W} {action : RemediationAction} {callerRole : String} {clock : Clock}

theorem executeAction_of_skips (callerRole : String) (clock : Clock) (h : r.skips action = true) :
    ∃ res, r.executeAction action callerRole clock = { runner := r, result := .ok res } ∧
      res.actionId = action.actionId ∧ res.status = .success := by
  simp [executeAction, h]

/-- The result of an action that is neither skipped nor passed to its tool: it raises when
the arguments cannot be formed or passed, and fails otherwise. -/
theorem executeAction_of_not_reaches (clock : Clock) (hs : r.skips action = false)
    (hr : r.reaches action callerRole = false) :
    ∃ result, r.executeAction action callerRole clock = { runner := r, result } ∧
      if r.registered action && (action.parameters.asDict?.isNone || r.permitted action callerRole) then
        ∃ exc, result = .error exc
      else ∃ res, result = .ok res ∧ res.actionId = action.actionId ∧ res.status = .failed := by
  simp only [reaches, hs, Bool.not_false, Bool.true_and, Bool.and_eq_false_iff] at hr
  unfold executeAction
  simp only [hs, Bool.false_eq_true, if_false]
  cases ht : r.registry.getTool action.actionType.name with
  | none => simp [registered, ht]
  | some tool =>
    simp only [permitted, passable, ht, Option.any_some] at hr
    cases hp : action.parameters.asDict? with
    | none => simp [registered, ht]
    | some parameters =>
      simp only [hp, Option.any_some, Bool.not_eq_false'] at hr
      cases ha : ToolRegistry.authorized tool callerRole with
      | false =>
        obtain ⟨res, hinv, hst⟩ := ToolRegistry.invoke_of_denied (toolArgs action parameters)
          clock r.world ht ha
        simp [hinv, registered, permitted, ht, ha, report, hst]
      | true =>
        have hself : parameters.contains "self" = true := by simpa [ha] using hr
        obtain ⟨exc, hinv⟩ := ToolRegistry.invoke_of_self (toolArgs action parameters)
          clock r.world ht ha (by rw [contains_self_toolArgs, hself])
        simp [hinv, registered, permitted, ht, ha]

/-- An action that reaches its tool: the tool gets the target and the parameters over it. -/
theorem executeAction_of_reaches (clock : Clock) (hr : r.reaches action callerRole = true) :
    ∃ tool parameters, r.registry.getTool action.actionType.name = some tool ∧
      action.parameters.asDict? = some parameters ∧
      let args := toolArgs action parameters
      let res := (tool.execute args clock r.world).1
      let r' := { r with world := (tool.execute args clock r.world).2 }
      r.executeAction action callerRole clock =
        { runner := if res.status = .success then r'.recordKey action else r'
          result := report action clock res
          call := some { toolName := action.actionType.name, arguments := args, status := res.status } } := by
  simp only [reaches, Bool.and_eq_true, Bool.not_eq_true', permitted, passable, Option.any_eq_true] at hr
  obtain ⟨⟨hs, tool, ht, ha⟩, parameters, hp, hself⟩ := hr
  refine ⟨tool, parameters, ht, hp, ?_⟩
  have hinv := ToolRegistry.invoke_of_authorized (toolArgs action parameters) clock r.world ht ha
    (by rw [contains_self_toolArgs]; simpa using hself)
  simp [executeAction, hs, ht, hp, hinv]

/-- An action that does not reach its tool leaves the runner alone. -/
theorem executeAction_unchanged (clock : Clock) (hr : r.reaches action callerRole = false) :
    ∃ result, r.executeAction action callerRole clock = { runner := r, result } := by
  cases hs : r.skips action with
  | true =>
    obtain ⟨res, hout, -⟩ := executeAction_of_skips callerRole clock hs
    exact ⟨_, hout⟩
  | false =>
    obtain ⟨result, hout, -⟩ := executeAction_of_not_reaches clock hs hr
    exact ⟨_, hout⟩

theorem call_of_not_reaches (hr : r.reaches action callerRole = false) :
    (r.executeAction action callerRole clock).call = none := by
  obtain ⟨result, hout⟩ := executeAction_unchanged clock hr
  rw [hout]

/-- The call is made exactly when the action reaches its tool. -/
theorem isSome_call_executeAction :
    (r.executeAction action callerRole clock).call.isSome = r.reaches action callerRole := by
  cases hr : r.reaches action callerRole with
  | true =>
    obtain ⟨tool, parameters, -, -, hout⟩ := executeAction_of_reaches clock hr
    rw [hout]
    rfl
  | false => rw [call_of_not_reaches hr, Option.isSome_none]

/-- A result carries the id of its action. -/
theorem actionId_executeAction {res : ActionExecutionResult}
    (h : (r.executeAction action callerRole clock).result = .ok res) :
    res.actionId = action.actionId := by
  cases hr : r.reaches action callerRole with
  | true =>
    obtain ⟨tool, parameters, -, -, hout⟩ := executeAction_of_reaches clock hr
    rw [hout] at h
    exact actionId_report h
  | false =>
    cases hs : r.skips action with
    | true =>
      obtain ⟨res', hout, hid, -⟩ := executeAction_of_skips callerRole clock hs
      rw [hout] at h
      cases h
      exact hid
    | false =>
      obtain ⟨result, hout, hres⟩ := executeAction_of_not_reaches clock hs hr
      rw [hout] at h
      split at hres
      · obtain ⟨exc, rfl⟩ := hres
        cases h
      · obtain ⟨res', rfl, hid, -⟩ := hres
        cases h
        exact hid

/-- **When an action is answered with `SUCCESS`** is decided before the call. -/
theorem executeAction_success_iff (clock : Clock) :
    (∃ res, (r.executeAction action callerRole clock).result = .ok res ∧ res.status = .success) ↔
      r.accomplishes action callerRole = true := by
  rw [accomplishes, Bool.or_eq_true, Bool.and_eq_true]
  cases hs : r.skips action with
  | true =>
    obtain ⟨res, hout, -, hst⟩ := executeAction_of_skips callerRole clock hs
    simp [hout, hst]
  | false =>
    cases hr : r.reaches action callerRole with
    | true =>
      obtain ⟨tool, parameters, ht, hp, hout⟩ := executeAction_of_reaches clock hr
      simp only [hout, report_success_iff, works, ht, hp, Option.any_some, Bool.false_eq_true, false_or, true_and]
    | false =>
      obtain ⟨result, hout, hres⟩ := executeAction_of_not_reaches clock hs hr
      simp only [hout, Bool.false_eq_true, false_and, or_false, iff_false]
      rintro ⟨res, rfl, hst⟩
      split at hres
      · obtain ⟨exc, hexc⟩ := hres
        cases hexc
      · obtain ⟨res', hok, -, hfailed⟩ := hres
        cases hok
        rw [hst] at hfailed
        cases hfailed

end

end Runner

end OpsPilot
