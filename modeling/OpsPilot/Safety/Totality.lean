import OpsPilot.Tools.Defaults
/-!
# When a call raises (`ToolRegistry.invoke`, `execute_action`, `execute_rollback`)

What `_run` raises is caught (base.py:50), but `execute(**arguments)` is called outside of that
`try`: an argument called `self` collides with the method's own parameter. So is the spreading of
`action.parameters` (execution_runner.py:56), and a rollback of a configuration change spreads
whatever stands under `rollback_config`. `total_iff` says that nothing else escapes.
-/
namespace OpsPilot

variable {W : Type}

namespace Runner

section
variable {r : Runner W} {action : RemediationAction} {callerRole : String} {clock : Clock}

/-- The tools that actions name report a text. -/
def Messaging (r : Runner W) : Prop :=
  ∀ (actionType : ActionType) (tool : Tool W), r.registry.getTool actionType.name = some tool → tool.Messages

/-- The message of a tool that returns is a text, so its result can be built. -/
theorem report_of_messages {tool : Tool W} (hm : tool.Messages) (kwargs : Dict String Json) (w : W) :
    ∃ res, report action clock (tool.execute kwargs clock w).1 = .ok res := by
  unfold report
  split
  · rename_i hsucc
    obtain ⟨data, hrun⟩ := (Tool.execute_success_iff tool kwargs clock w).1 hsucc
    obtain ⟨msg, hmsg⟩ := hm _ _ _ hrun
    have hdata : (tool.execute kwargs clock w).1.data = data := by
      unfold Tool.execute
      split
      · rename_i h
        rw [h] at hrun
        exact Except.ok.inj hrun
      · rename_i h
        rw [h] at hrun
        cases hrun
    rw [hdata, hmsg]
    exact ⟨_, rfl⟩
  · exact ⟨_, rfl⟩

/-- The dict can be passed as keyword arguments. -/
def Passes (kvs : List (String × Json)) : Prop := (Dict.ofList kvs).contains "self" = false

theorem skips_with_parameters (r : Runner W) (action : RemediationAction) (v : Json) :
    r.skips { action with parameters := v } = r.skips action := rfl

theorem passable_obj (action : RemediationAction) (kvs : List (String × Json)) :
    passable { action with parameters := .obj kvs } = true ↔ Passes kvs := by
  simp [passable, Json.asDict?, Passes]

theorem rollbackConfig_dict {v : Json} (h : v.asDict?.isSome = true) : ∃ config, v = .obj config := by
  cases v with
  | obj config => exact ⟨config, rfl⟩
  | _ => cases h

/-- The other compensations pass a version, or nothing. -/
theorem compensation_of_ne {kvs : List (String × Json)} (hp : action.parameters = .obj kvs)
    (ht : action.actionType ≠ .modifyConfiguration) :
    ∃ comp config, compensation action = .ok comp ∧ comp.parameters = .obj config ∧ Passes config := by
  unfold compensation
  cases hty : action.actionType with
  | modifyConfiguration => exact absurd hty ht
  | rollbackDeployment =>
    let version := (Dict.ofList kvs).getD "previous_version" .null
    refine ⟨{ action with parameters := .obj [("target_version", version)] }, [("target_version", version)],
      ?_, rfl, rfl⟩
    simp [getParameters, hp, Json.asDict?, Except.map, version, hty]
  | _ => exact ⟨_, [], rfl, rfl, rfl⟩

variable [Unicode]

/-- **A call returns exactly when** it does not get to the point of passing arguments that cannot
be passed. -/
theorem returns_iff (hm : r.Messaging) :
    (∃ res, (r.executeAction action callerRole clock).result = .ok res) ↔
      (r.skips action = false → r.registered action = true →
        action.parameters.asDict?.isSome = true ∧ (r.permitted action callerRole = true → passable action = true)) := by
  cases hs : r.skips action with
  | true =>
    obtain ⟨res, hout, -⟩ := executeAction_of_skips callerRole clock hs
    rw [hout]
    simp
  | false =>
    cases hr : r.reaches action callerRole with
    | true =>
      obtain ⟨tool, parameters, ht, hp, hout⟩ := executeAction_of_reaches clock hr
      rw [hout]
      simp only [reaches, hs, Bool.not_false, Bool.true_and, Bool.and_eq_true] at hr
      simp only [hr.2, hp, Option.isSome_some, implies_true, and_self, iff_true]
      exact report_of_messages (hm _ tool ht) _ _
    | false =>
      obtain ⟨result, hout, hresult⟩ := executeAction_of_not_reaches clock hs hr
      simp only [reaches, hs, Bool.not_false, Bool.true_and] at hr
      rw [hout]
      split at hresult
      · rename_i hraise
        obtain ⟨exc, rfl⟩ := hresult
        simp only [reduceCtorEq, exists_false, false_iff]
        intro h
        simp only [Bool.and_eq_true, Bool.or_eq_true] at hraise
        obtain ⟨hdict, hpass⟩ := h trivial hraise.1
        rcases hraise.2 with hnone | hperm
        · rw [Option.isNone_iff_eq_none] at hnone
          rw [hnone] at hdict
          cases hdict
        · rw [hperm, hpass hperm] at hr
          cases hr
      · rename_i hno
        obtain ⟨res, rfl, -, -⟩ := hresult
        simp only [Except.ok.injEq, exists_eq', true_iff]
        intro _ hreg
        simp only [hreg, Bool.true_and, Bool.or_eq_true, not_or, Bool.not_eq_true] at hno
        refine ⟨?_, fun hperm => ?_⟩
        · cases hd : action.parameters.asDict? with
          | none =>
            rw [hd] at hno
            cases hno.1
          | some d => rfl
        · rw [hno.2] at hperm
          cases hperm

theorem call_invoke_permitted {parameters : Dict String Json}
    (h : (r.registry.invoke action.actionType.name (toolArgs action parameters) callerRole clock r.world).call.isSome =
      true) : r.permitted action callerRole = true := by
  unfold permitted
  cases ht : r.registry.getTool action.actionType.name with
  | none => simp [ToolRegistry.invoke, ht] at h
  | some tool =>
    cases ha : ToolRegistry.authorized tool callerRole with
    | true => exact ha
    | false => simp [ToolRegistry.invoke, ht, ha] at h

theorem permitted_of_call (h : (r.executeAction action callerRole clock).call.isSome = true) :
    r.permitted action callerRole = true := by
  rw [isSome_call_executeAction, reaches, Bool.and_eq_true, Bool.and_eq_true] at h
  exact h.1.2

/-- A call whose tool is missing, denied or raises fails, unless the arguments cannot be passed. -/
theorem failed_of_call (hs : r.skips action = false)
    (hret : ∃ res, (r.executeAction action callerRole clock).result = .ok res)
    (h : r.registered action = false ∨ r.permitted action callerRole = false ∨
      ∃ call, (r.executeAction action callerRole clock).call = some call ∧ call.status ≠ .success) :
    ∃ res, (r.executeAction action callerRole clock).result = .ok res ∧ res.status = .failed := by
  cases hr : r.reaches action callerRole with
  | false =>
    obtain ⟨result, hout, hresult⟩ := executeAction_of_not_reaches clock hs hr
    rw [hout] at hret ⊢
    split at hresult
    · obtain ⟨exc, rfl⟩ := hresult
      obtain ⟨res, hres⟩ := hret
      cases hres
    · obtain ⟨res, hres, -, hst⟩ := hresult
      exact ⟨res, hres, hst⟩
  | true =>
    obtain ⟨tool, parameters, ht, hp, hout⟩ := executeAction_of_reaches clock hr
    simp only [reaches, hs, Bool.not_false, Bool.true_and, Bool.and_eq_true] at hr
    rcases h with hmissing | hdenied | ⟨call, hcall, hst⟩
    · simp [registered, ht] at hmissing
    · rw [hr.1] at hdenied
      cases hdenied
    · rw [hout] at hcall ⊢
      cases hcall
      simp only [report, hst, if_false]
      exact ⟨_, rfl, rfl⟩

/-! ## What is promised of a call -/

/-- Nothing escapes from the call of the tool, from the execution of the action or from its rollback; a
tool's body is entered for a sufficient role only; and where the tool is missing, denied or raises,
the execution has failed. -/
structure Total (r : Runner W) (action : RemediationAction) (callerRole : String) (clock : Clock) : Prop where
  invoke : ∀ parameters, action.parameters.asDict? = some parameters → ∃ res, (r.registry.invoke action.actionType.name
    (toolArgs action parameters) callerRole clock r.world).result = .ok res
  execute : ∃ res, (r.executeAction action callerRole clock).result = .ok res
  rollback : ∃ res, (r.executeRollback action callerRole clock).result = .ok res
  enteredInvoke : ∀ parameters, (r.registry.invoke action.actionType.name (toolArgs action parameters) callerRole clock
    r.world).call.isSome = true → r.permitted action callerRole = true
  enteredExecute : (r.executeAction action callerRole clock).call.isSome = true → r.permitted action callerRole = true
  enteredRollback : ∀ comp, compensation action = .ok comp →
    (r.executeRollback action callerRole clock).call.isSome = true → r.permitted comp callerRole = true
  failed : r.skips action = false → (r.registered action = false ∨ r.permitted action callerRole = false ∨
      ∃ call, (r.executeAction action callerRole clock).call = some call ∧ call.status ≠ .success) →
    ∃ res, (r.executeAction action callerRole clock).result = .ok res ∧ res.status = .failed

/-- What a configuration change is rolled back to is a dict, and it can be passed if it comes to that. -/
def RollsBack (r : Runner W) (action : RemediationAction) (callerRole : String) (kvs : List (String × Json)) : Prop :=
  ∃ config, (Dict.ofList kvs).getD "rollback_config" (.obj []) = .obj config ∧
    (r.permitted action callerRole = true → Passes config)

theorem executeRollback_ok {comp : RemediationAction} (h : compensation action = .ok comp) :
    (∃ res, (r.executeRollback action callerRole clock).result = .ok res) ↔
      ∃ res, (r.executeAction comp callerRole clock).result = .ok res := by
  simp only [executeRollback, h]
  cases (r.executeAction comp callerRole clock).result <;> simp [Except.map]

/-- The registry itself raises for a caller who may call the tool and passes `self`. -/
theorem invoke_returns_iff (parameters : Dict String Json) :
    (∃ res, (r.registry.invoke action.actionType.name (toolArgs action parameters) callerRole clock r.world).result =
      .ok res) ↔ (r.permitted action callerRole = true → parameters.contains "self" = false) := by
  rw [← contains_self_toolArgs action parameters]
  unfold permitted ToolRegistry.invoke
  cases ht : r.registry.getTool action.actionType.name with
  | none => simp
  | some tool =>
    cases ha : ToolRegistry.authorized tool callerRole with
    | false => simp [ha]
    | true =>
      cases hself : (toolArgs action parameters).contains "self" with
      | true => simp [ha]
      | false => simp [ha]

/-- A compensation with a plain dict is executed without raising. -/
theorem returns_of_passes (hm : r.Messaging) {kvs : List (String × Json)} (hp : action.parameters = .obj kvs)
    (hself : Passes kvs) : ∃ res, (r.executeAction action callerRole clock).result = .ok res := by
  refine (returns_iff hm).2 fun _ _ => ?_
  have hpass : passable action = true := by
    simpa [passable, hp, Json.asDict?, Passes] using hself
  exact ⟨by rw [hp]; rfl, fun _ => hpass⟩

/-- Rolling back a configuration change returns exactly when there is a configuration to roll back to. -/
theorem rollback_modify_iff (hm : r.Messaging) {kvs : List (String × Json)}
    (ht : action.actionType = .modifyConfiguration) (hp : action.parameters = .obj kvs)
    (hreg : r.registered action = true) :
    (∃ res, (r.executeRollback action callerRole clock).result = .ok res) ↔
      (r.skips action = false → r.RollsBack action callerRole kvs) := by
  have hcomp : compensation action = .ok
      { action with parameters := (Dict.ofList kvs).getD "rollback_config" (.obj []) } := by
    simp [compensation, ht, getParameters, hp, Json.asDict?, Except.map]
  rw [executeRollback_ok hcomp, returns_iff hm, skips_with_parameters]
  refine imp_congr_right fun _ => ?_
  have hsame : ∀ v, r.registered { action with parameters := v } = r.registered action := fun _ => rfl
  have hperm : ∀ v, r.permitted { action with parameters := v } callerRole = r.permitted action callerRole :=
    fun _ => rfl
  rw [hsame, hperm]
  constructor
  · intro h
    obtain ⟨hdict, hpass⟩ := h hreg
    obtain ⟨config, hconfig⟩ := rollbackConfig_dict hdict
    refine ⟨config, hconfig, fun hallowed => (passable_obj action config).1 ?_⟩
    rw [← hconfig]
    exact hpass hallowed
  · rintro ⟨config, hconfig, hpass⟩ _
    rw [hconfig]
    exact ⟨rfl, fun hallowed => (passable_obj action config).2 (hpass hallowed)⟩

end

section
variable [Unicode]

theorem messaging_withDefaults (simulator : Simulator W)
    (query : String → Dict String Json → W → Except PyException Json × W) (keys : Finset String) (w : W) :
    Messaging { registry := .withDefaults simulator query, executedIdempotencyKeys := keys, world := w } := by
  intro actionType tool ht
  have hfor : toolFor simulator actionType = some tool :=
    (getTool_withDefaults simulator query actionType).symm.trans ht
  exact (toolFor_spec hfor).2

/-- **Execution is total up to two slips**: an argument called `self`, for a caller who may call the
tool, and a configuration to roll back to that is not a dict of such arguments. -/
theorem total_iff (simulator : Simulator W) (query : String → Dict String Json → W → Except PyException Json × W)
    (keys : Finset String) (w : W) (action : RemediationAction) (kvs : List (String × Json)) (callerRole : String)
    (clock : Clock) :
    let r : Runner W := { registry := .withDefaults simulator query, executedIdempotencyKeys := keys, world := w }
    let act : RemediationAction := { action with parameters := .obj kvs }
    Total r act callerRole clock ↔
      (r.permitted act callerRole = true → Passes kvs) ∧
      (act.actionType = .modifyConfiguration → r.skips act = false → r.RollsBack act callerRole kvs) := by
  intro r act
  have hm : r.Messaging := messaging_withDefaults simulator query keys w
  have hmodify : ∀ ht : act.actionType = .modifyConfiguration, r.registered act = true := by
    intro ht
    have htool := getTool_withDefaults simulator query act.actionType
    rw [ht] at htool
    simp only [registered, ht, r]
    rw [htool]
    rfl
  have hinvoke : (∃ res, (r.registry.invoke act.actionType.name (toolArgs act (Dict.ofList kvs)) callerRole clock
      r.world).result = .ok res) ↔ (r.permitted act callerRole = true → Passes kvs) :=
    invoke_returns_iff (Dict.ofList kvs)
  constructor
  · intro h
    refine ⟨hinvoke.1 (h.invoke _ rfl), fun ht => ?_⟩
    exact (rollback_modify_iff hm ht rfl (hmodify ht)).1 h.rollback
  · rintro ⟨hself, hrollback⟩
    have hexecute : ∃ res, (r.executeAction act callerRole clock).result = .ok res :=
      (returns_iff hm).2 fun _ _ => ⟨rfl, fun hperm => (passable_obj action kvs).2 (hself hperm)⟩
    refine
      { invoke := ?_, execute := hexecute, rollback := ?_, enteredInvoke := fun _ => call_invoke_permitted
        enteredExecute := permitted_of_call, enteredRollback := ?_, failed := fun hs => failed_of_call hs hexecute }
    · rintro parameters hp
      cases hp
      exact hinvoke.2 hself
    · by_cases ht : act.actionType = .modifyConfiguration
      · exact (rollback_modify_iff hm ht rfl (hmodify ht)).2 (hrollback ht)
      · have hp : act.parameters = .obj kvs := rfl
        obtain ⟨comp, config, hcomp, hp, hpass⟩ := compensation_of_ne hp ht
        exact (executeRollback_ok hcomp).2 (returns_of_passes hm hp hpass)
    · intro comp hcomp hcall
      have hsome : (r.executeAction comp callerRole clock).call.isSome = true := by
        simpa only [executeRollback, hcomp] using hcall
      exact permitted_of_call hsome

end

/-- A restart with the parameter `self`. -/
def selfAction : RemediationAction :=
  { actionId := "ACT-01", actionType := .restartService, targetService := "payment-service",
    parameters := .obj [("self", .int 1)], description := "", rationale := "", rollbackPlan := "" }

/-- A runner over the default registry whose simulator always reports success. -/
def defaultRunner [Unicode] : Runner Unit :=
  { registry := .withDefaults (fun _ _ w => (.ok (true, "done"), w)) (fun _ _ w => (.ok .null, w)), world := () }

/-- It ends the run with a `TypeError`. -/
theorem self_escapes :
    letI := Py.asciiTable
    ¬ defaultRunner.Total selfAction "OPERATOR" { now := fun _ => ⟨0⟩, elapsed := fun _ => .zero } := by
  have hraise : letI := Py.asciiTable
      (defaultRunner.executeAction selfAction "OPERATOR"
        { now := fun _ => ⟨0⟩, elapsed := fun _ => .zero }).result.toOption.isSome = false := by decide +kernel
  let _ := Py.asciiTable
  intro h
  obtain ⟨res, hres⟩ := h.execute
  rw [hres] at hraise
  cases hraise

end Runner

end OpsPilot
