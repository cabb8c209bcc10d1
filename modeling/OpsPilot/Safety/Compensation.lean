import OpsPilot.Lib.Run
import OpsPilot.Safety.ExecutionRunner
import OpsPilot.Tools.Remediation
import OpsPilot.Agents
/-!
# What the runner's answers are worth

* `rollback_honest_iff` — when a `ROLLED_BACK` answer stands for a compensation that ran.
* `executed_on_target_iff` — when the tools act on the service the action was assessed for.
-/
namespace OpsPilot

variable {W : Type}

namespace Runner

theorem status_rolledBack (action : RemediationAction) (clock : Clock) (res : ActionExecutionResult) :
    (rolledBack action clock res).status = .rolledBack := by
  unfold rolledBack
  split <;> rfl

/-- Who is compensated, and with which parameters. -/
theorem compensation_ok {action comp : RemediationAction} (h : compensation action = .ok comp) :
    comp.targetService = action.targetService ∧
      (comp.parameters = .obj [] ∨ (∃ v, comp.parameters = .obj [("target_version", v)]) ∨
        action.actionType = .modifyConfiguration ∧ ∃ parameters, action.parameters.asDict? = some parameters ∧
          comp.parameters = parameters.getD "rollback_config" (.obj [])) := by
  unfold compensation getParameters at h
  cases ht : action.actionType <;> cases hd : action.parameters.asDict? <;>
    simp only [ht, hd, Except.map, Except.ok.injEq, reduceCtorEq] at h <;> subst h <;> simp

end Runner

section
variable [Unicode]

/-- The calls a runner may receive, and what happens to the world between them. -/
inductive Runner.Label (W : Type) where
  | action (action : RemediationAction) (callerRole : String) (clock : Clock)
  | rollback (action : RemediationAction) (callerRole : String) (clock : Clock)
  | world (w : W)

namespace Runner

def step (r : Runner W) : Label W → Option (Runner W)
  | .action action callerRole clock => some (r.executeAction action callerRole clock).runner
  | .rollback action callerRole clock => some (r.executeRollback action callerRole clock).runner
  | .world w => some { r with world := w }

/-! ## A reported rollback -/

/-- A `ROLLED_BACK` answer comes with a call of a tool that succeeded. -/
def HonestOutcome (out : Outcome W) : Prop :=
  ∀ res, out.result = .ok res → res.status = .rolledBack → ∃ c, out.call = some c ∧ c.status = .success

/-- The compensation is not skipped, its tool is there, and, unless its arguments raise on the
way, the tool is allowed and its `_run` returns. -/
def Compensates (r : Runner W) (action : RemediationAction) (callerRole : String) : Prop :=
  ∀ comp, compensation action = .ok comp → r.skips comp = false ∧ ∃ tool,
    r.registry.getTool comp.actionType.name = some tool ∧
    ∀ parameters, comp.parameters.asDict? = some parameters →
      ToolRegistry.authorized tool callerRole = true ∧
      (parameters.contains "self" = false →
        ∃ data, (tool.run (toolArgs comp parameters) r.world).1 = .ok data)

/-- Short of the tool, the condition says that the call raises. -/
theorem gets_through_short {r : Runner W} {comp : RemediationAction} {callerRole : String}
    (hs : r.skips comp = false) (hr : r.reaches comp callerRole = false) :
    (r.skips comp = false ∧ ∃ tool, r.registry.getTool comp.actionType.name = some tool ∧
      ∀ parameters, comp.parameters.asDict? = some parameters →
        ToolRegistry.authorized tool callerRole = true ∧ (parameters.contains "self" = false →
          ∃ data, (tool.run (toolArgs comp parameters) r.world).1 = .ok data)) ↔
      (r.registered comp && (comp.parameters.asDict?.isNone || r.permitted comp callerRole)) = true := by
  simp only [reaches, permitted, passable, hs] at hr
  simp only [hs, registered, permitted, true_and]
  cases ht : r.registry.getTool comp.actionType.name with
  | none => simp
  | some tool =>
    cases hp : comp.parameters.asDict? with
    | none => simp
    | some parameters =>
      cases ha : ToolRegistry.authorized tool callerRole with
      | false => simp [ha]
      | true =>
        have hself : parameters.contains "self" = true := by simpa [ht, hp, ha] using hr
        simp [ha, hself]

theorem honest_rollback_iff (r : Runner W) (action : RemediationAction) (callerRole : String)
    (clock : Clock) :
    HonestOutcome (r.executeRollback action callerRole clock) ↔
      r.Compensates action callerRole := by
  unfold executeRollback Compensates
  cases hc : compensation action with
  | error exc => simp [HonestOutcome]
  | ok comp =>
    simp only [Except.ok.injEq, forall_eq']
    by_cases hs : r.skips comp = true
    · -- skipped: reported all the same, and nothing was called
      obtain ⟨res, hout, -, -⟩ := executeAction_of_skips callerRole clock hs
      simp [HonestOutcome, hout, hs, Except.map, status_rolledBack]
    rw [Bool.not_eq_true] at hs
    by_cases hr : r.reaches comp callerRole = true
    · obtain ⟨tool, parameters, ht, hp, hout⟩ := executeAction_of_reaches clock hr
      simp only [reaches, permitted, passable, ht, hp, hs, Option.any_some, Bool.and_eq_true,
        Bool.not_eq_true'] at hr
      have hrun := Tool.execute_success_iff tool (toolArgs comp parameters) clock r.world
      simp only [hs, ht, hp, hr.1.2, hr.2, ← hrun, Option.some.injEq, forall_eq', exists_eq_left', true_and,
        forall_const]
      constructor
      · -- the answer of a tool that failed would be reported too
        intro hon
        by_contra hfail
        rw [hout] at hon
        obtain ⟨c, hcall, hst⟩ := hon
          (rolledBack action clock
            { actionId := comp.actionId, status := .failed, output := "",
              errorMessage := some (failureMessage
                (tool.execute (toolArgs comp parameters) clock r.world).1.errorMessage),
              durationMs := clock.elapsed 1, executedAt := clock.now 1 })
          (by simp [report, hfail, Except.map]) (status_rolledBack _ _ _)
        cases hcall
        exact hfail hst
      · intro hsucc res _ _
        exact ⟨_, by rw [hout], hsucc⟩
    · rw [Bool.not_eq_true] at hr
      obtain ⟨result, hout, hres⟩ := executeAction_of_not_reaches clock hs hr
      rw [gets_through_short hs hr]
      split at hres
      · rename_i hraise
        obtain ⟨exc, rfl⟩ := hres
        simp [HonestOutcome, hout, hraise, Except.map]
      · rename_i hraise
        obtain ⟨res, rfl, -, -⟩ := hres
        simp [HonestOutcome, hout, hraise, Except.map, status_rolledBack]

/-- In a run, every `ROLLED_BACK` answer is honest. -/
def HonestCall (r : Runner W) : Label W → Prop
  | .rollback action callerRole clock => HonestOutcome (r.executeRollback action callerRole clock)
  | _ => True

def CompensatingCall (r : Runner W) : Label W → Prop
  | .rollback action callerRole _ => r.Compensates action callerRole
  | _ => True

/-- **A rollback is reported exactly when nothing stops it**: in a run of calls on a fresh
runner, every `ROLLED_BACK` answer stands for a compensation that ran and succeeded if and
only if every rollback is asked for in a state where its compensation is not skipped as
already executed, has its tool, is allowed, and does not fail in it. -/
theorem rollback_honest_iff (registry : ToolRegistry W) (w : W) (calls : List (Label W)) :
    Machine.Along step HonestCall { registry, world := w } calls ↔
      Machine.Along step CompensatingCall { registry, world := w } calls := by
  refine Machine.along_iff_of_forall fun r call => ?_
  cases call with
  | action action callerRole clock => exact Iff.rfl
  | rollback action callerRole clock => exact honest_rollback_iff r action callerRole clock
  | world w => exact Iff.rfl

end Runner

end

/-- A deployment is rolled back under a key, then the rollback itself is to be undone: the same
key makes the runner skip, and `ROLLED_BACK` is answered without a call. -/
theorem rollback_reported_not_run :
    letI := Py.asciiTable
    let simulator : Simulator Unit := fun _ _ w => (.ok (true, "rolled back"), w)
    let registry := (⟨Dict.empty⟩ : ToolRegistry Unit).register (rollbackDeploymentTool simulator)
    let action : RemediationAction :=
      { actionId := "ACT-ROLLBACK-01", actionType := .rollbackDeployment, targetService := "payment-service",
        parameters := .obj [("target_version", .str "v2.3.9"), ("previous_version", .str "v2.4.0")],
        description := "", rationale := "", rollbackPlan := "", idempotencyKey := "0123456789abcdef" }
    let clock : Clock := ⟨fun _ => ⟨0⟩, fun _ => PyFloat.zero⟩
    ¬ Machine.Along Runner.step Runner.HonestCall { registry, world := () }
      [.action action "OPERATOR" clock, .rollback action "OPERATOR" clock] := by
  intro simulator registry action clock h
  let out := @Runner.executeRollback Unit Py.asciiTable
    (@Runner.executeAction Unit Py.asciiTable { registry, world := () } action "OPERATOR" clock).runner
    action "OPERATOR" clock
  have hout : (out.call.isNone && out.result.toOption.any (·.status == .rolledBack)) = true := by decide +kernel
  simp only [Bool.and_eq_true, Option.isNone_iff_eq_none, Option.any_eq_true, beq_iff_eq] at hout
  obtain ⟨hcall, res, hres, hst⟩ := hout
  obtain ⟨c, hc, -⟩ := (h.2 _ rfl).1 res (PyException.ok_of_toOption hres) hst
  cases hcall.symm.trans hc

/-! ## The target of what is executed -/

/-- As keyword arguments the parameters do not redirect the call: passing `target_service`
again, they name the same service. -/
def TargetKept (targetService : String) (parameters : Json) : Prop :=
  ∀ d, parameters.asDict? = some d → d.contains "self" = false →
    d.get? "target_service" = none ∨ d.get? "target_service" = some (.str targetService)

theorem targetKept_of_look {targetService : String} {kvs : List (String × Json)}
    (h : Dict.look "target_service" kvs.reverse = none) : TargetKept targetService (.obj kvs) := by
  intro d hd _
  cases hd
  exact .inl ((Dict.get?_ofList kvs _).trans h)

/-- Of the compensations, only that of a configuration change takes parameters from the action. -/
theorem targetKept_compensation_iff (action : RemediationAction) :
    (∀ comp, Runner.compensation action = .ok comp → TargetKept action.targetService comp.parameters) ↔
      (action.actionType = .modifyConfiguration → ∀ d, action.parameters.asDict? = some d →
        TargetKept action.targetService (d.getD "rollback_config" (.obj []))) := by
  constructor
  · intro h hm d hd
    exact h _ (by simp only [Runner.compensation, Runner.getParameters, hm, hd, Except.map]; rfl)
  · intro h comp hc
    rcases (Runner.compensation_ok hc).2 with hp | ⟨v, hp⟩ | ⟨hm, d, hd, hp⟩
    · exact hp ▸ targetKept_of_look rfl
    · exact hp ▸ targetKept_of_look rfl
    · exact hp ▸ h hm d hd

section
variable [Unicode]

/-- On every runner, whatever calls a tool for the action hands it the action's service. -/
def ExecutedOnTarget (action : RemediationAction) : Prop :=
  ∀ (W : Type) (r : Runner W) (callerRole : String) (clock : Clock) (c : ToolCall),
    (r.executeAction action callerRole clock).call = some c ∨
      (r.executeRollback action callerRole clock).call = some c →
    c.arguments.get? "target_service" = some (.str action.targetService)

namespace Runner

/-- A runner on which nothing stops the action. -/
def openRunner (action : RemediationAction) : Runner Unit where
  registry := (⟨Dict.empty⟩ : ToolRegistry Unit).register
    { name := action.actionType.name, run := fun _ w => (.ok (.obj []), w) }
  world := ()

theorem reaches_openRunner (action : RemediationAction) (h : passable action = true) :
    (openRunner action).reaches action "ADMIN" = true := by
  have hauth : ∀ tool : Tool Unit, tool.requiredRole = "OPERATOR" → ToolRegistry.authorized tool "ADMIN" = true := by
    intro tool ht
    rw [ToolRegistry.authorized, ht, RiskPolicyEngine.upper_admin, RiskPolicyEngine.upper_operator]
    decide
  simp [reaches, skips, permitted, openRunner, h, hauth]

theorem executed_target_iff (action : RemediationAction) :
    (∀ (W : Type) (r : Runner W) (callerRole : String) (clock : Clock) (c : ToolCall),
      (r.executeAction action callerRole clock).call = some c →
        c.arguments.get? "target_service" = some (.str action.targetService)) ↔
      TargetKept action.targetService action.parameters := by
  constructor
  · intro h d hd hself
    have hr := reaches_openRunner action (by simp [passable, hd, hself])
    obtain ⟨tool, parameters, -, hp, hout⟩ := executeAction_of_reaches ⟨fun _ => ⟨0⟩, fun _ => .zero⟩ hr
    obtain rfl : d = parameters := Option.some.inj (hd.symm.trans hp)
    have := h Unit _ _ _ _ (congrArg Outcome.call hout)
    rw [get?_target_toolArgs] at this
    cases ht : d.get? "target_service" with
    | none => exact .inl rfl
    | some v => exact .inr (by simpa [ht] using this)
  · intro h W r callerRole clock c hc
    by_cases hr : r.reaches action callerRole = true
    · obtain ⟨tool, parameters, -, hp, hout⟩ := executeAction_of_reaches clock hr
      have hself : parameters.contains "self" = false := by
        simp only [reaches, passable, hp, Option.any_some, Bool.and_eq_true, Bool.not_eq_true'] at hr
        exact hr.2
      rw [hout] at hc
      cases hc
      rw [get?_target_toolArgs]
      rcases h parameters hp hself with ht | ht <;> simp [ht]
    · rw [call_of_not_reaches (by simpa using hr)] at hc
      cases hc

theorem call_executeRollback {r : Runner W} {action : RemediationAction} {callerRole : String}
    {clock : Clock} {c : ToolCall} : (r.executeRollback action callerRole clock).call = some c ↔
      ∃ comp, compensation action = .ok comp ∧ (r.executeAction comp callerRole clock).call = some c := by
  unfold executeRollback
  cases compensation action <;> simp

end Runner

theorem executedOnTarget_iff (action : RemediationAction) : ExecutedOnTarget action ↔
    TargetKept action.targetService action.parameters ∧
      (action.actionType = .modifyConfiguration → ∀ d, action.parameters.asDict? = some d →
        TargetKept action.targetService (d.getD "rollback_config" (.obj []))) := by
  rw [← targetKept_compensation_iff, ← Runner.executed_target_iff]
  constructor
  · intro h
    refine ⟨fun W r role clock c hc => h W r role clock c (.inl hc), fun comp hcomp => ?_⟩
    have hts := (Runner.compensation_ok hcomp).1
    rw [← hts, ← Runner.executed_target_iff]
    intro W r role clock c hc
    rw [hts]
    exact h W r role clock c (.inr (Runner.call_executeRollback.2 ⟨comp, hcomp, hc⟩))
  · rintro ⟨hexec, hcomp⟩ W r role clock c (hc | hc)
    · exact hexec W r role clock c hc
    · obtain ⟨comp, hok, hc⟩ := Runner.call_executeRollback.1 hc
      have hts := (Runner.compensation_ok hok).1
      rw [← hts]
      exact (Runner.executed_target_iff comp).2 (hts ▸ hcomp comp hok) W r role clock c hc

/-- **What is executed is what was assessed, unless the parameters say otherwise**: every call
made for the actions of a plan goes to the assessed service if and only if no parameters, and
no `rollback_config` of a configuration change, name another `target_service`. -/
theorem executed_on_target_iff (policyEngine : RiskPolicyEngine) (incidentId : String)
    (hypothesis : Hypothesis) (rawPlan : RemediationPlan) :
    (∀ action ∈ (RemediationAgent.planRemediation policyEngine incidentId hypothesis rawPlan).actions,
      ExecutedOnTarget action) ↔
    ∀ action ∈ rawPlan.actions, TargetKept action.targetService action.parameters ∧
      (action.actionType = .modifyConfiguration → ∀ d, action.parameters.asDict? = some d →
        TargetKept action.targetService (d.getD "rollback_config" (.obj []))) := by
  simp only [RemediationAgent.planRemediation, List.forall_mem_map, executedOnTarget_iff,
    RiskPolicyEngine.targetService_assess, RiskPolicyEngine.parameters_assess,
    RiskPolicyEngine.actionType_assess]

end

/-- A restart assessed for the payment service whose parameters name the authentication service. -/
theorem executed_on_other_target :
    letI := Py.asciiTable
    let hypothesis : Hypothesis :=
      { id := "HYP-01", title := "", description := "", confidence := default, supportingEvidenceIds := [],
        reasoningSummary := "" }
    let action : RemediationAction :=
      { actionId := "ACT-01", actionType := .restartService, targetService := "payment-service",
        parameters := .obj [("target_service", .str "auth-service")], description := "", rationale := "",
        rollbackPlan := "" }
    let rawPlan : RemediationPlan := { incidentId := "", hypothesisId := "", actions := [action], summary := "" }
    ¬ ∀ a ∈ (RemediationAgent.planRemediation {} "inc-1" hypothesis rawPlan).actions, ExecutedOnTarget a := by
  intro hypothesis action rawPlan h
  let _ := Py.asciiTable
  let assessed := RiskPolicyEngine.assessActionRisk {} action "inc-1"
  let simulator : Simulator Unit := fun _ _ w => (.ok (true, "restarted"), w)
  let registry := (⟨Dict.empty⟩ : ToolRegistry Unit).register (restartServiceTool simulator)
  let out := Runner.executeAction { registry, world := () } assessed "OPERATOR" ⟨fun _ => ⟨0⟩, fun _ => PyFloat.zero⟩
  have hcall : out.call.any (fun c =>
      (c.arguments.get? "target_service").map Json.pyStr == some "auth-service") = true := by decide +kernel
  obtain ⟨c, hc, htarget⟩ := (Option.any_eq_true _ _).1 hcall
  have hgood := h assessed (List.mem_singleton.2 rfl) Unit { registry, world := () } "OPERATOR" _ c (.inl hc)
  rw [hgood] at htarget
  revert htarget
  decide

end OpsPilot
