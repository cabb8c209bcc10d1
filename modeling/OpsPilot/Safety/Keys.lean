import OpsPilot.Safety.Skips
/-!
# Which keys a runner has recorded (`ExecutionRunner._executed_idempotency_keys`)

`History` adds to the runner what became of each call of `execute_action`: the status with which
its tool ended, if it was called at all. The source keeps no such list. Between two calls the
world may change in any way, so a tool may fail and later succeed.
-/
namespace OpsPilot

variable {W : Type}

/-- A runner and the calls of `execute_action` so far, each with the status of its tool. -/
structure History (W : Type) where
  runner : Runner W
  attempts : List (RemediationAction × Option ToolStatus) := []

namespace History

inductive Label (W : Type) where
  | executeAction (action : RemediationAction) (callerRole : String) (clock : Clock)
  | world (w : W)

/-- An `ExecutionRunner()` that has executed nothing. -/
def fresh (registry : ToolRegistry W) (world : W) : History W where
  runner := { registry, world }

/-- A call with the key has made its tool succeed. -/
def Succeeded (s : History W) (key : String) : Prop :=
  ∃ e ∈ s.attempts, e.1.idempotencyKey = key ∧ e.2 = some .success

/-- The recorded keys are the non-empty ones under which a tool has succeeded. -/
def KeysEarned (s : History W) : Prop :=
  ∀ key, key ∈ s.runner.executedIdempotencyKeys ↔ key ≠ "" ∧ s.Succeeded key

section
variable [Unicode]

def step (s : History W) : Label W → Option (History W)
  | .executeAction action callerRole clock =>
    let out := s.runner.executeAction action callerRole clock
    some { runner := out.runner, attempts := s.attempts ++ [(action, out.call.map ToolCall.status)] }
  | .world w => some { s with runner := { s.runner with world := w } }

end

end History

namespace Runner

section
variable [Unicode] {r : Runner W} {action : RemediationAction} {callerRole : String}

theorem registry_executeAction (clock : Clock) :
    (r.executeAction action callerRole clock).runner.registry = r.registry := by
  cases hr : r.reaches action callerRole with
  | true =>
    obtain ⟨tool, parameters, -, -, hout⟩ := executeAction_of_reaches clock hr
    rw [hout]
    unfold recordKey
    split
    · split <;> rfl
    · rfl
  | false =>
    obtain ⟨result, hout⟩ := executeAction_unchanged clock hr
    rw [hout]

/-- The tool of a call has returned SUCCESS exactly when it was reached and `_run` returned. -/
theorem call_success_iff (clock : Clock) :
    (r.executeAction action callerRole clock).call.map ToolCall.status = some .success ↔
      r.Succeeds action callerRole := by
  constructor
  · intro h
    have hr : r.reaches action callerRole = true := by
      refine (isSome_call_executeAction : (r.executeAction action callerRole clock).call.isSome = _).symm.trans ?_
      cases hcall : (r.executeAction action callerRole clock).call with
      | none =>
        rw [hcall] at h
        cases h
      | some call => rfl
    obtain ⟨tool, parameters, ht, hp, hout⟩ := executeAction_of_reaches clock hr
    rw [hout] at h
    obtain ⟨data, hrun⟩ := (Tool.execute_success_iff tool _ clock r.world).1 (Option.some.inj h)
    exact ⟨hr, tool, parameters, data, ht, hp, hrun⟩
  · intro h
    obtain ⟨-, parameters, -, hcall⟩ := executeAction_of_succeeds clock h
    rw [hcall]
    rfl

end

end Runner

namespace History

theorem succeeded_concat {s : History W} {runner : Runner W} {e : RemediationAction × Option ToolStatus}
    {key : String} :
    ({ runner, attempts := s.attempts ++ [e] } : History W).Succeeded key ↔
      s.Succeeded key ∨ e.1.idempotencyKey = key ∧ e.2 = some .success := by
  simp only [Succeeded, List.mem_append, List.mem_singleton]
  constructor
  · rintro ⟨e', hold | rfl, hrest⟩
    · exact .inl ⟨e', hold, hrest⟩
    · exact .inr hrest
  · rintro (⟨e', hold, hrest⟩ | hrest)
    · exact ⟨e', .inl hold, hrest⟩
    · exact ⟨e, .inr rfl, hrest⟩

section
variable [Unicode] {registry : ToolRegistry W} {w : W}

/-- A call records its key exactly when its tool succeeds. -/
theorem keysEarned_step {s s' : History W} {l : Label W} (h : s.KeysEarned) (hst : s.step l = some s') :
    s'.KeysEarned := by
  cases l with
  | world w =>
    cases hst
    exact h
  | executeAction action callerRole clock =>
    cases hst
    intro key
    rw [succeeded_concat, Runner.call_success_iff]
    by_cases hsucc : s.runner.Succeeds action callerRole
    · have hkeys := (Runner.executeAction_of_succeeds clock hsucc).1
      rw [hkeys, h key]
      constructor
      · rintro (⟨hne, hold⟩ | ⟨rfl, hne⟩)
        · exact ⟨hne, .inl hold⟩
        · exact ⟨hne, .inr ⟨rfl, hsucc⟩⟩
      · rintro ⟨hne, hold | ⟨rfl, -⟩⟩
        · exact .inl ⟨hne, hold⟩
        · exact .inr ⟨rfl, hne⟩
    · have hkeys := Runner.keys_of_not_succeeds clock hsucc
      simp only [hkeys, h key, hsucc, and_false, or_false]

theorem keysEarned_run {as : List (Label W)} {s : History W}
    (hrun : Machine.run step (fresh registry w) as = some s) : s.KeysEarned := by
  refine Machine.Reachable.invariant ⟨as, hrun⟩ ?_ fun t l t' => keysEarned_step
  intro key
  simp [fresh, Succeeded]

theorem registry_run {as : List (Label W)} {s : History W}
    (hrun : Machine.run step (fresh registry w) as = some s) : s.runner.registry = registry := by
  refine Machine.Reachable.invariant (I := fun t : History W => t.runner.registry = registry) ⟨as, hrun⟩ rfl ?_
  intro t l t' h hst
  cases l with
  | world w =>
    cases hst
    exact h
  | executeAction action callerRole clock =>
    cases hst
    exact (Runner.registry_executeAction clock).trans h

/-- **Failures do not burn keys**: the recorded keys are those under which a tool has succeeded. A
call under any other key reaches its tool, if it may call it at all; a call under such a key does not. -/
theorem keys_earned (as : List (Label W)) (s : History W)
    (hrun : Machine.run step (fresh registry w) as = some s) :
    s.KeysEarned ∧ ∀ (action : RemediationAction) (callerRole : String) (clock : Clock),
      let call := (s.runner.executeAction action callerRole clock).call
      (action.idempotencyKey = "" ∨ ¬ s.Succeeded action.idempotencyKey →
        call.isSome = ((fresh registry w).runner.permitted action callerRole && Runner.passable action)) ∧
      (action.idempotencyKey ≠ "" → s.Succeeded action.idempotencyKey → call = none) := by
  have hearned := keysEarned_run hrun
  have hregistry := registry_run hrun
  refine ⟨hearned, fun action callerRole clock => ⟨fun hnew => ?_, fun hne hsucc => ?_⟩⟩
  · have hskip : s.runner.skips action = false := by
      rw [← Bool.not_eq_true, Runner.skips_iff, hearned]
      rintro ⟨hne, -, hsucc⟩
      rcases hnew with hempty | hno
      · exact hne hempty
      · exact hno hsucc
    rw [Runner.isSome_call_executeAction, Runner.reaches, hskip, Runner.permitted, Runner.permitted, hregistry]
    rfl
  · have hskip : s.runner.skips action = true := by
      rw [Runner.skips_iff, hearned]
      exact ⟨hne, hne, hsucc⟩
    refine Runner.call_of_not_reaches ?_
    rw [Runner.reaches, hskip]
    rfl

end

/-- A tool that works once the world lets it. -/
def switchTool : Tool Bool where
  name := "restart_service"
  run := fun _ w => (if w then .ok (.obj []) else .error (.runtimeError "not yet"), w)

/-- Two failures and a success under one key. -/
def retried : List (Label Bool) :=
  let action : RemediationAction :=
    { actionId := "ACT-01", actionType := .restartService, targetService := "payment-service", description := "",
      rationale := "", rollbackPlan := "", idempotencyKey := "k" }
  let clock : Clock := { now := fun _ => ⟨0⟩, elapsed := fun _ => .zero }
  [.executeAction action "OPERATOR" clock, .executeAction action "VIEWER" clock, .world true,
    .executeAction action "OPERATOR" clock]

theorem keys_earned_retried :
    letI := Py.asciiTable
    ∃ s, Machine.run step (fresh (({} : ToolRegistry Bool).register switchTool) false) retried = some s ∧
      s.attempts.map Prod.snd = [some .failed, none, some .success] ∧ s.KeysEarned := by
  have hend : letI := Py.asciiTable
      ∃ s, Machine.run step (fresh (({} : ToolRegistry Bool).register switchTool) false) retried = some s ∧
        s.attempts.map Prod.snd = [some .failed, none, some .success] := by decide +kernel
  let _ := Py.asciiTable
  obtain ⟨s, hs, hattempts⟩ := hend
  exact ⟨s, hs, hattempts, (keys_earned retried s hs).1⟩

end History

end OpsPilot
