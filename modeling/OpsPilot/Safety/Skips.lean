import OpsPilot.Safety.Compensation
/-!
# When a skip is sound (`ExecutionRunner.execute_action`)

An action whose key is recorded is answered as already executed (execution_runner.py:27). A key
is recorded by the executions under it, but also by a rollback: the compensation of a deployment
rollback or of a configuration change carries the key of the action it undoes, with other
parameters. `skips_sound_iff` says which rollbacks do no harm.

`Ledger` adds to the runner the calls it has made; the source keeps no such list. What counts as
the same parameters is a parameter, `same`: the equality of dicts, or of their serializations.
-/
namespace OpsPilot

variable {W : Type}

namespace Runner

theorem skips_iff (r : Runner W) (action : RemediationAction) :
    r.skips action = true ↔
      action.idempotencyKey ≠ "" ∧ action.idempotencyKey ∈ r.executedIdempotencyKeys := by
  simp [skips]

/-- A compensation with a key undoes its action with the action's own tool, under the same key. -/
theorem compensation_keyed {action comp : RemediationAction} (h : compensation action = .ok comp)
    (hkey : comp.idempotencyKey ≠ "") :
    comp.idempotencyKey = action.idempotencyKey ∧ comp.actionType = action.actionType ∧
      comp.targetService = action.targetService := by
  unfold compensation getParameters at h
  cases ht : action.actionType <;> cases hd : action.parameters.asDict? <;>
    simp only [ht, hd, Except.map, Except.ok.injEq, reduceCtorEq] at h <;> subst h
  all_goals first
    | exact absurd rfl hkey
    | exact ⟨rfl, rfl, rfl⟩

section
variable [Unicode]

/-- The action gets to its tool, and `_run` returns. -/
def Succeeds (r : Runner W) (action : RemediationAction) (callerRole : String) : Prop :=
  r.reaches action callerRole = true ∧ ∃ tool parameters data,
    r.registry.getTool action.actionType.name = some tool ∧ action.parameters.asDict? = some parameters ∧
      (tool.run (toolArgs action parameters) r.world).1 = .ok data

variable {r : Runner W} {action : RemediationAction} {callerRole : String}

/-- A success records the key, and the call is there. -/
theorem executeAction_of_succeeds (clock : Clock) (h : r.Succeeds action callerRole) :
    let out := r.executeAction action callerRole clock
    (∀ k, k ∈ out.runner.executedIdempotencyKeys ↔
      k ∈ r.executedIdempotencyKeys ∨ k = action.idempotencyKey ∧ k ≠ "") ∧
    ∃ parameters, action.parameters.asDict? = some parameters ∧
      out.call = some
        { toolName := action.actionType.name, arguments := toolArgs action parameters, status := .success } := by
  obtain ⟨hr, tool, parameters, data, ht, hp, hrun⟩ := h
  obtain ⟨tool', parameters', ht', hp', hout⟩ := executeAction_of_reaches clock hr
  obtain rfl : tool = tool' := Option.some.inj (ht.symm.trans ht')
  obtain rfl : parameters = parameters' := Option.some.inj (hp.symm.trans hp')
  have hsucc := (Tool.execute_success_iff tool (toolArgs action parameters) clock r.world).2 ⟨data, hrun⟩
  intro out
  have hout : out = _ := hout
  constructor
  · intro k
    rw [hout]
    simp only [hsucc, if_true]
    exact mem_recordKey
  · refine ⟨parameters, hp, ?_⟩
    rw [hout]
    simp only [hsucc]

/-- Without a success no key is recorded. -/
theorem keys_of_not_succeeds (clock : Clock) (h : ¬ r.Succeeds action callerRole) :
    (r.executeAction action callerRole clock).runner.executedIdempotencyKeys =
      r.executedIdempotencyKeys := by
  by_cases hr : r.reaches action callerRole = true
  · obtain ⟨tool, parameters, ht, hp, hout⟩ := executeAction_of_reaches clock hr
    have hfail : (tool.execute (toolArgs action parameters) clock r.world).1.status ≠ .success := by
      intro hsucc
      obtain ⟨data, hrun⟩ := (Tool.execute_success_iff tool _ clock r.world).1 hsucc
      exact h ⟨hr, tool, parameters, data, ht, hp, hrun⟩
    rw [hout]
    simp only [hfail, if_false]
  · rw [Bool.not_eq_true] at hr
    obtain ⟨result, hout⟩ := executeAction_unchanged clock hr
    rw [hout]

/-- The answer for an action that is already executed: success, and no tool was called. -/
def AnsweredWithoutCall (out : Outcome W) : Prop :=
  out.call = none ∧ ∃ res, out.result = .ok res ∧ res.status = .success

theorem answeredWithoutCall_iff (clock : Clock) :
    AnsweredWithoutCall (r.executeAction action callerRole clock) ↔ r.skips action = true := by
  constructor
  · rintro ⟨hcall, res, hres, hst⟩
    by_contra hs
    have hr : r.reaches action callerRole = false :=
      isSome_call_executeAction.symm.trans (congrArg Option.isSome hcall)
    rw [Bool.not_eq_true] at hs
    obtain ⟨result, hout, hresult⟩ := executeAction_of_not_reaches clock hs hr
    rw [hout] at hres
    subst hres
    split at hresult
    · obtain ⟨exc, hexc⟩ := hresult
      cases hexc
    · obtain ⟨res', hok, -, hfailed⟩ := hresult
      cases hok
      rw [hst] at hfailed
      cases hfailed
  · intro hs
    obtain ⟨res, hout, -, hst⟩ := executeAction_of_skips callerRole clock hs
    rw [hout]
    exact ⟨rfl, res, rfl, hst⟩

end

end Runner

/-- A runner and the tool calls it has made. -/
structure Ledger (W : Type) where
  runner : Runner W
  calls : List ToolCall := []

namespace Ledger

/-- The arguments of a call for the action itself: its target and its parameters. -/
def OwnArguments (same : Setoid Json) (action : RemediationAction) (arguments : Dict String Json) :
    Prop :=
  ∃ v parameters, same.r action.parameters v ∧ v.asDict? = some parameters ∧
    arguments = Runner.toolArgs action parameters

/-- The tool of the action has succeeded with the action's own target and parameters. -/
def Invoked (same : Setoid Json) (s : Ledger W) (action : RemediationAction) : Prop :=
  ∃ c ∈ s.calls, c.status = .success ∧ c.toolName = action.actionType.name ∧ OwnArguments same action c.arguments

theorem Invoked.mono {same : Setoid Json} {s t : Ledger W} {action : RemediationAction}
    (h : s.Invoked same action) (hsub : ∀ c ∈ s.calls, c ∈ t.calls) : t.Invoked same action := by
  obtain ⟨c, hc, hrest⟩ := h
  exact ⟨c, hsub c hc, hrest⟩

/-- What was done for one action was done for every action that differs in nothing else. -/
theorem Invoked.congr {same : Setoid Json} {s : Ledger W} {a b : RemediationAction}
    (h : s.Invoked same b) (htype : a.actionType = b.actionType)
    (htarget : a.targetService = b.targetService) (hparams : same.r a.parameters b.parameters) :
    s.Invoked same a := by
  obtain ⟨c, hc, hst, hname, v, parameters, hv, hd, hargs⟩ := h
  refine ⟨c, hc, hst, ?_, v, parameters, same.iseqv.trans hparams hv, hd, ?_⟩
  · rw [htype]
    exact hname
  · rw [hargs]
    simp only [Runner.toolArgs, htarget]

/-- The action that a call is about. -/
def actionOf : Runner.Label W → Option RemediationAction
  | .action action _ _ | .rollback action _ _ => some action
  | .world _ => none

/-- Actions that share a key, if they have one, differ neither in type nor in target nor in parameters. -/
def KeysDistinct (same : Setoid Json) (calls : List (Runner.Label W)) : Prop :=
  ∀ a ∈ calls.filterMap actionOf, ∀ b ∈ calls.filterMap actionOf,
    a.idempotencyKey ≠ "" → a.idempotencyKey = b.idempotencyKey →
    a.actionType = b.actionType ∧ a.targetService = b.targetService ∧ same.r a.parameters b.parameters

theorem KeysDistinct.of_subset {same : Setoid Json} {as bs : List (Runner.Label W)}
    (h : KeysDistinct same bs) (hsub : ∀ a ∈ as.filterMap actionOf, a ∈ bs.filterMap actionOf) :
    KeysDistinct same as :=
  fun a ha b hb hne hk => h a (hsub a ha) b (hsub b hb) hne hk

theorem mem_actions_concat {calls : List (Runner.Label W)} {l : Runner.Label W}
    {a : RemediationAction} :
    a ∈ (calls ++ [l]).filterMap actionOf ↔ a ∈ calls.filterMap actionOf ∨ actionOf l = some a := by
  rw [List.filterMap_append, List.mem_append]
  cases h : actionOf l <;> simp [h, eq_comm]

/-- Every recorded key is that of an action which has been invoked. -/
def KeysMeant (same : Setoid Json) (calls : List (Runner.Label W)) (s : Ledger W) : Prop :=
  ∀ k ∈ s.runner.executedIdempotencyKeys, ∃ b ∈ calls.filterMap actionOf, b.idempotencyKey = k ∧
    s.Invoked same b

/-- Keys that were there keep their meaning. -/
theorem KeysMeant.grow {same : Setoid Json} {calls : List (Runner.Label W)} {s t : Ledger W}
    (h : KeysMeant same calls s) (l : Runner.Label W) (hcalls : ∀ c ∈ s.calls, c ∈ t.calls)
    {k : String} (hk : k ∈ s.runner.executedIdempotencyKeys) :
    ∃ b ∈ (calls ++ [l]).filterMap actionOf, b.idempotencyKey = k ∧ t.Invoked same b := by
  obtain ⟨b, hb, hbk, hinv⟩ := h k hk
  exact ⟨b, mem_actions_concat.2 (.inl hb), hbk, hinv.mono hcalls⟩

section
variable [Unicode]

def step (s : Ledger W) : Runner.Label W → Option (Ledger W)
  | .action action callerRole clock =>
    let out := s.runner.executeAction action callerRole clock
    some { runner := out.runner, calls := s.calls ++ out.call.toList }
  | .rollback action callerRole clock =>
    let out := s.runner.executeRollback action callerRole clock
    some { runner := out.runner, calls := s.calls ++ out.call.toList }
  | .world w => some { s with runner := { s.runner with world := w } }

/-- A call always comes back. -/
theorem run_total (s : Ledger W) (calls : List (Runner.Label W)) :
    ∃ t, Machine.run step s calls = some t := by
  induction calls generalizing s with
  | nil => exact ⟨s, rfl⟩
  | cons l calls ih =>
    obtain ⟨s', hst⟩ : ∃ s', step s l = some s' := by cases l <;> exact ⟨_, rfl⟩
    obtain ⟨t, ht⟩ := ih s'
    refine ⟨t, ?_⟩
    rw [Machine.run_cons, hst]
    exact ht

/-- The ledger only watches the runner. -/
theorem run_runner {s t : Ledger W} {calls : List (Runner.Label W)}
    (h : Machine.run step s calls = some t) :
    Machine.run Runner.step s.runner calls = some t.runner := by
  have hproj : Machine.Projects step Runner.step Ledger.runner (fun l : Runner.Label W => some l) := by
    intro s l s' hst
    cases l <;> cases hst <;> rfl
  have hrun := Machine.run_project hproj h
  rw [List.filterMap_some] at hrun
  exact hrun

/-- A rollback whose compensation succeeds under the key of the action either does what the
action does, or the action has been done before. -/
def KeepsMeaning (same : Setoid Json) (s : Ledger W) : Runner.Label W → Prop
  | .rollback action callerRole _ =>
    ∀ comp, Runner.compensation action = .ok comp → comp.idempotencyKey ≠ "" →
      s.runner.Succeeds comp callerRole →
      s.Invoked same action ∨
        ∀ parameters, comp.parameters.asDict? = some parameters →
          OwnArguments same action (Runner.toolArgs comp parameters)
  | _ => True

/-! ## What a recorded key stands for -/

theorem keysMeant_step {same : Setoid Json} {calls : List (Runner.Label W)} {s s' : Ledger W}
    {l : Runner.Label W} (h : KeysMeant same calls s) (hC : KeepsMeaning same s l)
    (hst : s.step l = some s') : KeysMeant same (calls ++ [l]) s' := by
  cases l with
  | world w =>
    cases hst
    intro k hk
    exact h.grow (.world w) (fun c hc => hc) hk
  | action action callerRole clock =>
    cases hst
    intro k hk
    have hcalls : ∀ c ∈ s.calls, c ∈ s.calls ++ (s.runner.executeAction action callerRole clock).call.toList :=
      fun c hc => List.mem_append_left _ hc
    by_cases hsucc : s.runner.Succeeds action callerRole
    · obtain ⟨hkeys, parameters, hp, hcall⟩ := Runner.executeAction_of_succeeds clock hsucc
      rcases (hkeys k).1 hk with hold | ⟨rfl, -⟩
      · exact h.grow (.action action callerRole clock) hcalls hold
      · have hnew : { toolName := action.actionType.name, arguments := Runner.toolArgs action parameters,
                      status := ToolStatus.success } ∈
            s.calls ++ (s.runner.executeAction action callerRole clock).call.toList := by
          rw [hcall]
          exact List.mem_append_right _ (List.mem_singleton.2 rfl)
        exact ⟨action, mem_actions_concat.2 (.inr rfl), rfl, _, hnew, rfl, rfl, _, parameters, same.iseqv.refl _,
          hp, rfl⟩
    · have hkeys := Runner.keys_of_not_succeeds clock hsucc
      exact h.grow (.action action callerRole clock) hcalls (by rw [← hkeys]; exact hk)
  | rollback action callerRole clock =>
    cases hst
    intro k hk
    have hcalls : ∀ c ∈ s.calls, c ∈ s.calls ++ (s.runner.executeRollback action callerRole clock).call.toList :=
      fun c hc => List.mem_append_left _ hc
    cases hcomp : Runner.compensation action with
    | error exc =>
      have hsame : (s.runner.executeRollback action callerRole clock).runner = s.runner := by
        simp [Runner.executeRollback, hcomp]
      exact h.grow (.rollback action callerRole clock) hcalls (by rw [← hsame]; exact hk)
    | ok comp =>
      have hrunner : (s.runner.executeRollback action callerRole clock).runner =
          (s.runner.executeAction comp callerRole clock).runner := by
        simp [Runner.executeRollback, hcomp]
      have hcalled : (s.runner.executeRollback action callerRole clock).call =
          (s.runner.executeAction comp callerRole clock).call := by
        simp [Runner.executeRollback, hcomp]
      simp only [hrunner] at hk
      by_cases hsucc : s.runner.Succeeds comp callerRole
      · obtain ⟨hkeys, parameters, hp, hcall⟩ := Runner.executeAction_of_succeeds clock hsucc
        rcases (hkeys k).1 hk with hold | ⟨rfl, hne⟩
        · exact h.grow (.rollback action callerRole clock) hcalls hold
        · -- the key is now recorded by the compensation
          obtain ⟨hkey, htype, htarget⟩ := Runner.compensation_keyed hcomp hne
          refine ⟨action, mem_actions_concat.2 (.inr rfl), hkey.symm, ?_⟩
          rcases hC comp hcomp hne hsucc with hinv | hown
          · exact hinv.mono hcalls
          · have hnew : { toolName := comp.actionType.name, arguments := Runner.toolArgs comp parameters,
                          status := ToolStatus.success } ∈
                s.calls ++ (s.runner.executeRollback action callerRole clock).call.toList := by
              rw [hcalled, hcall]
              exact List.mem_append_right _ (List.mem_singleton.2 rfl)
            exact ⟨_, hnew, rfl, congrArg ActionType.name htype, hown parameters hp⟩
      · have hkeys := Runner.keys_of_not_succeeds clock hsucc
        exact h.grow (.rollback action callerRole clock) hcalls (by rw [← hkeys]; exact hk)

theorem keysMeant_run {same : Setoid Json} (registry : ToolRegistry W) (w : W) :
    ∀ calls s, Machine.run step { runner := { registry, world := w } } calls = some s →
      Machine.Along step (KeepsMeaning same) { runner := { registry, world := w } } calls →
      KeysMeant same calls s :=
  Machine.run_induction_along (P := KeysMeant same)
    (by intro k hk; cases hk)
    (fun _ _ _ _ _ h hC hst => keysMeant_step h hC hst)

/-! ## Soundness -/

/-- Whatever action is executed next, at any point of the run, is answered as already executed
only if its tool has succeeded with its own target and parameters. -/
def SkipsSound (same : Setoid Json) (s₀ : Ledger W) (calls : List (Runner.Label W)) : Prop :=
  ∀ before, before <+: calls → ∀ s, Machine.run step s₀ before = some s →
    ∀ action callerRole clock, KeysDistinct same (before ++ [.action action callerRole clock]) →
      Runner.AnsweredWithoutCall (s.runner.executeAction action callerRole clock) → s.Invoked same action

/-- After a rollback that does not keep the meaning of the key, the action is skipped undone. -/
theorem keepsMeaning_of_sound {same : Setoid Json} {s₀ s : Ledger W}
    {before : List (Runner.Label W)} {l : Runner.Label W}
    (hkeys : KeysDistinct same (before ++ [l])) (hrun : Machine.run step s₀ before = some s)
    (h : SkipsSound same s₀ (before ++ [l])) : KeepsMeaning same s l := by
  cases l with
  | action action callerRole clock => trivial
  | world w => trivial
  | rollback action callerRole clock =>
    intro comp hcomp hne hsucc
    obtain ⟨hkey, htype, htarget⟩ := Runner.compensation_keyed hcomp hne
    obtain ⟨hrec, parameters, hp, hcall⟩ := Runner.executeAction_of_succeeds clock hsucc
    have hout : s.runner.executeRollback action callerRole clock =
        { s.runner.executeAction comp callerRole clock with
          result := (s.runner.executeAction comp callerRole clock).result.map (Runner.rolledBack action clock) } := by
      simp only [Runner.executeRollback, hcomp]
    -- the state after the rollback, in which the action itself is executed
    have hrun' := Machine.run_concat_some.2 ⟨s, hrun, show step s (.rollback action callerRole clock) = _ from rfl⟩
    have hdist : KeysDistinct same
        (before ++ [.rollback action callerRole clock] ++ [.action action callerRole clock]) := by
      refine hkeys.of_subset fun a ha => ?_
      rcases mem_actions_concat.1 ha with ha | ha
      · exact ha
      · exact mem_actions_concat.2 (.inr ha)
    have hskips : (s.runner.executeRollback action callerRole clock).runner.skips action = true := by
      rw [Runner.skips_iff, hout, ← hkey]
      exact ⟨hne, (hrec _).2 (.inr ⟨rfl, hne⟩)⟩
    have hinv := h _ (List.prefix_refl _) _ hrun' action callerRole clock hdist
      ((Runner.answeredWithoutCall_iff clock).2 hskips)
    obtain ⟨c, hc, hst, hname, hown⟩ := hinv
    rcases List.mem_append.1 hc with hold | hnew
    · exact .inl ⟨c, hold, hst, hname, hown⟩
    · rw [hout, hcall] at hnew
      obtain rfl := List.mem_singleton.1 hnew
      right
      intro parameters' hp'
      obtain rfl : parameters = parameters' := Option.some.inj (hp.symm.trans hp')
      exact hown

/-- **Skips are sound exactly as long as the keys keep their meaning**: on a fresh runner, with
keys that tell the actions apart, every action is answered as already executed only when its tool
has succeeded with its own target and parameters, if and only if no rollback records the key of
an action that has not been done for a call with other arguments. -/
theorem skips_sound_iff (same : Setoid Json) (registry : ToolRegistry W) (w : W)
    (calls : List (Runner.Label W)) (hkeys : KeysDistinct same calls) :
    SkipsSound same { runner := { registry, world := w } } calls ↔
      Machine.Along step (KeepsMeaning same) { runner := { registry, world := w } } calls := by
  constructor
  · intro h
    induction calls using List.reverseRecOn with
    | nil => trivial
    | append_singleton before l ih =>
      have hsub : KeysDistinct same before :=
        hkeys.of_subset fun a ha => mem_actions_concat.2 (.inl ha)
      have hbefore := ih hsub fun pre hpre => h pre (hpre.trans (List.prefix_append _ _))
      obtain ⟨s, hrun⟩ := run_total { runner := { registry, world := w } } before
      exact (Machine.along_concat hrun).2 ⟨hbefore, keepsMeaning_of_sound hkeys hrun h⟩
  · rintro h before ⟨after, rfl⟩ s hrun action callerRole clock hdist hans
    have hbefore := ((Machine.along_append hrun).1 h).1
    have hmeant := keysMeant_run registry w before s hrun hbefore
    obtain ⟨hne, hmem⟩ := (Runner.skips_iff _ _).1 ((Runner.answeredWithoutCall_iff clock).1 hans)
    obtain ⟨b, hb, hkey, hinv⟩ := hmeant _ hmem
    obtain ⟨htype, htarget, hparams⟩ :=
      hdist action (mem_actions_concat.2 (.inr rfl)) b (mem_actions_concat.2 (.inl hb)) hne hkey.symm
    exact hinv.congr htype htarget hparams

end

/-! ## A deployment that is rolled back -/

/-- A rollback of the payment service to `v2.3.9`, under a key. -/
def rollbackAction : RemediationAction :=
  { actionId := "ACT-ROLLBACK-01", actionType := .rollbackDeployment, targetService := "payment-service",
    parameters := .obj [("target_version", .str "v2.3.9"), ("previous_version", .str "v2.4.0")],
    description := "", rationale := "", rollbackPlan := "", idempotencyKey := "0123456789abcdef" }

/-- A registry whose only tool rolls deployments back. -/
def rollbackRegistry [Unicode] : ToolRegistry Unit :=
  (⟨Dict.empty⟩ : ToolRegistry Unit).register (rollbackDeploymentTool fun _ _ w => (.ok (true, "rolled back"), w))

theorem keysDistinct_of_one (same : Setoid Json) (action : RemediationAction)
    {calls : List (Runner.Label W)} (h : ∀ a ∈ calls.filterMap actionOf, a = action) :
    KeysDistinct same calls := by
  intro a ha b hb _ _
  rw [h a ha, h b hb]
  exact ⟨rfl, rfl, same.iseqv.refl _⟩

/-- Executed before it is rolled back, the action is skipped for a reason. -/
theorem skips_sound_after_execution :
    letI := Py.asciiTable
    SkipsSound ⟨Eq, eq_equivalence⟩ { runner := { registry := rollbackRegistry, world := () } }
      [.action rollbackAction "OPERATOR" ⟨fun _ => ⟨0⟩, fun _ => .zero⟩,
        .rollback rollbackAction "OPERATOR" ⟨fun _ => ⟨0⟩, fun _ => .zero⟩] := by
  let _ := Py.asciiTable
  let clock : Clock := ⟨fun _ => ⟨0⟩, fun _ => .zero⟩
  let calls : List (Runner.Label Unit) :=
    [.action rollbackAction "OPERATOR" clock, .rollback rollbackAction "OPERATOR" clock]
  have hkeys : KeysDistinct ⟨Eq, eq_equivalence⟩ calls :=
    keysDistinct_of_one _ rollbackAction (by simp [calls, actionOf])
  have halong : Machine.Along step (KeepsMeaning ⟨Eq, eq_equivalence⟩)
      { runner := { registry := rollbackRegistry, world := () } } calls := by
    refine ⟨trivial, fun s hs => ⟨?_, fun _ _ => trivial⟩⟩
    intro comp hcomp _ hsucc
    obtain rfl := Option.some.inj hs
    -- the compensation is skipped
    have hskips : ((Runner.compensation rollbackAction).toOption.all fun comp =>
        (Runner.executeAction { registry := rollbackRegistry, world := () } rollbackAction "OPERATOR"
          clock).runner.skips comp) = true := by
      decide +kernel
    rw [hcomp] at hskips
    have hno := hsucc.1
    simp only [Runner.reaches, Bool.and_eq_true, Bool.not_eq_true'] at hno
    exact absurd (hskips.symm.trans hno.1.1) (by simp)
  exact (skips_sound_iff _ rollbackRegistry () calls hkeys).2 halong

/-- Rolled back before it was ever executed, it is answered as already executed. -/
theorem skipped_never_executed :
    letI := Py.asciiTable
    ¬ SkipsSound ⟨Eq, eq_equivalence⟩ { runner := { registry := rollbackRegistry, world := () } }
      [.rollback rollbackAction "OPERATOR" ⟨fun _ => ⟨0⟩, fun _ => .zero⟩] := by
  let _ := Py.asciiTable
  let clock : Clock := ⟨fun _ => ⟨0⟩, fun _ => .zero⟩
  intro h
  let out := Runner.executeRollback { registry := rollbackRegistry, world := () } rollbackAction "OPERATOR" clock
  let calls : List (Runner.Label Unit) :=
    [.rollback rollbackAction "OPERATOR" clock] ++ [.action rollbackAction "OPERATOR" clock]
  have hkeys : KeysDistinct ⟨Eq, eq_equivalence⟩ calls :=
    keysDistinct_of_one _ rollbackAction (by simp [calls, actionOf])
  let after : Ledger Unit := { runner := out.runner, calls := [] ++ out.call.toList }
  have hrun : Machine.run step { runner := { registry := rollbackRegistry, world := () } }
      [.rollback rollbackAction "OPERATOR" clock] = some after := rfl
  have hskips : after.runner.skips rollbackAction = true := by decide +kernel
  have hans : Runner.AnsweredWithoutCall (after.runner.executeAction rollbackAction "OPERATOR" clock) :=
    (Runner.answeredWithoutCall_iff clock).2 hskips
  obtain ⟨c, hc, -, -, v, parameters, hv, hd, hargs⟩ :=
    h _ (List.prefix_refl _) after hrun rollbackAction "OPERATOR" clock hkeys hans
  -- the only call there was went to the other version
  have hcalls : (out.call.all fun c => (c.arguments.get? "target_version").map Json.pyStr == some "v2.4.0") =
      true := by decide +kernel
  have hown : ((rollbackAction.parameters.asDict?.map (Runner.toolArgs rollbackAction)).all fun args =>
      (args.get? "target_version").map Json.pyStr == some "v2.3.9") = true := by decide +kernel
  cases hv
  rw [hd] at hown
  have hmem : c ∈ [] ++ out.call.toList := hc
  rw [List.nil_append, Option.mem_toList] at hmem
  rw [hmem] at hcalls
  simp only [Option.all_some, Option.map_some, beq_iff_eq] at hcalls hown
  rw [hargs, hown] at hcalls
  exact absurd hcalls (by decide)

end Ledger

end OpsPilot
