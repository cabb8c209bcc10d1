import OpsPilot.Safety.Skips
/-!
# Concurrent calls of a runner (`ExecutionRunner.execute_action`)

Several calls may be under way on one runner. A call runs without interruption from its start to
the first `await` inside of the tool's `_run`, and from the return of `_run` to its end; in between
other calls run, and the tool may suspend any number of times. So the key is looked up in one
uninterrupted piece (execution_runner.py:27) and recorded in another (execution_runner.py:75).

How a tool ends, and what it does to the world, comes with the label. `run_executeAction` says that
a call which is not interrupted is `Runner.executeAction`.
-/
namespace OpsPilot

variable {W : Type}

/-- How far a call has got: inside of its tool's `_run`, or over, with the status of its tool if the
tool was called. -/
inductive CallState where
  | running (action : RemediationAction)
  | finished (action : RemediationAction) (status : Option ToolStatus)
      (result : Except PyException ActionExecutionResult)

namespace CallState

def action : CallState → RemediationAction
  | running action | finished action _ _ => action

/-- The tool was called under the key, and has returned SUCCESS. -/
def succeeded (key : String) : CallState → Bool
  | running _ => false
  | finished action status _ => action.idempotencyKey == key && status == some .success

/-- The tool was called under the key, and has not returned. -/
def inTool (key : String) : CallState → Bool
  | running action => action.idempotencyKey == key
  | finished _ _ _ => false

end CallState

/-- What `execute` makes of the outcome of `_run` (base.py:39). -/
def ToolResult.ofOutcome (toolName : String) (clock : Clock) : Except PyException Json → ToolResult
  | .ok outputData =>
    { toolName, status := .success, data := outputData, durationMs := clock.elapsed 0, timestamp := clock.now 0 }
  | .error exc =>
    { toolName, status := .failed, errorMessage := some exc.message, durationMs := clock.elapsed 0,
      timestamp := clock.now 0 }

theorem Tool.execute_eq (tool : Tool W) (kwargs : Dict String Json) (clock : Clock) (w : W) :
    tool.execute kwargs clock w =
      (.ofOutcome tool.name clock (tool.run kwargs w).1, (tool.run kwargs w).2) := by
  unfold Tool.execute ToolResult.ofOutcome
  rcases tool.run kwargs w with ⟨exc | data, w'⟩ <;> rfl

/-- A runner and the calls made of it, in the order of their starts. -/
structure Concurrent (W : Type) where
  runner : Runner W
  calls : List CallState := []

namespace Concurrent

inductive Label (W : Type) where
  | start (action : RemediationAction) (callerRole : String) (clock : Clock)
  | world (w : W)
  | returns (i : Nat) (toolName : String) (outcome : Except PyException Json) (clock : Clock)

/-- For every key at most one call has made its tool succeed. -/
def AtMostOnce (s : Concurrent W) : Prop :=
  ∀ key, key ≠ "" → ∀ i j : Nat, (s.calls[i]?).any (CallState.succeeded key) = true →
    (s.calls[j]?).any (CallState.succeeded key) = true → i = j

section
variable [Unicode]

def step (s : Concurrent W) : Label W → Option (Concurrent W)
  | .start action callerRole clock =>
    let call : CallState :=
      if s.runner.reaches action callerRole then .running action
      else .finished action none (s.runner.executeAction action callerRole clock).result
    some { s with calls := s.calls ++ [call] }
  | .world w => some { s with runner := { s.runner with world := w } }
  | .returns i toolName outcome clock =>
    match s.calls[i]? with
    | some (.running action) =>
      let res : ToolResult := .ofOutcome toolName clock outcome
      some
        { runner := if res.status = .success then s.runner.recordKey action else s.runner
          calls := s.calls.set i (.finished action (some res.status) (Runner.report action clock res)) }
    | _ => none

/-- A call that is not interrupted is a call of `execute_action`. -/
theorem run_executeAction (s : Concurrent W) (action : RemediationAction) (callerRole : String) (clock : Clock) :
    ∃ labels, Machine.run step s (.start action callerRole clock :: labels) =
      let out := s.runner.executeAction action callerRole clock
      some
        { runner := out.runner
          calls := s.calls ++ [.finished action (out.call.map ToolCall.status) out.result] } := by
  cases hr : s.runner.reaches action callerRole with
  | true =>
    obtain ⟨tool, parameters, -, -, hout⟩ := Runner.executeAction_of_reaches clock hr
    let args := Runner.toolArgs action parameters
    refine ⟨[.world (tool.run args s.runner.world).2,
      .returns s.calls.length tool.name (tool.run args s.runner.world).1 clock], ?_⟩
    rw [hout]
    simp [Machine.run, step, hr, Tool.execute_eq, args]
  | false =>
    obtain ⟨result, hout⟩ := Runner.executeAction_unchanged clock hr
    refine ⟨[], ?_⟩
    simp [Machine.run, step, hr, hout]

/-! ## Calls that do not meet -/

/-- A call enters its tool only while no call with the same key is inside of one. -/
def Exclusive (s : Concurrent W) : Label W → Prop
  | .start action callerRole _ =>
    action.idempotencyKey ≠ "" → s.runner.reaches action callerRole = true →
      s.calls.any (CallState.inTool action.idempotencyKey) = false
  | _ => True

instance (s : Concurrent W) (l : Label W) : Decidable (s.Exclusive l) :=
  match l with
  | .start action callerRole _ => inferInstanceAs (Decidable (action.idempotencyKey ≠ "" →
      s.runner.reaches action callerRole = true → s.calls.any (CallState.inTool action.idempotencyKey) = false))
  | .world _ => isTrue trivial
  | .returns .. => isTrue trivial

end

/-- The call holds the key: it is inside of its tool, or its tool has succeeded. -/
def Holds (s : Concurrent W) (key : String) (i : Nat) : Prop :=
  ∃ c, s.calls[i]? = some c ∧ (c.inTool key = true ∨ c.succeeded key = true)

/-- A key is held by one call at most, and recorded once a tool has succeeded under it. -/
structure HoldInv (s : Concurrent W) : Prop where
  one : ∀ key, key ≠ "" → ∀ i j, s.Holds key i → s.Holds key j → i = j
  recorded : ∀ key, key ≠ "" → ∀ c ∈ s.calls, c.succeeded key = true → key ∈ s.runner.executedIdempotencyKeys

theorem HoldInv.atMostOnce {s : Concurrent W} (h : s.HoldInv) : s.AtMostOnce := by
  intro key hne i j hi hj
  have holds_of : ∀ n : Nat, (s.calls[n]?).any (CallState.succeeded key) = true → s.Holds key n := by
    intro n hn
    obtain ⟨c, hc, hsucc⟩ := (Option.any_eq_true _ _).1 hn
    exact ⟨c, hc, .inr hsucc⟩
  exact h.one key hne i j (holds_of i hi) (holds_of j hj)

/-- A new call holds a key when it is inside of its tool, and changes nothing for the others. -/
theorem holds_concat {s : Concurrent W} {runner : Runner W} {c : CallState} {key : String} {i : Nat} :
    ({ runner, calls := s.calls ++ [c] } : Concurrent W).Holds key i ↔
      s.Holds key i ∨ i = s.calls.length ∧ (c.inTool key = true ∨ c.succeeded key = true) := by
  simp only [Holds]
  rcases Nat.lt_trichotomy i s.calls.length with hlt | rfl | hgt
  · rw [List.getElem?_append_left hlt]
    simp [Nat.ne_of_lt hlt]
  · simp
  · rw [List.getElem?_append_right (Nat.le_of_lt hgt), List.getElem?_eq_none (Nat.le_of_lt hgt)]
    have hpos : i - s.calls.length ≠ 0 := by omega
    have hno : ([c] : List CallState)[i - s.calls.length]? = none := by
      rw [List.getElem?_eq_none]
      simp
      omega
    simp [hno, Nat.ne_of_gt hgt]

/-- A call that returns holds no key that it did not hold. -/
theorem holds_set {s : Concurrent W} {runner : Runner W} {action : RemediationAction} {i : Nat}
    {status : Option ToolStatus} {result : Except PyException ActionExecutionResult} {key : String} {j : Nat}
    (hi : s.calls[i]? = some (.running action))
    (h : ({ runner, calls := s.calls.set i (.finished action status result) } : Concurrent W).Holds key j) :
    s.Holds key j := by
  obtain ⟨c, hc, hheld⟩ := h
  simp only [List.getElem?_set] at hc
  split at hc
  · rename_i hij
    subst hij
    split at hc
    · cases hc
      simp only [CallState.inTool, CallState.succeeded, Bool.false_eq_true, false_or, Bool.and_eq_true] at hheld
      exact ⟨_, hi, .inl hheld.1⟩
    · cases hc
  · exact ⟨c, hc, hheld⟩

/-- A call that has not succeeded joins. Nobody holds the key of a tool it is inside of. -/
theorem HoldInv.concat {s : Concurrent W} (h : s.HoldInv) {c : CallState}
    (hsucc : ∀ key, c.succeeded key = false)
    (hfree : ∀ key, key ≠ "" → c.inTool key = true → ∀ i, ¬ s.Holds key i) :
    ({ s with calls := s.calls ++ [c] } : Concurrent W).HoldInv := by
  refine ⟨fun key hne i j hi hj => ?_, fun key hne c' hc' hsucc' => ?_⟩
  · rw [holds_concat, hsucc] at hi hj
    simp only [Bool.false_eq_true, or_false] at hi hj
    rcases hi with hi | ⟨rfl, hi⟩
    · rcases hj with hj | ⟨rfl, hj⟩
      · exact h.one key hne i j hi hj
      · exact absurd hi (hfree key hne hj i)
    · rcases hj with hj | ⟨rfl, hj⟩
      · exact absurd hj (hfree key hne hi j)
      · rfl
  · rcases List.mem_append.1 hc' with hold | hnew
    · exact h.recorded key hne c' hold hsucc'
    · obtain rfl := List.mem_singleton.1 hnew
      rw [hsucc] at hsucc'
      cases hsucc'

section
variable [Unicode]

/-- Nobody holds the key of a call that enters its tool: nobody is inside, and it is not recorded. -/
theorem HoldInv.free {s : Concurrent W} (h : s.HoldInv) {action : RemediationAction} {callerRole : String}
    {clock : Clock} (hC : s.Exclusive (.start action callerRole clock))
    (hr : s.runner.reaches action callerRole = true) (hne : action.idempotencyKey ≠ "") (i : Nat) :
    ¬ s.Holds action.idempotencyKey i := by
  rintro ⟨c, hc, hinside | hsucc⟩
  · have hno := List.any_eq_false.1 (hC hne hr) c (List.mem_of_getElem? hc)
    exact hno hinside
  · have hrec := h.recorded _ hne c (List.mem_of_getElem? hc) hsucc
    have hskip := (Runner.skips_iff s.runner action).2 ⟨hne, hrec⟩
    simp [Runner.reaches, hskip] at hr

theorem holdInv_step {s s' : Concurrent W} {l : Label W} (h : s.HoldInv) (hC : s.Exclusive l)
    (hst : s.step l = some s') : s'.HoldInv := by
  cases l with
  | world w =>
    cases hst
    exact ⟨h.one, h.recorded⟩
  | start action callerRole clock =>
    cases hst
    by_cases hr : s.runner.reaches action callerRole = true
    · simp only [hr, if_true]
      refine h.concat (fun _ => rfl) fun key hne hinside => ?_
      obtain rfl : action.idempotencyKey = key := eq_of_beq hinside
      exact h.free hC hr hne
    · rw [if_neg hr]
      refine h.concat (fun key => ?_) fun key _ hinside => ?_
      · simp [CallState.succeeded]
      · cases hinside
  | returns i toolName outcome clock =>
    simp only [step] at hst
    split at hst
    · rename_i action hi
      cases hst
      refine ⟨fun key hne j k hj hk => h.one key hne j k (holds_set hi hj) (holds_set hi hk), ?_⟩
      intro key hne c hc hsucc
      have hkeys : ∀ key, key ∈ s.runner.executedIdempotencyKeys → key ∈ (if (ToolResult.ofOutcome toolName clock
          outcome).status = .success then s.runner.recordKey action else s.runner).executedIdempotencyKeys := by
        intro key hmem
        split
        · exact Runner.mem_recordKey.2 (.inl hmem)
        · exact hmem
      rcases List.mem_or_eq_of_mem_set hc with hold | rfl
      · exact hkeys key (h.recorded key hne c hold hsucc)
      · simp only [CallState.succeeded, Bool.and_eq_true, beq_iff_eq, Option.some.injEq] at hsucc
        obtain ⟨rfl, hstatus⟩ := hsucc
        simp only [hstatus, if_true]
        exact Runner.mem_recordKey.2 (.inr ⟨rfl, hne⟩)
    · cases hst

/-- **At most once, if calls with one key do not meet**: in every run in which no call enters its tool
while another one with its key is inside, no key sees two successes. -/
theorem at_most_once (registry : ToolRegistry W) (w : W) (as : List (Label W)) (s : Concurrent W)
    (hrun : Machine.run step { runner := { registry, world := w } } as = some s)
    (halong : Machine.Along step Exclusive { runner := { registry, world := w } } as) : s.AtMostOnce := by
  refine HoldInv.atMostOnce (Machine.run_induction_along (P := fun _ s => HoldInv s) ?_ ?_ as s hrun halong)
  · refine ⟨fun key _ i j hi => ?_, fun key _ c hc => ?_⟩
    · obtain ⟨c, hc, -⟩ := hi
      simp at hc
    · cases hc
  · intro as s l s' _ hI hC hst
    exact holdInv_step hI hC hst

theorem step_returns_ok {s : Concurrent W} {i : Nat} {action : RemediationAction}
    (hi : s.calls[i]? = some (.running action)) (toolName : String) (data : Json) (clock : Clock) :
    ∃ s', s.step (.returns i toolName (.ok data) clock) = some s' ∧
      ∃ result, s'.calls = s.calls.set i (.finished action (some .success) result) := by
  simp only [step, hi]
  exact ⟨_, rfl, _, rfl⟩

/-- The condition cannot be weakened: once two calls with one key are inside of their tools, both
tools may succeed. -/
theorem exclusive_needed {s : Concurrent W} {l : Label W} (h : ¬ s.Exclusive l) :
    ∃ labels s', Machine.run step s (l :: labels) = some s' ∧ ¬ s'.AtMostOnce := by
  cases l with
  | world w => exact absurd trivial h
  | returns i toolName outcome clock => exact absurd trivial h
  | start action callerRole clock =>
    simp only [Exclusive, Classical.not_imp, Bool.not_eq_false] at h
    obtain ⟨hne, hr, hany⟩ := h
    obtain ⟨c, hmem, hinside⟩ := List.any_eq_true.1 hany
    obtain ⟨i, hi, rfl⟩ := List.mem_iff_getElem.1 hmem
    obtain ⟨other, hother⟩ : ∃ other, s.calls[i] = .running other := by
      cases hc : s.calls[i] with
      | running other => exact ⟨other, rfl⟩
      | finished other status result =>
        rw [hc] at hinside
        cases hinside
    have hkey : other.idempotencyKey = action.idempotencyKey := by
      simpa [hother, CallState.inTool] using hinside
    have hne' : i ≠ s.calls.length := Nat.ne_of_lt hi
    -- both are inside of their tools, and both tools return
    let s₁ : Concurrent W := { s with calls := s.calls ++ [.running action] }
    have h₁ : s.step (.start action callerRole clock) = some s₁ := by simp [step, hr, s₁]
    have hi₁ : s₁.calls[i]? = some (.running other) := by
      simp only [s₁]
      rw [List.getElem?_append_left hi, List.getElem?_eq_getElem hi, hother]
    obtain ⟨s₂, h₂, r₂, hcalls₂⟩ := step_returns_ok hi₁ "tool" (.obj []) clock
    have hi₂ : s₂.calls[s.calls.length]? = some (.running action) := by
      rw [hcalls₂, List.getElem?_set_ne hne']
      simp [s₁]
    obtain ⟨s₃, h₃, r₃, hcalls₃⟩ := step_returns_ok hi₂ "tool" (.obj []) clock
    refine ⟨[.returns i "tool" (.ok (.obj [])) clock, .returns s.calls.length "tool" (.ok (.obj [])) clock], s₃, ?_, ?_⟩
    · rw [Machine.run_cons_of_step h₁, Machine.run_cons_of_step h₂, Machine.run_cons_of_step h₃, Machine.run_nil]
    · intro hone
      refine hne' (hone action.idempotencyKey hne i s.calls.length ?_ ?_)
      · have hget : s₃.calls[i]? = some (.finished other (some .success) r₂) := by
          rw [hcalls₃, List.getElem?_set_ne hne'.symm, hcalls₂, List.getElem?_set_self (by simp [s₁]; omega)]
        simp [hget, CallState.succeeded, hkey]
      · have hget : s₃.calls[s.calls.length]? = some (.finished action (some .success) r₃) := by
          rw [hcalls₃, List.getElem?_set_self (by simp [hcalls₂, s₁])]
        simp [hget, CallState.succeeded]

end

/-- A restart under a key. -/
def keyedAction : RemediationAction :=
  { actionId := "ACT-01", actionType := .restartService, targetService := "payment-service", description := "",
    rationale := "", rollbackPlan := "", idempotencyKey := "k" }

def idleClock : Clock := { now := fun _ => ⟨0⟩, elapsed := fun _ => .zero }

/-- The restart tool, as far as the registry is concerned. -/
def restartRegistry : ToolRegistry Unit :=
  ({} : ToolRegistry Unit).register { name := "restart_service", run := fun _ w => (.ok .null, w) }

/-- A failure, a success after it, and a call that is skipped. -/
theorem at_most_once_sequential :
    letI := Py.asciiTable
    ∃ s, Machine.run step { runner := { registry := restartRegistry, world := () } }
        [.start keyedAction "OPERATOR" idleClock, .returns 0 "restart_service" (.error (.runtimeError "no")) idleClock,
          .start keyedAction "OPERATOR" idleClock, .returns 1 "restart_service" (.ok (.obj [])) idleClock,
          .start keyedAction "OPERATOR" idleClock] = some s ∧
      s.calls.map (CallState.succeeded "k") = [false, true, false] ∧ s.AtMostOnce := by
  let as : List (Label Unit) :=
    [.start keyedAction "OPERATOR" idleClock, .returns 0 "restart_service" (.error (.runtimeError "no")) idleClock,
      .start keyedAction "OPERATOR" idleClock, .returns 1 "restart_service" (.ok (.obj [])) idleClock,
      .start keyedAction "OPERATOR" idleClock]
  have hend : letI := Py.asciiTable
      ∃ s, Machine.run step { runner := { registry := restartRegistry, world := () } } as = some s ∧
        s.calls.map (CallState.succeeded "k") = [false, true, false] := by decide +kernel
  have halong : letI := Py.asciiTable
      Machine.Along step Exclusive { runner := { registry := restartRegistry, world := () } } as := by decide +kernel
  let _ := Py.asciiTable
  obtain ⟨s, hs, hcalls⟩ := hend
  exact ⟨s, hs, hcalls, at_most_once restartRegistry () as s hs halong⟩

/-- Two calls with one key pass the guard before either tool returns: the restart happens twice. -/
theorem restarted_twice :
    letI := Py.asciiTable
    ∃ s, Machine.run step { runner := { registry := restartRegistry, world := () } }
        [.start keyedAction "OPERATOR" idleClock, .start keyedAction "OPERATOR" idleClock,
          .returns 0 "restart_service" (.ok (.obj [])) idleClock,
          .returns 1 "restart_service" (.ok (.obj [])) idleClock] = some s ∧ ¬ s.AtMostOnce := by
  have hend : letI := Py.asciiTable
      ∃ s, Machine.run step { runner := { registry := restartRegistry, world := () } }
          [.start keyedAction "OPERATOR" idleClock, .start keyedAction "OPERATOR" idleClock,
            .returns 0 "restart_service" (.ok (.obj [])) idleClock,
            .returns 1 "restart_service" (.ok (.obj [])) idleClock] = some s ∧
        (s.calls[0]?).any (CallState.succeeded "k") = true ∧
        (s.calls[1]?).any (CallState.succeeded "k") = true := by decide +kernel
  obtain ⟨s, hs, hfirst, hsecond⟩ := hend
  exact ⟨s, hs, fun hone => absurd (hone "k" (by decide) 0 1 hfirst hsecond) (by decide)⟩

end Concurrent

end OpsPilot
