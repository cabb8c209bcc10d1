import OpsPilot.Safety.Policy
import OpsPilot.Tools.QueryTools
/-!
# What a request through the default registry does (`ToolRegistry.invoke`, registry.py:73)

The seven query tools are open to everybody from VIEWER on, the five remediation tools to OPERATOR and
ADMIN. A query leaves the simulator as it is, but for the order in which the deployments are kept
(mock_repo.py:81); a remediation is one `execute_action`, or nothing. So whatever is asked of the registry,
by whomever and in whatever order, the simulator goes through a sequence of its own calls, one at most for
each request of an operator.

| here | there |
| --- | --- |
| `Request`, `serve`  | `default_registry.invoke(tool_name, arguments, caller_role)` |
| `privileged`        | the roles of weight 2 and more in `ROLE_HIERARCHY` (registry.py:22) |
| `Agrees`            | no function of the source: equal up to the order of the deployments |
-/
namespace OpsPilot

variable {V S : Type}

/-- The same but for the order in which the deployments are kept. -/
structure SimulationEngine.Agrees (engine engine' : SimulationEngine) : Prop where
  topology : engine'.topology = engine.topology
  commits : engine'.repository.commits = engine.repository.commits
  deployments : engine'.repository.deployments.Perm engine.repository.deployments
  telemetryStore : engine'.telemetryStore = engine.telemetryStore
  activeScenario : engine'.activeScenario = engine.activeScenario
  scenarioStartTime : engine'.scenarioStartTime = engine.scenarioStartTime

namespace SimulationEngine

theorem Agrees.refl (engine : SimulationEngine) : Agrees engine engine := ⟨rfl, rfl, .refl _, rfl, rfl, rfl⟩

theorem Agrees.trans {engine engine' engine'' : SimulationEngine} (h : Agrees engine engine')
    (h' : Agrees engine' engine'') : Agrees engine engine'' where
  topology := h'.topology.trans h.topology
  commits := h'.commits.trans h.commits
  deployments := h'.deployments.trans h.deployments
  telemetryStore := h'.telemetryStore.trans h.telemetryStore
  activeScenario := h'.activeScenario.trans h.activeScenario
  scenarioStartTime := h'.scenarioStartTime.trans h.scenarioStartTime

theorem Agrees.keeps_consistent {engine engine' : SimulationEngine} (h : Agrees engine engine')
    (hc : engine.Consistent) : engine'.Consistent := by
  intro name
  have himpaired : engine'.impaired name = engine.impaired name := by
    rw [impaired, impaired, h.activeScenario]
  rw [h.topology, himpaired]
  exact hc name

section
variable [Unicode]

/-- An action does not look at the deployments. -/
theorem Agrees.executeAction {engine engine' : SimulationEngine} (h : Agrees engine engine') (now : Nat → Time)
    (actionType : String) (parameters : Dict String Json) :
    Agrees (engine.executeAction now actionType parameters).2 (engine'.executeAction now actionType parameters).2 := by
  obtain ⟨topology, ⟨commits, deployments⟩, telemetryStore, activeScenario, scenarioStartTime⟩ := engine
  obtain ⟨topology', ⟨commits', deployments'⟩, telemetryStore', activeScenario', scenarioStartTime'⟩ := engine'
  obtain ⟨htopology, hcommits, hdeployments, htelemetry, hscenario, hstart⟩ := h
  obtain rfl : topology' = topology := htopology
  obtain rfl : commits' = commits := hcommits
  obtain rfl : telemetryStore' = telemetryStore := htelemetry
  obtain rfl : activeScenario' = activeScenario := hscenario
  obtain rfl : scenarioStartTime' = scenarioStartTime := hstart
  cases activeScenario' with
  | none => exact ⟨rfl, rfl, hdeployments, rfl, rfl, rfl⟩
  | some scenario =>
    simp only [SimulationEngine.executeAction]
    generalize scenario.cls.applyRemediation actionType parameters scenario.state (now 0) = applied
    obtain ⟨out, state⟩ := applied
    cases out with
    | error exc => exact ⟨rfl, rfl, hdeployments, rfl, rfl, rfl⟩
    | ok out =>
      simp only [conclude]
      split
      · exact ⟨rfl, rfl, hdeployments, rfl, rfl, rfl⟩
      · exact ⟨rfl, rfl, hdeployments, rfl, rfl, rfl⟩

end

end SimulationEngine

/-- The simulators agree, and the memory gains nothing but its seeds. -/
structure DefaultWorld.Unharmed (w w' : DefaultWorld V) : Prop where
  simulator : w.simulator.Agrees w'.simulator
  memory : ∀ id ∈ w'.memory.memoryManager.ids,
    id ∈ w.memory.memoryManager.ids ∨ id ∈ historicalPostmortems.map HistoricalPostmortem.incidentId

namespace DefaultWorld

instance : Std.Refl (Unharmed (V := V)) := ⟨fun _ => ⟨.refl _, fun _ hid => .inl hid⟩⟩

instance : IsTrans (DefaultWorld V) Unharmed where
  trans w w' w'' h h' := by
    refine ⟨h.simulator.trans h'.simulator, fun id hid => ?_⟩
    rcases h'.memory id hid with hbefore | hseed
    · exact h.memory id hbefore
    · exact .inr hseed

end DefaultWorld

/-! ## The query tools only read -/

/-- Reads something, and does no more. -/
theorem keeps_reading {α : Type} (read : DefaultWorld V → Except PyException α) :
    Procedure.Keeps DefaultWorld.Unharmed (.ofFunction fun w => (read w, w)) :=
  fun w => Std.Refl.refl (r := DefaultWorld.Unharmed) w

theorem keeps_getRecentDeployments (kwargs : Dict String Json) :
    Procedure.Keeps DefaultWorld.Unharmed (GetRecentDeploymentsTool.run (V := V) kwargs) := by
  intro w
  have hrepo := w.simulator.repository.getRecentDeploymentsAny_snd (kwargs.getD "service" .null)
    (kwargs.getD "limit" (.int 5))
  refine ⟨?_, fun id hid => .inl hid⟩
  constructor
  · rfl
  · show (w.simulator.repository.getRecentDeploymentsAny _ _).2.commits = _
    rcases hrepo with h | h <;> rw [h]
  · show (w.simulator.repository.getRecentDeploymentsAny _ _).2.deployments.Perm _
    rcases hrepo with h | h
    · rw [h]
    · rw [h]
      exact Ranking.rank_perm _ _
  · rfl
  · rfl
  · rfl

section
variable [Unicode] [UnicodeText] [LinearOrder S]

theorem keeps_searchMemory (embedder : Embedder V S) (query service limit : Json) :
    Procedure.Keeps DefaultWorld.Unharmed (.ofFunction fun w : DefaultWorld V =>
      let (output, memory) := w.memory.runAny embedder query service limit
      (output.map MemorySearch.toJson, { w with memory })) := by
  intro w
  rw [Procedure.call_ofFunction]
  refine ⟨.refl _, fun id hid => ?_⟩
  have hmem : id ∈ (w.memory.runAny embedder query service limit).2.memoryManager.ids := hid
  rcases w.memory.runAny_snd embedder query service limit with h | ⟨text, sought, stop, h⟩
  · rw [h] at hmem
    exact .inl hmem
  · rw [h] at hmem
    exact EpisodicMemoryManager.ids_searchSimilarIncidents hmem

/-- A query tool is open to viewers, and leaves the world unharmed. -/
theorem queryTools_spec {toFloat : Rat → PyFloat} {embedder : Embedder V S} {tool : Tool (DefaultWorld V)}
    (h : tool ∈ queryTools toFloat embedder) :
    tool.requiredRole = "VIEWER" ∧ ∀ kwargs w, DefaultWorld.Unharmed w (tool.run kwargs w).2 := by
  open Procedure in
  simp only [queryTools, List.mem_cons, List.not_mem_nil, or_false] at h
  rcases h with rfl | rfl | rfl | rfl | rfl | rfl | rfl
  · exact ⟨rfl, fun kwargs => keeps_reading _⟩
  · exact ⟨rfl, fun kwargs => (Keeps.ofExcept _).bind fun _ => keeps_reading _⟩
  · exact ⟨rfl, fun kwargs => (Keeps.ofExcept _).bind fun _ => keeps_reading _⟩
  · exact ⟨rfl, fun kwargs => keeps_getRecentDeployments kwargs⟩
  · exact ⟨rfl, fun kwargs => (Keeps.ofExcept _).bind fun _ => keeps_reading _⟩
  · exact ⟨rfl, fun kwargs => (Keeps.ofExcept _).bind fun _ => keeps_reading _⟩
  · exact ⟨rfl, fun kwargs => (Keeps.ofExcept _).bind fun query => keeps_searchMemory embedder query _ _⟩

end

/-! ## A remediation tool makes one call of the engine, or none -/

section
variable [Unicode]

/-- Whatever the simulator reports, it has been called once. -/
theorem world_runOn {now : Nat → Time} {actionType : String}
    {params : Dict String Json → Except PyException (Dict String Json)} {failure : String → String}
    {result : Dict String Json → List (String × Json)} {kwargs parameters : Dict String Json}
    (h : params kwargs = .ok parameters) (w : DefaultWorld V) :
    (runOn (defaultSimulator now) actionType params failure result kwargs w).2 =
      { w with simulator := (w.simulator.executeAction now actionType parameters).2 } := by
  have hcall : defaultSimulator now actionType parameters w =
      ((w.simulator.executeAction now actionType parameters).1,
        { w with simulator := (w.simulator.executeAction now actionType parameters).2 }) := rfl
  simp only [runOn, h, hcall]
  generalize (w.simulator.executeAction now actionType parameters).1 = out
  rcases out with exc | ⟨success, message⟩
  · rfl
  · cases success
    · rfl
    · rfl

theorem remediationTools_spec {now : Nat → Time} {tool : Tool (DefaultWorld V)}
    (h : tool ∈ remediationTools (defaultSimulator now)) :
    tool.requiredRole = "OPERATOR" ∧ ∀ kwargs w, (tool.run kwargs w).2 = w ∨ ∃ actionType parameters,
      (tool.run kwargs w).2 = { w with simulator := (w.simulator.executeAction now actionType parameters).2 } := by
  have hrunOn : ∀ actionType params failure result kwargs (w : DefaultWorld V),
      (runOn (defaultSimulator now) actionType params failure result kwargs w).2 = w ∨ ∃ called parameters,
        (runOn (defaultSimulator now) actionType params failure result kwargs w).2 =
          { w with simulator := (w.simulator.executeAction now called parameters).2 } := by
    intro actionType params failure result kwargs w
    cases hp : params kwargs with
    | error exc =>
      rw [runOn, hp]
      exact .inl rfl
    | ok parameters => exact .inr ⟨actionType, parameters, world_runOn hp w⟩
  simp only [remediationTools, List.mem_cons, List.not_mem_nil, or_false] at h
  rcases h with rfl | rfl | rfl | rfl | rfl
  · exact ⟨rfl, hrunOn _ _ _ _⟩
  · exact ⟨rfl, hrunOn _ _ _ _⟩
  · exact ⟨rfl, hrunOn _ _ _ _⟩
  · exact ⟨rfl, hrunOn _ _ _ _⟩
  · exact ⟨rfl, hrunOn _ _ _ _⟩

end

/-! ## Requests -/

/-- `default_registry.invoke(tool_name, arguments, caller_role)`, at the times that the clocks tell. -/
structure Request where
  toolName : String
  arguments : Dict String Json
  callerRole : String
  now : Nat → Time
  clock : Clock

theorem mem_of_getTool {W : Type} {tools : List (Tool W)} {reg : ToolRegistry W} {name : String} {tool : Tool W}
    (h : (tools.foldl ToolRegistry.register reg).getTool name = some tool) :
    tool ∈ tools ∨ reg.getTool name = some tool := by
  induction tools generalizing reg with
  | nil => exact .inr h
  | cons t tools ih =>
    rcases ih h with hmem | hreg
    · exact .inl (List.mem_cons_of_mem t hmem)
    · rw [ToolRegistry.getTool_register] at hreg
      split at hreg
      · exact .inl (by rw [← Option.some.inj hreg]; exact List.mem_cons_self)
      · exact .inr hreg

theorem world_execute {W : Type} (tool : Tool W) (kwargs : Dict String Json) (clock : Clock) (w : W) :
    (tool.execute kwargs clock w).2 = (tool.run kwargs w).2 := by
  unfold Tool.execute
  generalize tool.run kwargs w = out
  rcases out with ⟨exc | data, w'⟩
  · rfl
  · rfl

section
variable [Unicode]

/-- The roles that may run a remediation tool. -/
def privileged (callerRole : String) : Bool := Py.upper callerRole = "OPERATOR" || Py.upper callerRole = "ADMIN"

theorem privileged_of_authorized {W : Type} {tool : Tool W} {callerRole : String} (ht : tool.requiredRole = "OPERATOR")
    (ha : ToolRegistry.authorized tool callerRole = true) : privileged callerRole = true := by
  have hrequired : roleHierarchy.getD (Py.upper tool.requiredRole) 99 = 2 := by
    rw [ht, RiskPolicyEngine.upper_operator]
    decide
  rw [ToolRegistry.authorized, hrequired] at ha
  simp only [Bool.not_eq_eq_eq_not, Bool.not_true, decide_eq_false_iff_not, Nat.not_lt] at ha
  generalize hup : Py.upper callerRole = role at ha
  rw [privileged, hup]
  simp only [roleHierarchy, Dict.getD, Dict.get?_ofList, List.reverse_cons, List.reverse_nil, List.nil_append,
    List.cons_append, Dict.look] at ha
  split at ha
  · simp_all
  · split at ha
    · simp_all
    · split at ha
      · simp at ha
      · simp at ha

/-- An invocation does nothing, or it runs a registered tool that the caller may run. -/
theorem world_invoke {W : Type} (reg : ToolRegistry W) (toolName : String) (arguments : Dict String Json)
    (callerRole : String) (clock : Clock) (w : W) :
    (reg.invoke toolName arguments callerRole clock w).world = w ∨
      ∃ tool, reg.getTool toolName = some tool ∧ ToolRegistry.authorized tool callerRole = true ∧
        (reg.invoke toolName arguments callerRole clock w).world = (tool.run arguments w).2 := by
  unfold ToolRegistry.invoke
  cases ht : reg.getTool toolName with
  | none => exact .inl rfl
  | some tool =>
    cases ha : ToolRegistry.authorized tool callerRole with
    | false => exact .inl (by simp [ha])
    | true =>
      cases hs : arguments.contains "self" with
      | true => exact .inl (by simp [ha])
      | false =>
        refine .inr ⟨tool, rfl, ha, ?_⟩
        simp only [ha, Bool.not_true, Bool.false_eq_true, if_false]
        exact world_execute tool arguments clock w

variable [UnicodeText] [LinearOrder S] (toFloat : Rat → PyFloat) (embedder : Embedder V S)

def serve (w : DefaultWorld V) (r : Request) : DefaultWorld V :=
  ((defaultRegistry toFloat embedder r.now).invoke r.toolName r.arguments r.callerRole r.clock w).world

/-- The world after a sequence of requests. -/
def served (requests : List Request) (w : DefaultWorld V) : DefaultWorld V :=
  requests.foldl (serve toFloat embedder) w

/-- A request leaves the world unharmed, or it is an operator's, and one call of the engine. -/
theorem serve_cases (w : DefaultWorld V) (r : Request) :
    w.Unharmed (serve toFloat embedder w r) ∨
      privileged r.callerRole = true ∧ ∃ actionType parameters, serve toFloat embedder w r =
        { w with simulator := (w.simulator.executeAction r.now actionType parameters).2 } := by
  rcases world_invoke (defaultRegistry toFloat embedder r.now) r.toolName r.arguments r.callerRole r.clock w with
    hsame | ⟨tool, htool, hauth, hrun⟩
  · rw [serve, hsame]
    exact .inl (Std.Refl.refl w)
  · rcases mem_of_getTool htool with hmem | hempty
    · rcases List.mem_append.1 hmem with hquery | hremediation
      · rw [serve, hrun]
        exact .inl ((queryTools_spec hquery).2 _ _)
      · obtain ⟨hrole, hact⟩ := remediationTools_spec hremediation
        rw [serve, hrun]
        rcases hact r.arguments w with hnothing | hcall
        · rw [hnothing]
          exact .inl (Std.Refl.refl w)
        · exact .inr ⟨privileged_of_authorized hrole hauth, hcall⟩
    · cases hempty

theorem served_concat (requests : List Request) (r : Request) (w : DefaultWorld V) :
    served toFloat embedder (requests ++ [r]) w = serve toFloat embedder (served toFloat embedder requests w) r := by
  rw [served, List.foldl_append]
  rfl

/-- What the calls of the engine keep, whatever the order of the deployments, all requests keep. -/
theorem served_invariant {I : SimulationEngine → Prop}
    (hagrees : ∀ engine engine', engine.Agrees engine' → I engine → I engine')
    (haction : ∀ engine now actionType parameters, I engine → I (engine.executeAction now actionType parameters).2)
    (requests : List Request) {w : DefaultWorld V} (hw : I w.simulator) :
    I (served toFloat embedder requests w).simulator := by
  induction requests using List.reverseRecOn with
  | nil => exact hw
  | append_singleton requests r ih =>
    rw [served_concat]
    rcases serve_cases toFloat embedder (served toFloat embedder requests w) r with
      hkept | ⟨-, actionType, parameters, hcall⟩
    · exact hagrees _ _ hkept.simulator ih
    · rw [hcall]
      exact haction _ _ _ _ ih

/-- Without an operator among the callers nothing is harmed. -/
theorem unharmed_served {requests : List Request} (h : ∀ r ∈ requests, privileged r.callerRole = false)
    (w : DefaultWorld V) : w.Unharmed (served toFloat embedder requests w) := by
  induction requests using List.reverseRecOn with
  | nil => exact Std.Refl.refl w
  | append_singleton requests r ih =>
    rw [served_concat]
    refine IsTrans.trans _ _ _ (ih fun r' hr' => h r' (List.mem_append_left _ hr')) ?_
    rcases serve_cases toFloat embedder (served toFloat embedder requests w) r with hkept | ⟨hpriv, -⟩
    · exact hkept
    · rw [h r (List.mem_append_right _ (List.mem_singleton_self r))] at hpriv
      cases hpriv

/-- **The registry refines the engine**: what a sequence of requests makes of a simulator is what some actions
make of it, no more of them than there are requests of operators, up to the order of the deployments. So
the simulator stays consistent, and without an operator it is what it was. -/
theorem registry_refines_engine (calls : List SimulationEngine.Call) (memory : SearchIncidentMemoryTool V)
    (requests : List Request) :
    let w : DefaultWorld V := { simulator := SimulationEngine.after calls, memory }
    let w' := served toFloat embedder requests w
    (∃ actions : List SimulationEngine.Call, (∀ a ∈ actions, a.isAction = true) ∧
      actions.length ≤ (requests.filter fun r => privileged r.callerRole).length ∧
      (SimulationEngine.after (calls ++ actions)).Agrees w'.simulator) ∧
    w'.simulator.Consistent ∧
    ((∀ r ∈ requests, privileged r.callerRole = false) → w.Unharmed w') := by
  intro w w'
  have hrefines : ∃ actions : List SimulationEngine.Call, (∀ a ∈ actions, a.isAction = true) ∧
      actions.length ≤ (requests.filter fun r => privileged r.callerRole).length ∧
      (SimulationEngine.after (calls ++ actions)).Agrees w'.simulator := by
    simp only [w']
    clear w'
    induction requests using List.reverseRecOn with
    | nil => exact ⟨[], by simp, Nat.le_refl _, by rw [List.append_nil]; exact .refl _⟩
    | append_singleton requests r ih =>
      obtain ⟨actions, hact, hlen, hagrees⟩ := ih
      rw [served_concat, List.filter_append, List.length_append]
      rcases serve_cases toFloat embedder (served toFloat embedder requests w) r with
        hkept | ⟨hpriv, actionType, parameters, hcall⟩
      · exact ⟨actions, hact, Nat.le_add_right_of_le hlen, hagrees.trans hkept.simulator⟩
      · refine ⟨actions ++ [.executeAction r.now actionType parameters], ?_, ?_, ?_⟩
        · intro a ha
          rcases List.mem_append.1 ha with hold | hnew
          · exact hact a hold
          · obtain rfl := List.mem_singleton.1 hnew
            rfl
        · have hone : ([r].filter fun r => privileged r.callerRole).length = 1 := by simp [hpriv]
          rw [hone, List.length_append]
          exact Nat.add_le_add_right hlen 1
        · rw [← List.append_assoc, SimulationEngine.after_concat, hcall]
          exact hagrees.executeAction r.now actionType parameters
  obtain ⟨actions, hact, hlen, hagrees⟩ := hrefines
  refine ⟨⟨actions, hact, hlen, hagrees⟩, hagrees.keeps_consistent (SimulationEngine.consistent_after _), ?_⟩
  intro hviewers
  exact unharmed_served toFloat embedder hviewers w

end

end OpsPilot
