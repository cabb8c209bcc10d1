import OpsPilot.Orchestration.Consultation
import OpsPilot.Safety.Totality
/-!
# The agents of the default wiring (`default_incident_service`, incident_service.py:392)

They ask a `ModelRouter([MockLLMProvider()])` and act through the default registry. The prompt of each
analyst carries a keyword of its own branch of the mock, so its item of evidence is found whatever the tools
return; and the one action of the mock's plan can be executed at any time.

| here | there |
| --- | --- |
| `defaultLLM`    | `default_router` with a mock, up to `response.parsed` |
| `AgentsAnswer`  | a node finishes with what its agent returns or raises |
-/
namespace OpsPilot

section
variable [UnicodeCase] {dumpJson : (model : ResponseModel) → model.Parsed → String} {clock : Clock}

def defaultLLM (dumpJson : (model : ResponseModel) → model.Parsed → String) (clock : Clock) : StructuredLLM :=
  fun prompt model => (MockLLMProvider.generateStructured dumpJson {} prompt model clock).1.map LLMResponse.parsed

theorem defaultLLM_eq (prompt : String) (model : ResponseModel) :
    defaultLLM dumpJson clock prompt model = .ok (MockLLMProvider.synthesize prompt clock model) := rfl

/-- The mock answers in the same way whatever it has been asked before. -/
theorem defaultLLM_after (requests : List (String × ResponseModel × Clock)) (prompt : String) (model : ResponseModel) :
    let provider := requests.foldl (fun provider r =>
      (MockLLMProvider.generateStructured dumpJson provider r.1 r.2.1 r.2.2).2) ({} : MockLLMProvider)
    (provider.generateStructured dumpJson prompt model clock).1.map LLMResponse.parsed =
      defaultLLM dumpJson clock prompt model := by
  intro provider
  have hcalm : provider.failNext = false ∧ provider.alwaysFail = false := by
    simp only [provider]
    clear provider
    induction requests using List.reverseRecOn with
    | nil => exact ⟨rfl, rfl⟩
    | append_singleton requests r ih =>
      rw [List.foldl_append]
      obtain ⟨response, provider', hcall, -, hcalm⟩ :=
        MockLLMProvider.generateStructured_ok dumpJson ih.1 ih.2 r.1 r.2.1 r.2.2
      simp only [List.foldl_cons, List.foldl_nil, hcall]
      exact hcalm
  obtain ⟨response, provider', hcall, hparsed, -⟩ :=
    MockLLMProvider.generateStructured_ok dumpJson hcalm.1 hcalm.2 prompt model clock
  rw [hcall, defaultLLM_eq, ← hparsed]
  rfl

theorem not_llmRaises_default (exc : PyException) : ¬ LlmRaises (defaultLLM dumpJson clock) exc := by
  rintro ⟨prompt, model, hexc⟩
  rw [defaultLLM_eq] at hexc
  cases hexc

end

/-- What the agent of the node has returned or raised. -/
def Reply.outcome : Reply → Except PyException Reply
  | raises _ exc => .error exc
  | reply => .ok reply

/-! ## Every analyst finds its item -/

theorem contains_heading (task : InvestigationTask) : Py.contains task.heading task.queryIntent = true := by
  unfold InvestigationTask.heading
  exact Py.contains_append_left (Py.contains_append_right (Py.contains_self _))

/-- The prompt has a keyword of the analyst's own branch, whatever else is in it. -/
theorem mentions_prompt [Unicode] [UnicodeCase] (a : Analyst) (st : IncidentState) (data : Json) :
    MockLLMProvider.mentions (a.prompt (a.task st) data) a = true := by
  have hkey : ∀ piece keyword, keyword ∈ MockLLMProvider.keywords a → Py.lowersTo piece keyword = true →
      Py.contains (a.prompt (a.task st) data) piece = true →
      MockLLMProvider.mentions (a.prompt (a.task st) data) a = true := by
    intro piece keyword hmem hlowers hin
    exact List.any_eq_true.2 ⟨keyword, hmem, Py.contains_lower hin hlowers⟩
  cases a with
  | log =>
    refine hkey "Application Logs:\n" "log" (by simp [MockLLMProvider.keywords]) (by decide) ?_
    exact Py.contains_append_left (Py.contains_append_left (Py.contains_append_right (Py.contains_self _)))
  | metrics =>
    refine hkey "Metrics Data:\n" "metric" (by simp [MockLLMProvider.keywords]) (by decide) ?_
    exact Py.contains_append_left (Py.contains_append_left (Py.contains_append_right (Py.contains_self _)))
  | code =>
    refine hkey "Inspect recent deployments and commit diffs" "commit" (by simp [MockLLMProvider.keywords])
      (by decide) ?_
    exact Py.contains_append_left (Py.contains_append_left (Py.contains_append_left (contains_heading _)))
  | memory =>
    refine hkey "Retrieved Historical Postmortems:\n" "historical" (by simp [MockLLMProvider.keywords]) (by decide) ?_
    unfold Analyst.prompt IncidentMemoryAgent.prompt
    exact Py.contains_append_left (Py.contains_append_left (Py.contains_append_left
      (Py.contains_append_right (Py.contains_self _))))

/-! ## The replies of a default run -/

/-- The items of the analyst are among those that an analyst has returned. -/
def Reported (H : List Reply) (a : Analyst) : Prop :=
  ∃ output, Reply.analyst a output ∈ H ∧ MockLLMProvider.evidenceId a ∈ output.evidenceItems.map Evidence.id

theorem Reported.concat {H : List Reply} {a : Analyst} (h : Reported H a) (reply : Reply) :
    Reported (H ++ [reply]) a := by
  obtain ⟨output, hmem, hid⟩ := h
  exact ⟨output, List.mem_append_left _ hmem, hid⟩

section
variable [UnicodeCase]

/-- A hypothesis of the mock. -/
def DefaultHypothesis (h : Hypothesis) : Prop :=
  ∃ prompt, (MockLLMProvider.rcaOutput prompt).hypotheses = [h]

/-- What it cites has been reported. -/
theorem DefaultHypothesis.grounded {h : Hypothesis} (hh : DefaultHypothesis h) {evidence : List Evidence}
    (hev : ∀ a, MockLLMProvider.evidenceId a ∈ evidence.map Evidence.id) : CriticAgent.missingIds h evidence = [] := by
  obtain ⟨prompt, hprompt⟩ := hh
  refine CriticAgent.missingIds_eq_nil.2 fun id hid => ?_
  have hmem : h ∈ (MockLLMProvider.rcaOutput prompt).hypotheses := by simp [hprompt]
  obtain ⟨a, rfl⟩ := MockLLMProvider.mem_supportingEvidenceIds hmem hid
  exact hev a

theorem DefaultHypothesis.title {h : Hypothesis} (hh : DefaultHypothesis h) :
    h.title = "Redis Connection Pool Exhaustion from Deployment Configuration" := by
  obtain ⟨prompt, hprompt⟩ := hh
  simp only [MockLLMProvider.rcaOutput, List.cons.injEq, and_true] at hprompt
  rw [← hprompt]

/-- The hypothesis that the RCA node selects. -/
theorem selectHypothesis_rcaOutput (prompt : String) :
    ∃ h, selectHypothesis (MockLLMProvider.rcaOutput prompt) = some h ∧ DefaultHypothesis h := by
  obtain ⟨h, hprompt⟩ : ∃ h, (MockLLMProvider.rcaOutput prompt).hypotheses = [h] := ⟨_, rfl⟩
  refine ⟨h, ?_, prompt, hprompt⟩
  have hid : h.id = "HYP-01" := by
    simp only [MockLLMProvider.rcaOutput, List.cons.injEq, and_true] at hprompt
    rw [← hprompt]
  rw [selectHypothesis, hprompt]
  simp [hid, MockLLMProvider.rcaOutput]

end

section
variable {V S : Type} [Unicode] [UnicodeCase] [LinearOrder S] {toFloat : Rat → PyFloat} {embedder : Embedder V S}
  {now : Nat → Time} {dumpJson : (model : ResponseModel) → model.Parsed → String} {clock : Clock}

theorem getTool_defaultRegistry (actionType : ActionType) :
    (defaultRegistry toFloat embedder now).getTool actionType.name = toolFor (defaultSimulator now) actionType := by
  have hempty : ({} : ToolRegistry (DefaultWorld V)).getTool "run_query" = none := rfl
  cases actionType <;>
    simp [defaultRegistry, queryTools, remediationTools, queryLogsTool, queryMetricsTool, getServiceHealthTool,
      getRecentDeploymentsTool, getRecentCommitsTool, getCommitDiffTool, searchIncidentMemoryTool,
      ActionType.name, toolFor, restartServiceTool, rollbackDeploymentTool, scaleReplicasTool, modifyConfigurationTool,
      clearCacheTool, hempty]

/-- The one action of the plan. -/
def defaultAction (policyEngine : RiskPolicyEngine) (incidentId : String) : RemediationAction :=
  policyEngine.assessActionRisk MockLLMProvider.rollbackAction incidentId

section
variable {runner : Runner (DefaultWorld V)} {policyEngine : RiskPolicyEngine} {incidentId : String}

/-- It can be executed at any time. -/
theorem result_defaultAction (hreg : runner.registry = defaultRegistry toFloat embedder now) (clock : Clock) :
    ∃ res, (runner.executeAction (defaultAction policyEngine incidentId) "OPERATOR" clock).result = .ok res := by
  have hm : runner.Messaging := by
    intro actionType tool htool
    rw [hreg, getTool_defaultRegistry] at htool
    exact (toolFor_spec htool).2
  have hpass : Runner.Passes [("target_version", .str "v2.4.0"), ("previous_version", .str "v2.4.1")] := by
    simp [Runner.Passes, Dict.contains, Dict.get?_ofList, Dict.look]
  exact Runner.returns_of_passes hm rfl hpass

theorem getTool_defaultAction (hreg : runner.registry = defaultRegistry toFloat embedder now) :
    runner.registry.getTool (defaultAction policyEngine incidentId).actionType.name =
      some (rollbackDeploymentTool (defaultSimulator now)) := by
  rw [hreg, getTool_defaultRegistry]
  rfl

/-- It gets as far as its tool, unless the key is recorded. -/
theorem reaches_defaultAction (hreg : runner.registry = defaultRegistry toFloat embedder now) :
    runner.reaches (defaultAction policyEngine incidentId) "OPERATOR" =
      !runner.skips (defaultAction policyEngine incidentId) := by
  have hpermitted : runner.permitted (defaultAction policyEngine incidentId) "OPERATOR" = true := by
    have hrole : (rollbackDeploymentTool (defaultSimulator (V := V) now)).requiredRole = "OPERATOR" := rfl
    rw [Runner.permitted, getTool_defaultAction hreg, Option.any_some, ToolRegistry.authorized, hrole,
      RiskPolicyEngine.upper_operator]
    decide
  have hpassable : Runner.passable (defaultAction policyEngine incidentId) = true := by
    simp [defaultAction, Runner.passable, MockLLMProvider.rollbackAction, Json.asDict?, Dict.contains,
      Dict.get?_ofList, Dict.look]
  rw [Runner.reaches, hpermitted, hpassable, Bool.and_true, Bool.and_true]

theorem call_defaultAction (hreg : runner.registry = defaultRegistry toFloat embedder now) (clock : Clock) :
    (runner.executeAction (defaultAction policyEngine incidentId) "OPERATOR" clock).call.map ToolCall.toolName =
      if runner.skips (defaultAction policyEngine incidentId) then none else some "rollback_deployment" := by
  have hreach : runner.reaches (defaultAction policyEngine incidentId) "OPERATOR" = _ := reaches_defaultAction hreg
  cases hskip : runner.skips (defaultAction policyEngine incidentId) with
  | true =>
    rw [hskip] at hreach
    rw [Runner.call_of_not_reaches hreach]
    rfl
  | false =>
    rw [hskip] at hreach
    obtain ⟨tool, parameters, -, -, hout⟩ := Runner.executeAction_of_reaches clock hreach
    rw [hout]
    rfl

end

namespace Workflow

/-- Where a node asks its agent, the reply is what that returns or raises. -/
def AgentsAnswer (toFloat : Rat → PyFloat) (embedder : Embedder V S) (now : Nat → Time)
    (dumpJson : (model : ResponseModel) → model.Parsed → String) (s : Workflow (DefaultWorld V)) :
    Label (DefaultWorld V) → Prop
  | .finish reply clock => ∀ ask, reply.node.ask (defaultRegistry toFloat embedder now) (defaultLLM dumpJson clock)
      s.graph.state clock = some ask → (ask.call s.runner.world).1 = reply.outcome
  | _ => True

/-- An agent that is asked answers, and answers as the mock does. -/
theorem answered {s : Workflow (DefaultWorld V)} {reply : Reply}
    (h : AgentsAnswer toFloat embedder now dumpJson s (.finish reply clock))
    (hc : reply.node.consults s.graph.state = true) :
    (∀ n exc, reply ≠ .raises n exc) ∧ Answered (defaultLLM dumpJson clock) s.graph.state reply := by
  rw [← isSome_ask (defaultRegistry toFloat embedder now) (defaultLLM dumpJson clock) _ clock] at hc
  obtain ⟨ask, hask⟩ := Option.isSome_iff_exists.1 hc
  have hcall := h ask hask
  have hspec := (ask_spec hask).2
  have hreturn : reply.outcome = .ok reply → Answered (defaultLLM dumpJson clock) s.graph.state reply := by
    intro hok
    exact (hspec.returns _ reply (hcall.trans hok)).2
  cases reply with
  | raises n exc => exact absurd (hspec.raises _ exc hcall) (not_llmRaises_default exc)
  | supervisor plan => exact ⟨by rintro n exc ⟨⟩, hreturn rfl⟩
  | analyst a output => exact ⟨by rintro n exc ⟨⟩, hreturn rfl⟩
  | joinEvidence => exact ⟨by rintro n exc ⟨⟩, hreturn rfl⟩
  | rca output => exact ⟨by rintro n exc ⟨⟩, hreturn rfl⟩
  | critic verdict => exact ⟨by rintro n exc ⟨⟩, hreturn rfl⟩
  | remediationPlanning rawPlan => exact ⟨by rintro n exc ⟨⟩, hreturn rfl⟩
  | verification assessment => exact ⟨by rintro n exc ⟨⟩, hreturn rfl⟩

end Workflow

end

end OpsPilot
