import OpsPilot.Agents.Investigators
import OpsPilot.Orchestration.Workflow
import OpsPilot.Tools.Effects
/-!
# What the nodes ask their agents (`src/orchestration/graph.py`)

| here | there |
| --- | --- |
| `Analyst.task`    | the `InvestigationTask` of an analyst node (graph.py:77) |
| `Node.ask`        | the call of its agent that a node makes; two of the nodes make none |
| `Consultation`    | such a call, in any state of the incident and with any model |

Over the default registry an agent only reads, and it raises only what its model raises: whatever
the tools have returned, the code around the model handles it.
-/
namespace OpsPilot

variable {W : Type}

/-- graph.py:74 -/
def IncidentState.targetService (st : IncidentState) : String := st.affectedServices.headD "payment-service"

def Analyst.task (st : IncidentState) : Analyst → InvestigationTask
  | log =>
    { taskId := "task-log", agentType := .log, targetService := st.targetService
      queryIntent := "Extract errors and stack traces" }
  | metrics =>
    { taskId := "task-met", agentType := .metrics, targetService := st.targetService
      queryIntent := "Inspect latency and active connections" }
  | code =>
    { taskId := "task-code", agentType := .code, targetService := st.targetService
      queryIntent := "Inspect recent deployments and commit diffs" }
  | memory =>
    { taskId := "task-mem", agentType := .memory, targetService := st.targetService
      queryIntent := "Historical postmortems matching " ++ st.title ++ " on " ++ st.targetService }

/-- graph.py:281 -/
def IncidentState.executedActionId (st : IncidentState) : String :=
  match st.executionResults.getLast? with
  | some res => res.actionId
  | none => "ACT-UNKNOWN"

section
variable [Unicode]

def Analyst.investigate (registry : ToolRegistry W) (llm : StructuredLLM) (task : InvestigationTask) (clock : Clock) :
    Analyst → Procedure PyException W AnalystAgentOutput
  | log => LogAnalystAgent.investigate registry llm task clock
  | metrics => MetricsAnalystAgent.investigate registry llm task clock
  | code => CodeAnalystAgent.investigate registry llm task clock
  | memory => IncidentMemoryAgent.investigate registry llm task clock

/-- The prompt of an analyst, around what it has read. -/
def Analyst.prompt (task : InvestigationTask) (data : Json) : Analyst → String
  | log => LogAnalystAgent.prompt task data
  | metrics => MetricsAnalystAgent.prompt task data
  | code => CodeAnalystAgent.prompt task data
  | memory => IncidentMemoryAgent.prompt task data

/-- The call of the agent of a node, if the node makes one in this state. -/
def Node.ask (registry : ToolRegistry W) (llm : StructuredLLM) (st : IncidentState) (clock : Clock) :
    Node → Option (Procedure PyException W Reply)
  | .supervisor => some (Reply.supervisor <$> SupervisorAgent.planInvestigation registry llm st clock)
  | .analyst a => some (Reply.analyst a <$> a.investigate registry llm (a.task st) clock)
  | .joinEvidence => none
  | .rca => some (Reply.rca <$> RCAAgent.analyze llm st.title st.evidence)
  | .critic =>
    (st.selectedHypothesis.filter fun h => (CriticAgent.missingIds h st.evidence).isEmpty).map fun h =>
      Reply.critic <$> .ofExcept (llm (CriticAgent.prompt h st.evidence) .critiqueResult)
  | .remediationPlanning =>
    st.selectedHypothesis.map fun h =>
      Reply.remediationPlanning <$>
        .ofExcept (llm (RemediationAgent.prompt st.incidentId h st.affectedServices) .remediationPlan)
  | .execution => none
  | .verification =>
    some (Reply.verification <$>
      VerificationAgent.verifyRecovery registry llm st.targetService st.executedActionId clock)

/-- A node calls its agent where it consults it. -/
theorem isSome_ask (registry : ToolRegistry W) (llm : StructuredLLM) (st : IncidentState) (clock : Clock) (n : Node) :
    (n.ask registry llm st clock).isSome = n.consults st := by
  cases n with
  | critic =>
    simp only [Node.ask, Node.consults, Option.isSome_map]
    cases st.selectedHypothesis with
    | none => rfl
    | some h => cases hm : (CriticAgent.missingIds h st.evidence).isEmpty <;> simp [Option.filter, hm]
  | remediationPlanning => simp only [Node.ask, Node.consults, Option.isSome_map]
  | _ => rfl

theorem upper_viewer : Py.upper "VIEWER" = "VIEWER" := by
  rw [Py.upper_ascii (by simp)]
  decide

theorem authorized_viewer {tool : Tool W} (h : tool.requiredRole = "VIEWER") :
    ToolRegistry.authorized tool "VIEWER" = true := by
  rw [ToolRegistry.authorized, h, upper_viewer]
  decide

end

/-! ## What comes back -/

section
variable {V : Type} {llm : StructuredLLM}

/-- What the model raises. -/
def LlmRaises (llm : StructuredLLM) (exc : PyException) : Prop := ∃ prompt model, llm prompt model = .error exc

/-- The end of an agent: what is returned is the model's answer to the prompt. -/
theorem meets_llm {model : ResponseModel} {prompt : String} {P : model.Parsed → Prop}
    (hP : ∀ out, llm prompt model = .ok out → P out) :
    Procedure.Meets P (LlmRaises llm) (.ofExcept (llm prompt model) : Procedure PyException W model.Parsed) :=
  .ofExcept hP fun _ hexc => ⟨prompt, model, hexc⟩

theorem meets_argument {α : Type} (r : Except PyException α) :
    Procedure.Meets (fun _ => True) (fun _ => True) (.ofExcept r : Procedure PyException W α) :=
  .ofExcept (fun _ _ => trivial) fun _ _ => trivial

/-- The deployments come as a list of dicts. -/
theorem meets_getRecentDeployments (kwargs : Dict String Json) :
    Procedure.Meets (fun data => ∃ events : List DeploymentEvent, data = .arr (events.map DeploymentEvent.modelDump))
      (fun _ => True) (GetRecentDeploymentsTool.run (V := V) kwargs) :=
  .ofMap fun events => ⟨events, rfl⟩

theorem meets_getCommitDiff (kwargs : Dict String Json) :
    Procedure.Meets (fun data => ∃ kvs, data = .obj kvs) (fun _ => True) (GetCommitDiffTool.run (V := V) kwargs) :=
  (meets_argument _).bind fun _ _ => .ofMap fun _ => ⟨_, rfl⟩

/-- `dict.get` of a dict returns. -/
theorem dictGet_obj (kvs : List (String × Json)) (key : String) (default : Json) :
    ∃ v, dictGet (.obj kvs) key default = .ok v := ⟨_, rfl⟩

theorem meets_dictGet {res : ToolResult} (h : res.status = .success → ∃ kvs, res.data = .obj kvs) (key : String)
    (default : Json) : Procedure.Meets (fun _ => True) (LlmRaises llm)
      (.ofExcept (if res.status = .success then dictGet res.data key default else .ok default) :
        Procedure PyException W Json) := by
  refine .ofExcept (fun _ _ => trivial) fun exc hexc => ?_
  split at hexc
  · rename_i hstatus
    obtain ⟨kvs, hdata⟩ := h hstatus
    obtain ⟨v, hv⟩ := dictGet_obj kvs key default
    rw [hdata, hv] at hexc
    cases hexc
  · cases hexc

/-- The first of the deployments is a dict, if there is one. -/
theorem commitSha_deployments (events : List DeploymentEvent) :
    ∃ sha, CodeAnalystAgent.commitSha (.arr (events.map DeploymentEvent.modelDump)) = .ok sha := by
  cases events with
  | nil => exact ⟨_, rfl⟩
  | cons d events => exact dictGet_obj _ _ _

end

/-! ## Over the default registry -/

section
variable {V S : Type} [Unicode] [UnicodeText] [LinearOrder S] {toFloat : Rat → PyFloat} {embedder : Embedder V S}
  {now : Nat → Time} {llm : StructuredLLM} {clock : Clock}

theorem getTool_queryTools {tool : Tool (DefaultWorld V)} (h : tool ∈ queryTools toFloat embedder) :
    (defaultRegistry toFloat embedder now).getTool tool.name = some tool := by
  simp only [queryTools, List.mem_cons, List.not_mem_nil, or_false] at h
  rcases h with rfl | rfl | rfl | rfl | rfl | rfl | rfl <;>
    simp [defaultRegistry, queryTools, remediationTools, queryLogsTool, queryMetricsTool, getServiceHealthTool,
      getRecentDeploymentsTool, getRecentCommitsTool, getCommitDiffTool, searchIncidentMemoryTool,
      restartServiceTool, rollbackDeploymentTool, scaleReplicasTool, modifyConfigurationTool, clearCacheTool]

theorem keeps_query (toolName : String) (arguments : List (String × Json)) :
    Procedure.Keeps DefaultWorld.Unharmed
      (BaseAgent.query (defaultRegistry toFloat embedder now) clock toolName arguments) := by
  intro w
  have hviewer : privileged "VIEWER" = false := by
    rw [privileged, upper_viewer]
    decide
  rcases serve_cases toFloat embedder w
    { toolName, arguments := Dict.ofList arguments, callerRole := "VIEWER", now, clock } with hkept | ⟨hpriv, -⟩
  · exact hkept
  · rw [hviewer] at hpriv
    cases hpriv

/-- A query answers, and its data is what the tool returns. -/
theorem meets_query {tool : Tool (DefaultWorld V)} (ht : tool ∈ queryTools toFloat embedder) {P : Json → Prop}
    {arguments : List (String × Json)} (hself : (Dict.ofList arguments).contains "self" = false)
    (hP : ∀ w data, (tool.run (Dict.ofList arguments) w).1 = .ok data → P data) :
    Procedure.Meets (fun res => res.status = .success → P res.data) (fun _ => False)
      (BaseAgent.query (defaultRegistry toFloat embedder now) clock tool.name arguments) := by
  have htool : (defaultRegistry toFloat embedder now).getTool tool.name = some tool := getTool_queryTools ht
  have hinvoke := fun w => ToolRegistry.invoke_of_authorized (Dict.ofList arguments) clock w htool
    (authorized_viewer (queryTools_spec ht).1) hself
  constructor
  · intro w res hres hstatus
    simp only [BaseAgent.query, Procedure.call_ofFunction, hinvoke w, Except.ok.injEq] at hres
    subst hres
    cases hrun : tool.run (Dict.ofList arguments) w with
    | mk result w' =>
      simp only [Tool.execute, hrun] at hstatus ⊢
      cases result with
      | ok data => exact hP w data (by rw [hrun])
      | error exc => cases hstatus
  · intro w exc hexc
    simp only [BaseAgent.query, Procedure.call_ofFunction, hinvoke w] at hexc
    cases hexc

/-- A query of which nothing is needed but an answer. -/
theorem meets_any {tool : Tool (DefaultWorld V)} (ht : tool ∈ queryTools toFloat embedder)
    {arguments : List (String × Json)} (hself : (Dict.ofList arguments).contains "self" = false) :
    Procedure.Meets (fun _ => True) (LlmRaises llm)
      (BaseAgent.query (defaultRegistry toFloat embedder now) clock tool.name arguments) :=
  (meets_query ht hself (P := fun _ => True) fun _ _ _ => trivial).mono (fun _ _ => trivial) fun _ h => h.elim

theorem meets_searchIncidentMemory (kwargs : Dict String Json) :
    Procedure.Meets (fun data => ∃ kvs, data = .obj kvs) (fun _ => True)
      (SearchIncidentMemoryTool.runJson embedder kwargs) :=
  (meets_argument _).bind fun _ _ => .ofMap fun _ => ⟨_, rfl⟩

/-! ### What the agents do and what comes back -/

theorem mem_queryTools_logs : queryLogsTool ∈ queryTools toFloat embedder := by simp [queryTools]

theorem mem_queryTools_metrics : queryMetricsTool toFloat ∈ queryTools toFloat embedder := by simp [queryTools]

theorem mem_queryTools_health : getServiceHealthTool ∈ queryTools toFloat embedder := by simp [queryTools]

theorem mem_queryTools_deployments : getRecentDeploymentsTool ∈ queryTools toFloat embedder := by simp [queryTools]

theorem mem_queryTools_diff : getCommitDiffTool ∈ queryTools toFloat embedder := by simp [queryTools]

theorem mem_queryTools_memory : searchIncidentMemoryTool embedder ∈ queryTools toFloat embedder := by simp [queryTools]

theorem meets_supervisor (state : IncidentState) :
    Procedure.Meets (fun plan => ∃ health, llm (SupervisorAgent.prompt state health) .supervisorPlan = .ok plan)
      (LlmRaises llm)
      (SupervisorAgent.planInvestigation (defaultRegistry toFloat embedder now) llm state clock) :=
  (meets_any mem_queryTools_health (by simp [Dict.contains, Dict.get?_ofList, Dict.look])).bind fun _ _ =>
    meets_llm fun _ h => ⟨_, h⟩

theorem meets_logAnalyst (task : InvestigationTask) :
    Procedure.Meets (fun out => ∃ logs, llm (LogAnalystAgent.prompt task logs) .analystAgentOutput = .ok out)
      (LlmRaises llm) (LogAnalystAgent.investigate (defaultRegistry toFloat embedder now) llm task clock) :=
  (meets_any mem_queryTools_logs (by simp [Dict.contains, Dict.get?_ofList, Dict.look])).bind fun _ _ =>
    meets_llm fun _ h => ⟨_, h⟩

theorem meets_metricsAnalyst (task : InvestigationTask) :
    Procedure.Meets (fun out => ∃ summary, llm (MetricsAnalystAgent.prompt task summary) .analystAgentOutput = .ok out)
      (LlmRaises llm) (MetricsAnalystAgent.investigate (defaultRegistry toFloat embedder now) llm task clock) :=
  (meets_any mem_queryTools_metrics (by simp [Dict.contains, Dict.get?_ofList, Dict.look])).bind fun _ _ =>
    (meets_any mem_queryTools_metrics (by simp [Dict.contains, Dict.get?_ofList, Dict.look])).bind fun _ _ =>
      meets_llm fun _ h => ⟨_, h⟩

theorem meets_diffOf (commitSha : Json) :
    Procedure.Meets (fun _ => True) (LlmRaises llm)
      (CodeAnalystAgent.diffOf (defaultRegistry toFloat embedder now) commitSha clock) := by
  unfold CodeAnalystAgent.diffOf
  split
  · refine ((meets_query mem_queryTools_diff (by simp [Dict.contains, Dict.get?_ofList, Dict.look])
      fun w data h => (meets_getCommitDiff _).returns w data h).mono (fun _ h => h) fun _ h => h.elim).bind ?_
    intro res hres
    exact meets_dictGet hres _ _
  · exact .pure trivial

theorem meets_codeAnalyst (task : InvestigationTask) :
    Procedure.Meets (fun out => ∃ context, llm (CodeAnalystAgent.prompt task context) .analystAgentOutput = .ok out)
      (LlmRaises llm) (CodeAnalystAgent.investigate (defaultRegistry toFloat embedder now) llm task clock) := by
  unfold CodeAnalystAgent.investigate
  refine ((meets_query mem_queryTools_deployments (by simp [Dict.contains, Dict.get?_ofList, Dict.look])
    fun w data h => (meets_getRecentDeployments _).returns w data h).mono (fun _ h => h) fun _ h => h.elim).bind ?_
  intro res hres
  have hlist : ∃ events : List DeploymentEvent, res.dataOr (.arr []) = .arr (events.map DeploymentEvent.modelDump) := by
    unfold ToolResult.dataOr
    split
    · rename_i hstatus
      exact hres hstatus
    · exact ⟨[], rfl⟩
  have hsha : Procedure.Meets (fun _ => True) (LlmRaises llm)
      (.ofExcept (CodeAnalystAgent.commitSha (res.dataOr (.arr []))) :
        Procedure PyException (DefaultWorld V) Json) := by
    refine .ofExcept (fun _ _ => trivial) fun exc hexc => ?_
    obtain ⟨events, hevents⟩ := hlist
    obtain ⟨sha, hok⟩ := commitSha_deployments events
    rw [hevents, hok] at hexc
    cases hexc
  exact hsha.bind fun sha _ => (meets_diffOf sha).bind fun _ _ => meets_llm fun _ h => ⟨_, h⟩

theorem meets_memoryAnalyst (task : InvestigationTask) :
    Procedure.Meets (fun out => ∃ context, llm (IncidentMemoryAgent.prompt task context) .analystAgentOutput = .ok out)
      (LlmRaises llm) (IncidentMemoryAgent.investigate (defaultRegistry toFloat embedder now) llm task clock) := by
  unfold IncidentMemoryAgent.investigate
  refine ((meets_query mem_queryTools_memory (by simp [Dict.contains, Dict.get?_ofList, Dict.look])
    fun w data h => (meets_searchIncidentMemory _).returns w data h).mono (fun _ h => h) fun _ h => h.elim).bind ?_
  intro res hres
  exact (meets_dictGet hres _ _).bind fun _ _ => (meets_dictGet hres _ _).bind fun _ _ => meets_llm fun _ h => ⟨_, h⟩

theorem meets_verifier (targetService executedActionId : String) :
    Procedure.Meets (fun out => ∃ telemetry,
        llm (VerificationAgent.prompt targetService executedActionId telemetry) .verificationAssessment = .ok out)
      (LlmRaises llm) (VerificationAgent.verifyRecovery (defaultRegistry toFloat embedder now) llm targetService
        executedActionId clock) :=
  (meets_any mem_queryTools_health (by simp [Dict.contains, Dict.get?_ofList, Dict.look])).bind fun _ _ =>
    (meets_any mem_queryTools_metrics (by simp [Dict.contains, Dict.get?_ofList, Dict.look])).bind fun _ _ =>
      meets_llm fun _ h => ⟨_, h⟩

/-- The reply is the model's answer to the prompt of the node, whatever the tools have returned. -/
def Answered (llm : StructuredLLM) (st : IncidentState) : Reply → Prop
  | .supervisor plan => ∃ health, llm (SupervisorAgent.prompt st health) .supervisorPlan = .ok plan
  | .analyst a output => ∃ data, llm (a.prompt (a.task st) data) .analystAgentOutput = .ok output
  | .joinEvidence => True
  | .rca output => llm (RCAAgent.prompt st.title st.evidence) .rcaAgentOutput = .ok output
  | .critic verdict => ∃ h, st.selectedHypothesis = some h ∧
      llm (CriticAgent.prompt h st.evidence) .critiqueResult = .ok verdict
  | .remediationPlanning rawPlan => ∃ h, st.selectedHypothesis = some h ∧
      llm (RemediationAgent.prompt st.incidentId h st.affectedServices) .remediationPlan = .ok rawPlan
  | .verification assessment => ∃ telemetry,
      llm (VerificationAgent.prompt st.targetService st.executedActionId telemetry) .verificationAssessment =
        .ok assessment
  | .raises _ exc => LlmRaises llm exc

theorem keeps_investigate (a : Analyst) (task : InvestigationTask) :
    Procedure.Keeps DefaultWorld.Unharmed
      (a.investigate (defaultRegistry toFloat embedder now) llm task clock) := by
  open Procedure in
  cases a with
  | log => exact (keeps_query _ _).bind fun _ => .ofExcept _
  | metrics => exact (keeps_query _ _).bind fun _ => (keeps_query _ _).bind fun _ => .ofExcept _
  | code =>
    refine (keeps_query _ _).bind fun _ => (Keeps.ofExcept _).bind fun sha => Keeps.bind ?_ fun _ => .ofExcept _
    unfold CodeAnalystAgent.diffOf
    split
    · exact (keeps_query _ _).bind fun _ => .ofExcept _
    · exact .pure _
  | memory =>
    exact (keeps_query _ _).bind fun _ => (Keeps.ofExcept _).bind fun _ => (Keeps.ofExcept _).bind fun _ => .ofExcept _

theorem meets_investigate (a : Analyst) (task : InvestigationTask) :
    Procedure.Meets (fun out => ∃ data, llm (a.prompt task data) .analystAgentOutput = .ok out) (LlmRaises llm)
      (a.investigate (defaultRegistry toFloat embedder now) llm task clock) := by
  cases a with
  | log => exact meets_logAnalyst task
  | metrics => exact meets_metricsAnalyst task
  | code => exact meets_codeAnalyst task
  | memory => exact meets_memoryAnalyst task

/-- What a node's call of its agent does, and what comes back. -/
theorem ask_spec {st : IncidentState} {n : Node} {ask : Procedure PyException (DefaultWorld V) Reply}
    (h : n.ask (defaultRegistry toFloat embedder now) llm st clock = some ask) :
    ask.Keeps DefaultWorld.Unharmed ∧
      ask.Meets (fun reply => reply.node = n ∧ Answered llm st reply) (LlmRaises llm) := by
  cases n with
  | supervisor =>
    obtain rfl := Option.some.inj h
    refine ⟨.map _ ((keeps_query _ _).bind fun _ => .ofExcept _), (meets_supervisor st).map fun plan hplan => ?_⟩
    exact ⟨rfl, hplan⟩
  | analyst a =>
    obtain rfl := Option.some.inj h
    exact ⟨.map _ (keeps_investigate a _), (meets_investigate a _).map fun out hout => ⟨rfl, hout⟩⟩
  | joinEvidence => cases h
  | rca =>
    obtain rfl := Option.some.inj h
    exact ⟨.map _ (.ofExcept _), (meets_llm fun _ hout => hout).map fun out hout => ⟨rfl, hout⟩⟩
  | critic =>
    obtain ⟨hyp, hhyp, rfl⟩ := Option.map_eq_some_iff.1 h
    have hsel := (Option.filter_eq_some_iff.1 hhyp).1
    exact ⟨.map _ (.ofExcept _), (meets_llm fun _ hout => hout).map fun out hout => ⟨rfl, hyp, hsel, hout⟩⟩
  | remediationPlanning =>
    obtain ⟨hyp, hsel, rfl⟩ := Option.map_eq_some_iff.1 h
    exact ⟨.map _ (.ofExcept _), (meets_llm fun _ hout => hout).map fun out hout => ⟨rfl, hyp, hsel, hout⟩⟩
  | execution => cases h
  | verification =>
    obtain rfl := Option.some.inj h
    refine ⟨.map _ ((keeps_query _ _).bind fun _ => (keeps_query _ _).bind fun _ => .ofExcept _), ?_⟩
    exact (meets_verifier _ _).map fun out hout => ⟨rfl, hout⟩

/-! ## Sequences of consultations -/

/-- A node consults its agent: in any state, with any model, at any time. -/
structure Consultation where
  state : IncidentState
  node : Node
  llm : StructuredLLM
  now : Nat → Time
  clock : Clock

/-- The call that is made, if one is. -/
def Consultation.ask (toFloat : Rat → PyFloat) (embedder : Embedder V S) (c : Consultation) :
    Option (Procedure PyException (DefaultWorld V) Reply) :=
  c.node.ask (defaultRegistry toFloat embedder c.now) c.llm c.state c.clock

/-- The world after the consultations, whatever they return or raise. -/
def consulted (toFloat : Rat → PyFloat) (embedder : Embedder V S) (consultations : List Consultation)
    (w : DefaultWorld V) : DefaultWorld V :=
  consultations.foldl (fun w c => ((c.ask toFloat embedder).map fun ask => (ask.call w).2).getD w) w

/-- **Agents only read**: after any sequence of consultations the simulator is what it was, up to the order of
the deployments, and the memory has gained its seeds at most; and an agent returns what the model answers
to its prompt, or raises what the model raises, whatever is in the telemetry. -/
theorem agents_only_read (toFloat : Rat → PyFloat) (embedder : Embedder V S) (consultations : List Consultation)
    (w : DefaultWorld V) :
    w.Unharmed (consulted toFloat embedder consultations w) ∧
      ∀ c ∈ consultations, ∀ ask, c.ask toFloat embedder = some ask → ∀ w',
        (∃ reply, (ask.call w').1 = .ok reply ∧ reply.node = c.node ∧ Answered c.llm c.state reply) ∨
          ∃ exc, (ask.call w').1 = .error exc ∧ LlmRaises c.llm exc := by
  constructor
  · induction consultations using List.reverseRecOn with
    | nil => exact Std.Refl.refl w
    | append_singleton consultations c ih =>
      rw [consulted, List.foldl_append]
      refine IsTrans.trans _ _ _ ih ?_
      simp only [List.foldl_cons, List.foldl_nil]
      cases hask : c.ask toFloat embedder with
      | none => exact Std.Refl.refl (r := DefaultWorld.Unharmed) _
      | some ask => exact (ask_spec hask).1 _
  · intro c _ ask hask w'
    have hmeets := (ask_spec hask).2
    cases hout : (ask.call w').1 with
    | ok reply =>
      obtain ⟨hnode, hanswered⟩ := hmeets.returns w' reply hout
      exact .inl ⟨reply, rfl, hnode, hanswered⟩
    | error exc => exact .inr ⟨exc, rfl, hmeets.raises w' exc hout⟩

end

end OpsPilot
