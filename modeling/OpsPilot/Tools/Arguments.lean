import OpsPilot.Memory.Episodic
import OpsPilot.Simulator.Repository
/-!
# The queries for arguments of any type

The registry passes on whatever a caller has put into the arguments, and nothing checks them against the
annotations. Here is what the queries make of each value: `queryLogsAny` is `query_logs` with any values, and so
on, and the lemmas `_text` say that they are the queries of the modules before for arguments of the types that
are annotated. A value that is no text is equal to no text; what else becomes of it depends on the query.

| here | there |
| --- | --- |
| `narrowTo`          | `if value: results = [r for r in results if r.service == value]` |
| `Json.textFor`      | a value that is used if it counts as true, and then has to have a method of `str` |
| `Json.stop`         | the index in `[:limit]` |
| `Json.negatable`    | the limit in `[-limit:]` |
-/

/-! ## Values as arguments -/

namespace Json

/-- `method` is called of the value if that counts as true. -/
def textFor (method : String) : Json → Except PyException (Option String)
  | .str s => .ok (some s)
  | v =>
    if v.truthy then
      .error (.attributeError ("'" ++ v.typeName ++ "' object has no attribute '" ++ method ++ "'"))
    else .ok none

def noIndex : PyException := .typeError "slice indices must be integers or None or have an __index__ method"

/-- `None` stands for the end of the list, which has `length` elements at most. -/
def stop (length : Nat) : Json → Except PyException Int
  | .null => .ok length
  | .bool b => .ok b.toNat
  | .int i => .ok i
  | _ => .error noIndex

def negatable : Json → Except PyException Int
  | .bool b => .ok b.toNat
  | .int i => .ok i
  | .float _ => .error noIndex
  | v => .error (.typeError ("bad operand type for unary -: '" ++ v.typeName ++ "'"))

@[simp] theorem textFor_optionalText (method : String) (text : Option String) :
    textFor method (.optionalText text) = .ok text := by
  cases text with
  | none => rfl
  | some s => rfl

end Json

namespace OpsPilot

section
variable {β : Type}

def narrowTo (value : Json) (text : β → String) (results : List β) : List β :=
  if value.truthy then results.filter fun r => value.eqStr (text r) else results

theorem narrowTo_optionalText (value : Option String) (text : β → String) (results : List β) :
    narrowTo (.optionalText value) text results = narrow (given value) (fun s r => text r == s) results := by
  cases value with
  | none => rfl
  | some s =>
    by_cases hs : s = ""
    · simp [narrowTo, narrow, given, Option.filter, Json.optionalText, Json.truthy, hs]
    · simp [narrowTo, narrow, given, Option.filter, Json.optionalText, Json.truthy, Json.eqStr, hs, BEq.comm]

end

/-! ## Telemetry -/

namespace TelemetryStore

section
variable [Unicode] [UnicodeText]

def queryLogsAny (store : TelemetryStore) (service pattern level limit : Json) :
    Except PyException (List LogRecord) := do
  let logs := narrowTo service LogRecord.service store.logs
  -- `level.upper()` stands in the condition on a record
  let level ← if logs.isEmpty then .ok none else level.textFor "upper"
  let pattern ← pattern.textFor "lower"
  let limit ← limit.negatable
  return queryLogs { store with logs } none none none pattern level limit

theorem queryLogsAny_text (store : TelemetryStore) (service pattern level : Option String) (limit : Int) :
    store.queryLogsAny (.optionalText service) (.optionalText pattern) (.optionalText level) (.int limit) =
      .ok (store.queryLogs service none none pattern level limit) := by
  unfold queryLogsAny
  simp only [narrowTo_optionalText, Json.textFor_optionalText, Json.negatable]
  by_cases hempty : narrow (given service) (fun s r => r.service == s) store.logs = []
  · -- there is no record that the level would be compared with
    rw [hempty]
    show Except.ok _ = _
    simp [queryLogs, hempty, narrow_eq, Py.sliceFrom]
  · rw [if_neg (by simpa using hempty)]
    rfl

end

def queryMetricsAny (store : TelemetryStore) (metricName service limit : Json) :
    Except PyException (List MetricDataPoint) := do
  let limit ← limit.negatable
  return match metricName with
    | .str metricName =>
      queryMetrics { store with metrics := narrowTo service MetricDataPoint.service store.metrics } metricName none
        none none limit
    | _ => []

theorem queryMetricsAny_text (store : TelemetryStore) (metricName : String) (service : Option String) (limit : Int) :
    store.queryMetricsAny (.str metricName) (.optionalText service) (.int limit) =
      .ok (store.queryMetrics metricName service none none limit) := by
  have hmetrics := narrowTo_optionalText service MetricDataPoint.service store.metrics
  show Except.ok _ = _
  rw [hmetrics]
  have hnone : given none = none := rfl
  simp only [queryMetrics, hnone, narrow_eq, List.filter_filter, Option.all_none, Bool.true_and, Bool.and_comm]

end TelemetryStore

/-! ## The repository -/

namespace MockCodeRepository

/-- The list of the repository is sorted before the limit is looked at. -/
def getRecentDeploymentsAny (repo : MockCodeRepository) (service limit : Json) :
    Except PyException (List DeploymentEvent) × MockCodeRepository :=
  let stop := limit.stop repo.deployments.length
  let (events, repository) :=
    match service with
    | .str service => repo.getRecentDeployments (some service) (stop.toOption.getD 0)
    | v => if v.truthy then ([], repo) else repo.getRecentDeployments none (stop.toOption.getD 0)
  (stop.map fun _ => events, repository)

theorem getRecentDeploymentsAny_text (repo : MockCodeRepository) (service : Option String) (limit : Int) :
    repo.getRecentDeploymentsAny (.optionalText service) (.int limit) =
      (.ok (repo.getRecentDeployments service limit).1, (repo.getRecentDeployments service limit).2) := by
  cases service with
  | none => rfl
  | some s => rfl

/-- Nothing happens to the repository, or its deployments are ranked. -/
theorem getRecentDeploymentsAny_snd (repo : MockCodeRepository) (service limit : Json) :
    (repo.getRecentDeploymentsAny service limit).2 = repo ∨
      (repo.getRecentDeploymentsAny service limit).2 =
        { repo with deployments := Ranking.rank (fun d => d.timestamp.micros) repo.deployments } := by
  have htyped : ∀ service stop, (repo.getRecentDeployments service stop).2 = repo ∨
      (repo.getRecentDeployments service stop).2 =
        { repo with deployments := Ranking.rank (fun d => d.timestamp.micros) repo.deployments } := by
    intro service stop
    rw [getRecentDeployments_snd]
    split
    · exact .inr rfl
    · exact .inl rfl
  unfold getRecentDeploymentsAny
  split
  · exact htyped _ ((limit.stop repo.deployments.length).toOption.getD 0)
  · split
    · exact .inl rfl
    · exact htyped _ ((limit.stop repo.deployments.length).toOption.getD 0)

def getRecentCommitsAny (repo : MockCodeRepository) (service limit : Json) :
    Except PyException (List CommitRecord) := do
  let stop ← limit.stop repo.commits.length
  return match service with
    | .str service => repo.getRecentCommits service stop
    | _ => []

/-- `c.commit_sha.startswith(commit_sha)`, if there is a commit. -/
def getCommitDiffAny (repo : MockCodeRepository) : Json → Except PyException String
  | .str commitSha => .ok (repo.getCommitDiff commitSha)
  | v =>
    if repo.commits.isEmpty then .ok ""
    else .error (.typeError ("startswith first arg must be str or a tuple of str, not " ++ v.typeName))

end MockCodeRepository

/-! ## Memory -/

namespace SearchIncidentMemoryTool

variable {V S : Type} [Unicode] [UnicodeText] [LinearOrder S]

/-- The service of a document is a text, so that a search for another value falls back to all services; and the
limit is looked at once the manager is seeded and the query embedded. -/
def runAny (embedder : Embedder V S) (tool : SearchIncidentMemoryTool V) (query service limit : Json) :
    Except PyException MemorySearch × SearchIncidentMemoryTool V :=
  match query.textFor "strip" with
  | .error exc => (.error exc, tool)
  | .ok text =>
    let text := text.getD ""
    let sought := match service with
      | .str service => some service
      | _ => none
    let stop := limit.stop (tool.memoryManager.vectorStore.documents.length + historicalPostmortems.length)
    let (output, tool) := tool.run embedder text sought (stop.toOption.getD 0)
    let limited := if Py.isBlank text then .ok 0 else stop
    let output := output.bind fun found => limited.map fun _ => { found with query, serviceFilter := service }
    (output, tool)

theorem runAny_text (embedder : Embedder V S) (tool : SearchIncidentMemoryTool V) (query : String)
    (service : Option String) (limit : Int) :
    tool.runAny embedder (.str query) (.optionalText service) (.int limit) = tool.run embedder query service limit := by
  have hsought : (match Json.optionalText service with
      | .str service => some service
      | _ => none) = service := by
    cases service with
    | none => rfl
    | some s => rfl
  simp only [runAny, Json.textFor, Option.getD_some, hsought, Json.stop, Except.toOption]
  have hlimited : (if Py.isBlank query then Except.ok 0 else Except.ok limit : Except PyException Int) =
      .ok (if Py.isBlank query then 0 else limit) := by
    split <;> rfl
  rw [hlimited, run]
  cases tool.memoryManager.searchSimilarIncidents embedder query service limit with
  | mk results manager =>
    cases results with
    | error exc => rfl
    | ok results => rfl

/-- The tool is as it was or as a search leaves it. -/
theorem runAny_snd (embedder : Embedder V S) (tool : SearchIncidentMemoryTool V) (query service limit : Json) :
    (tool.runAny embedder query service limit).2 = tool ∨
      ∃ text sought stop, (tool.runAny embedder query service limit).2 = (tool.run embedder text sought stop).2 := by
  unfold runAny
  cases query.textFor "strip" with
  | error exc => exact .inl rfl
  | ok text => exact .inr ⟨_, _, _, rfl⟩

end SearchIncidentMemoryTool

end OpsPilot
