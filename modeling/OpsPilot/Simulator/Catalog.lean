import OpsPilot.Simulator.Scenario
/-!
# The ten scenarios (`simulator/scenarios/*.py`, `simulator/scenarios/catalog.py`)

Each class under the name that it has there. Most of them are built alike: one line of log every so
often, two rates every thirty seconds, and one condition under which an action remediates.
-/
namespace OpsPilot

namespace ScenarioCatalog

open Remediation

/-! ## What the classes have in common -/

/-- `parameters.get("target_service") == service` -/
def targets (parameters : Dict String Json) (service : String) : Bool :=
  (parameters.getD "target_service" .null).eqStr service

/-- `v >= n` for a positive `n`; only numbers can be compared with one. -/
def atLeast (n : Nat) : Json → Except PyException Bool
  | .int i => .ok (decide ((n : Int) ≤ i))
  | .bool b => .ok (decide (n ≤ b.toNat))
  | .float f =>
    .ok (!f.neg && (if 0 ≤ f.exp then decide (n ≤ f.digits * 10 ^ f.exp.toNat)
      else decide (n * 10 ^ (-f.exp).toNat ≤ f.digits)))
  | v => .error (.typeError ("'>=' not supported between instances of '" ++ v.typeName ++ "' and 'int'"))

/-- `needle in v.lower()`; only strings have a lower case. -/
def lowerContains [UnicodeText] (needle : String) : Json → Except PyException Bool
  | .str s => .ok (Py.contains (UnicodeText.lower s) needle)
  | v => .error (.attributeError ("'" ++ v.typeName ++ "' object has no attribute 'lower'"))

/-- One condition under which the scenario is remediated. -/
def remediesIf (cond : Except PyException Bool) (fixed failed : String) : Remediation :=
  ifThen cond (remediated fixed) (returns false failed)

theorem settles_remediesIf (cond : Except PyException Bool) (fixed failed : String) :
    (remediesIf cond fixed failed).Settles :=
  settles_ifThen (settles_remediated fixed) (settles_returns false failed)

/-- One line of log, for a remediated scenario or for another. -/
def oneLine (service recovered level failing : String) (isRemediated : Bool) (cur : Time) : List LogItem :=
  [if isRemediated then { timestamp := cur, level := "INFO", service, message := recovered }
    else { timestamp := cur, level, service, message := failing }]

/-! ## The classes -/

/-- redis_pool_exhaustion.py:8 -/
def redisPoolExhaustionScenario : ScenarioClass where
  groundTruth :=
    { scenarioId := "redis_pool_exhaustion", name := "Redis Connection Pool Exhaustion"
      affectedServices := ["payment-service", "api-gateway"]
      rootCause :=
        "Payment service v2.4.1 deployment accidentally reduced Redis connection pool size from " ++
        "100 to 10 in configuration, causing thread pool starvation and timeout errors." }
  getInitialAlert now :=
    { alertId := "ALT-REDIS-POOL-01", title := "Payment API P95 latency increased from 280ms to 2.8s"
      severity := "SEV1", service := "payment-service", timestamp := now.subSeconds 120
      metricName := "http_request_duration_p95_seconds", thresholdValue := 0.5, currentValue := 2.82
      description := "Payment Service P95 latency breached critical threshold (2.82s > 0.50s)" }
  generateLogs := logsEvery 15 (by decide) fun isRemediated cur =>
    if isRemediated then
      [{ timestamp := cur, level := "INFO", service := "payment-service"
         traceId := some ("tr-" ++ toString cur.timestamp ++ "-01")
         message := "Payment token authorization completed in 32ms" }]
    else
      [{ timestamp := cur, level := "ERROR", service := "payment-service"
         traceId := some ("tr-" ++ toString cur.timestamp ++ "-88")
         message := "RedisTimeoutException: Connection pool exhausted [active=10, max=10, " ++
           "wait_queue=48]. Failed to acquire Redis connection after 2000ms"
         exceptionClass := some "redis.exceptions.ConnectionError" },
       { timestamp := cur.addSeconds 2, level := "WARN", service := "api-gateway"
         traceId := some ("tr-" ++ toString cur.timestamp ++ "-88")
         message := "Upstream /api/v1/payments call took 2840ms, approaching gateway timeout" }]
  generateMetrics := steadyMetrics [("p95_latency_ms", 265, 2820), ("error_rate_percent", 0.05, 14.8),
    ("redis_active_connections", 22, 10), ("redis_pool_wait_queue", 0, 52)]
  getCommits now :=
    [{ commitSha := "c3a9f01b827e", service := "payment-service", author := "dev-engineer@company.internal"
       message := "perf: optimize redis client parameters and connection limits"
       timestamp := now.subSeconds (15 * 60), changedFiles := ["config/redis.yaml", "src/client.py"]
       diff := "--- a/config/redis.yaml\n" ++ "+++ b/config/redis.yaml\n" ++ "@@ -8,3 +8,3 @@\n" ++
         "   host: redis-cluster.internal\n" ++ "   port: 6379\n" ++ "-  max_connections: 100\n" ++
         "+  max_connections: 10\n" },
     { commitSha := "a17c8e4209bb", service := "payment-service", author := "lead@company.internal"
       message := "feat: add stripe webhook verification signature"
       timestamp := now.subSeconds (2 * 60 * 60), changedFiles := ["src/webhook.py"]
       diff := "--- a/src/webhook.py\n+++ b/src/webhook.py\n@@ -1,1 +1,2 @@\n" }]
  getDeployments now :=
    [{ deploymentId := "dep-payment-994", service := "payment-service", version := "v2.4.1"
       previousVersion := "v2.4.0", timestamp := now.subSeconds (12 * 60)
       deployedBy := "ci-cd-pipeline@gitlab", status := "SUCCESS", commitSha := "c3a9f01b827e"
       configChanges := Dict.ofList [("max_connections", .int 10)] }]
  applyRemediation actionType parameters :=
    ifThen (.ok (actionType == "rollback_deployment" && targets parameters "payment-service"))
      (remediated "payment-service successfully rolled back from v2.4.1 to v2.4.0") <|
    ifThen (if actionType = "modify_configuration" then atLeast 50 (parameters.getD "max_connections" (.int 0))
        else .ok false)
      (remediated "payment-service redis max_connections scaled back to 100") <|
    -- a reboot without the configuration is a success that remediates nothing
    ifThen (.ok (actionType == "restart_service" && targets parameters "payment-service"))
      (returns true "payment-service restarted, but configuration max_connections=10 remains") <|
    returns false ("Remediation action " ++ actionType ++ " failed or target service invalid")
  affected_ne := by simp
  settles _ _ :=
    settles_ifThen (settles_remediated _) <| settles_ifThen (settles_remediated _) <|
      settles_ifThen (settles_returns _ _) (settles_returns _ _)

/-- db_connection_exhaustion.py:8 -/
def dbConnectionExhaustionScenario : ScenarioClass where
  groundTruth :=
    { scenarioId := "db_connection_exhaustion", name := "Database Connection Pool Exhaustion"
      affectedServices := ["order-service"]
      rootCause :=
        "Order service connection leak in checkout handler fails to release SQLAlchemy sessions " ++
        "upon unhandled checkout validation exceptions, saturating PostgreSQL max_connections." }
  getInitialAlert now :=
    { alertId := "ALT-DB-CONN-02", title := "Order Service Database Connection Saturation", severity := "SEV1"
      service := "order-service", timestamp := now, metricName := "postgres_active_connections"
      thresholdValue := 85, currentValue := 100
      description := "PostgreSQL database connections reached 100% capacity" }
  generateLogs := logsEvery 20 (by decide) fun isRemediated cur =>
    let traceId := some ("tr-ord-" ++ toString cur.timestamp)
    if isRemediated then
      [{ timestamp := cur, level := "INFO", service := "order-service", traceId
         message := "Order placed successfully. DB session closed." }]
    else
      [{ timestamp := cur, level := "ERROR", service := "order-service", traceId
         message := "asyncpg.exceptions.TooManyConnectionsError: FATAL: remaining connection slots are " ++
           "reserved for non-replication superuser connections" }]
  generateMetrics := steadyMetrics [("db_active_connections", 24, 100), ("http_500_rate", 0, 35.2)]
  applyRemediation actionType parameters :=
    remediesIf (.ok (actionType == "restart_service" && targets parameters "order-service"))
      "order-service successfully restarted; leaked connection pool purged"
      ("Action " ++ actionType ++ " did not resolve database connection leak")
  affected_ne := by simp
  settles _ _ := settles_remediesIf _ _ _

/-- slow_query.py:8 -/
def slowQueryScenario [UnicodeText] : ScenarioClass where
  groundTruth :=
    { scenarioId := "slow_query", name := "Unindexed Database Sequential Scan"
      affectedServices := ["order-service"]
      rootCause :=
        "Missing index on orders(customer_uuid) causing full sequential table scan on 2.5M rows, " ++
        "spiking DB CPU to 99% and order-service query latency to 12 seconds." }
  getInitialAlert now :=
    { alertId := "ALT-SLOW-QUERY-03", title := "Order Service Database Query P95 Latency > 10s", severity := "SEV2"
      service := "order-service", timestamp := now, metricName := "db_query_duration_seconds"
      thresholdValue := 2, currentValue := 12.14, description := "Database query duration exceeded 2s threshold" }
  generateLogs := logsEvery 20 (by decide) <| oneLine "order-service"
    "Query executed using index idx_orders_customer_uuid in 4ms" "WARN"
    ("PostgreSQL Slow Query: duration: 12140.231 ms statement: " ++
      "SELECT * FROM orders WHERE customer_uuid = '9f8e7d6c-1122-3344-5566-778899aabbcc' " ++
      "[Seq Scan on orders]")
  generateMetrics := steadyMetrics [("db_query_p95_ms", 15, 12140), ("db_cpu_percent", 22, 98.4)]
  applyRemediation actionType parameters :=
    remediesIf (if actionType = "modify_configuration" then lowerContains "index" (parameters.getD "action" (.str ""))
        else .ok false)
      "Index idx_orders_customer_uuid created successfully; query planner normalized"
      ("Action " ++ actionType ++ " did not resolve slow query")
  affected_ne := by simp
  settles _ _ := settles_remediesIf _ _ _

/-- `val = min(94.5, val + 2.0)`, once for each round. -/
def climbing (val : Rat) : List Time → List (Time × Rat)
  | [] => []
  | t :: ts =>
    let val := min 94.5 (val + 2)
    (t, val) :: climbing val ts

/-- memory_leak.py:8 -/
def memoryLeakScenario : ScenarioClass where
  groundTruth :=
    { scenarioId := "memory_leak", name := "Session Cache Memory Leak"
      affectedServices := ["auth-service"]
      rootCause :=
        "Auth service in-memory session cache missing TTL eviction, causing monotonic RAM leak " ++
        "towards OOM limit." }
  getInitialAlert now :=
    { alertId := "ALT-MEM-LEAK-04", title := "Auth Service Memory Usage > 90%", severity := "SEV1"
      service := "auth-service", timestamp := now, metricName := "container_memory_usage_bytes"
      thresholdValue := 0.90, currentValue := 0.94
      description := "Auth service memory limit breach approaching OOMKilled" }
  generateLogs := logsEvery 20 (by decide) <| oneLine "auth-service" "Heap memory stable at 240MB / 2048MB" "WARN"
    "OutOfMemoryWarning: Heap memory pressure high (1920MB / 2048MB, 93.75%). GC pause 480ms"
  generateMetrics isRemediated start stop :=
    let ts := halfMinutes start stop
    if isRemediated then
      [("memory_usage_percent", ts.map fun t => (t, 25)), ("gc_pause_ms", ts.map fun t => (t, 5))]
    else [("memory_usage_percent", climbing 70 ts), ("gc_pause_ms", ts.map fun t => (t, 480))]
  applyRemediation actionType parameters :=
    remediesIf (.ok (actionType == "restart_service" && targets parameters "auth-service"))
      "auth-service restarted successfully; resident heap cleared to 25%"
      ("Action " ++ actionType ++ " failed to remediate memory leak")
  affected_ne := by simp
  settles _ _ := settles_remediesIf _ _ _

/-- cpu_saturation.py:8 -/
def cpuSaturationScenario : ScenarioClass where
  groundTruth :=
    { scenarioId := "cpu_saturation", name := "Catastrophic Backtracking CPU Saturation"
      affectedServices := ["notification-service"]
      rootCause :=
        "Notification service email template parser contains an unanchored regex pattern " ++
        "suffering from ReDoS, consuming 100% CPU on all worker threads." }
  getInitialAlert now :=
    { alertId := "ALT-CPU-SAT-05", title := "Notification Service CPU Utilization > 95%", severity := "SEV1"
      service := "notification-service", timestamp := now, metricName := "process_cpu_seconds_total"
      thresholdValue := 0.80, currentValue := 0.99
      description := "Notification service worker process locked at 99.4% CPU" }
  generateLogs := logsEvery 20 (by decide) <| oneLine "notification-service"
    "Template rendered in 1.2ms. CPU load 12%" "ERROR"
    "ThreadBlockedWarning: WorkerThread-4 unresponsive for 45000ms evaluating template regex parser"
  generateMetrics := steadyMetrics [("cpu_usage_percent", 14, 99.8), ("dispatch_rate", 450, 2)]
  applyRemediation actionType parameters :=
    remediesIf (.ok (actionType == "restart_service" && targets parameters "notification-service"))
      "notification-service restarted; CPU utilization dropped to 14%"
      ("Action " ++ actionType ++ " failed to remediate CPU saturation")
  affected_ne := by simp
  settles _ _ := settles_remediesIf _ _ _

/-- downstream_failure.py:8 -/
def downstreamFailureScenario : ScenarioClass where
  groundTruth :=
    { scenarioId := "downstream_failure", name := "Downstream Payment Service Outage"
      affectedServices := ["payment-service", "order-service"]
      rootCause :=
        "Payment service crashed following a panic on null billing address, cascading HTTP 503 " ++
        "Bad Gateway failures into order-service checkout." }
  getInitialAlert now :=
    { alertId := "ALT-DOWNSTREAM-FAIL-06", title := "Order Service HTTP 503 Error Rate > 20%", severity := "SEV1"
      service := "order-service", timestamp := now, metricName := "http_requests_503_total"
      thresholdValue := 0.05, currentValue := 0.28
      description := "Order service failing to complete checkouts due to downstream payment failure" }
  generateLogs := logsEvery 20 (by decide) <| oneLine "order-service"
    "Payment token validated successfully from payment-service" "ERROR"
    ("urllib3.exceptions.MaxRetryError: HTTPConnectionPool(host='payment-service', port=8083): " ++
      "Max retries exceeded with url: /api/v1/charge (Caused by " ++
      "NewConnectionError('<payment-service:8083>: Connection refused'))")
  generateMetrics := steadyMetrics [("order_http_503_rate", 0, 28.5), ("payment_availability", 1, 0)]
  applyRemediation actionType parameters :=
    remediesIf (.ok (actionType == "restart_service" && targets parameters "payment-service"))
      "payment-service restarted; downstream connectivity restored"
      ("Action " ++ actionType ++ " failed to restore payment-service")
  affected_ne := by simp
  settles _ _ := settles_remediesIf _ _ _

/-- bad_deployment.py:8 -/
def badDeploymentScenario : ScenarioClass where
  groundTruth :=
    { scenarioId := "bad_deployment", name := "Corrupted Route Config Deployment"
      affectedServices := ["api-gateway"]
      rootCause :=
        "API Gateway v2.2.0 deployment contained a malformed route prefix in routes.yaml, " ++
        "breaking route matching for all microservices." }
  getInitialAlert now :=
    { alertId := "ALT-BAD-DEPLOY-07", title := "API Gateway 4xx Error Spike > 80%", severity := "SEV1"
      service := "api-gateway", timestamp := now, metricName := "gateway_requests_404_ratio"
      thresholdValue := 0.10, currentValue := 0.88
      description := "API Gateway dropping 88% of incoming traffic following deployment" }
  generateLogs := logsEvery 15 (by decide) <| oneLine "api-gateway"
    "Route /api/v1/orders matched to order-service:8082 [200 OK]" "ERROR"
    ("RouteMatchException: Invalid regex pattern syntax in routes.yaml near line 14: " ++
      "unmatched parenthesis '(/api/v1/(orders|payments)'")
  generateMetrics := steadyMetrics [("gateway_404_rate", 0.01, 88.4), ("success_rate", 99.9, 11.6)]
  getCommits now :=
    [{ commitSha := "f5e4d3c2b1a0", service := "api-gateway", author := "devops@company.internal"
       message := "refactor: simplify route matching regex in gateway config"
       timestamp := now.subSeconds (10 * 60), changedFiles := ["config/routes.yaml"]
       diff := "--- a/config/routes.yaml\n" ++ "+++ b/config/routes.yaml\n" ++ "@@ -14,1 +14,1 @@\n" ++
         "-  pattern: ^/api/v1/(orders|payments|auth)/.*$\n" ++ "+  pattern: (/api/v1/(orders|payments\n" }]
  getDeployments now :=
    [{ deploymentId := "dep-gateway-102", service := "api-gateway", version := "v2.2.0"
       previousVersion := "v2.1.0", timestamp := now.subSeconds (8 * 60), deployedBy := "ci-runner"
       status := "SUCCESS", commitSha := "f5e4d3c2b1a0"
       configChanges := Dict.ofList [("routes_version", .str "v2.2")] }]
  applyRemediation actionType parameters :=
    remediesIf (.ok (actionType == "rollback_deployment" && targets parameters "api-gateway"))
      "api-gateway rolled back to v2.1.0; route parsing normalized"
      ("Action " ++ actionType ++ " failed to remediate bad deployment")
  affected_ne := by simp
  settles _ _ := settles_remediesIf _ _ _

/-- invalid_config.py:8. Any target will do. -/
def invalidConfigScenario : ScenarioClass where
  groundTruth :=
    { scenarioId := "invalid_config", name := "JWT Secret Mismatch Configuration Error"
      affectedServices := ["auth-service", "api-gateway"]
      rootCause :=
        "Configuration update rotated JWT private key on auth-service without propagating " ++
        "matching public key to API Gateway." }
  getInitialAlert now :=
    { alertId := "ALT-INVALID-CONFIG-08", title := "Global HTTP 401 Unauthorized Spike > 90%", severity := "SEV1"
      service := "api-gateway", timestamp := now, metricName := "http_requests_401_ratio"
      thresholdValue := 0.05, currentValue := 0.94
      description := "API Gateway rejecting user requests with 401 Unauthorized" }
  generateLogs := logsEvery 15 (by decide) <| oneLine "api-gateway"
    "JWT token validated. Subject: user-9842" "WARN"
    "jwt.exceptions.InvalidSignatureError: Signature verification failed with key_id 'key-2026-v2'"
  generateMetrics := steadyMetrics [("http_401_percent", 0.1, 94.2)]
  applyRemediation actionType _ :=
    remediesIf (.ok (["rollback_deployment", "modify_configuration"].contains actionType))
      "JWT signing keys synchronized between auth-service and api-gateway"
      ("Action " ++ actionType ++ " failed to synchronize JWT configuration")
  affected_ne := by simp
  settles _ _ := settles_remediesIf _ _ _

/-- api_timeout.py:8 -/
def apiTimeoutScenario : ScenarioClass where
  groundTruth :=
    { scenarioId := "api_timeout", name := "External Payment Provider Timeout"
      affectedServices := ["payment-service"]
      rootCause :=
        "Third-party payment processor API degraded, exceeding payment-service 5000ms HTTP " ++
        "timeout threshold on card charge requests." }
  getInitialAlert now :=
    { alertId := "ALT-API-TIMEOUT-09", title := "Payment Service Outbound API Timeout Spike > 30%", severity := "SEV2"
      service := "payment-service", timestamp := now, metricName := "http_client_timeout_ratio"
      thresholdValue := 0.05, currentValue := 0.38
      description := "Outbound HTTP requests to payment provider timing out" }
  generateLogs := logsEvery 20 (by decide) <| oneLine "payment-service"
    "Payment processed through fallback secondary provider in 180ms" "ERROR"
    ("httpx.ReadTimeout: The read operation timed out after 5.0 seconds while calling " ++
      "https://api.processor.internal/v1/charges")
  generateMetrics := steadyMetrics [("timeout_rate", 0.01, 38), ("provider_p95_latency", 180, 5200)]
  applyRemediation actionType parameters :=
    remediesIf (.ok (actionType == "modify_configuration" && (parameters.getD "provider_failover" .null).truthy))
      "payment-service routed traffic to secondary backup payment provider"
      ("Action " ++ actionType ++ " failed to switch payment provider route")
  affected_ne := by simp
  settles _ _ := settles_remediesIf _ _ _

/-- queue_backlog.py:8 -/
def queueBacklogScenario : ScenarioClass where
  groundTruth :=
    { scenarioId := "queue_backlog", name := "Message Queue Consumer Stoppage Backlog"
      affectedServices := ["notification-service"]
      rootCause :=
        "Notification consumer pod workers crashed on malformed event payload, leaving queue " ++
        "unconsumed and backing up 150k messages." }
  getInitialAlert now :=
    { alertId := "ALT-QUEUE-BACKLOG-10", title := "Notification Queue Depth > 100,000 Messages", severity := "SEV2"
      service := "notification-service", timestamp := now
      metricName := "rabbitmq_queue_messages_unacknowledged", thresholdValue := 10000, currentValue := 154200
      description := "Notification service queue depth exceeded critical operating limit" }
  generateLogs := logsEvery 20 (by decide) <| oneLine "notification-service"
    "Consumer worker-1 consumed 500 messages/sec. Backlog clearing." "ERROR"
    ("ConsumerCrashException: Unhandled serialization format in message_id='msg-99214'. " ++
      "Worker terminated abnormally.")
  generateMetrics := steadyMetrics [("queue_depth_messages", 1200, 154200), ("consumption_rate", 480, 0)]
  applyRemediation actionType parameters :=
    remediesIf (.ok (["restart_service", "clear_cache"].contains actionType &&
        targets parameters "notification-service"))
      "notification-service consumers restarted with dead-letter queue routing"
      ("Action " ++ actionType ++ " failed to resume queue consumption")
  affected_ne := by simp
  settles _ _ := settles_remediesIf _ _ _

/-! ## The registry -/

/-- catalog.py:17 -/
def scenarioRegistry [UnicodeText] : Dict String ScenarioClass := Dict.ofList
  [("redis_pool_exhaustion", redisPoolExhaustionScenario),
    ("db_connection_exhaustion", dbConnectionExhaustionScenario),
    ("slow_query", slowQueryScenario),
    ("memory_leak", memoryLeakScenario),
    ("cpu_saturation", cpuSaturationScenario),
    ("downstream_failure", downstreamFailureScenario),
    ("bad_deployment", badDeploymentScenario),
    ("invalid_config", invalidConfigScenario),
    ("api_timeout", apiTimeoutScenario),
    ("queue_backlog", queueBacklogScenario)]

/-- catalog.py:39 -/
def createScenario [Unicode] [UnicodeText] (scenarioId : String) : Except PyException Scenario :=
  match scenarioRegistry.get? scenarioId with
  | some cls => .ok { cls }
  | none =>
    let available := Json.pyRepr (.arr (scenarioRegistry.entries.map fun e => .str e.1))
    .error (.other "KeyError" (Py.repr ("Unknown scenario_id '" ++ scenarioId ++ "'. Available: " ++ available)))

theorem state_createScenario [Unicode] [UnicodeText] {scenarioId : String} {scenario : Scenario}
    (h : createScenario scenarioId = .ok scenario) : scenario.state = {} := by
  unfold createScenario at h
  split at h
  · cases h
    rfl
  · cases h

/-- The class is in the registry. -/
def Registered [UnicodeText] (cls : ScenarioClass) : Prop := ∃ scenarioId, scenarioRegistry.get? scenarioId = some cls

theorem registered_createScenario [Unicode] [UnicodeText] {scenarioId : String} {scenario : Scenario}
    (h : createScenario scenarioId = .ok scenario) : Registered scenario.cls := by
  unfold createScenario at h
  split at h
  · rename_i cls hcls
    cases h
    exact ⟨scenarioId, hcls⟩
  · cases h

/-- What holds of each of the ten classes holds of all that are registered. -/
theorem Registered.cases [UnicodeText] {P : ScenarioClass → Prop} {cls : ScenarioClass} (h : Registered cls)
    (redisPoolExhaustion : P redisPoolExhaustionScenario) (dbConnectionExhaustion : P dbConnectionExhaustionScenario)
    (slowQuery : P slowQueryScenario) (memoryLeak : P memoryLeakScenario) (cpuSaturation : P cpuSaturationScenario)
    (downstreamFailure : P downstreamFailureScenario) (badDeployment : P badDeploymentScenario)
    (invalidConfig : P invalidConfigScenario) (apiTimeout : P apiTimeoutScenario)
    (queueBacklog : P queueBacklogScenario) : P cls := by
  obtain ⟨scenarioId, hcls⟩ := h
  rw [scenarioRegistry, Dict.get?_ofList] at hcls
  have hmem := Dict.mem_of_look hcls
  simp only [List.mem_reverse, List.mem_cons, Prod.mk.injEq, List.not_mem_nil, or_false] at hmem
  rcases hmem with ⟨-, rfl⟩ | ⟨-, rfl⟩ | ⟨-, rfl⟩ | ⟨-, rfl⟩ | ⟨-, rfl⟩ | ⟨-, rfl⟩ | ⟨-, rfl⟩ | ⟨-, rfl⟩ |
    ⟨-, rfl⟩ | ⟨-, rfl⟩
  · exact redisPoolExhaustion
  · exact dbConnectionExhaustion
  · exact slowQuery
  · exact memoryLeak
  · exact cpuSaturation
  · exact downstreamFailure
  · exact badDeployment
  · exact invalidConfig
  · exact apiTimeout
  · exact queueBacklog

end ScenarioCatalog

end OpsPilot
