import OpsPilot.Lib.Ranking
import OpsPilot.Lib.Slice
import OpsPilot.Simulator.Engine
/-!
# The telemetry queries (`TelemetryStore.query_logs`, `query_metrics`)

| here | there |
| --- | --- |
| `given`                    | the truth value of an optional string |
| `narrow`                   | `if value: results = [r for r in results if ...]` |
| `queryLogs`, `queryMetrics` | store.py:45, store.py:68 |
| `LogRecord.meets`, `MetricDataPoint.meets` | no function of the source: all the filters at once |

Every filter keeps the order, so together they are one filter (`queryLogs_eq`). The last step is
`results[-limit:]`, which is the whole list when the limit is 0.
-/
namespace OpsPilot

open Ranking

/-- A string that counts as true. -/
def given (value : Option String) : Option String := value.filter (· ≠ "")

section
variable {α β : Type}

def narrow (value : Option α) (keep : α → β → Bool) (results : List β) : List β :=
  match value with
  | some v => results.filter (keep v)
  | none => results

theorem narrow_eq (value : Option α) (keep : α → β → Bool) (results : List β) :
    narrow value keep results = results.filter fun r => value.all fun v => keep v r := by
  cases value with
  | none => exact (List.filter_eq_self.2 fun _ _ => rfl).symm
  | some v => rfl

/-- The slice at the end of a sorted list is the latest part of it, unless it should have been empty. -/
theorem isLatest_sliceFrom_iff {time : β → Nat} {l : List β} (h : l.Pairwise fun a b => time a ≤ time b) (limit : Nat) :
    IsLatest time limit l (Py.sliceFrom l (-(limit : Int))) ↔ 1 ≤ limit ∨ l = [] := by
  cases limit with
  | zero =>
    rw [Py.sliceFrom_neg_zero]
    constructor
    · intro hlatest
      have hlen := hlatest.length_eq
      rw [Nat.zero_min] at hlen
      exact .inr (List.eq_nil_of_length_eq_zero hlen)
    · rintro (hpos | rfl)
      · exact absurd hpos (by omega)
      · exact ⟨rfl, List.Pairwise.nil, [], .refl _, by simp⟩
  | succ k =>
    rw [Py.sliceFrom_neg_succ]
    exact ⟨fun _ => .inl (by omega), fun _ => isLatest_sorted h (k + 1)⟩

end

/-! ## The queries -/

section
variable [Unicode] [UnicodeText]

/-- The record satisfies all the filters that are given. -/
def LogRecord.meets (service : Option String) (startTime endTime : Option Time) (pattern level : Option String)
    (r : LogRecord) : Bool :=
  ((given service).all fun service => r.service == service) &&
    ((given level).all fun level => r.level == Py.upper level) &&
    (startTime.all fun start => decide (start.micros ≤ r.timestamp.micros)) &&
    (endTime.all fun stop => decide (r.timestamp.micros ≤ stop.micros)) &&
    (given pattern).all fun pattern => Py.contains (UnicodeText.lower r.message) (UnicodeText.lower pattern)

end

def MetricDataPoint.meets (metricName : String) (service : Option String) (startTime endTime : Option Time)
    (m : MetricDataPoint) : Bool :=
  m.metricName == metricName && ((given service).all fun service => m.service == service) &&
    (startTime.all fun start => decide (start.micros ≤ m.timestamp.micros)) &&
    endTime.all fun stop => decide (m.timestamp.micros ≤ stop.micros)

namespace TelemetryStore

section
variable [Unicode] [UnicodeText]

def queryLogs (store : TelemetryStore) (service : Option String := none) (startTime endTime : Option Time := none)
    (pattern level : Option String := none) (limit : Int := 100) : List LogRecord :=
  let results := store.logs
  let results := narrow (given service) (fun service r => r.service == service) results
  let results := narrow (given level) (fun level r => r.level == Py.upper level) results
  let results := narrow startTime (fun start r => decide (start.micros ≤ r.timestamp.micros)) results
  let results := narrow endTime (fun stop r => decide (r.timestamp.micros ≤ stop.micros)) results
  let results := narrow (given pattern)
    (fun pattern r => Py.contains (UnicodeText.lower r.message) (UnicodeText.lower pattern)) results
  Py.sliceFrom results (-limit)

theorem queryLogs_eq (store : TelemetryStore) (service : Option String) (startTime endTime : Option Time)
    (pattern level : Option String) (limit : Int) :
    store.queryLogs service startTime endTime pattern level limit =
      Py.sliceFrom (store.logs.filter (LogRecord.meets service startTime endTime pattern level)) (-limit) := by
  simp only [queryLogs, narrow_eq, List.filter_filter]
  congr 1
  refine List.filter_congr fun r _ => ?_
  simp only [LogRecord.meets, Bool.and_assoc, Bool.and_comm, Bool.and_left_comm]

end

def queryMetrics (store : TelemetryStore) (metricName : String) (service : Option String := none)
    (startTime endTime : Option Time := none) (limit : Int := 200) : List MetricDataPoint :=
  let results := store.metrics.filter fun m => m.metricName == metricName
  let results := narrow (given service) (fun service m => m.service == service) results
  let results := narrow startTime (fun start m => decide (start.micros ≤ m.timestamp.micros)) results
  let results := narrow endTime (fun stop m => decide (m.timestamp.micros ≤ stop.micros)) results
  Py.sliceFrom results (-limit)

theorem queryMetrics_eq (store : TelemetryStore) (metricName : String) (service : Option String)
    (startTime endTime : Option Time) (limit : Int) :
    store.queryMetrics metricName service startTime endTime limit =
      Py.sliceFrom (store.metrics.filter (MetricDataPoint.meets metricName service startTime endTime)) (-limit) := by
  simp only [queryMetrics, narrow_eq, List.filter_filter]
  congr 1
  refine List.filter_congr fun m _ => ?_
  simp only [MetricDataPoint.meets, Bool.and_assoc, Bool.and_comm, Bool.and_left_comm]

/-! ## Stores that are filled in batches -/

inductive Batch where
  | addLogs (logs : List LogRecord)
  | addMetrics (metrics : List MetricDataPoint)

def Batch.logs : Batch → List LogRecord
  | addLogs logs => logs
  | addMetrics _ => []

def Batch.metrics : Batch → List MetricDataPoint
  | addLogs _ => []
  | addMetrics metrics => metrics

def add (store : TelemetryStore) : Batch → TelemetryStore
  | .addLogs logs => store.addLogs logs
  | .addMetrics metrics => store.addMetrics metrics

/-- The store after the batches. -/
def filled (batches : List Batch) : TelemetryStore := batches.foldl add {}

structure Chronological (store : TelemetryStore) : Prop where
  logs : store.logs.Pairwise fun a b => a.timestamp.micros ≤ b.timestamp.micros
  metrics : store.metrics.Pairwise fun a b => a.timestamp.micros ≤ b.timestamp.micros

theorem logs_addLogs (store : TelemetryStore) (logs : List LogRecord) :
    (store.addLogs logs).logs = sortBy (fun r => r.timestamp.micros) (store.logs ++ logs) := rfl

theorem metrics_addMetrics (store : TelemetryStore) (metrics : List MetricDataPoint) :
    (store.addMetrics metrics).metrics = sortBy (fun m => m.timestamp.micros) (store.metrics ++ metrics) := rfl

theorem Chronological.add {store : TelemetryStore} (h : store.Chronological) (batch : Batch) :
    (store.add batch).Chronological := by
  cases batch with
  | addLogs logs =>
    refine ⟨?_, h.metrics⟩
    rw [TelemetryStore.add, logs_addLogs]
    exact pairwise_sortBy _ _
  | addMetrics metrics =>
    refine ⟨h.logs, ?_⟩
    rw [TelemetryStore.add, metrics_addMetrics]
    exact pairwise_sortBy _ _

/-- Adding to a store keeps all there was and all that is new. -/
theorem add_perm (store : TelemetryStore) (batch : Batch) :
    (store.add batch).logs.Perm (store.logs ++ batch.logs) ∧
      (store.add batch).metrics.Perm (store.metrics ++ batch.metrics) := by
  cases batch with
  | addLogs logs =>
    rw [add, logs_addLogs, Batch.logs, Batch.metrics, List.append_nil]
    exact ⟨sortBy_perm _ _, .refl _⟩
  | addMetrics metrics =>
    rw [add, metrics_addMetrics, Batch.logs, Batch.metrics, List.append_nil]
    exact ⟨.refl _, sortBy_perm _ _⟩

/-- A filled store is sorted and holds what was added. -/
theorem filled_spec (batches : List Batch) :
    (filled batches).Chronological ∧ (filled batches).logs.Perm (batches.flatMap Batch.logs) ∧
      (filled batches).metrics.Perm (batches.flatMap Batch.metrics) := by
  induction batches using List.reverseRecOn with
  | nil => exact ⟨⟨List.Pairwise.nil, List.Pairwise.nil⟩, .refl _, .refl _⟩
  | append_singleton batches batch ih =>
    obtain ⟨hchron, hlogs, hmetrics⟩ := ih
    have hadd : filled (batches ++ [batch]) = (filled batches).add batch := by
      rw [filled, List.foldl_append]
      rfl
    obtain ⟨hlogs', hmetrics'⟩ := (filled batches).add_perm batch
    rw [hadd, List.flatMap_append, List.flatMap_append, List.flatMap_singleton, List.flatMap_singleton]
    exact ⟨hchron.add batch, hlogs'.trans (hlogs.append_right _), hmetrics'.trans (hmetrics.append_right _)⟩

section
variable [Unicode] [UnicodeText]

/-- **When the queries return the latest window**: a store that is filled in batches is sorted and holds what
was added, and a query returns the latest of the matching records, unless its limit is 0 and some
record matches. -/
theorem queries_latest_iff (batches : List Batch) :
    let store := filled batches
    store.Chronological ∧ store.logs.Perm (batches.flatMap Batch.logs) ∧
      store.metrics.Perm (batches.flatMap Batch.metrics) ∧
      (∀ service startTime endTime pattern level (limit : Nat),
        let matching := store.logs.filter (LogRecord.meets service startTime endTime pattern level)
        IsLatest (fun r => r.timestamp.micros) limit matching
            (store.queryLogs service startTime endTime pattern level limit) ↔ 1 ≤ limit ∨ matching = []) ∧
      ∀ metricName service startTime endTime (limit : Nat),
        let matching := store.metrics.filter (MetricDataPoint.meets metricName service startTime endTime)
        IsLatest (fun m => m.timestamp.micros) limit matching
            (store.queryMetrics metricName service startTime endTime limit) ↔ 1 ≤ limit ∨ matching = [] := by
  intro store
  obtain ⟨hchron, hlogs, hmetrics⟩ := filled_spec batches
  refine ⟨hchron, hlogs, hmetrics, ?_, ?_⟩
  · intro service startTime endTime pattern level limit matching
    rw [queryLogs_eq]
    exact isLatest_sliceFrom_iff (hchron.logs.sublist List.filter_sublist) limit
  · intro metricName service startTime endTime limit matching
    rw [queryMetrics_eq]
    exact isLatest_sliceFrom_iff (hchron.metrics.sublist List.filter_sublist) limit

end

/-- None of the records is asked for, and all of them are returned. -/
theorem queries_limit_zero :
    letI := Py.asciiTable
    letI := Py.asciiText
    let record : LogRecord := { timestamp := ⟨0⟩, level := "INFO", service := "payment-service", message := "up" }
    let point : MetricDataPoint := { timestamp := ⟨0⟩, metricName := "cpu", service := "payment-service", value := 20 }
    let store := filled [.addLogs [record], .addMetrics [point]]
    store.queryLogs none none none none none 0 = [record] ∧ store.queryMetrics "cpu" none none none 0 = [point] ∧
      ¬ IsLatest (fun r => r.timestamp.micros) 0 (store.logs.filter (LogRecord.meets none none none none none))
        (store.queryLogs none none none none none 0) := by
  let _ := Py.asciiTable
  let _ := Py.asciiText
  intro record point store
  have hlogs : store.queryLogs none none none none none 0 = [record] := by
    simp [store, filled, add, addLogs, addMetrics, sortBy, queryLogs, narrow, Py.sliceFrom, given]
  have hmetrics : store.queryMetrics "cpu" none none none 0 = [point] := by
    simp [store, filled, add, addLogs, addMetrics, sortBy, queryMetrics, narrow, Py.sliceFrom, given, point]
  refine ⟨hlogs, hmetrics, fun hlatest => ?_⟩
  have hlen := hlatest.length_eq
  rw [hlogs, Nat.zero_min] at hlen
  cases hlen

end TelemetryStore

end OpsPilot
