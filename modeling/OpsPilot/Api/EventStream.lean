import OpsPilot.Lib.Run
import OpsPilot.Lib.Feed
import OpsPilot.Lib.Time
/-!
# The event broker and its clients (`apps/api/services/event_stream.py`)

`EventBroker` holds what the Python object holds; a queue is named by a number. A `Hub` is
the broker together with every `subscribe` generator that was ever started: publishers,
joiners, readers, heartbeats and leavers are the labels of `Hub.step`, so a run of the hub
is one interleaving of them. `publish` and the registration run under the lock, hence each
is one label; so is the `finally` block.

| here | there |
| --- | --- |
| `EventBroker.publish`     | `EventBroker.publish` (event_stream.py:24), the part under the lock |
| `EventBroker.register`    | the locked part of `subscribe` (event_stream.py:61) |
| `EventBroker.unsubscribe` | its `finally` (event_stream.py:86) |
| `Session.read`            | `queue.get()` in time, `yield`, the termination check (event_stream.py:70) |
| `Session.heartbeat`       | `except TimeoutError` (event_stream.py:79) |
| `Session.disconnect`      | the generator is cancelled or closed |
-/
namespace OpsPilot

/-- event_stream.py:31 -/
structure EventRecord where
  event : String
  data : Json
  timestamp : String

/-- `record["event"] in ["resolved", "failed", "escalated"]` -/
def EventRecord.terminal (r : EventRecord) : Bool :=
  ["resolved", "failed", "escalated"].contains r.event

/-- What the generator yields. A keepalive is a constructor of its own, so that it is not
confused with a published event. -/
inductive Frame where
  | event (event data : String)
  | ping (data : String)
deriving DecidableEq

def EventRecord.frame (r : EventRecord) : Frame := .event r.event (r.data.dumps false)

def Frame.isPing : Frame → Bool
  | .event _ _ => false
  | .ping _ => true

@[simp] theorem EventRecord.isPing_frame (r : EventRecord) : r.frame.isPing = false := rfl

structure EventBroker where
  subscribers : Dict String (List Nat) := Dict.empty
  history : Dict String (List EventRecord) := Dict.empty
  historyBufferSize : Nat := 50

namespace EventBroker

/-- event_stream.py:24. Returns the queues the record is put into; reading the
`defaultdict` leaves an entry behind. -/
def publish (b : EventBroker) (incidentId : String) (record : EventRecord) :
    EventBroker × List Nat :=
  let hist := Feed.pushBounded b.historyBufferSize (b.history.getD incidentId []) record
  let queues := b.subscribers.getD incidentId []
  ({ b with history := b.history.set incidentId hist, subscribers := b.subscribers.set incidentId queues },
    queues)

/-- event_stream.py:61 -/
def register (b : EventBroker) (incidentId : String) (queue : Nat) : EventBroker :=
  { b with subscribers := b.subscribers.set incidentId (b.subscribers.getD incidentId [] ++ [queue]) }

/-- What a new queue is filled with. -/
def replay (b : EventBroker) (incidentId : String) : List EventRecord :=
  b.history.getD incidentId []

/-- event_stream.py:86 -/
def unsubscribe (b : EventBroker) (incidentId : String) (queue : Nat) : EventBroker :=
  let queues := (b.subscribers.getD incidentId []).erase queue
  { b with subscribers :=
      if queues.isEmpty then b.subscribers.erase incidentId else b.subscribers.set incidentId queues }

/-- The queues registered for an incident. -/
def listeners (b : EventBroker) (incidentId : String) : List Nat := b.subscribers.getD incidentId []

end EventBroker

inductive Session.Status where
  | reading | leaving | closed
deriving DecidableEq

/-- One `subscribe` generator with its queue. `since` is the number of events of its incident
that were published before it registered. -/
structure Session where
  incidentId : String
  queue : List EventRecord
  since : Nat
  status : Session.Status := .reading
  received : List Frame := []
  /-- It left the loop on a termination event. -/
  ended : Bool := false

namespace Session

def put (r : EventRecord) (s : Session) : Session := { s with queue := s.queue ++ [r] }

def read (s : Session) : Option Session :=
  match s.status, s.queue with
  | .reading, r :: queue => some { s with
      queue := queue, received := s.received ++ [r.frame],
      status := if r.terminal then .leaving else .reading, ended := r.terminal }
  | _, _ => none

def heartbeat (now : Time) (s : Session) : Option Session :=
  match s.status with
  | .reading => some { s with received := s.received ++
      [.ping (Json.dumps false (.obj [("timestamp", .str now.isoformat)]))] }
  | _ => none

def disconnect (s : Session) : Option Session :=
  match s.status with
  | .reading => some { s with status := .leaving }
  | _ => none

def close (s : Session) : Option Session :=
  match s.status with
  | .leaving => some { s with status := .closed }
  | _ => none

/-- The frames received that are not keepalives. -/
def delivered (s : Session) : List Frame := s.received.filter fun f => !f.isPing

end Session

/-- The broker, its clients, and a log of everything published. -/
structure Hub where
  broker : EventBroker
  sessions : List Session := []
  published : List (String × EventRecord) := []

inductive Hub.Label where
  | publish (incidentId eventType : String) (payload : Json) (now : Time)
  | subscribe (incidentId : String)
  | read (k : Nat)
  | heartbeat (k : Nat) (now : Time)
  | disconnect (k : Nat)
  | leave (k : Nat)

/-- The event a label publishes for an incident. -/
def Hub.Label.event? (incidentId : String) : Hub.Label → Option EventRecord
  | .publish i eventType payload now =>
    if i = incidentId then some { event := eventType, data := payload, timestamp := now.isoformat } else none
  | _ => none

/-- A label that starts a client; clients are numbered in this order. -/
def Hub.Label.joins : Hub.Label → Bool
  | .subscribe _ => true
  | _ => false

namespace Hub

/-- The sequence of events published for an incident. -/
def eventsOf (h : Hub) (incidentId : String) : List EventRecord :=
  (h.published.filter fun e => decide (e.1 = incidentId)).map Prod.snd

def publish (h : Hub) (incidentId : String) (record : EventRecord) : Hub :=
  let (broker, queues) := h.broker.publish incidentId record
  { broker := broker, sessions := queues.foldl (fun ss k => ss.modify k (Session.put record)) h.sessions,
    published := h.published ++ [(incidentId, record)] }

def subscribe (h : Hub) (incidentId : String) : Hub :=
  { h with
    broker := h.broker.register incidentId h.sessions.length
    sessions := h.sessions ++ [{ incidentId, queue := h.broker.replay incidentId,
                                 since := (h.eventsOf incidentId).length }] }

/-- The `k`-th generator takes a step of its own. -/
def onSession (h : Hub) (k : Nat) (f : Session → Option Session) : Option Hub := do
  let s ← h.sessions[k]?
  let s' ← f s
  some { h with sessions := h.sessions.set k s' }

def leave (h : Hub) (k : Nat) : Option Hub := do
  let s ← h.sessions[k]?
  let h' ← h.onSession k Session.close
  some { h' with broker := h'.broker.unsubscribe s.incidentId k }

def step (h : Hub) : Label → Option Hub
  | .publish incidentId eventType payload now =>
    some (h.publish incidentId { event := eventType, data := payload, timestamp := now.isoformat })
  | .subscribe incidentId => some (h.subscribe incidentId)
  | .read k => h.onSession k Session.read
  | .heartbeat k now => h.onSession k (Session.heartbeat now)
  | .disconnect k => h.onSession k Session.disconnect
  | .leave k => h.leave k

/-- A fresh broker with buffer size `n`. -/
def init (n : Nat) : Hub := { broker := { historyBufferSize := n } }

end Hub

end OpsPilot
