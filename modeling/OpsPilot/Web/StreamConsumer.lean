import OpsPilot.Api.Delivery
/-!
# The dashboard's end of the event stream (`apps/web/js/sse.js`)

`StreamConsumer κ` holds what the JavaScript object holds; `κ` is the type of its callbacks.
What the browser does with a frame of `EventBroker.subscribe` is `dispatch`: an `EventSource`
hands a message only to the listeners of its event name, and the client sets no listener but
`onmessage`, `onopen` and `onerror`. Two things it runs are parameters: `parse` is
`JSON.parse`, and `throws` tells which calls of a callback end in an exception.

| here | there |
| --- | --- |
| `subscribe`, `disconnect`   | `subscribe`, `disconnect` (sse.js:26, 111) |
| `connect`                   | `_connect` (sse.js:37); `fails`: the constructor throws |
| `onopen`, `onerror`         | the handlers set there |
| `scheduleReconnect`         | `_scheduleReconnect` (sse.js:68) |
| `onTimeout`                 | the callback of its timer |
| `handleMessage`, `on`       | `_handleMessage`, `on` (sse.js:85, 104) |
-/
namespace Json

/-- `v.name` in JavaScript for a name no built-in value has; `none` is `undefined`. -/
def field (name : String) : Json → Option Json
  | .obj kvs => (Dict.ofList kvs).get? name
  | _ => none

/-- JavaScript's truth value: every array and object is truthy. -/
def jsTruthy : Json → Bool
  | .null => false
  | .bool b => b
  | .int i => i != 0
  | .float f => f.digits != 0
  | .str s => s != ""
  | .arr _ => true
  | .obj _ => true

/-- A value is none of its own fields. -/
theorem field_ne (name : String) (v : Json) : v.field name ≠ some v := by
  intro h
  cases v with
  | obj kvs =>
    simp only [field, Dict.get?_ofList] at h
    have hmem : (name, Json.obj kvs) ∈ kvs := List.mem_reverse.1 (Dict.mem_of_look h)
    have hlt := List.sizeOf_lt_of_mem hmem
    simp only [Prod.mk.sizeOf_spec, Json.obj.sizeOf_spec] at hlt
    omega
  | _ => simp [field] at h

end Json

namespace OpsPilot

/-- event_stream.py:31 -/
def EventBroker.record (eventType : String) (payload : Json) (now : Time) : EventRecord :=
  { event := eventType, data := payload, timestamp := now.isoformat }

inductive StreamStatus where
  | connecting | connected | disconnected | failed
deriving DecidableEq

/-- A connection to the stream of an incident. Once the server has taken it, `session` is the
generator that serves it and `seen` the number of its frames that have arrived. -/
structure EventSource where
  incidentId : String
  session : Option Nat := none
  seen : Nat := 0

structure StreamConsumer (κ : Type) where
  eventSource : Option EventSource := none
  currentIncidentId : Option String := none
  listeners : Dict String (List κ) := Dict.empty
  /-- The delay of the timer that is set. -/
  reconnectTimeout : Option Nat := none
  reconnectAttempts : Nat := 0
  maxReconnectAttempts : Nat := 10
  /-- What `statusCallback` was last called with. -/
  status : Option StreamStatus := none
  /-- A log of the incidents `new EventSource` was called for. -/
  connections : List String := []

/-- A call of a callback, with the event type it was registered for. An argument `none` is
`undefined`. -/
structure Call (κ : Type) where
  registeredFor : String
  callback : κ
  args : List (Option Json)

namespace StreamConsumer

variable {κ : Type}

def setStatus (c : StreamConsumer κ) (status : StreamStatus) : StreamConsumer κ :=
  { c with status := some status }

/-- sse.js:111 -/
def disconnect (c : StreamConsumer κ) : StreamConsumer κ :=
  setStatus { c with reconnectTimeout := none, eventSource := none, currentIncidentId := none } .disconnected

/-- sse.js:68. When the attempts are used up a timer that is set stays set. -/
def scheduleReconnect (c : StreamConsumer κ) : StreamConsumer κ :=
  if c.maxReconnectAttempts ≤ c.reconnectAttempts then c.setStatus .failed
  else
    let attempts := c.reconnectAttempts + 1
    { c with reconnectAttempts := attempts, reconnectTimeout := some (min (1000 * 2 ^ attempts) 15000) }

/-- sse.js:37; an empty id is falsy as well. -/
def connect (fails : Bool) (c : StreamConsumer κ) : StreamConsumer κ :=
  match c.currentIncidentId with
  | none => c
  | some incidentId =>
    if incidentId = "" then c
    else
      let c := c.setStatus .connecting
      if fails then (c.setStatus .disconnected).scheduleReconnect
      else { c with eventSource := some { incidentId }, connections := c.connections ++ [incidentId] }

/-- sse.js:26 -/
def subscribe (fails : Bool) (incidentId : String) (c : StreamConsumer κ) : StreamConsumer κ :=
  if c.currentIncidentId = some incidentId ∧ c.eventSource.isSome then c
  else connect fails { c.disconnect with currentIncidentId := some incidentId, reconnectAttempts := 0 }

/-- sse.js:46 -/
def onopen (c : StreamConsumer κ) : StreamConsumer κ :=
  setStatus { c with reconnectAttempts := 0 } .connected

/-- sse.js:55 -/
def onerror (c : StreamConsumer κ) : StreamConsumer κ :=
  scheduleReconnect { c.setStatus .disconnected with eventSource := none }

/-- sse.js:78 -/
def onTimeout (fails : Bool) (c : StreamConsumer κ) : Option (StreamConsumer κ) :=
  match c.reconnectTimeout with
  | none => none
  | some _ => some (connect fails { c with reconnectTimeout := none })

/-- sse.js:104 -/
def on (eventType : String) (callback : κ) (c : StreamConsumer κ) : StreamConsumer κ :=
  { c with listeners := c.listeners.set eventType (c.listeners.getD eventType [] ++ [callback]) }

section
variable (parse : String → Option Json) (throws : Call κ → Bool)

/-- An exception ends both loops over the callbacks. -/
def callsMade : List (Call κ) → List (Call κ)
  | [] => []
  | call :: calls => call :: if throws call then [] else callsMade calls

/-- `data.event_type || 'message'` -/
def typeOf (data : Json) : Json :=
  match data.field "event_type" with
  | some v => if v.jsTruthy then v else .str "message"
  | none => .str "message"

/-- The calls `_handleMessage` sets out to make for a parsed message. -/
def callsFor (c : StreamConsumer κ) (data : Json) : List (Call κ) :=
  let eventType := typeOf data
  let callbacks :=
    match eventType with
    | .str key => (c.listeners.getD key []).map fun callback =>
        { registeredFor := key, callback, args := [data.field "payload", some data] }
    | _ => []
  let wildcards := (c.listeners.getD "*" []).map fun callback =>
    { registeredFor := "*", callback, args := [some eventType, data.field "payload", some data] }
  callbacks ++ wildcards

/-- sse.js:85. Reading a field of `null` throws before any callback is called. -/
def handleMessage (c : StreamConsumer κ) (text : String) : List (Call κ) :=
  if text = "" then []
  else match parse text with
    | none => []
    | some .null => []
    | some data => callsMade throws (c.callsFor data)

/-- The browser receives a message. An empty event name means `message`; `onopen` and `onerror`
listen to `open` and `error`. -/
def dispatch (c : StreamConsumer κ) (name text : String) : StreamConsumer κ × List (Call κ) :=
  if name = "" ∨ name = "message" then (c, c.handleMessage parse throws text)
  else if name = "open" then (c.onopen, [])
  else if name = "error" then (c.onerror, [])
  else (c, [])

def receive (c : StreamConsumer κ) : Frame → StreamConsumer κ × List (Call κ)
  | .event name text => c.dispatch parse throws name text
  | .ping text => c.dispatch parse throws "ping" text

end

end StreamConsumer

/-- app.js:172: what the dashboard listens to; a callback goes by the type it was written for. -/
def dashboard : StreamConsumer String :=
  ["agent_thought", "stage_change", "evidence_found", "approval_required", "resolved"].foldl
    (fun c eventType => c.on eventType eventType) {}

end OpsPilot
