import OpsPilot.Lib.Execution
import OpsPilot.Web.StreamConsumer
/-!
# Reconnection after the end (`event_stream.py` with `sse.js`)

A `System` is the server's hub together with one dashboard client. What the server does on its
own is a label of `Hub.step`, other browsers included; the network takes a connection, hands
over the frames of its generator one after another, and ends it when the generator has
finished and everything has arrived. A finished stream is an error for the browser, so it runs
`onerror` then, as it does when a connection cannot be made or breaks.

The client gives up after `maxReconnectAttempts` failures in a row, and `onopen` forgets them.
The generator of every new connection is handed the termination event from the history and
ends at once. So the client stops reconnecting exactly when its connections stop being taken.
-/
namespace OpsPilot

open Machine

structure System (κ : Type) where
  hub : Hub
  client : StreamConsumer κ

inductive System.Label where
  | server (l : Hub.Label)
  /-- `stream.subscribe(inc.id)` (app.js:372); `fails`: the constructor of `EventSource` throws. -/
  | subscribe (incidentId : String) (fails : Bool)
  | disconnect
  /-- The server takes the connection. -/
  | opened
  /-- The next frame arrives. -/
  | message
  /-- The stream of the server is finished. -/
  | ended
  /-- The connection cannot be made, or breaks. -/
  | failed
  | timeout (fails : Bool)

def System.Label.subscribes : System.Label → Bool
  | .subscribe _ _ => true
  | _ => false

namespace EventSource

/-- The server has taken the connection. -/
def isOpen (source : EventSource) : Bool := source.session.isSome

def advance (source : EventSource) : EventSource := { source with seen := source.seen + 1 }

@[simp] theorem isOpen_advance (source : EventSource) : source.advance.isOpen = source.isOpen := rfl

end EventSource

namespace System

variable {κ : Type} (parse : String → Option Json) (throws : Call κ → Bool)

/-- The connection of the client with its generator. -/
def serving (s : System κ) : Option (EventSource × Session) := do
  let source ← s.client.eventSource
  let k ← source.session
  let session ← s.hub.sessions[k]?
  some (source, session)

/-- The frame that arrives next. -/
def arriving (s : System κ) : Option (EventSource × Frame) := do
  let (source, session) ← s.serving
  let frame ← session.received[source.seen]?
  some (source, frame)

/-- The generator has left its loop and all its frames have arrived. -/
def finished (s : System κ) : Bool :=
  s.serving.any fun (source, session) =>
    session.status ≠ .reading && source.seen == session.received.length

def step (s : System κ) : Label → Option (System κ)
  | .server l => (s.hub.step l).map fun hub => { s with hub }
  | .subscribe incidentId fails => some { s with client := s.client.subscribe fails incidentId }
  | .disconnect => some { s with client := s.client.disconnect }
  | .opened => do
    let source ← s.client.eventSource
    if source.isOpen then none
    else
      let source := { source with session := some s.hub.sessions.length }
      some { hub := s.hub.subscribe source.incidentId,
             client := StreamConsumer.onopen { s.client with eventSource := some source } }
  | .message => do
    let (source, frame) ← s.arriving
    let client := { s.client with eventSource := some source.advance }
    some { s with client := (client.receive parse throws frame).1 }
  | .ended => if s.finished then some { s with client := s.client.onerror } else none
  | .failed => do
    let _ ← s.client.eventSource
    some { s with client := s.client.onerror }
  | .timeout fails => (s.client.onTimeout fails).map fun client => { s with client }

/-- A broker with history size `n`, and a client with its callbacks before its first `subscribe`. -/
def init (n : Nat) (listeners : Dict String (List κ)) : System κ :=
  { hub := Hub.init n, client := { listeners } }

end System

/-! ## What a step does to the client -/

namespace StreamConsumer

variable {κ : Type}

/-- The client waits for its connection to be taken. -/
def connecting (c : StreamConsumer κ) : Bool := c.eventSource.any fun source => !source.isOpen

/-- How many more connections the client opens by itself, at most, and what is left of the
one it has. A connection that is open may bring all the attempts back. -/
def retries (c : StreamConsumer κ) : Nat :=
  if c.eventSource.any EventSource.isOpen then 2 * c.maxReconnectAttempts + 2
  else 2 * (c.maxReconnectAttempts - c.reconnectAttempts) + c.reconnectTimeout.toList.length

/-- A connection is always one to the current incident. -/
def Aimed (c : StreamConsumer κ) : Prop :=
  ∀ source, c.eventSource = some source → c.currentIncidentId = some source.incidentId

/-- Nothing new is opened from `c` to `c'`. -/
structure Quiet (c c' : StreamConsumer κ) : Prop where
  connections : c'.connections = c.connections
  connecting : c'.connecting = true → c.connecting = true
  retries : c'.retries ≤ c.retries
  current : c'.currentIncidentId = c.currentIncidentId ∨ c'.currentIncidentId = none
  aimed : c.Aimed → c'.Aimed

/-- A connection to incident `i` is opened from `c` to `c'`, at the cost of an attempt. -/
structure Dials (i : String) (c c' : StreamConsumer κ) : Prop where
  connections : c'.connections = c.connections ++ [i]
  retries : c'.retries < c.retries
  target : c.currentIncidentId = some i
  current : c'.currentIncidentId = c.currentIncidentId
  aimed : c'.Aimed

/-- The connection of `c` is taken. -/
structure Taken (c c' : StreamConsumer κ) : Prop where
  connections : c'.connections = c.connections
  waiting : c.connecting = true
  done : c'.connecting = false
  current : c'.currentIncidentId = c.currentIncidentId
  aimed : c.Aimed → c'.Aimed

variable {c c' c'' : StreamConsumer κ}

theorem quiet_refl (c : StreamConsumer κ) : Quiet c c :=
  ⟨rfl, id, Nat.le_refl _, .inl rfl, id⟩

theorem Quiet.trans (h : Quiet c c') (h' : Quiet c' c'') : Quiet c c'' where
  connections := h'.connections.trans h.connections
  connecting := h.connecting ∘ h'.connecting
  retries := Nat.le_trans h'.retries h.retries
  current := by
    rcases h'.current with hc | hc
    · rw [hc]
      exact h.current
    · exact .inr hc
  aimed := h'.aimed ∘ h.aimed

theorem length_toList_le_one {α : Type} (o : Option α) : o.toList.length ≤ 1 := by
  cases o <;> simp

/-- Giving up the connection. -/
theorem quiet_drop (c : StreamConsumer κ) (status : StreamStatus) :
    Quiet c { c.setStatus status with eventSource := none } := by
  refine ⟨rfl, nofun, ?_, .inl rfl, fun _ => nofun⟩
  have htimer := length_toList_le_one c.reconnectTimeout
  simp only [retries, setStatus, Option.any_none, Bool.false_eq_true, if_false]
  split <;> omega

theorem quiet_disconnect (c : StreamConsumer κ) : Quiet c c.disconnect := by
  refine ⟨rfl, nofun, ?_, .inr rfl, fun _ => nofun⟩
  simp only [retries, disconnect, setStatus, Option.any_none, Bool.false_eq_true, if_false, Option.toList_none,
    List.length_nil]
  split <;> omega

/-- A new attempt is paid for by the count of attempts. -/
theorem quiet_scheduleReconnect (c : StreamConsumer κ) : Quiet c c.scheduleReconnect := by
  unfold scheduleReconnect
  split
  · exact ⟨rfl, id, Nat.le_refl _, .inl rfl, id⟩
  · refine ⟨rfl, id, ?_, .inl rfl, id⟩
    simp only [retries, Option.toList_some, List.length_singleton]
    split <;> omega

theorem quiet_onerror (c : StreamConsumer κ) : Quiet c c.onerror :=
  (quiet_drop c .disconnected).trans (quiet_scheduleReconnect _)

theorem retries_of_open {source : EventSource} (hs : c.eventSource = some source)
    (ho : source.isOpen = true) : c.retries = 2 * c.maxReconnectAttempts + 2 := by
  simp [retries, hs, ho]

theorem quiet_onopen {source : EventSource} (hs : c.eventSource = some source)
    (ho : source.isOpen = true) : Quiet c c.onopen := by
  refine ⟨rfl, id, Nat.le_of_eq ?_, .inl rfl, id⟩
  have hs' : c.onopen.eventSource = some source := hs
  rw [retries_of_open hs ho, retries_of_open hs' ho]
  rfl

theorem quiet_advance {source : EventSource} (hs : c.eventSource = some source)
    (ho : source.isOpen = true) : Quiet c { c with eventSource := some source.advance } := by
  refine ⟨rfl, fun h => ?_, Nat.le_of_eq ?_, .inl rfl, fun hf source' h => ?_⟩
  · simp [connecting, ho] at h
  · have hs' : ({ c with eventSource := some source.advance } : StreamConsumer κ).eventSource =
        some source.advance := rfl
    rw [retries_of_open hs ho, retries_of_open hs' ho]
  · cases h
    exact hf source hs

theorem quiet_receive (parse : String → Option Json) (throws : Call κ → Bool) {source : EventSource}
    (hs : c.eventSource = some source) (ho : source.isOpen = true) (frame : Frame) :
    Quiet c (c.receive parse throws frame).1 := by
  have key : ∀ name text, Quiet c (c.dispatch parse throws name text).1 := by
    intro name text
    unfold dispatch
    split
    · exact quiet_refl c
    · split
      · exact quiet_onopen hs ho
      · split
        · exact quiet_onerror c
        · exact quiet_refl c
  cases frame with
  | event name text => exact key name text
  | ping text => exact key "ping" text

/-- The timer dials, at the cost of itself, or the attempt comes to nothing. -/
theorem onTimeout_cases {fails : Bool} (h : c.onTimeout fails = some c') :
    Quiet c c' ∨ ∃ i, Dials i c c' := by
  unfold onTimeout at h
  split at h
  · cases h
  rename_i delay htimer
  cases h
  have hfire : Quiet c { c with reconnectTimeout := none } := by
    refine ⟨rfl, id, ?_, .inl rfl, id⟩
    simp only [retries, htimer, Option.toList_none, List.length_nil, Option.toList_some, List.length_singleton]
    split <;> omega
  unfold connect
  split
  · exact .inl hfire
  rename_i i hi
  split
  · exact .inl hfire
  · cases fails with
    | true =>
      refine .inl (hfire.trans (Quiet.trans ?_ (quiet_scheduleReconnect _)))
      exact ⟨rfl, id, Nat.le_refl _, .inl rfl, id⟩
    | false =>
      refine .inr ⟨i, rfl, ?_, hi, rfl, fun source h => ?_⟩
      · simp only [retries, htimer, setStatus, EventSource.isOpen, Option.any_some, Option.isSome_none,
          Bool.false_eq_true, if_false, Option.toList_none, List.length_nil, Option.toList_some,
          List.length_singleton]
        split <;> omega
      · cases h
        exact hi

theorem aimed_connect (fails : Bool) (hf : c.Aimed) : (connect fails c).Aimed := by
  unfold connect
  split
  · exact hf
  rename_i i hi
  split
  · exact hf
  · cases fails with
    | true => exact (quiet_scheduleReconnect _).aimed hf
    | false =>
      intro source h
      cases h
      exact hi

theorem aimed_subscribe (fails : Bool) (i : String) (hf : c.Aimed) :
    (c.subscribe fails i).Aimed := by
  unfold subscribe
  split
  · exact hf
  · exact aimed_connect fails nofun

end StreamConsumer

namespace System

variable {κ : Type} {parse : String → Option Json} {throws : Call κ → Bool} {s s' : System κ} {l : Label}

theorem source_of_arriving {source : EventSource} {frame : Frame}
    (h : s.arriving = some (source, frame)) :
    s.client.eventSource = some source ∧ source.isOpen = true := by
  simp only [arriving, serving, Option.bind_eq_bind, Option.bind_eq_some_iff, Option.some.injEq] at h
  obtain ⟨_, ⟨source', hs, k, hk, session, -, rfl⟩, frame', -, heq⟩ := h
  cases heq
  exact ⟨hs, by simp [EventSource.isOpen, hk]⟩

theorem taken_opened (h : step parse throws s .opened = some s') :
    StreamConsumer.Taken s.client s'.client := by
  simp only [step, Option.bind_eq_bind, Option.bind_eq_some_iff] at h
  obtain ⟨source, hs, h⟩ := h
  split at h
  · cases h
  rename_i hclosed
  cases h
  refine ⟨rfl, by simp [StreamConsumer.connecting, hs, hclosed], rfl, rfl, fun ha source' h => ?_⟩
  cases h
  exact ha source hs

/-- What a step that is no `subscribe` does to the client. -/
theorem step_client (h : step parse throws s l = some s') (hl : l.subscribes = false) :
    l = .opened ∧ StreamConsumer.Taken s.client s'.client ∨
    l ≠ .opened ∧ (StreamConsumer.Quiet s.client s'.client ∨ ∃ i, StreamConsumer.Dials i s.client s'.client) := by
  cases l with
  | server l =>
    obtain ⟨hub, -, rfl⟩ := Option.map_eq_some_iff.1 h
    exact .inr ⟨nofun, .inl (StreamConsumer.quiet_refl _)⟩
  | subscribe i fails => cases hl
  | disconnect =>
    cases h
    exact .inr ⟨nofun, .inl (StreamConsumer.quiet_disconnect _)⟩
  | opened => exact .inl ⟨rfl, taken_opened h⟩
  | message =>
    simp only [step, Option.bind_eq_bind, Option.bind_eq_some_iff] at h
    obtain ⟨⟨source, frame⟩, harr, h⟩ := h
    cases h
    obtain ⟨hs, ho⟩ := source_of_arriving harr
    have hadvance := StreamConsumer.quiet_advance hs ho
    have ho' : source.advance.isOpen = true := (EventSource.isOpen_advance source).trans ho
    exact .inr ⟨nofun, .inl (hadvance.trans (StreamConsumer.quiet_receive parse throws rfl ho' frame))⟩
  | ended =>
    simp only [step] at h
    split at h
    · cases h
      exact .inr ⟨nofun, .inl (StreamConsumer.quiet_onerror _)⟩
    · cases h
  | failed =>
    simp only [step, Option.bind_eq_bind, Option.bind_eq_some_iff] at h
    obtain ⟨source, -, h⟩ := h
    cases h
    exact .inr ⟨nofun, .inl (StreamConsumer.quiet_onerror _)⟩
  | timeout fails =>
    obtain ⟨client, hc, rfl⟩ := Option.map_eq_some_iff.1 h
    exact .inr ⟨nofun, StreamConsumer.onTimeout_cases hc⟩

theorem aimed_step (ha : s.client.Aimed) (h : step parse throws s l = some s') :
    s'.client.Aimed := by
  cases hl : l.subscribes with
  | true =>
    cases l with
    | subscribe i fails =>
      cases h
      exact StreamConsumer.aimed_subscribe fails i ha
    | _ => cases hl
  | false =>
    rcases step_client h hl with ⟨-, ht⟩ | ⟨-, hq | ⟨i, hd⟩⟩
    · exact ht.aimed ha
    · exact hq.aimed ha
    · exact hd.aimed

/-! ## The client stops reconnecting exactly when its connections stop being taken -/

/-- At step `n` the client opens a connection to the incident. -/
def Connects (ex : Execution (step parse throws)) (incidentId : String) (n : Nat) : Prop :=
  (ex.state (n + 1)).client.connections = (ex.state n).client.connections ++ [incidentId]

/-- At step `n` a termination event of the incident arrives at the client. -/
def ReceivesTerminal (ex : Execution (step parse throws)) (incidentId : String) (n : Nat) : Prop :=
  ex.label n = .message ∧ ∃ source frame, (ex.state n).arriving = some (source, frame) ∧
    source.incidentId = incidentId ∧ frame.terminal = true

/-- The broker still has a termination event of the incident. -/
def TerminalInHistory (s : System κ) (incidentId : String) : Prop :=
  ∃ r ∈ s.hub.broker.replay incidentId, r.terminal = true

section
variable {ex : Execution (step parse throws)} {incidentId : String} {n₀ : Nat}

/-- No attempt is taken from `N` on: each further one costs something that does not come back. -/
theorem finite_connects_of_none_taken {N : Nat}
    (hsub : ∀ n, N ≤ n → (ex.label n).subscribes = false)
    (hnone : ∀ n, N ≤ n → ex.label n ≠ .opened) :
    {n | N ≤ n ∧ Connects ex incidentId n}.Finite := by
  refine ex.finite_of_potential (fun s => s.client.retries) (fun n hn => ?_) (fun n hn hc => ?_)
  · rcases step_client (ex.next n) (hsub n hn) with ⟨ho, -⟩ | ⟨-, hq | ⟨i, hd⟩⟩
    · exact absurd ho (hnone n hn)
    · exact hq.retries
    · exact Nat.le_of_lt hd.retries
  · rcases step_client (ex.next n) (hsub n hn) with ⟨ho, -⟩ | ⟨-, hq | ⟨i, hd⟩⟩
    · exact absurd ho (hnone n hn)
    · have hsame := hq.connections.symm.trans hc
      simp at hsame
    · exact hd.retries

/-- Without further connections at most the one that waits can be taken. -/
theorem finite_taken_of_no_connects {N : Nat} (hsub : ∀ n, N ≤ n → (ex.label n).subscribes = false)
    (hcur : ∀ n, N ≤ n → ∀ i, (ex.state n).client.currentIncidentId = some i → i = incidentId)
    (hnone : ∀ n, N ≤ n → ¬ Connects ex incidentId n) :
    {n | N ≤ n ∧ ex.label n = .opened}.Finite := by
  refine ex.finite_of_potential (fun s => s.client.connecting.toNat) (fun n hn => ?_) (fun n hn ho => ?_)
  · rcases step_client (ex.next n) (hsub n hn) with ⟨-, ht⟩ | ⟨-, hq | ⟨i, hd⟩⟩
    · simp [ht.done]
    · exact Bool.toNat_le_toNat hq.connecting
    · obtain rfl := hcur n hn i hd.target
      exact absurd hd.connections (hnone n hn)
  · rcases step_client (ex.next n) (hsub n hn) with ⟨-, ht⟩ | ⟨hno, -⟩
    · simp [ht.done, ht.waiting]
    · exact absurd ho hno

/-- After a frame of the incident the client is connected to it or to nothing, up to the next
`subscribe`. -/
theorem current_of_receives {n : Nat} {listeners : Dict String (List κ)}
    (hreach : Reachable (step parse throws) (init n listeners) (ex.state 0))
    (hterm : ReceivesTerminal ex incidentId n₀)
    (hsub : ∀ m, n₀ ≤ m → (ex.label m).subscribes = false) :
    ∀ m, n₀ ≤ m → ∀ i, (ex.state m).client.currentIncidentId = some i → i = incidentId := by
  have haimed : (ex.state n₀).client.Aimed :=
    (ex.reachable hreach n₀).invariant (I := fun s => s.client.Aimed) nofun fun _ _ _ ha h => aimed_step ha h
  obtain ⟨-, source, frame, harr, hinc, -⟩ := hterm
  have hcur := haimed source (source_of_arriving harr).1
  refine ex.invariant_from (C := fun l => l.subscribes = false)
    (I := fun s => ∀ i, s.client.currentIncidentId = some i → i = incidentId) ?_ hsub ?_
  · intro i hi
    rw [hcur, Option.some.injEq] at hi
    exact hi.symm.trans hinc
  · intro s l s' hI hl h i hi
    rcases step_client h hl with ⟨-, ht⟩ | ⟨-, hq | ⟨j, hd⟩⟩
    · exact hI i (ht.current ▸ hi)
    · rcases hq.current with hc | hc
      · exact hI i (hc ▸ hi)
      · rw [hc] at hi
        cases hi
    · exact hI i (hd.current ▸ hi)

theorem finite_taken_of_finite_connects {n : Nat} {listeners : Dict String (List κ)}
    (hreach : Reachable (step parse throws) (init n listeners) (ex.state 0))
    (hterm : ReceivesTerminal ex incidentId n₀)
    (hsub : ∀ m, n₀ ≤ m → (ex.label m).subscribes = false)
    (hfin : {m | n₀ ≤ m ∧ Connects ex incidentId m}.Finite) :
    {m | n₀ ≤ m ∧ ex.label m = .opened}.Finite := by
  have hcur := current_of_receives hreach hterm hsub
  obtain ⟨N, hN, hnone⟩ := Execution.last_of_finite hfin
  exact Execution.finite_extend (finite_taken_of_no_connects (fun m hm => hsub m (by omega))
    (fun m hm => hcur m (by omega)) hnone)

/-- **Reconnection.** After a termination event of the incident has arrived, and without a new
`subscribe`, the client opens finitely many further connections to the incident exactly when
finitely many of its connections are taken by the server. -/
theorem no_reconnection_iff {n : Nat} {listeners : Dict String (List κ)}
    (hreach : Reachable (step parse throws) (init n listeners) (ex.state 0))
    (hterm : ReceivesTerminal ex incidentId n₀)
    (hsub : ∀ m, n₀ ≤ m → (ex.label m).subscribes = false) :
    {m | n₀ ≤ m ∧ Connects ex incidentId m}.Finite ↔
      {m | n₀ ≤ m ∧ ex.label m = .opened}.Finite := by
  refine ⟨finite_taken_of_finite_connects hreach hterm hsub, fun hfin => ?_⟩
  obtain ⟨N, hN, hnone⟩ := Execution.last_of_finite hfin
  exact Execution.finite_extend (finite_connects_of_none_taken (fun m hm => hsub m (by omega)) hnone)

end

/-! ## The server takes every connection -/

/-- What a step does to the server. -/
theorem step_hub (h : step parse throws s l = some s') :
    (∃ hl, l = .server hl ∧ s.hub.step hl = some s'.hub) ∨ s'.hub = s.hub ∨ ∃ i, s'.hub = s.hub.subscribe i := by
  cases l with
  | server hl =>
    obtain ⟨hub, hst, rfl⟩ := Option.map_eq_some_iff.1 h
    exact .inl ⟨hl, rfl, hst⟩
  | opened =>
    simp only [step, Option.bind_eq_bind, Option.bind_eq_some_iff] at h
    obtain ⟨source, -, h⟩ := h
    split at h
    · cases h
    · cases h
      exact .inr (.inr ⟨source.incidentId, rfl⟩)
  | ended =>
    simp only [step] at h
    split at h
    · cases h
      exact .inr (.inl rfl)
    · cases h
  | timeout fails =>
    obtain ⟨client, -, rfl⟩ := Option.map_eq_some_iff.1 h
    exact .inr (.inl rfl)
  | subscribe i fails =>
    cases h
    exact .inr (.inl rfl)
  | disconnect =>
    cases h
    exact .inr (.inl rfl)
  | _ =>
    simp only [step, Option.bind_eq_bind, Option.bind_eq_some_iff] at h
    obtain ⟨_, -, h⟩ := h
    cases h
    exact .inr (.inl rfl)

/-- The history of the incident does not change unless something is published for it. -/
theorem replay_step (h : step parse throws s l = some s') {incidentId : String}
    (hl : ∀ hl, l = .server hl → hl.event? incidentId = none) :
    s'.hub.broker.replay incidentId = s.hub.broker.replay incidentId := by
  rcases step_hub h with ⟨hl', rfl, hst⟩ | hsame | ⟨i, hsub⟩
  · exact Hub.replay_step hst (hl hl' rfl)
  · rw [hsame]
  · rw [hsub]
    rfl

/-- A generator that was handed `resolved` from the history: when it starts, after its only
frame, and when it is closed. -/
def fresh : Session :=
  { incidentId := "inc-1", queue := [EventBroker.record "resolved" (.obj []) ⟨0⟩], since := 1 }

def leaving : Session :=
  { fresh with queue := [], status := .leaving, received := [.event "resolved" "\x7b\x7d"], ended := true }

def served : Session := { leaving with status := .closed }

/-- The server took the client's connection number `k` just now. -/
def taken (k : Nat) : System String where
  hub := {
    broker := {
      subscribers := ⟨[("inc-1", [k])], by simp⟩
      history := ⟨[("inc-1", fresh.queue)], by simp⟩ }
    sessions := List.replicate k served ++ [fresh]
    published := [("inc-1", EventBroker.record "resolved" (.obj []) ⟨0⟩)] }
  client := {
    listeners := dashboard.listeners
    eventSource := some { incidentId := "inc-1", session := some k }
    currentIncidentId := some "inc-1"
    status := some .connected
    connections := List.replicate (k + 1) "inc-1" }

/-- The server after the generator has read the event, and after it is closed. -/
def hubRead (k : Nat) : Hub := { (taken k).hub with sessions := List.replicate k served ++ [leaving] }

def hubLeft (k : Nat) : Hub := { (taken k).hub with
  broker := (taken k).hub.broker.unsubscribe "inc-1" k
  sessions := List.replicate k served ++ [served] }

/-- The client when the event has arrived, and when it connects anew. -/
def arrived (k : Nat) : StreamConsumer String :=
  { (taken k).client with eventSource := some ⟨"inc-1", some k, 1⟩ }

def dialing (k : Nat) : StreamConsumer String := { (taken k).client with
  eventSource := some { incidentId := "inc-1" }
  status := some .connecting
  reconnectAttempts := 1
  connections := (taken k).client.connections ++ ["inc-1"] }

def round (k : Nat) : List Label :=
  [.server (.read k), .message, .server (.leave k), .ended, .timeout false, .opened]

theorem getElem?_last {α : Type} (k : Nat) (a b : α) :
    (List.replicate k a ++ [b])[k]? = some b := by
  simp

theorem set_last {α : Type} (k : Nat) (a b c : α) :
    (List.replicate k a ++ [b]).set k c = List.replicate k a ++ [c] := by
  simp

theorem step_hubRead (k : Nat) : (taken k).hub.step (.read k) = some (hubRead k) := by
  simp only [Hub.step, Hub.onSession, taken, getElem?_last, set_last]
  rfl

theorem step_hubLeft (k : Nat) : (hubRead k).step (.leave k) = some (hubLeft k) := by
  simp only [Hub.step, Hub.leave, Hub.onSession, hubRead, Option.bind_eq_bind, getElem?_last, Option.bind_some]
  simp only [Session.close, leaving, set_last, Option.bind_some]
  rfl

/-- The next generator is started just as this one was. -/
theorem subscribe_hubLeft (k : Nat) : (hubLeft k).subscribe "inc-1" = (taken (k + 1)).hub := by
  have hlen : (hubLeft k).sessions.length = k + 1 := by simp [hubLeft]
  have hsess : (hubLeft k).sessions ++ [fresh] = List.replicate (k + 1) served ++ [fresh] := by
    rw [List.replicate_succ']
    rfl
  have hbroker : (hubLeft k).broker.register "inc-1" (k + 1) = (taken (k + 1)).hub.broker := by
    simp [hubLeft, taken, EventBroker.unsubscribe, EventBroker.register, Dict.getD, Dict.get?, Dict.look,
      Dict.erase, Dict.set, Dict.put]
  rw [Hub.subscribe, hlen, hbroker]
  exact congrArg (fun ss => ({ (taken (k + 1)).hub with sessions := ss } : Hub)) hsess

section
variable (parse : String → Option Json) (throws : Call String → Bool)

theorem step_message (k : Nat) :
    step parse throws { hub := hubRead k, client := (taken k).client } .message =
      some { hub := hubRead k, client := arrived k } := by
  simp only [step, arriving, serving, taken, hubRead, Option.bind_eq_bind, Option.bind_some, getElem?_last]
  rfl

theorem step_ended (k : Nat) :
    step parse throws { hub := hubLeft k, client := arrived k } .ended =
      some { hub := hubLeft k, client := (arrived k).onerror } := by
  have hfin : ({ hub := hubLeft k, client := arrived k } : System String).finished = true := by
    simp only [finished, serving, arrived, hubLeft, Option.bind_eq_bind, Option.bind_some, getElem?_last]
    rfl
  rw [step, hfin]
  rfl

theorem step_opened (k : Nat) :
    step parse throws { hub := hubLeft k, client := dialing k } .opened = some (taken (k + 1)) := by
  have hlen : (hubLeft k).sessions.length = k + 1 := by simp [hubLeft]
  have hconn : (dialing k).connections = List.replicate (k + 1 + 1) "inc-1" := by
    rw [List.replicate_succ']
    rfl
  have hclient : StreamConsumer.onopen { dialing k with
      eventSource := some { incidentId := "inc-1", session := some (k + 1) } } = (taken (k + 1)).client := by
    simp only [StreamConsumer.onopen, StreamConsumer.setStatus, hconn]
    rfl
  simp only [step, dialing, Option.bind_eq_bind, Option.bind_some, hlen, subscribe_hubLeft]
  exact congrArg (fun c => some (⟨(taken (k + 1)).hub, c⟩ : System String)) hclient

/-- The event is replayed, the stream ends, the client dials and is taken again. -/
theorem run_round (k : Nat) : run (step parse throws) (taken k) (round k) = some (taken (k + 1)) :=
  calc run (step parse throws) (taken k) (round k)
    _ = run _ { hub := hubRead k, client := (taken k).client } _ :=
      run_cons_of_step (by rw [step, step_hubRead]; rfl)
    _ = run _ { hub := hubRead k, client := arrived k } _ := run_cons_of_step (step_message parse throws k)
    _ = run _ { hub := hubLeft k, client := arrived k } _ := run_cons_of_step (by rw [step, step_hubLeft]; rfl)
    _ = run _ { hub := hubLeft k, client := (arrived k).onerror } _ := run_cons_of_step (step_ended parse throws k)
    _ = run _ { hub := hubLeft k, client := dialing k } _ := run_cons_of_step rfl
    _ = run _ (taken (k + 1)) [] := run_cons_of_step (step_opened parse throws k)
    _ = some (taken (k + 1)) := run_nil _

theorem exists_loop : ∃ ex : Execution (step parse throws), ex.state 0 = taken 0 ∧
    ∀ n, (round (n / 6))[n % 6]? = some (ex.label n) :=
  Execution.exists_of_rounds (by decide) (fun k s => s = taken k) round (fun _ => rfl) rfl <| by
    rintro k s rfl
    exact ⟨_, run_round parse throws k, rfl⟩

theorem reachable_taken :
    Reachable (step parse throws) (init 50 dashboard.listeners) (taken 0) :=
  ⟨[.server (.publish "inc-1" "resolved" (.obj []) ⟨0⟩), .subscribe "inc-1" false, .opened], rfl⟩

theorem state_one {ex : Execution (step parse throws)} (h0 : ex.state 0 = taken 0)
    (hread : ex.label 0 = .server (.read 0)) :
    ex.state 1 = { hub := hubRead 0, client := (taken 0).client } := by
  have hnext := ex.next 0
  rw [h0, hread, step, step_hubRead] at hnext
  exact (Option.some.inj hnext).symm

theorem receives_of_taken {ex : Execution (step parse throws)} (h0 : ex.state 0 = taken 0)
    (hread : ex.label 0 = .server (.read 0)) (hmessage : ex.label 1 = .message) :
    ReceivesTerminal ex "inc-1" 1 := by
  refine ⟨hmessage, { incidentId := "inc-1", session := some 0 }, .event "resolved" "\x7b\x7d", ?_, rfl, rfl⟩
  rw [state_one parse throws h0 hread]
  rfl

/-- The labels of the loop neither call `subscribe` nor publish anything. -/
theorem mem_round {k : Nat} {l : Label} (h : l ∈ round k) :
    l.subscribes = false ∧ ∀ hl, l = .server hl → hl.event? "inc-1" = none := by
  simp only [round, List.mem_cons, List.not_mem_nil, or_false] at h
  rcases h with rfl | rfl | rfl | rfl | rfl | rfl <;> refine ⟨rfl, fun hl heq => ?_⟩ <;> cases heq <;> rfl

/-- A client that is closed when it has seen the end opens no more connections. -/
theorem no_reconnection_closed :
    ∃ ex : Execution (step (κ := String) (fun _ => some (.obj [])) fun _ => false),
      ReceivesTerminal ex "inc-1" 1 ∧ {m | 1 ≤ m ∧ Connects ex "inc-1" m}.Finite := by
  let schedule : Nat → Label
    | 0 => .server (.read 0)
    | 1 => .message
    | _ => .disconnect
  obtain ⟨ex, h0, hlabel, -⟩ : ∃ ex : Execution (step (fun _ => some (.obj [])) fun _ => false),
      ex.state 0 = taken 0 ∧ _ := Execution.exists_of_schedule
    (fun n s => n = 0 ∧ s = taken 0 ∨ n = 1 ∧ s = { hub := hubRead 0, client := (taken 0).client } ∨ 2 ≤ n)
    schedule (.inl ⟨rfl, rfl⟩) <| by
      rintro n s (⟨rfl, rfl⟩ | ⟨rfl, rfl⟩ | hn)
      · exact ⟨{ hub := hubRead 0, client := (taken 0).client }, rfl, .inr (.inl ⟨rfl, rfl⟩)⟩
      · exact ⟨_, step_message _ _ 0, .inr (.inr (Nat.le_refl _))⟩
      · obtain ⟨m, rfl⟩ := Nat.exists_eq_add_of_le' hn
        exact ⟨_, rfl, .inr (.inr (by omega))⟩
  have hread : ex.label 0 = .server (.read 0) := congrFun hlabel 0
  have hmessage : ex.label 1 = .message := congrFun hlabel 1
  have hlater : ∀ m, 1 ≤ m → ex.label m = .message ∨ ex.label m = .disconnect := by
    intro m hm
    rw [hlabel]
    match m with
    | 1 => exact .inl rfl
    | _ + 2 => exact .inr rfl
  have hterm := receives_of_taken _ _ h0 hread hmessage
  refine ⟨ex, hterm, (no_reconnection_iff (h0 ▸ reachable_taken _ _) hterm fun m hm => ?_).2 ?_⟩
  · rcases hlater m hm with h | h <;> rw [h] <;> rfl
  · refine Set.finite_empty.subset ?_
    rintro m ⟨hm, ho⟩
    rcases hlater m hm with h | h <;> rw [h] at ho <;> cases ho

/-- The client goes on connecting to a resolved incident. -/
theorem reconnects_for_ever :
    ¬ ∀ (ex : Execution (step (κ := String) (fun _ => some (.obj [])) fun _ => false)) incidentId n₀,
      Reachable (step (fun _ => some (.obj [])) fun _ => false) (init 50 dashboard.listeners) (ex.state 0) →
      ReceivesTerminal ex incidentId n₀ → (∀ m, n₀ ≤ m → TerminalInHistory (ex.state m) incidentId) →
      (∀ m, n₀ ≤ m → (ex.label m).subscribes = false) → {m | n₀ ≤ m ∧ Connects ex incidentId m}.Finite := by
  intro h
  obtain ⟨ex, h0, hlabel⟩ := exists_loop (fun _ => some (.obj [])) fun _ => false
  have hmem : ∀ m, ex.label m ∈ round (m / 6) := fun m => List.mem_of_getElem? (hlabel m)
  have hreach : Reachable (step (fun _ => some (.obj [])) fun _ => false) (init 50 dashboard.listeners)
      (ex.state 0) := h0 ▸ reachable_taken _ _
  have hterm : ReceivesTerminal ex "inc-1" 1 :=
    receives_of_taken _ _ h0 (Option.some.inj (hlabel 0)).symm (Option.some.inj (hlabel 1)).symm
  have hsub : ∀ m, 1 ≤ m → (ex.label m).subscribes = false := fun m _ => (mem_round (hmem m)).1
  have hhist : ∀ m, (ex.state m).hub.broker.replay "inc-1" = fresh.queue := by
    intro m
    induction m with
    | zero =>
      rw [h0]
      rfl
    | succ m ih => exact (replay_step (ex.next m) (mem_round (hmem m)).2).trans ih
  have hkept : ∀ m, 1 ≤ m → TerminalInHistory (ex.state m) "inc-1" := fun m _ =>
    ⟨EventBroker.record "resolved" (.obj []) ⟨0⟩, by rw [hhist]; exact List.mem_singleton_self _, rfl⟩
  have hfin := finite_taken_of_finite_connects hreach hterm hsub (h ex "inc-1" 1 hreach hterm hkept hsub)
  -- every sixth step is a connection that the server takes
  have hinf : {m | 1 ≤ m ∧ ex.label m = .opened}.Infinite := by
    refine Set.infinite_of_injective_forall_mem (f := fun k => 6 * k + 5) (fun a b hab => ?_) (fun k => ⟨?_, ?_⟩)
    · have hab' : 6 * a + 5 = 6 * b + 5 := hab
      omega
    · omega
    · have hk := hlabel (6 * k + 5)
      have hmod : (6 * k + 5) % 6 = 5 := by omega
      rw [hmod] at hk
      exact (Option.some.inj hk).symm
  exact hinf hfin

end

end System

end OpsPilot
