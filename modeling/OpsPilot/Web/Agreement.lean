import OpsPilot.Web.StreamConsumer
/-!
# What the dashboard makes of the server's frames

The server names a frame after its event and sends the payload alone as its data. The client
sets no listener for any name an event has, only `onmessage`, and what reaches `onmessage` it
takes for an envelope with the fields `event_type` and `payload`. So no callback is ever given
the payload of the event it was registered for: either the browser dispatches the frame to
nobody, or the argument is a field of the payload.
-/
namespace OpsPilot.StreamConsumer

variable {κ : Type} (parse : String → Option Json) (throws : Call κ → Bool)

/-- The callbacks registered for the type of the event were called, each of them once and
with the value its data stands for. -/
def Agrees (c : StreamConsumer κ) (r : EventRecord) (calls : List (Call κ)) : Prop :=
  List.Perm
    ((calls.filter fun call => call.registeredFor == r.event).map fun call => (call.callback, call.args.head?))
    ((c.listeners.getD r.event []).map fun callback => (callback, some (parse (r.data.dumps false))))

theorem mem_callsMade {calls : List (Call κ)} {call : Call κ} (h : call ∈ callsMade throws calls) :
    call ∈ calls := by
  induction calls with
  | nil => exact h
  | cons call' calls ih =>
    rcases List.mem_cons.1 h with rfl | h
    · exact List.mem_cons_self
    · split at h
      · cases h
      · exact List.mem_cons_of_mem _ (ih h)

/-- What a callback is called with, and that it was registered. -/
theorem spec_callsFor {c : StreamConsumer κ} {data : Json} {call : Call κ}
    (h : call ∈ c.callsFor data) :
    call.callback ∈ c.listeners.getD call.registeredFor [] ∧
      (call.registeredFor ≠ "*" → call.args.head? = some (data.field "payload")) := by
  rcases List.mem_append.1 h with h | h
  · split at h
    · obtain ⟨callback, hcb, rfl⟩ := List.mem_map.1 h
      exact ⟨hcb, fun _ => rfl⟩
    · cases h
  · obtain ⟨callback, hcb, rfl⟩ := List.mem_map.1 h
    exact ⟨hcb, fun hw => absurd rfl hw⟩

/-- The argument is a field of the message, hence not the message. -/
theorem spec_handleMessage {c : StreamConsumer κ} {text : String} {call : Call κ}
    (h : call ∈ c.handleMessage parse throws text) :
    call.callback ∈ c.listeners.getD call.registeredFor [] ∧
      (call.registeredFor ≠ "*" → call.args.head? ≠ some (parse text)) := by
  unfold handleMessage at h
  split at h
  · cases h
  · split at h
    case h_1 => cases h
    case h_2 => cases h
    case h_3 data _ hparse =>
      obtain ⟨hreg, harg⟩ := spec_callsFor (mem_callsMade throws h)
      refine ⟨hreg, fun hw heq => ?_⟩
      rw [harg hw, hparse] at heq
      exact Json.field_ne "payload" data (Option.some.inj heq)

/-- Only an unnamed message calls anybody. -/
theorem calls_dispatch {c : StreamConsumer κ} {name text : String} {call : Call κ}
    (h : call ∈ (c.dispatch parse throws name text).2) :
    (name = "" ∨ name = "message") ∧ call ∈ c.handleMessage parse throws text := by
  unfold dispatch at h
  split at h
  · exact ⟨‹_›, h⟩
  · split at h
    · cases h
    · split at h <;> cases h

/-- A frame of the server never has a callback of its type called with its payload. -/
theorem spec_receive {c : StreamConsumer κ} {r : EventRecord} {call : Call κ}
    (h : call ∈ (c.receive parse throws r.frame).2) (hreg : call.registeredFor = r.event) :
    call.callback ∈ c.listeners.getD r.event [] ∧
      call.args.head? ≠ some (parse (r.data.dumps false)) := by
  obtain ⟨hname, hmem⟩ := calls_dispatch parse throws h
  obtain ⟨hcb, harg⟩ := spec_handleMessage parse throws hmem
  have hw : call.registeredFor ≠ "*" := by
    rw [hreg]
    rcases hname with hname | hname <;> rw [hname] <;> decide
  exact ⟨hreg ▸ hcb, harg hw⟩

theorem agrees_iff_unregistered (c : StreamConsumer κ) (r : EventRecord) :
    Agrees parse c r (c.receive parse throws r.frame).2 ↔ c.listeners.getD r.event [] = [] := by
  constructor
  · intro h
    by_contra hne
    obtain ⟨callback, hcb⟩ := List.exists_mem_of_ne_nil _ hne
    have hmem := h.mem_iff.2 (List.mem_map_of_mem hcb)
    obtain ⟨call, hcall, heq⟩ := List.mem_map.1 hmem
    obtain ⟨hcall, hreg⟩ := List.mem_filter.1 hcall
    exact (spec_receive parse throws hcall (beq_iff_eq.1 hreg)).2 (Prod.ext_iff.1 heq).2
  · intro h
    have hnone : (c.receive parse throws r.frame).2.filter (fun call => call.registeredFor == r.event) = [] := by
      rw [List.filter_eq_nil_iff]
      intro call hcall hreg
      have hcb := (spec_receive parse throws hcall (beq_iff_eq.1 hreg)).1
      rw [h] at hcb
      cases hcb
    rw [Agrees, hnone, h]
    exact List.Perm.refl _

/-- **The wire format.** A generator that finds the record of an event in its queue yields a
frame, and the client and the server agree on it exactly when the client has no callback for
the type of the event. -/
theorem wire_agreement_iff (c : StreamConsumer κ) (eventType : String) (payload : Json) (now : Time)
    {s : Session} {queue : List EventRecord} (hst : s.status = .reading)
    (hq : s.queue = EventBroker.record eventType payload now :: queue) :
    ∃ s' frame, s.read = some s' ∧ s'.received = s.received ++ [frame] ∧
      (Agrees parse c (EventBroker.record eventType payload now) (c.receive parse throws frame).2 ↔
        c.listeners.getD eventType [] = []) := by
  simp only [Session.read, hst, hq]
  exact ⟨_, _, rfl, rfl, agrees_iff_unregistered parse throws c _⟩

/-- The dashboard has no callback for `failed`. -/
theorem wire_agreement_failed :
    let h := (Hub.init 50).subscribe "inc-1"
    let h' := h.publish "inc-1" (EventBroker.record "failed" (.obj []) ⟨0⟩)
    ∃ s s' frame, h'.sessions[0]? = some s ∧ s.read = some s' ∧ s'.received = [frame] ∧
      Agrees (fun _ => some (.obj [])) dashboard (EventBroker.record "failed" (.obj []) ⟨0⟩)
        (dashboard.receive (fun _ => some (.obj [])) (fun _ => false) frame).2 := by
  intro h h'
  obtain ⟨s', frame, hr, hrec, hiff⟩ := wire_agreement_iff (fun _ => some (.obj [])) (fun _ => false) dashboard
    "failed" (.obj []) ⟨0⟩ rfl rfl
    (s := { incidentId := "inc-1", queue := [EventBroker.record "failed" (.obj []) ⟨0⟩], since := 0 })
  exact ⟨_, s', frame, rfl, hr, hrec, hiff.2 rfl⟩

/-- The browser has nobody to give a thought to. -/
theorem thought_not_delivered :
    let payload : Json := .obj [("actor", .str "Planner"), ("message", .str "checking the deployment")]
    let parse : String → Option Json := fun text => if text = payload.dumps false then some payload else none
    ∃ h s frame, Machine.run Hub.step (Hub.init 50)
        [.subscribe "inc-1", .publish "inc-1" "agent_thought" payload ⟨0⟩, .read 0] = some h ∧
      h.sessions[0]? = some s ∧ s.received = [frame] ∧
      ¬ Agrees parse dashboard (EventBroker.record "agent_thought" payload ⟨0⟩)
        (dashboard.receive parse (fun _ => false) frame).2 := by
  intro payload parse
  refine ⟨_, _, _, rfl, rfl, rfl, ?_⟩
  intro h
  exact absurd h.length_eq (by decide)

end OpsPilot.StreamConsumer
