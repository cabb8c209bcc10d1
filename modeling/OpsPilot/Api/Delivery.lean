import OpsPilot.Api.EventStream
/-!
# Exact event delivery

`Session.Inv stream listening s` says where a client stands on the stream of records it is
owed: while it reads, what it has received and what waits in its queue make up the stream;
a client that left on a termination event has the stream up to that event. `Hub.Inv` adds
what ties the clients to the broker: the history is the last `N` events of each incident,
and a queue is registered at most once, for the incident of its client.
-/
namespace OpsPilot

def Frame.terminal : Frame → Bool
  | .event e _ => ["resolved", "failed", "escalated"].contains e
  | .ping _ => false

@[simp] theorem EventRecord.terminal_frame (r : EventRecord) : r.frame.terminal = r.terminal := rfl

namespace Session

structure Inv (stream : List EventRecord) (listening : Prop) (s : Session) : Prop where
  registered : s.status = .reading → listening
  live : s.status = .reading → s.delivered ++ s.queue.map EventRecord.frame = stream.map EventRecord.frame
  running : s.status = .reading → s.ended = false
  sofar : s.delivered <+: stream.map EventRecord.frame
  undone : s.ended = false → ∀ f ∈ s.delivered, f.terminal = false
  done : s.ended = true → ∃ fs f, s.delivered = fs ++ [f] ∧ (∀ g ∈ fs, g.terminal = false) ∧ f.terminal = true

variable {stream : List EventRecord} {listening : Prop} {s s' : Session}

theorem Inv.new (incidentId : String) (since : Nat) (hl : listening) :
    Inv stream listening { incidentId, queue := stream, since } where
  registered _ := hl
  live _ := rfl
  running _ := rfl
  sofar := List.nil_prefix
  undone _ := by simp [delivered]
  done h := by simp at h

/-- A record reaches a registered client. -/
theorem Inv.put (h : Inv stream listening s) (r : EventRecord) :
    Inv (stream ++ [r]) listening (s.put r) where
  registered := h.registered
  live hs := by
    have := h.live hs
    simp only [Session.put, List.map_append, ← List.append_assoc]
    exact congrArg (· ++ [r].map EventRecord.frame) this
  running := h.running
  sofar := h.sofar.trans (by simp)
  undone := h.undone
  done := h.done

/-- A record passes by a client that is not registered any more. -/
theorem Inv.miss (h : Inv stream listening s) (hn : ¬ listening) (r : EventRecord) :
    Inv (stream ++ [r]) listening s where
  registered := h.registered
  live hs := absurd (h.registered hs) hn
  running := h.running
  sofar := h.sofar.trans (by simp)
  undone := h.undone
  done := h.done

theorem Inv.read (h : Inv stream listening s) (hr : s.read = some s') :
    Inv stream listening s' := by
  unfold Session.read at hr
  split at hr
  case h_2 => cases hr
  rename_i r queue hst hq
  cases hr
  have hlive := h.live hst
  have hopen := h.undone (h.running hst)
  rw [hq, List.map_cons] at hlive
  have hdel : (s.received ++ [r.frame]).filter (fun f => !f.isPing) = s.delivered ++ [r.frame] := by
    simp [delivered]
  have hlive' : (s.delivered ++ [r.frame]) ++ queue.map EventRecord.frame = stream.map EventRecord.frame := by
    rw [List.append_assoc]
    exact hlive
  refine ⟨fun _ => h.registered hst, fun _ => ?_, ?_, ?_, ?_, ?_⟩
  · simp only [delivered, hdel]
    exact hlive'
  · intro hread
    by_cases ht : r.terminal = true
    · simp [ht] at hread
    · simpa using ht
  · simp only [delivered, hdel]
    exact ⟨_, hlive'⟩
  · intro he f hf
    simp only [delivered, hdel, List.mem_append, List.mem_singleton] at hf
    rcases hf with hf | rfl
    · exact hopen f hf
    · exact he
  · intro he
    exact ⟨s.delivered, r.frame, by simp only [delivered, hdel], hopen, he⟩

theorem Inv.heartbeat (h : Inv stream listening s) {now : Time} (hr : s.heartbeat now = some s') :
    Inv stream listening s' := by
  unfold Session.heartbeat at hr
  split at hr
  case h_2 => cases hr
  rename_i hst
  cases hr
  have hdel : ∀ d, (s.received ++ [Frame.ping d]).filter (fun f => !f.isPing) = s.delivered := fun d => by
    simp [delivered, Frame.isPing]
  exact ⟨h.registered, fun hs => by simpa only [delivered, hdel] using h.live hs, h.running,
    by simpa only [delivered, hdel] using h.sofar, by simpa only [delivered, hdel] using h.undone,
    by simpa only [delivered, hdel] using h.done⟩

/-- What a client that stops reading keeps. -/
theorem Inv.stop (h : Inv stream listening s) {st : Status} (hst : st ≠ .reading) :
    Inv stream listening { s with status := st } where
  registered hs := absurd hs hst
  live hs := absurd hs hst
  running hs := absurd hs hst
  sofar := h.sofar
  undone := h.undone
  done := h.done

theorem Inv.disconnect (h : Inv stream listening s) (hr : s.disconnect = some s') :
    Inv stream listening s' := by
  unfold Session.disconnect at hr
  split at hr <;> cases hr
  exact h.stop (by simp)

theorem Inv.close (h : Inv stream listening s) (hr : s.close = some s') :
    Inv stream listening s' := by
  unfold Session.close at hr
  split at hr <;> cases hr
  exact h.stop (by simp)

/-- Only a reading client depends on its registration. -/
theorem Inv.mono {listening' : Prop} (h : Inv stream listening s)
    (hl : s.status = .reading → listening → listening') : Inv stream listening' s where
  registered hs := hl hs (h.registered hs)
  live := h.live
  running := h.running
  sofar := h.sofar
  undone := h.undone
  done := h.done

/-! A client's own steps keep its incident and its invariant. -/

/-- What a step of a client's own keeps. -/
def Keeps (f : Session → Option Session) : Prop := ∀ s s', f s = some s' →
  s'.incidentId = s.incidentId ∧ s'.since = s.since ∧
    ∀ stream listening, s.Inv stream listening → s'.Inv stream listening

theorem read_keeps : Keeps Session.read := by
  intro s s' h
  have hid : s'.incidentId = s.incidentId ∧ s'.since = s.since := by
    unfold Session.read at h
    split at h <;> cases h
    exact ⟨rfl, rfl⟩
  exact ⟨hid.1, hid.2, fun _ _ hI => hI.read h⟩

theorem heartbeat_keeps {now : Time} : Keeps (Session.heartbeat now) := by
  intro s s' h
  have hid : s'.incidentId = s.incidentId ∧ s'.since = s.since := by
    unfold Session.heartbeat at h
    split at h <;> cases h
    exact ⟨rfl, rfl⟩
  exact ⟨hid.1, hid.2, fun _ _ hI => hI.heartbeat h⟩

theorem disconnect_keeps : Keeps Session.disconnect := by
  intro s s' h
  have hid : s'.incidentId = s.incidentId ∧ s'.since = s.since := by
    unfold Session.disconnect at h
    split at h <;> cases h
    exact ⟨rfl, rfl⟩
  exact ⟨hid.1, hid.2, fun _ _ hI => hI.disconnect h⟩

theorem close_keeps : Keeps Session.close := by
  intro s s' h
  have hid : s'.incidentId = s.incidentId ∧ s'.since = s.since := by
    unfold Session.close at h
    split at h <;> cases h
    exact ⟨rfl, rfl⟩
  exact ⟨hid.1, hid.2, fun _ _ hI => hI.close h⟩

theorem status_close (hr : s.close = some s') : s'.status ≠ .reading := by
  unfold Session.close at hr
  split at hr <;> cases hr
  simp

theorem Inv.prefix_cut (h : Inv stream listening s) :
    s.delivered <+: (Feed.cutAfter EventRecord.terminal stream).map EventRecord.frame := by
  have hcut := Feed.cutAfter_map EventRecord.frame Frame.terminal stream
  have hp : Frame.terminal ∘ EventRecord.frame = EventRecord.terminal := rfl
  rw [← hp, ← hcut]
  obtain ⟨rest, hrest⟩ := h.sofar
  rw [← hrest]
  cases he : s.ended with
  | false => exact Feed.prefix_cutAfter (h.undone he)
  | true =>
    obtain ⟨fs, f, hd, hfs, hf⟩ := h.done he
    have hend : Feed.cutAfter Frame.terminal (s.delivered ++ rest) = s.delivered := by
      rw [hd, List.append_assoc, List.singleton_append, Feed.cutAfter_append_cons hfs hf]
    exact ⟨[], (List.append_nil _).trans hend.symm⟩

/-- Nothing is missing for a client that has emptied its queue, or whose stream ended. -/
theorem Inv.eq_cut (h : Inv stream listening s)
    (hs : s.ended = true ∨ s.status = .reading ∧ s.queue = []) :
    s.delivered = (Feed.cutAfter EventRecord.terminal stream).map EventRecord.frame := by
  have hp : Frame.terminal ∘ EventRecord.frame = EventRecord.terminal := rfl
  rw [← hp, ← Feed.cutAfter_map]
  rcases hs with he | ⟨hst, hq⟩
  · obtain ⟨rest, hrest⟩ := h.sofar
    obtain ⟨fs, f, hd, hfs, hf⟩ := h.done he
    rw [← hrest, hd, List.append_assoc, List.singleton_append, Feed.cutAfter_append_cons hfs hf]
  · have hlive := h.live hst
    rw [hq, List.map_nil, List.append_nil] at hlive
    rw [← hlive, Feed.cutAfter_of_none (h.undone (h.running hst))]

/-- A client that is owed a termination event does not wait for more once it has read everything. -/
theorem Inv.not_waiting (h : Inv stream listening s) (hterm : ∃ r ∈ stream, r.terminal = true)
    (hq : s.queue = []) : s.status ≠ .reading := by
  intro hst
  obtain ⟨r, hr, ht⟩ := hterm
  have hlive := h.live hst
  rw [hq, List.map_nil, List.append_nil] at hlive
  have hmem : r.frame ∈ s.delivered := hlive ▸ List.mem_map_of_mem hr
  have := h.undone (h.running hst) _ hmem
  rw [EventRecord.terminal_frame, ht] at this
  cases this

end Session

namespace EventBroker

variable (b : EventBroker) (i j : String)

@[simp] theorem listeners_publish (r : EventRecord) :
    (b.publish i r).1.listeners j = b.listeners j := by
  simp only [publish, listeners, Dict.getD_set]
  split
  · rename_i h
    rw [h]
  · rfl

@[simp] theorem replay_publish (r : EventRecord) : (b.publish i r).1.replay j =
    if i = j then Feed.pushBounded b.historyBufferSize (b.replay i) r else b.replay j := by
  simp [publish, replay]

@[simp] theorem listeners_register (k : Nat) : (b.register i k).listeners j =
    if i = j then b.listeners i ++ [k] else b.listeners j := by
  simp [register, listeners]

@[simp] theorem listeners_unsubscribe (k : Nat) : (b.unsubscribe i k).listeners j =
    if i = j then (b.listeners i).erase k else b.listeners j := by
  simp only [unsubscribe, listeners]
  by_cases he : ((b.subscribers.getD i []).erase k).isEmpty
  · simp [List.isEmpty_iff.1 he]
  · simp [he]

end EventBroker

/-- Fan-out over distinct queues touches each of them once. -/
theorem getElem?_foldl_modify {α : Type} (f : α → α) {ks : List Nat} (hk : ks.Nodup) (l : List α)
    (j : Nat) :
    (ks.foldl (fun l k => l.modify k f) l)[j]? = if j ∈ ks then l[j]?.map f else l[j]? := by
  induction ks generalizing l with
  | nil => simp
  | cons k ks ih =>
    obtain ⟨hnot, hk⟩ := List.nodup_cons.1 hk
    rw [List.foldl_cons, ih hk, List.getElem?_modify]
    by_cases hj : k = j
    · subst hj
      simp [hnot]
    · have hj' : ¬ j = k := fun he => hj he.symm
      simp [hj, hj']

theorem length_foldl_modify {α : Type} (f : α → α) (ks : List Nat) (l : List α) :
    (ks.foldl (fun l k => l.modify k f) l).length = l.length := by
  induction ks generalizing l with
  | nil => rfl
  | cons k ks ih => rw [List.foldl_cons, ih, List.length_modify]

namespace Hub

variable {n : Nat} {h h' : Hub}

/-- What a client is owed, the cut aside: the events of its incident from `n` before its
registration on. -/
def stream (h : Hub) (n : Nat) (s : Session) : List EventRecord :=
  (h.eventsOf s.incidentId).drop (s.since - n)

structure Inv (n : Nat) (h : Hub) : Prop where
  size : h.broker.historyBufferSize = n
  history : ∀ i, h.broker.replay i = (h.eventsOf i).drop ((h.eventsOf i).length - n)
  nodup : ∀ i, (h.broker.listeners i).Nodup
  owner : ∀ i, ∀ k ∈ h.broker.listeners i, ∃ s, h.sessions[k]? = some s ∧ s.incidentId = i
  since : ∀ (k : Nat) s, h.sessions[k]? = some s → s.since ≤ (h.eventsOf s.incidentId).length
  session : ∀ (k : Nat) s, h.sessions[k]? = some s →
    s.Inv (h.stream n s) (k ∈ h.broker.listeners s.incidentId)

/-- What a step can do: publish, start a generator, let a generator take a step of its own, or
take a closed one off the broker. -/
inductive Move : Hub → Label → Hub → Prop
  | publish {h : Hub} (i ev : String) (data : Json) (now : Time) :
      Move h (.publish i ev data now) (h.publish i { event := ev, data := data, timestamp := now.isoformat })
  | subscribe {h : Hub} (i : String) : Move h (.subscribe i) (h.subscribe i)
  | session {h : Hub} {l k f s s'} (hf : Session.Keeps f) (hev : ∀ i, l.event? i = none) (hj : l.joins = false)
      (hs : h.sessions[k]? = some s) (hfs : f s = some s') :
      Move h l { h with sessions := h.sessions.set k s' }
  | leave {h : Hub} {k s s'} (hs : h.sessions[k]? = some s) (hfs : s.close = some s') :
      Move h (.leave k)
        { h with sessions := h.sessions.set k s', broker := h.broker.unsubscribe s.incidentId k }

theorem of_onSession {k : Nat} {f : Session → Option Session} (hst : h.onSession k f = some h') :
    ∃ s s', h.sessions[k]? = some s ∧ f s = some s' ∧ h' = { h with sessions := h.sessions.set k s' } := by
  simp only [onSession, Option.bind_eq_bind, Option.bind_eq_some_iff] at hst
  obtain ⟨s, hs, s', hfs, hh⟩ := hst
  exact ⟨s, s', hs, hfs, (Option.some.inj hh).symm⟩

theorem move_of_step {l : Label} (hst : h.step l = some h') : Move h l h' := by
  cases l with
  | publish i ev data now =>
    cases hst
    exact .publish i ev data now
  | subscribe i =>
    cases hst
    exact .subscribe i
  | read k =>
    obtain ⟨s, s', hs, hfs, rfl⟩ := of_onSession hst
    exact .session Session.read_keeps (fun _ => rfl) rfl hs hfs
  | heartbeat k now =>
    obtain ⟨s, s', hs, hfs, rfl⟩ := of_onSession hst
    exact .session Session.heartbeat_keeps (fun _ => rfl) rfl hs hfs
  | disconnect k =>
    obtain ⟨s, s', hs, hfs, rfl⟩ := of_onSession hst
    exact .session Session.disconnect_keeps (fun _ => rfl) rfl hs hfs
  | leave k =>
    simp only [step, leave, Option.bind_eq_bind, Option.bind_eq_some_iff] at hst
    obtain ⟨s, hs, g, hg, hh⟩ := hst
    cases hh
    obtain ⟨s₁, s', hs₁, hclose, rfl⟩ := of_onSession hg
    obtain rfl : s = s₁ := Option.some.inj (hs.symm.trans hs₁)
    exact .leave hs hclose

theorem inv_init (n : Nat) : Inv n (init n) := by
  refine ⟨rfl, fun i => ?_, fun i => ?_, fun i k hk => ?_, fun k s hs => ?_, fun k s hs => ?_⟩
  · simp [init, eventsOf, EventBroker.replay]
  · simp [init, EventBroker.listeners]
  · simp [init, EventBroker.listeners] at hk
  · simp [init] at hs
  · simp [init] at hs

/-! ## Publishing -/

theorem eventsOf_publish (h : Hub) (i j : String) (r : EventRecord) : (h.publish i r).eventsOf j =
    if i = j then h.eventsOf j ++ [r] else h.eventsOf j := by
  simp only [publish, eventsOf, List.filter_append, List.map_append]
  split
  · rename_i hij
    simp [hij]
  · rename_i hij
    simp [hij]

theorem length_eventsOf_publish (h : Hub) (i j : String) (r : EventRecord) :
    (h.eventsOf j).length ≤ ((h.publish i r).eventsOf j).length := by
  rw [eventsOf_publish]
  split <;> simp

theorem inv_publish (hI : Inv n h) (i : String) (r : EventRecord) : Inv n (h.publish i r) := by
  have hsess : ∀ k, (h.publish i r).sessions[k]? =
      if k ∈ h.broker.listeners i then h.sessions[k]?.map (Session.put r) else h.sessions[k]? := fun k =>
    getElem?_foldl_modify (Session.put r) (hI.nodup i) h.sessions k
  have hlisten : ∀ j, (h.publish i r).broker.listeners j = h.broker.listeners j := fun j =>
    h.broker.listeners_publish i j r
  refine ⟨hI.size, fun j => ?_, fun j => ?_, fun j k hk => ?_, fun k s hs => ?_, fun k s hs => ?_⟩
  · have hre : (h.publish i r).broker.replay j = _ := h.broker.replay_publish i j r
    rw [hre, eventsOf_publish]
    split
    · rename_i hij
      subst hij
      rw [hI.size, hI.history i]
      exact Feed.pushBounded_drop n (h.eventsOf i) r
    · exact hI.history j
  · rw [hlisten]
    exact hI.nodup j
  · rw [hlisten] at hk
    obtain ⟨s, hs, hi⟩ := hI.owner j k hk
    rw [hsess, hs]
    split
    · exact ⟨s.put r, rfl, hi⟩
    · exact ⟨s, rfl, hi⟩
  · rw [hsess] at hs
    split at hs
    · obtain ⟨t, ht, rfl⟩ := Option.map_eq_some_iff.1 hs
      exact Nat.le_trans (hI.since k t ht) (length_eventsOf_publish h i _ r)
    · exact Nat.le_trans (hI.since k s hs) (length_eventsOf_publish h i _ r)
  · rw [hsess] at hs
    rw [hlisten]
    split at hs
    · -- the record is queued for this client, which is one of incident `i`
      rename_i hk
      obtain ⟨t, ht, rfl⟩ := Option.map_eq_some_iff.1 hs
      obtain ⟨t', ht', hi⟩ := hI.owner i k hk
      obtain rfl : t = t' := Option.some.inj (ht.symm.trans ht')
      have hstream : (h.publish i r).stream n (t.put r) = h.stream n t ++ [r] := by
        have hle := hI.since k t ht
        simp only [stream, Session.put, eventsOf_publish, hi, if_true]
        rw [hi] at hle
        exact List.drop_append_of_le_length (by omega)
      rw [hstream]
      exact (hI.session k t ht).put r
    · rename_i hk
      by_cases hi : i = s.incidentId
      · -- a client of `i` that is not registered any more
        have hle := hI.since k s hs
        have hstream : (h.publish i r).stream n s = h.stream n s ++ [r] := by
          simp only [stream, eventsOf_publish, hi, if_true]
          exact List.drop_append_of_le_length (by omega)
        rw [hstream]
        exact (hI.session k s hs).miss (hi ▸ hk) r
      · have hstream : (h.publish i r).stream n s = h.stream n s := by
          simp only [stream, eventsOf_publish, hi, if_false]
        rw [hstream]
        exact hI.session k s hs

/-! ## Joining -/

theorem inv_subscribe (hI : Inv n h) (i : String) : Inv n (h.subscribe i) := by
  have hnew : ∀ j, h.sessions.length ∉ h.broker.listeners j := fun j hk => by
    obtain ⟨s, hs, -⟩ := hI.owner j _ hk
    simp at hs
  have hlisten : ∀ j, (h.subscribe i).broker.listeners j =
      if i = j then h.broker.listeners i ++ [h.sessions.length] else h.broker.listeners j := fun j => by
    simp [subscribe]
  have hold : ∀ (k : Nat) s, h.sessions[k]? = some s → (h.subscribe i).sessions[k]? = some s := fun k s hs => by
    simp only [subscribe]
    rw [List.getElem?_append_left (List.getElem?_eq_some_iff.1 hs).1]
    exact hs
  have hcases : ∀ (k : Nat) s, (h.subscribe i).sessions[k]? = some s → h.sessions[k]? = some s ∨
      k = h.sessions.length ∧
        s = { incidentId := i, queue := h.broker.replay i, since := (h.eventsOf i).length } := by
    intro k s hs
    simp only [subscribe, List.getElem?_append] at hs
    split at hs
    · exact .inl hs
    · rename_i hk
      have hz : k - h.sessions.length = 0 := by
        have := (List.getElem?_eq_some_iff.1 hs).1
        simpa using this
      rw [hz] at hs
      exact .inr ⟨by omega, (Option.some.inj hs).symm⟩
  refine ⟨hI.size, hI.history, fun j => ?_, fun j k hk => ?_, fun k s hs => ?_, fun k s hs => ?_⟩
  · rw [hlisten]
    split
    · exact List.nodup_append.2 ⟨hI.nodup i, by simp, fun a ha b hb hab =>
        hnew i (List.mem_singleton.1 hb ▸ hab ▸ ha)⟩
    · exact hI.nodup j
  · rw [hlisten] at hk
    split at hk
    · rename_i hij
      rcases List.mem_append.1 hk with hk | hk
      · obtain ⟨s, hs, hi⟩ := hI.owner i k hk
        exact ⟨s, hold k s hs, hi.trans hij⟩
      · obtain rfl := List.mem_singleton.1 hk
        exact ⟨_, List.getElem?_concat_length, hij⟩
    · obtain ⟨s, hs, hi⟩ := hI.owner j k hk
      exact ⟨s, hold k s hs, hi⟩
  · rcases hcases k s hs with hs | ⟨-, rfl⟩
    · exact hI.since k s hs
    · exact Nat.le_refl _
  · rcases hcases k s hs with hs | ⟨rfl, rfl⟩
    · have hkeep : k ∈ (h.subscribe i).broker.listeners s.incidentId ↔ k ∈ h.broker.listeners s.incidentId := by
        have hk : k ≠ h.sessions.length := fun he => by simp [he] at hs
        rw [hlisten]
        split
        · rename_i hi
          simp [hk, hi]
        · exact Iff.rfl
      rw [hkeep]
      exact hI.session k s hs
    · -- the replayed history is exactly what the new client is owed so far
      have hrep : h.broker.replay i = (h.eventsOf i).drop ((h.eventsOf i).length - n) := hI.history i
      have hmem : h.sessions.length ∈ (h.subscribe i).broker.listeners i := by
        simp [hlisten]
      rw [hrep]
      exact Session.Inv.new i _ hmem

/-! ## The steps of a client -/

/-- A client's own step keeps the invariant when it keeps the client's; `hreg` says what the
step means for its registration. -/
theorem inv_setSession (hI : Inv n h) {k : Nat} {s s' : Session} (hs : h.sessions[k]? = some s)
    (hid : s'.incidentId = s.incidentId) (hsince : s'.since = s.since)
    (hs' : s'.Inv (h.stream n s) (k ∈ h.broker.listeners s.incidentId)) :
    Inv n { h with sessions := h.sessions.set k s' } := by
  have hlt : k < h.sessions.length := (List.getElem?_eq_some_iff.1 hs).1
  have hcases : ∀ (j : Nat) t, (h.sessions.set k s')[j]? = some t → j = k ∧ t = s' ∨ h.sessions[j]? = some t := by
    intro j t ht
    by_cases hj : k = j
    · subst hj
      rw [List.getElem?_set_self hlt] at ht
      exact .inl ⟨rfl, (Option.some.inj ht).symm⟩
    · rw [List.getElem?_set_ne hj] at ht
      exact .inr ht
  refine ⟨hI.size, hI.history, hI.nodup, fun j l hl => ?_, fun j t ht => ?_, fun j t ht => ?_⟩
  · obtain ⟨t, ht, hi⟩ := hI.owner j l hl
    by_cases hlk : l = k
    · subst hlk
      obtain rfl : t = s := Option.some.inj (ht.symm.trans hs)
      exact ⟨s', by simp [hlt], hid.trans hi⟩
    · refine ⟨t, ?_, hi⟩
      have hkl : ¬ k = l := fun he => hlk he.symm
      simpa [List.getElem?_set, hkl] using ht
  · rcases hcases j t ht with ⟨-, rfl⟩ | ht
    · rw [hid, hsince]
      exact hI.since k s hs
    · exact hI.since j t ht
  · rcases hcases j t ht with ⟨rfl, rfl⟩ | ht
    · have hstream : h.stream n t = h.stream n s := by simp only [stream, hid, hsince]
      rw [hid]
      exact hstream ▸ hs'
    · exact hI.session j t ht

theorem inv_unsubscribe (hI : Inv n h) {k : Nat} {s : Session} (hs : h.sessions[k]? = some s)
    (hst : s.status ≠ .reading) :
    Inv n { h with broker := h.broker.unsubscribe s.incidentId k } := by
  have hsub : ∀ j l, l ∈ (h.broker.unsubscribe s.incidentId k).listeners j → l ∈ h.broker.listeners j := by
    intro j l hl
    rw [EventBroker.listeners_unsubscribe] at hl
    split at hl
    · rename_i hj
      exact hj ▸ List.mem_of_mem_erase hl
    · exact hl
  refine ⟨hI.size, hI.history, fun j => ?_, fun j l hl => hI.owner j l (hsub j l hl), hI.since,
    fun j t ht => ?_⟩
  · simp only [EventBroker.listeners_unsubscribe]
    split
    · exact (hI.nodup _).erase k
    · exact hI.nodup j
  · refine (hI.session j t ht).mono fun hread hreg => ?_
    -- a reading client is not the one that leaves
    have hjk : j ≠ k := by
      rintro rfl
      exact hst (Option.some.inj (ht.symm.trans hs) ▸ hread)
    simp only [EventBroker.listeners_unsubscribe]
    split
    · rename_i hi
      exact (List.mem_erase_of_ne hjk).2 (hi ▸ hreg)
    · exact hreg

theorem inv_own (hI : Inv n h) {k : Nat} {f : Session → Option Session} {s s' : Session}
    (hf : Session.Keeps f) (hs : h.sessions[k]? = some s) (hfs : f s = some s') :
    Inv n { h with sessions := h.sessions.set k s' } := by
  obtain ⟨hid, hsince, hkeep⟩ := hf s s' hfs
  exact inv_setSession hI hs hid hsince (hkeep _ _ (hI.session k s hs))

theorem inv_step {l : Label} (hI : Inv n h) (hst : h.step l = some h') : Inv n h' := by
  cases move_of_step hst with
  | publish i ev data now => exact inv_publish hI i _
  | subscribe i => exact inv_subscribe hI i
  | session hf _ _ hs hfs => exact inv_own hI hf hs hfs
  | @leave k s s' hs hfs =>
    have hIg := inv_own hI Session.close_keeps hs hfs
    have hlt : k < h.sessions.length := (List.getElem?_eq_some_iff.1 hs).1
    have hs' : (h.sessions.set k s')[k]? = some s' := List.getElem?_set_self hlt
    rw [← (Session.close_keeps s s' hfs).1]
    exact inv_unsubscribe hIg hs' (Session.status_close hfs)

theorem inv_run {as : List Label} (hrun : Machine.run step (init n) as = some h) : Inv n h :=
  Machine.Reachable.invariant ⟨as, hrun⟩ (inv_init n) fun _ _ _ => inv_step

/-! ## The log and the clients along a run -/

theorem eventsOf_step {l : Label} (hst : h.step l = some h') (i : String) :
    h'.eventsOf i = h.eventsOf i ++ (l.event? i).toList := by
  cases move_of_step hst with
  | publish j ev data now =>
    rw [eventsOf_publish, Label.event?]
    split <;> simp
  | subscribe j => simp [subscribe, eventsOf, Label.event?]
  | session _ hev _ _ _ => simp [eventsOf, hev i]
  | leave _ _ => simp [eventsOf, Label.event?]

/-- A history changes only by what is published for its incident. -/
theorem replay_step {l : Label} (hst : h.step l = some h') {incidentId : String}
    (hl : l.event? incidentId = none) : h'.broker.replay incidentId = h.broker.replay incidentId := by
  cases move_of_step hst with
  | publish i ev data now =>
    have hne : ¬ i = incidentId := by
      intro heq
      simp [Label.event?, heq] at hl
    exact (EventBroker.replay_publish _ _ _ _).trans (by rw [if_neg hne])
  | subscribe i => rfl
  | session _ _ _ _ _ => rfl
  | leave _ _ => rfl

theorem eventsOf_run {as : List Label} (hrun : Machine.run step h as = some h') (i : String) :
    h'.eventsOf i = h.eventsOf i ++ as.filterMap (Label.event? i) := by
  refine Machine.run_induction
    (P := fun as g => g.eventsOf i = h.eventsOf i ++ as.filterMap (Label.event? i)) (by simp) ?_ as h' hrun
  intro as g a g' _ ih hst
  rw [eventsOf_step hst, ih, List.filterMap_append, List.append_assoc]
  cases ha : a.event? i <;> simp [ha]

/-- `k` stays the same client: its incident and the time it joined do not change. -/
def IsClient (k : Nat) (i : String) (since : Nat) (h : Hub) : Prop :=
  ∃ s, h.sessions[k]? = some s ∧ s.incidentId = i ∧ s.since = since

theorem isClient_set {k j : Nat} {i : String} {since : Nat} {f : Session → Option Session} {s s' : Session}
    (hf : Session.Keeps f) (hs : h.sessions[j]? = some s) (hfs : f s = some s') (hc : IsClient k i since h) :
    ∃ t, (h.sessions.set j s')[k]? = some t ∧ t.incidentId = i ∧ t.since = since := by
  obtain ⟨t, ht, hi, hn⟩ := hc
  by_cases hjk : j = k
  · subst hjk
    obtain rfl : t = s := Option.some.inj (ht.symm.trans hs)
    obtain ⟨hid, hsince, -⟩ := hf t s' hfs
    exact ⟨s', List.getElem?_set_self (List.getElem?_eq_some_iff.1 hs).1, hid.trans hi, hsince.trans hn⟩
  · exact ⟨t, (List.getElem?_set_ne hjk).trans ht, hi, hn⟩

theorem isClient_step {k : Nat} {i : String} {since : Nat} {l : Label} (hI : Inv n h)
    (hst : h.step l = some h') (hc : IsClient k i since h) : IsClient k i since h' := by
  cases move_of_step hst with
  | publish j ev data now =>
    obtain ⟨t, ht, hi, hn⟩ := hc
    have hsess := getElem?_foldl_modify
      (Session.put { event := ev, data := data, timestamp := now.isoformat }) (hI.nodup j) h.sessions k
    rw [ht] at hsess
    by_cases hk : k ∈ h.broker.listeners j
    · exact ⟨_, hsess.trans (if_pos hk), hi, hn⟩
    · exact ⟨t, hsess.trans (if_neg hk), hi, hn⟩
  | subscribe j =>
    obtain ⟨t, ht, hi, hn⟩ := hc
    exact ⟨t, (List.getElem?_append_left (List.getElem?_eq_some_iff.1 ht).1).trans ht, hi, hn⟩
  | session hf _ _ hs hfs => exact isClient_set hf hs hfs hc
  | leave hs hfs => exact isClient_set Session.close_keeps hs hfs hc

theorem isClient_run {k : Nat} {i : String} {since : Nat} {as : List Label} {g : Hub} (hI : Inv n g)
    (hrun : Machine.run step g as = some h) (hc : IsClient k i since g) : IsClient k i since h :=
  (Machine.Reachable.invariant (I := fun g => Inv n g ∧ IsClient k i since g) ⟨as, hrun⟩ ⟨hI, hc⟩
    fun _ _ _ ⟨hI, hc⟩ hst => ⟨inv_step hI hst, isClient_step hI hst hc⟩).2

theorem length_step {l : Label} (hst : h.step l = some h') :
    h'.sessions.length = h.sessions.length + ([l].filter Label.joins).length := by
  cases move_of_step hst with
  | publish j ev data now => exact length_foldl_modify _ _ _
  | subscribe j => simp [subscribe, List.filter_cons, Label.joins]
  | session _ _ hj _ _ => simp [hj]
  | leave _ _ => simp [Label.joins]

theorem length_run {as : List Label} (hrun : Machine.run step (init n) as = some h) :
    h.sessions.length = (as.filter Label.joins).length := by
  refine Machine.run_induction
    (P := fun as g => g.sessions.length = (as.filter Label.joins).length) rfl ?_ as h hrun
  intro as g a g' _ ih hst
  rw [length_step hst, ih, List.filter_append, List.length_append]

/-- A client of incident `i` registers after the labels `pre`; this is what it is owed after `post`. -/
theorem client_inv {n : Nat} {pre post : List Label} {i : String} {h : Hub}
    (hrun : Machine.run step (init n) (pre ++ .subscribe i :: post) = some h) :
    ∃ s listening, h.sessions[(pre.filter Label.joins).length]? = some s ∧
      s.Inv (((pre ++ post).filterMap (Label.event? i)).drop ((pre.filterMap (Label.event? i)).length - n))
        listening := by
  have hI := inv_run hrun
  have hall := eventsOf_run hrun i
  rw [Machine.run_append, Option.bind_eq_some_iff] at hrun
  obtain ⟨g, hpre, hpost⟩ := hrun
  have hIg := inv_run hpre
  have hjoin : IsClient g.sessions.length i (g.eventsOf i).length (g.subscribe i) :=
    ⟨_, List.getElem?_concat_length, rfl, rfl⟩
  obtain ⟨s, hs, hi, hsince⟩ := isClient_run (inv_subscribe hIg i) hpost hjoin
  have hstream : h.stream n s =
      ((pre ++ post).filterMap (Label.event? i)).drop ((pre.filterMap (Label.event? i)).length - n) := by
    have hg : g.eventsOf i = pre.filterMap (Label.event? i) := eventsOf_run hpre i
    have hE : h.eventsOf i = (pre ++ post).filterMap (Label.event? i) := by
      rw [hall, List.filterMap_append, List.filterMap_append]
      rfl
    rw [stream, hi, hsince, hE, hg]
  rw [length_run hpre] at hs
  exact ⟨s, _, hs, hstream ▸ hI.session _ s hs⟩

/-- **Exact event delivery.** A client of incident `i` registers after the labels `pre`; after
the labels `post`, with `E` the events published for `i` in the whole run, the frames it has
received, keepalives aside, are a prefix of what it is owed: the part of `E` from `n` events
before its registration on, cut after the first termination event. They are all of it when
the stream ended, or when the client is connected and its queue is drained. -/
theorem exact_delivery (n : Nat) (pre post : List Label) (i : String) (h : Hub)
    (hrun : Machine.run step (init n) (pre ++ .subscribe i :: post) = some h) :
    ∃ s, h.sessions[(pre.filter Label.joins).length]? = some s ∧
      let E := (pre ++ post).filterMap (Label.event? i)
      let owed := E.drop ((pre.filterMap (Label.event? i)).length - n)
      let frames := (Feed.cutAfter EventRecord.terminal owed).map EventRecord.frame
      s.delivered <+: frames ∧
        (s.ended = true ∨ s.status = .reading ∧ s.queue = [] → s.delivered = frames) := by
  obtain ⟨s, listening, hs, hI⟩ := client_inv hrun
  exact ⟨s, hs, hI.prefix_cut, hI.eq_cut⟩

/-- With one event of history, a client that joins after two events and reads twice. -/
theorem exact_delivery_late_join : ∃ h s,
    Machine.run step (init 1)
      [.publish "inc-1" "stage_change" (.obj []) ⟨0⟩, .publish "inc-1" "agent_thought" (.obj []) ⟨1⟩,
        .subscribe "inc-1", .read 0, .publish "inc-1" "resolved" (.obj []) ⟨2⟩, .read 0] = some h ∧
      h.sessions[0]? = some s ∧ s.ended = true ∧
      s.delivered = [.event "agent_thought" "\x7b\x7d", .event "resolved" "\x7b\x7d"] := by
  obtain ⟨s, hs, -, heq⟩ := exact_delivery 1
    [.publish "inc-1" "stage_change" (.obj []) ⟨0⟩, .publish "inc-1" "agent_thought" (.obj []) ⟨1⟩]
    [.read 0, .publish "inc-1" "resolved" (.obj []) ⟨2⟩, .read 0] "inc-1" _ rfl
  have hended : s.ended = true := by
    cases hs
    rfl
  exact ⟨_, s, rfl, hs, hended, heq (.inl hended)⟩

end Hub

end OpsPilot
