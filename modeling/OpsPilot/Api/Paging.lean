import OpsPilot.Api.Creation
import OpsPilot.Api.Reads
import OpsPilot.Lib.Paging
import OpsPilot.Lib.Ranking
/-!
# Listing the incidents page by page (`IncidentService.list_incidents`, incident_service.py:187)

The newest incident comes first, so an incident that is created between two requests moves all others
on, and a client sees some of them twice. It misses none: `list_incidents` filters and sorts rows that
no step of the service changes, apart from the stage, and a new incident only adds a row.

| here | there |
| --- | --- |
| `Row`                      | what `list_incidents` reads of an incident |
| `IncidentStore.service`    | the service, as far as its incidents go |
| `IncidentStore.Fresh`      | no function of the source: the id that is drawn is not in use |
-/
namespace OpsPilot

open Ranking Paging

/-! ## The page as a part of a ranking -/

structure Row where
  incidentId : String
  severity : Severity
  currentStage : IncidentStage
  affectedServices : List String
  createdAt : Time

def IncidentState.row (st : IncidentState) : Row where
  incidentId := st.incidentId
  severity := st.severity
  currentStage := st.currentStage
  affectedServices := st.affectedServices
  createdAt := st.createdAt

/-- What an incident and a response tell apart: the id, and the time of creation. -/
def Row.key (r : Row) : String × Time := (r.incidentId, r.createdAt)

def IncidentResponse.key (resp : IncidentResponse) : String × Time := (resp.id, resp.createdAt)

section
variable [Unicode] [UnicodeText]

def Row.matches (severity stage service : Option String) (r : Row) : Bool :=
  passes severity (fun f => Py.upper r.severity.name == Py.upper f) &&
    passes stage (fun f => Py.upper r.currentStage.name == Py.upper f) &&
    passes service fun f => (r.affectedServices.map UnicodeText.lower).contains (UnicodeText.lower f)

/-- The rows that match, newest first. -/
def newestFirst (severity stage service : Option String) (rows : List Row) : List Row :=
  rank (fun r => r.createdAt.micros) (rows.filter (Row.matches severity stage service))

end

theorem Py.slice_eq_page {α : Type} (l : List α) (limit offset : Nat) :
    Py.slice l offset (offset + limit) = page limit offset l := by
  have hbound : ∀ k : Nat, (min (if (k : Int) < 0 then (k : Int) + l.length else k) (l.length : Int)).toNat =
      min k l.length := by
    intro k
    rw [if_neg (Int.not_lt.2 (Int.natCast_nonneg k))]
    omega
  have hstop := hbound (offset + limit)
  rw [Int.natCast_add] at hstop
  simp only [Py.slice, hbound, hstop, page]
  refine List.ext_getElem? fun j => ?_
  rw [List.getElem?_drop, List.getElem?_take, List.getElem?_take, List.getElem?_drop]
  by_cases hj : offset + j < l.length
  · rw [Nat.min_eq_left (by omega : offset ≤ l.length)]
    by_cases hlimit : j < limit
    · rw [if_pos (by omega), if_pos hlimit]
    · rw [if_neg (by omega), if_neg hlimit]
  · have hnone : l[offset + j]? = none := List.getElem?_eq_none (by omega)
    rw [hnone, ite_self, ite_eq_right_iff]
    intro hlt
    omega

namespace Service

variable {V W : Type} [Unicode] [UnicodeText]

theorem row_listed (svc : Service V W) (severity stage service : Option String) (limit offset : Nat) :
    (svc.listed severity stage service limit offset).map IncidentState.row =
      page limit offset (newestFirst severity stage service (svc.incidents.map IncidentState.row)) := by
  rw [listed_eq, Py.slice_eq_page, map_page]
  refine congrArg (page limit offset) ?_
  rw [newestFirst, List.filter_map]
  exact map_rank (fun r : Row => r.createdAt.micros) IncidentState.row _

/-- The responses of a page are those of its rows. -/
theorem key_listIncidents (svc : Service V W) (severity stage service : Option String) (limit offset : Nat)
    (clock : Clock) :
    (svc.listIncidents severity stage service limit offset clock).map IncidentResponse.key =
      page limit offset
        ((newestFirst severity stage service (svc.incidents.map IncidentState.row)).map Row.key) := by
  rw [← map_page, ← row_listed, List.map_map, listIncidents, List.map_map]
  refine List.ext_getElem? fun k => ?_
  rw [List.getElem?_map, List.getElem?_map, List.getElem?_zipIdx, Option.map_map]
  rfl

end Service

/-! ## What changes between two requests -/

/-- A step of the coroutine changes no row, but for the stage. -/
theorem Investigation.row_step {W : Type} [Unicode] {policyEngine : RiskPolicyEngine} {s s' : Investigation W}
    {l : Label W} (hst : s.step policyEngine l = some s') :
    s'.incident.row = { s.incident.row with currentStage := s'.incident.currentStage } := by
  cases move_of_step hst with
  | effect now e effects he =>
    cases e with
    | merge f => cases f <;> rfl
    | publish eventType payload => rfl
    | stageChange n => rfl
  | exhausted hp hend =>
    unfold conclude
    split <;> rfl
  | accept sub incident resp hok =>
    obtain ⟨plan, action, hacc, -, -⟩ := IncidentState.submitApproval_ok hok
    show incident.row = { s.incident.row with currentStage := incident.currentStage }
    rw [hacc.filed]
    rfl
  | _ => rfl

theorem IncidentState.row_submitApproval [Unicode] {state state' : IncidentState} {sub : Submission}
    {resp : ApprovalRequestResponse} (hok : state.submitApproval sub = .ok (state', resp)) :
    state'.row = state.row := by
  obtain ⟨plan, action, hacc, -, -⟩ := submitApproval_ok hok
  rw [hacc.filed]
  rfl

namespace IncidentStore

variable {W : Type}

def service (store : IncidentStore W) : Service Unit W where
  objects := store.made.map fun c => Investigation.init c.state c.executionRunner
  table := store.incidents

/-- The rows of the entries, in the order of the entries. -/
def rowsOf (store : IncidentStore W) (entries : List (String × Nat)) : List Row :=
  entries.filterMap fun e => store.made[e.2]?.map fun c => c.state.row

def rows (store : IncidentStore W) : List Row := store.rowsOf store.incidents.entries

theorem row_incidents (store : IncidentStore W) : store.service.incidents.map IncidentState.row = store.rows := by
  rw [Service.incidents, List.map_filterMap]
  refine List.filterMap_congr fun e _ => ?_
  rw [service, List.getElem?_map, Option.map_map, Option.map_map]
  rfl

theorem id_eq_fst_key (seen : List IncidentResponse) :
    seen.map IncidentResponse.id = (seen.map IncidentResponse.key).map Prod.fst := by
  rw [List.map_map]
  rfl

/-- Every entry leads from an id to the incident that was made with it. -/
structure Named (store : IncidentStore W) : Prop where
  leads : ∀ incidentId (k : Nat), store.incidents.get? incidentId = some k →
    ∃ c : Creation W, store.made[k]? = some c ∧ c.incidentId = incidentId
  states : ∀ (k : Nat) (c : Creation W), store.made[k]? = some c → c.state.incidentId = c.incidentId

/-- The later store has the entries of the earlier one and possibly more; of an incident only the stage may differ. -/
structure Extends (store store' : IncidentStore W) : Prop where
  entries : store.incidents.entries <+: store'.incidents.entries
  rows : ∀ (k : Nat) (c : Creation W), store.made[k]? = some c →
    ∃ c' : Creation W, store'.made[k]? = some c' ∧ c'.incidentId = c.incidentId ∧
      c'.state.row = { c.state.row with currentStage := c'.state.currentStage }

theorem Extends.refl (store : IncidentStore W) : Extends store store :=
  ⟨List.prefix_rfl, fun _ c hk => ⟨c, hk, rfl, rfl⟩⟩

theorem Extends.trans {store store' store'' : IncidentStore W} (h : Extends store store')
    (h' : Extends store' store'') : Extends store store'' := by
  refine ⟨h.entries.trans h'.entries, ?_⟩
  intro k c hk
  obtain ⟨c', hk', hid', hrow'⟩ := h.rows k c hk
  obtain ⟨c'', hk'', hid'', hrow''⟩ := h'.rows k c' hk'
  exact ⟨c'', hk'', hid''.trans hid', by rw [hrow'', hrow']⟩

/-- The state of one incident is replaced by one that differs in its stage. -/
theorem extends_setState {store : IncidentStore W} {k : Nat} {found : Creation W} {state : IncidentState}
    (hk : store.made[k]? = some found)
    (hrow : state.row = { found.state.row with currentStage := state.currentStage }) :
    Extends store (store.setState k state) := by
  refine ⟨List.prefix_rfl, fun j c hj => ?_⟩
  rw [getElem?_setState]
  by_cases hkj : k = j
  · subst hkj
    cases hk.symm.trans hj
    exact ⟨{ found with state }, by rw [if_pos rfl, hk, Option.map_some], rfl, hrow⟩
  · exact ⟨c, by rw [if_neg hkj, hj], rfl, rfl⟩

theorem extends_setRunning (store : IncidentStore W) (i k : Nat) (inv : Investigation W) :
    Extends store (store.setRunning i k inv) := by
  refine ⟨List.prefix_rfl, fun j c hj => ?_⟩
  rw [getElem?_setRunning]
  by_cases hij : i = j
  · exact ⟨{ c with running := some (k, inv) }, by rw [if_pos hij, hj, Option.map_some], rfl, rfl⟩
  · exact ⟨c, by rw [if_neg hij, hj], rfl, rfl⟩

/-- What a task works on is an incident of the store. -/
theorem found_of_investigated {store : IncidentStore W} {c : Creation W} {k : Nat} {inv : Investigation W}
    (hinv : store.investigated c = some (k, inv)) :
    ∃ found, store.made[k]? = some found ∧ inv.incident = found.state := by
  unfold investigated at hinv
  split at hinv
  · obtain ⟨found, hfound, heq⟩ := Option.map_eq_some_iff.1 hinv
    cases heq
    exact ⟨found, hfound, rfl⟩
  · obtain ⟨⟨k', state⟩, hfind, heq⟩ := Option.map_eq_some_iff.1 hinv
    cases heq
    obtain ⟨-, found, hfound, hstate⟩ := found_of_find hfind
    exact ⟨found, hfound, hstate.symm⟩

theorem named_init : Named ({} : IncidentStore W) := by
  refine ⟨?_, ?_⟩
  · intro incidentId k hget
    cases hget
  · intro k c hk
    simp at hk

/-- The id that a call draws, if it draws one, is not that of an incident. -/
def Fresh (store : IncidentStore W) (label : Label W) : Prop :=
  ∀ incidentId, label.drawn = some incidentId → store.incidents.get? incidentId = none

section
variable [Unicode] {policyEngine : RiskPolicyEngine} {store store' : IncidentStore W} {label : Label W}

/-- A step that makes no incident. -/
theorem extends_move_of_not_drawn (hm : Move policyEngine store label store') (hdrawn : label.drawn = none) :
    Extends store store' ∧ store'.incidents = store.incidents := by
  cases hm with
  | created label c hdrawn' hid hnew => cases hdrawn.symm.trans hdrawn'
  | worked i k l c inv inv' hi hinv hst =>
    obtain ⟨found, hfound, hstate⟩ := found_of_investigated hinv
    have hrow := Investigation.row_step hst
    rw [hstate] at hrow
    exact ⟨(extends_setState hfound hrow).trans (extends_setRunning _ i k inv'), rfl⟩
  | approved incidentId sub k state state' resp hfind hok =>
    obtain ⟨-, found, hfound, rfl⟩ := found_of_find hfind
    have hrow := IncidentState.row_submitApproval hok
    refine ⟨extends_setState hfound ?_, rfl⟩
    rw [← hrow]
    rfl
  | ignored label hdrawn' => exact ⟨.refl store, rfl⟩

theorem named_move (h : Named store) (hm : Move policyEngine store label store') : Named store' := by
  cases hdrawn : label.drawn with
  | none =>
    obtain ⟨hext, hincidents⟩ := extends_move_of_not_drawn hm hdrawn
    have hids := ids_move hm
    rw [hdrawn, Option.toList_none, List.append_nil] at hids
    refine ⟨?_, ?_⟩
    · intro incidentId k hget
      rw [hincidents] at hget
      obtain ⟨c, hk, hid⟩ := h.leads incidentId k hget
      obtain ⟨c', hk', hid', -⟩ := hext.rows k c hk
      exact ⟨c', hk', hid'.trans hid⟩
    · intro k c' hk'
      obtain ⟨c, hk, -⟩ : ∃ c, store.made[k]? = some c ∧ c.incidentId = c'.incidentId := by
        rw [← Option.map_eq_some_iff, ← List.getElem?_map]
        show store.ids[k]? = some c'.incidentId
        rw [← hids, ids, List.getElem?_map, hk', Option.map_some]
      obtain ⟨c'', hk'', hid'', hrow⟩ := hext.rows k c hk
      cases hk'.symm.trans hk''
      have hsame : c'.state.incidentId = c.state.incidentId := congrArg Row.incidentId hrow
      rw [hsame, h.states k c hk, hid'']
  | some drawn =>
    cases hm with
    | created label c hdrawn' hid hnew =>
      refine ⟨?_, ?_⟩
      · intro incidentId k hget
        rw [Dict.get?_set] at hget
        split at hget
        · rename_i heq
          cases hget
          exact ⟨c, List.getElem?_concat_length, heq⟩
        · obtain ⟨c', hk, hid'⟩ := h.leads incidentId k hget
          exact ⟨c', by rw [List.getElem?_append_left (List.getElem?_eq_some_iff.1 hk).1]; exact hk, hid'⟩
      · intro k c' hk
        rw [List.getElem?_append] at hk
        split at hk
        · exact h.states k c' hk
        · obtain rfl := List.mem_singleton.1 (List.mem_of_getElem? hk)
          exact hid
    | worked i k l c inv inv' hi hinv hst => cases hdrawn
    | approved incidentId sub k state state' resp hfind hok => cases hdrawn
    | ignored label hdrawn' => exact h

theorem named_run {as : List (Label W)} (h : Named store)
    (hrun : Machine.run (step policyEngine) store as = some store') : Named store' :=
  Machine.Reachable.invariant ⟨as, hrun⟩ h fun _ _ _ hnamed hst => named_move hnamed (move_of_step hst)

theorem extends_move (hm : Move policyEngine store label store') (hfresh : Fresh store label) :
    Extends store store' := by
  cases hdrawn : label.drawn with
  | none => exact (extends_move_of_not_drawn hm hdrawn).1
  | some drawn =>
    cases hm with
    | created label c hdrawn' hid hnew =>
      refine ⟨?_, ?_⟩
      · have hkey : c.incidentId ∉ store.incidents.entries.map Prod.fst := by
          intro hmem
          obtain ⟨e, he, hfst⟩ := List.mem_map.1 hmem
          have hget : store.incidents.get? e.1 = some e.2 := Dict.look_of_mem store.incidents.nodup he
          rw [hfst, hfresh c.incidentId hdrawn'] at hget
          cases hget
        show _ <+: Dict.put c.incidentId store.made.length store.incidents.entries
        rw [Dict.put_of_notMem _ hkey]
        exact List.prefix_append _ _
      · intro k c' hk
        exact ⟨c', by rw [List.getElem?_append_left (List.getElem?_eq_some_iff.1 hk).1]; exact hk, rfl, rfl⟩
    | worked i k l c inv inv' hi hinv hst => cases hdrawn
    | approved incidentId sub k state state' resp hfind hok => cases hdrawn
    | ignored label hdrawn' => exact .refl store

theorem extends_run {as : List (Label W)} (hrun : Machine.run (step policyEngine) store as = some store')
    (hfresh : Machine.Along (step policyEngine) Fresh store as) : Extends store store' := by
  refine Machine.run_induction_along (P := fun _ store' => Extends store store') (.refl store) ?_ as store' hrun hfresh
  intro as store' label store'' _ ih hfresh hst
  exact ih.trans (extends_move (move_of_step hst) hfresh)

theorem incidents_run {as : List (Label W)} (hrun : Machine.run (step policyEngine) store as = some store')
    (hnone : ∀ label ∈ as, label.drawn = none) : store'.incidents = store.incidents := by
  refine Machine.run_induction
    (P := fun as store' => (∀ label ∈ as, label.drawn = none) → store'.incidents = store.incidents)
    (fun _ => rfl) ?_ as store' hrun hnone
  intro as store' label store'' _ ih hst hnone
  rw [(extends_move_of_not_drawn (move_of_step hst) (hnone label (by simp))).2]
  exact ih fun label hmem => hnone label (List.mem_append_left _ hmem)

end

/-! ## The rows of a session -/

section
variable {store store' : IncidentStore W}

/-- No incident of the earlier store has another stage in the later one. -/
def SameStages (store store' : IncidentStore W) : Prop :=
  ∀ incidentId k st k' st', store.find incidentId = some (k, st) → store'.find incidentId = some (k', st') →
    st'.currentStage = st.currentStage

theorem find_of_mem {e : String × Nat} (he : e ∈ store.incidents.entries) {c : Creation W}
    (hk : store.made[e.2]? = some c) : store.find e.1 = some (e.2, c.state) := by
  have hget : store.incidents.get? e.1 = some e.2 := Dict.look_of_mem store.incidents.nodup he
  rw [find, hget, Option.bind_some, hk, Option.map_some]

theorem Named.exists_of_mem (h : Named store) {e : String × Nat} (he : e ∈ store.incidents.entries) :
    ∃ c, store.made[e.2]? = some c ∧ c.state.incidentId = e.1 := by
  obtain ⟨c, hk, hid⟩ := h.leads e.1 e.2 (Dict.look_of_mem store.incidents.nodup he)
  exact ⟨c, hk, (h.states e.2 c hk).trans hid⟩

/-- The entries of the earlier store have the same rows in the later one. -/
theorem rowsOf_of_extends (hnamed : Named store) (hext : Extends store store') (hstages : SameStages store store') :
    store'.rowsOf store.incidents.entries = store.rows := by
  refine List.filterMap_congr fun e he => ?_
  obtain ⟨c, hk, -⟩ := hnamed.exists_of_mem he
  obtain ⟨c', hk', -, hrow⟩ := hext.rows e.2 c hk
  have hstage := hstages e.1 e.2 c.state e.2 c'.state (find_of_mem he hk)
    (find_of_mem (hext.entries.subset he) hk')
  rw [hstage] at hrow
  rw [hk, hk', Option.map_some, Option.map_some, hrow]
  rfl

theorem rows_extend (hnamed : Named store) (hext : Extends store store') (hstages : SameStages store store') :
    store.rows <+: store'.rows := by
  obtain ⟨new, hnew⟩ := hext.entries
  refine ⟨store'.rowsOf new, ?_⟩
  rw [← rowsOf_of_extends hnamed hext hstages, rows, ← hnew, rowsOf, rowsOf, rowsOf, List.filterMap_append]

/-- If nothing is created the rows stay as they are. -/
theorem rows_eq (hnamed : Named store) (hext : Extends store store') (hstages : SameStages store store')
    (hincidents : store'.incidents = store.incidents) : store'.rows = store.rows := by
  rw [rows, hincidents, rowsOf_of_extends hnamed hext hstages]

theorem incidentId_rows (h : Named store) : store.rows.map Row.incidentId = store.incidents.entries.map Prod.fst := by
  rw [rows, rowsOf, List.map_filterMap, ← List.filterMap_eq_map]
  refine List.filterMap_congr fun e he => ?_
  obtain ⟨c, hk, hid⟩ := h.exists_of_mem he
  rw [hk, Option.map_some, Option.map_some, Function.comp_apply, ← hid]
  rfl

variable [Unicode] [UnicodeText]

/-- The keys of the rows that match, newest first: what a client would see if it read them at once. -/
def listing (severity stage service : Option String) (store : IncidentStore W) : List (String × Time) :=
  (newestFirst severity stage service store.rows).map Row.key

theorem listing_sublist (hrows : store.rows <+: store'.rows) (severity stage service : Option String) :
    (listing severity stage service store).Sublist (listing severity stage service store') :=
  (rank_sublist (hrows.sublist.filter _)).map _

/-- Each matching incident has a key of its own, and the keys are in the order of their times. -/
theorem listing_spec (h : Named store) (severity stage service : Option String) :
    ((listing severity stage service store).map Prod.fst).Nodup ∧
      (listing severity stage service store).Pairwise (fun a b => b.2.micros ≤ a.2.micros) ∧
      ∀ key, key ∈ listing severity stage service store ↔
        ∃ st ∈ store.service.incidents, st.row.matches severity stage service = true ∧ st.row.key = key := by
  have hperm := rank_perm (fun r : Row => r.createdAt.micros)
    (store.rows.filter (Row.matches severity stage service))
  refine ⟨?_, ?_, ?_⟩
  · have hids : ((listing severity stage service store).map Prod.fst).Perm
        ((store.rows.filter (Row.matches severity stage service)).map Row.incidentId) := by
      rw [listing, List.map_map]
      exact hperm.map _
    refine hids.nodup_iff.2 (List.Nodup.sublist (List.filter_sublist.map _) ?_)
    rw [incidentId_rows h]
    exact store.incidents.nodup
  · rw [listing, List.pairwise_map]
    exact pairwise_rank _ _
  · intro key
    rw [listing, List.mem_map, ← row_incidents]
    constructor
    · rintro ⟨r, hr, rfl⟩
      obtain ⟨hmem, hmatches⟩ := List.mem_filter.1 (hperm.mem_iff.1 (row_incidents store ▸ hr))
      rw [← row_incidents] at hmem
      obtain ⟨st, hst, rfl⟩ := List.mem_map.1 hmem
      exact ⟨st, hst, hmatches, rfl⟩
    · rintro ⟨st, hst, hmatches, rfl⟩
      have hmem : st.row ∈ store.rows := by
        rw [← row_incidents]
        exact List.mem_map_of_mem hst
      refine ⟨st.row, ?_, rfl⟩
      rw [row_incidents]
      exact hperm.mem_iff.2 (List.mem_filter.2 ⟨hmem, hmatches⟩)

/-- What a client gets that asks for the `i`-th page, where `stores i` is the store at that time. -/
def request (severity stage service : Option String) (limit : Nat) (stores : Nat → IncidentStore W)
    (clock : Nat → Clock) (i : Nat) : List IncidentResponse :=
  (stores i).service.listIncidents severity stage service limit ((i * limit : Nat) : Int) (clock i)

theorem answers_request (severity stage service : Option String) (limit : Nat) (stores : Nat → IncidentStore W)
    (clock : Nat → Clock) :
    Answers limit (request severity stage service limit stores clock) IncidentResponse.key
      fun i => listing severity stage service (stores i) := by
  intro i
  rw [request, Service.key_listIncidents, row_incidents]
  rfl

/-- **Paging loses nothing** as long as no id is drawn that is in use: whatever happens between the requests
of a client, short of a change of a stage, it has seen every incident that matched at first when it stops.
It stops once nothing is created any more, and if nothing is created at all it sees the matching incidents
once each, the newest first. -/
theorem paging_complete {policyEngine : RiskPolicyEngine} (severity stage service : Option String) (limit : Nat)
    (hlimit : 1 ≤ limit) (before : List (Label W)) (stores : Nat → IncidentStore W) (gaps : Nat → List (Label W))
    (clock : Nat → Clock) (hstart : Machine.run (step policyEngine) {} before = some (stores 0))
    (hgaps : ∀ i, Machine.run (step policyEngine) (stores i) (gaps i) = some (stores (i + 1)))
    (hstages : ∀ i, SameStages (stores i) (stores (i + 1)))
    (hfresh : ∀ i, Machine.Along (step policyEngine) Fresh (stores i) (gaps i)) :
    let request := request severity stage service limit stores clock
    let Matching (st : IncidentState) : Prop :=
      st ∈ (stores 0).service.incidents ∧ st.row.matches severity stage service = true
    (∀ fuel seen, session limit request fuel 0 = some seen →
      ∀ st, Matching st → ∃ resp ∈ seen, resp.id = st.incidentId) ∧
    (∀ N, (∀ i, N ≤ i → ∀ label ∈ gaps i, label.drawn = none) →
      ∃ fuel seen, session limit request fuel 0 = some seen) ∧
    ((∀ i, ∀ label ∈ gaps i, label.drawn = none) → ∀ fuel seen, session limit request fuel 0 = some seen →
      (seen.map IncidentResponse.id).Nodup ∧
      seen.Pairwise (fun a b => b.createdAt.micros ≤ a.createdAt.micros) ∧
      ∀ id, id ∈ seen.map IncidentResponse.id ↔ ∃ st, Matching st ∧ st.incidentId = id) := by
  intro request Matching
  have hnamed : ∀ i, Named (stores i) := by
    intro i
    induction i with
    | zero => exact named_run named_init hstart
    | succ i ih => exact named_run ih (hgaps i)
  have hext : ∀ i, Extends (stores i) (stores (i + 1)) := fun i => extends_run (hgaps i) (hfresh i)
  have hanswers := answers_request severity stage service limit stores clock
  have hgrow : ∀ i, (listing severity stage service (stores i)).Sublist
      (listing severity stage service (stores (i + 1))) :=
    fun i => listing_sublist (rows_extend (hnamed i) (hext i) (hstages i)) severity stage service
  have hstill : ∀ N, (∀ i, N ≤ i → ∀ label ∈ gaps i, label.drawn = none) → ∀ i, N ≤ i →
      listing severity stage service (stores i) = listing severity stage service (stores N) := by
    intro N hnone i hi
    induction i, hi using Nat.le_induction with
    | base => rfl
    | succ i hi ih =>
      have hincidents := incidents_run (hgaps i) (hnone i hi)
      rw [← ih, listing, listing, rows_eq (hnamed i) (hext i) (hstages i) hincidents]
  obtain ⟨hnodup, hordered, hmem⟩ := listing_spec (hnamed 0) severity stage service
  refine ⟨?_, ?_, ?_⟩
  · rintro fuel seen hsession st ⟨hst, hmatches⟩
    have hkey : st.row.key ∈ seen.map IncidentResponse.key := by
      refine mem_session hanswers hgrow hsession ?_
      rw [Nat.zero_mul, List.drop_zero]
      exact (hmem _).2 ⟨st, hst, hmatches, rfl⟩
    obtain ⟨resp, hresp, heq⟩ := List.mem_map.1 hkey
    exact ⟨resp, hresp, congrArg Prod.fst heq⟩
  · intro N hnone
    exact session_stops hanswers hlimit (hstill N hnone)
  · intro hnone fuel seen hsession
    have hseen := session_eq hanswers (fun i => hstill 0 (fun i _ => hnone i) i (Nat.zero_le i)) hsession
    rw [Nat.zero_mul, List.drop_zero] at hseen
    refine ⟨?_, ?_, ?_⟩
    · rw [id_eq_fst_key, hseen]
      exact hnodup
    · rw [← hseen, List.pairwise_map] at hordered
      exact hordered
    · intro id
      rw [id_eq_fst_key, hseen, List.mem_map]
      constructor
      · rintro ⟨key, hkey, rfl⟩
        obtain ⟨st, hst, hmatches, rfl⟩ := (hmem key).1 hkey
        exact ⟨st, ⟨hst, hmatches⟩, rfl⟩
      · rintro ⟨st, ⟨hst, hmatches⟩, rfl⟩
        exact ⟨st.row.key, (hmem _).2 ⟨st, hst, hmatches, rfl⟩, rfl⟩

end

/-! ## A third incident between two requests -/

/-- An incident of the payment service is created at `t`. -/
def payment [Unicode] (uuid t : Nat) : Label Unit :=
  .createIncident uuid "High latency" .sev1 ["payment-service"] "" true ⟨fun _ => ⟨t⟩, fun _ => .zero⟩
    Workflow.restartRunner true

/-- Two incidents at time 0. -/
def two [Unicode] : List (Label Unit) :=
  [payment 0x00000001000040008000000000000001 0, payment 0x00000002000040008000000000000001 0]

/-- The third one is created after the first request. -/
def third [Unicode] (uuid : Nat) : Nat → List (Label Unit)
  | 0 => [payment uuid 1]
  | _ + 1 => []

def atRequest [Unicode] (uuid : Nat) : Nat → IncidentStore Unit
  | 0 => (Machine.run (step {}) {} two).getD {}
  | _ + 1 => (Machine.run (step {}) {} (two ++ third uuid 0)).getD {}

theorem run_third [Unicode] (uuid i : Nat) :
    Machine.run (step {}) (atRequest uuid i) (third uuid i) = some (atRequest uuid (i + 1)) := by
  cases i with
  | zero => rfl
  | succ i => rfl

/-- No task has begun. -/
theorem sameStages_atRequest [Unicode] (uuid i : Nat) :
    SameStages (atRequest uuid i) (atRequest uuid (i + 1)) := by
  have hcreated : ∀ j incidentId k st, (atRequest uuid j).find incidentId = some (k, st) →
      st.currentStage = .created := by
    intro j incidentId k st hfind
    obtain ⟨-, found, hfound, rfl⟩ := found_of_find hfind
    have hmem := List.mem_of_getElem? hfound
    cases j with
    | zero =>
      simp only [atRequest, two, payment, Machine.run_cons, Machine.run_nil, step, createIncident, Option.bind_some,
        Option.getD_some, List.nil_append, List.cons_append, List.mem_cons, List.not_mem_nil, or_false] at hmem
      rcases hmem with rfl | rfl <;> rfl
    | succ j =>
      simp only [atRequest, two, third, payment, Machine.run_cons, Machine.run_nil, step, createIncident,
        Option.bind_some, Option.getD_some, List.nil_append, List.cons_append, List.mem_cons, List.not_mem_nil,
        or_false] at hmem
      rcases hmem with rfl | rfl | rfl <;> rfl
  intro incidentId k st k' st' hfind hfind'
  rw [hcreated i incidentId k st hfind, hcreated (i + 1) incidentId k' st' hfind']

theorem id_first : createIncidentId 0x00000001000040008000000000000001 = "inc-00000001" := by decide +kernel

theorem id_second : createIncidentId 0x00000002000040008000000000000001 = "inc-00000002" := by decide +kernel

theorem rows_first [Unicode] (uuid : Nat) :
    (atRequest uuid 0).rows = [⟨"inc-00000001", .sev1, .created, ["payment-service"], ⟨0⟩⟩,
      ⟨"inc-00000002", .sev1, .created, ["payment-service"], ⟨0⟩⟩] := by
  simp [atRequest, two, payment, step, createIncident, id_first, id_second, rows, rowsOf, Dict.set, Dict.put,
    Dict.empty, IncidentState.row, OpsPilot.createIncident]

/-- The third incident has an id of its own. -/
theorem paging_third :
    letI := Py.asciiTable
    letI := Py.asciiText
    let uuid := 0x00000003000040008000000000000001
    ∃ fuel seen, session 1 (request none none none 1 (atRequest uuid) fun _ => Workflow.stillClock) fuel 0 = some seen ∧
      ∃ resp ∈ seen, resp.id = "inc-00000002" := by
  have hid : createIncidentId 0x00000003000040008000000000000001 = "inc-00000003" := by decide +kernel
  let _ := Py.asciiTable
  let _ := Py.asciiText
  intro uuid
  have hfresh : ∀ i, Machine.Along (step {}) Fresh (atRequest uuid i) (third uuid i) := by
    intro i
    cases i with
    | zero =>
      refine ⟨?_, fun _ _ => trivial⟩
      intro incidentId hdrawn
      obtain rfl : "inc-00000003" = incidentId := by
        rw [← hid]
        exact Option.some.inj hdrawn
      simp [atRequest, two, payment, step, createIncident, id_first, id_second]
    | succ i => trivial
  obtain ⟨hseen, hstops, -⟩ := paging_complete none none none 1 le_rfl two (atRequest uuid) (third uuid)
    (fun _ => Workflow.stillClock) rfl (run_third uuid) (sameStages_atRequest uuid) hfresh
  obtain ⟨fuel, seen, hsession⟩ := hstops 1 fun i hi label hlabel => by
    cases i with
    | zero => omega
    | succ i => cases hlabel
  obtain ⟨st, hst, hrow⟩ : ∃ st ∈ (atRequest uuid 0).service.incidents,
      st.row = ⟨"inc-00000002", .sev1, .created, ["payment-service"], ⟨0⟩⟩ := by
    rw [← List.mem_map, row_incidents, rows_first]
    exact List.mem_cons_of_mem _ List.mem_cons_self
  obtain ⟨resp, hresp, hid'⟩ := hseen fuel seen hsession st ⟨hst, rfl⟩
  exact ⟨fuel, seen, hsession, resp, hresp, hid'.trans (congrArg Row.incidentId hrow)⟩

/-- The third incident has the id of the second one, and the client sees the first one twice. -/
theorem paging_overtakes :
    letI := Py.asciiTable
    letI := Py.asciiText
    let uuid := 0x00000002000040008000000000000002
    let request := request none none none 1 (atRequest uuid) fun _ => Workflow.stillClock
    (∀ i, Machine.run (step {}) (atRequest uuid i) (third uuid i) = some (atRequest uuid (i + 1))) ∧
      (∀ i, SameStages (atRequest uuid i) (atRequest uuid (i + 1))) ∧
      (atRequest uuid 0).rows.map Row.incidentId = ["inc-00000001", "inc-00000002"] ∧
      ∃ seen, session 1 request 3 0 = some seen ∧
        seen.map IncidentResponse.id = ["inc-00000001", "inc-00000001"] := by
  have hid : createIncidentId 0x00000002000040008000000000000002 = "inc-00000002" := by decide +kernel
  let _ := Py.asciiTable
  let _ := Py.asciiText
  intro uuid request
  have hlater : ∀ i, (atRequest uuid (i + 1)).rows =
      [⟨"inc-00000001", .sev1, .created, ["payment-service"], ⟨0⟩⟩,
        ⟨"inc-00000002", .sev1, .created, ["payment-service"], ⟨1⟩⟩] := by
    intro i
    simp [atRequest, two, third, payment, step, createIncident, id_first, id_second, hid, uuid, rows, rowsOf, Dict.set,
      Dict.put, Dict.empty, IncidentState.row, OpsPilot.createIncident]
  have hpage : ∀ i, (request i).map IncidentResponse.key =
      page 1 (i * 1) (listing none none none (atRequest uuid i)) :=
    answers_request none none none 1 (atRequest uuid) fun _ => Workflow.stillClock
  have h0 : (request 0).map IncidentResponse.key = [("inc-00000001", ⟨0⟩)] := by
    rw [hpage, listing, newestFirst, rows_first]
    simp [Row.matches, passes, rank_cons, Row.key, page]
  have h1 : (request 1).map IncidentResponse.key = [("inc-00000001", ⟨0⟩)] := by
    rw [hpage, listing, newestFirst, hlater 0]
    simp [Row.matches, passes, rank_cons, Row.key, page]
  have h2 : (request 2).map IncidentResponse.key = [] := by
    rw [hpage, listing, newestFirst, hlater 1]
    simp [Row.matches, passes, rank_cons, Row.key, page]
  have hlength : (request 0).length = 1 ∧ (request 1).length = 1 ∧ (request 2).length = 0 := by
    rw [← List.length_map IncidentResponse.key, h0, ← List.length_map IncidentResponse.key, h1,
      ← List.length_map IncidentResponse.key, h2]
    exact ⟨rfl, rfl, rfl⟩
  refine ⟨run_third uuid, sameStages_atRequest uuid, by rw [rows_first]; rfl,
    request 0 ++ (request 1 ++ request 2), ?_, ?_⟩
  · simp [session, hlength]
  · rw [id_eq_fst_key, List.map_append, List.map_append (f := IncidentResponse.key), h0, h1, h2]
    rfl

end IncidentStore

end OpsPilot
