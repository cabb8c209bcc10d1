import OpsPilot.Api.Service
import OpsPilot.Lib.Ranking
import OpsPilot.Lib.Slice
/-!
# Reading incidents (`IncidentService.get_incident`, `list_incidents`, `generate_postmortem_report`)

No field records when an incident was resolved. Whoever reads a resolved incident is told the time
of the reading (incident_service.py:380, postmortem.py:28), and the report computes the time to
resolution from it. `read_faithful_iff` says which readings give the time of the resolution.

| here | there |
| --- | --- |
| `IncidentState.toResponse` | `_to_incident_response` (incident_service.py:372) |
| `Service.listed`           | the page of `list_incidents` (incident_service.py:196) |
| `Read`                     | a call of one of the three, with the readings of the clock it takes |
-/
namespace OpsPilot

/-- schemas/incident.py:51 -/
structure IncidentResponse where
  id : String
  title : String
  severity : String
  currentStage : IncidentStage
  affectedServices : List String
  createdAt : Time
  resolvedAt : Option Time := none
  confidenceScore : PyFloat := .zero
  evidenceCount : Nat := 0
  hypothesesCount : Nat := 0
  selectedHypothesisTitle : Option String := none
  verificationStatus : Option String := none

/-- `if filter: ...` keeps what the filter holds of, and everything where it is missing or empty. -/
def passes (filter : Option String) (holds : String → Bool) : Bool := filter.all fun f => f == "" || holds f

def IncidentState.toResponse (state : IncidentState) (now : Time) : IncidentResponse where
  id := state.incidentId
  title := state.title
  severity := state.severity.name
  currentStage := state.currentStage
  affectedServices := state.affectedServices
  createdAt := state.createdAt
  resolvedAt := if state.currentStage = .resolved then some now else none
  confidenceScore := match state.selectedHypothesis with
    | some hypo => hypo.confidence.val
    | none => .zero
  evidenceCount := state.evidence.length
  hypothesesCount := state.hypotheses.length
  selectedHypothesisTitle := state.selectedHypothesis.map Hypothesis.title
  verificationStatus := state.verification.map fun assessment => assessment.status.name

variable {V W : Type}

namespace Service

/-- `self._incidents.values()` -/
def incidents (svc : Service V W) : List IncidentState :=
  svc.table.entries.filterMap fun e => svc.objects[e.2]?.map Investigation.incident

/-- incident_service.py:183 -/
def getIncident (svc : Service V W) (incidentId : String) (now : Time) : Option IncidentResponse :=
  (svc.find incidentId).map fun found => found.2.incident.toResponse now

section
variable [Unicode] [UnicodeText]

def listed (svc : Service V W) (severity stage service : Option String) (limit offset : Int) : List IncidentState :=
  let given (filter : Option String) (holds : String → IncidentState → Bool) (results : List IncidentState) :=
    match filter with
    | some f => if f = "" then results else results.filter (holds f)
    | none => results
  let results := given severity (fun f s => Py.upper s.severity.name == Py.upper f) svc.incidents
  let results := given stage (fun f s => Py.upper s.currentStage.name == Py.upper f) results
  let results := given service
    (fun f s => (s.affectedServices.map UnicodeText.lower).contains (UnicodeText.lower f)) results
  let results := Ranking.rank (fun s => s.createdAt.micros) results
  Py.slice results offset (offset + limit)

/-- incident_service.py:187. Each response reads the clock. -/
def listIncidents (svc : Service V W) (severity stage service : Option String) (limit offset : Int)
    (clock : Clock) : List IncidentResponse :=
  (svc.listed severity stage service limit offset).zipIdx.map fun (s, k) => s.toResponse (clock.now k)

theorem listed_eq (svc : Service V W) (severity stage service : Option String) (limit offset : Int) :
    svc.listed severity stage service limit offset =
      Py.slice (Ranking.rank (fun s => s.createdAt.micros) (svc.incidents.filter fun s =>
        passes severity (fun f => Py.upper s.severity.name == Py.upper f) &&
          passes stage (fun f => Py.upper s.currentStage.name == Py.upper f) &&
          passes service fun f => (s.affectedServices.map UnicodeText.lower).contains (UnicodeText.lower f)))
        offset (offset + limit) := by
  have hgiven : ∀ (filter : Option String) (holds : String → IncidentState → Bool) (results : List IncidentState),
      (match filter with
        | some f => if f = "" then results else results.filter (holds f)
        | none => results) = results.filter fun s => passes filter fun f => holds f s := by
    intro filter holds results
    cases filter with
    | none => exact (List.filter_eq_self.2 fun _ _ => rfl).symm
    | some f =>
      by_cases hf : f = ""
      · simp [passes, hf]
      · have hpasses : ∀ s, passes (some f) (fun f => holds f s) = holds f s := by
          intro s
          rw [passes, Option.all_some, beq_false_of_ne hf, Bool.false_or]
        simp only [if_neg hf, hpasses]
  unfold listed
  simp only [hgiven]
  rw [List.filter_filter, List.filter_filter]
  have hsame : ∀ a b c : Bool, (c && b && a) = (a && b && c) := by decide
  simp only [hsame]

theorem mem_listed {svc : Service V W} {severity stage service : Option String} {limit offset : Int}
    {st : IncidentState} (h : st ∈ svc.listed severity stage service limit offset) : st ∈ svc.incidents := by
  rw [listed_eq] at h
  exact (List.mem_filter.1 (Ranking.mem_rank.1 (Py.mem_of_slice h))).1

/-! ## An id names one incident -/

/-- The table leads from an id to the incident with that id. -/
def TableInv (svc : Service V W) : Prop :=
  ∀ incidentId i, svc.table.get? incidentId = some i →
    ∃ inv, svc.objects[i]? = some inv ∧ inv.incident.incidentId = incidentId

end

/-- A listed incident with the id of another one is that one. -/
theorem TableInv.incident_eq (h : TableInv svc) {incidentId : String} {i : Nat} {inv : Investigation W}
    (hfind : svc.find incidentId = some (i, inv)) {st : IncidentState} (hst : st ∈ svc.incidents)
    (hid : st.incidentId = incidentId) : st = inv.incident := by
  obtain ⟨⟨key, j⟩, hmem, hobj⟩ := List.mem_filterMap.1 hst
  obtain ⟨other, hother, rfl⟩ := Option.map_eq_some_iff.1 hobj
  have hget : svc.table.get? key = some j := Dict.look_of_mem svc.table.nodup hmem
  obtain ⟨inv', hinv', hkey⟩ := h key j hget
  cases hother.symm.trans hinv'
  obtain rfl : key = incidentId := hkey.symm.trans hid
  obtain ⟨k, hk, hmap⟩ := Option.bind_eq_some_iff.1 hfind
  obtain rfl : j = k := Option.some.inj (hget.symm.trans hk)
  obtain ⟨inv'', hinv'', heq⟩ := Option.map_eq_some_iff.1 hmap
  cases heq
  rw [Option.some.inj (hother.symm.trans hinv'')]

section
variable [Unicode] [UnicodeText] {policyEngine : RiskPolicyEngine} {svc svc' : Service V W} {label : Label V W}

theorem tableInv_move (h : TableInv svc) (hm : Move policyEngine svc label svc') : TableInv svc' := by
  have hkept : ∀ incidentId i, svc.table.get? incidentId = some i →
      ∃ inv, svc'.objects[i]? = some inv ∧ inv.incident.incidentId = incidentId := by
    intro incidentId i hi
    obtain ⟨inv, hinv, hid⟩ := h incidentId i hi
    obtain ⟨inv', hinv', hsame⟩ := incident_move (R := fun st st' => st'.incidentId = st.incidentId) (fun _ => rfl)
      (fun s s' l hst => Investigation.incidentId_step hst) hm hinv
    exact ⟨inv', hinv', hsame.trans hid⟩
  intro incidentId i hi
  cases objects_move hm with
  | created hex title severity affectedServices symptoms autoRemediate clock executionRunner heq =>
    rw [heq, create, Dict.get?_set] at hi
    split at hi
    · rename_i hid
      cases hi
      rw [heq]
      exact ⟨_, List.getElem?_concat_length, hid⟩
    · exact hkept incidentId i hi
  | worked j k l inv inv' hj hst hobjects htable => exact hkept incidentId i (htable ▸ hi)
  | stored j l inv inv' hj hst hobjects htable => exact hkept incidentId i (htable ▸ hi)
  | kept hobjects htable => exact hkept incidentId i (htable ▸ hi)

theorem tableInv_run {as : List (Label V W)}
    (hrun : Machine.run (step policyEngine) ({} : Service V W) as = some svc) : TableInv svc := by
  refine Machine.Reachable.invariant ⟨as, hrun⟩ ?_ fun t l t' hI hst => tableInv_move hI (move_of_step hst)
  intro incidentId i hi
  cases hi

end

/-! ## What a reading says of a resolved incident -/

/-- The `i`-th incident reached RESOLVED at `t`, which is not before it was created, and has stayed there. -/
structure ResolvedSince [Unicode] [UnicodeText] (policyEngine : RiskPolicyEngine) (i : Nat) (t : Time)
    (svc : Service V W) : Prop where
  reached : ∃ before s j s' after, Machine.run (step policyEngine) {} before = some s ∧
    s.isResolved i = false ∧ s.step policyEngine (.task j (.effect t)) = some s' ∧
    Machine.run (step policyEngine) s' after = some svc ∧
    Machine.Along (step policyEngine) (fun s _ => s.isResolved i = true) s' after
  resolved : svc.isResolved i = true
  notBefore : ∀ inv, svc.objects[i]? = some inv → inv.incident.createdAt.micros ≤ t.micros

end Service

inductive Read where
  | getIncident (now : Time)
  | listIncidents (severity stage service : Option String) (limit offset : Int) (clock : Clock)
  | generateReport (now : Time)

namespace Read

/-- The report of a resolved incident tells the time at which it is generated. -/
theorem resolution_generateReport [UnicodeText] {state : IncidentState} (h : state.currentStage = .resolved)
    (now : Time) :
    (PostmortemGenerator.generateReport state now).resolvedAt = some now ∧
      (PostmortemGenerator.generateReport state now).mttrSeconds = now.secondsSince state.createdAt := by
  simp [PostmortemGenerator.generateReport, h]

section
variable [Unicode] [UnicodeText]

/-- What the reading says of the incident is the time of its resolution, and how long that took. -/
def Faithful (svc : Service V W) (incidentId : String) (createdAt t : Time) : Read → Prop
  | getIncident now => ∀ resp, svc.getIncident incidentId now = some resp → resp.resolvedAt = some t
  | listIncidents severity stage service limit offset clock =>
    ∀ resp ∈ svc.listIncidents severity stage service limit offset clock, resp.id = incidentId →
      resp.resolvedAt = some t
  | generateReport now => ∀ report, svc.generatePostmortemReport incidentId now = .ok report →
    report.resolvedAt = some t ∧ report.mttrSeconds = ((t.micros : Int) - createdAt.micros) / 1000000

/-- Where the reading mentions the incident it is taken at `t`. -/
def TakenAt (svc : Service V W) (incidentId : String) (t : Time) : Read → Prop
  | getIncident now | generateReport now => now = t
  | listIncidents severity stage service limit offset clock =>
    ∀ k st, (svc.listed severity stage service limit offset)[k]? = some st → st.incidentId = incidentId →
      clock.now k = t

/-- **A reading tells the time of the resolution exactly when** it is taken at that time: in every
session of readings, at whatever times and in whatever order. -/
theorem read_faithful_iff {policyEngine : RiskPolicyEngine} (i : Nat) (t : Time) (incidentId : String)
    (createdAt : Time) (session : List (Service V W × Read))
    (hsince : ∀ x ∈ session, x.1.ResolvedSince policyEngine i t ∧
      ∃ inv, x.1.find incidentId = some (i, inv) ∧ inv.incident.createdAt = createdAt) :
    (∀ x ∈ session, x.2.Faithful x.1 incidentId createdAt t) ↔ ∀ x ∈ session, x.2.TakenAt x.1 incidentId t := by
  refine forall₂_congr fun x hx => ?_
  obtain ⟨svc, read⟩ := x
  obtain ⟨hres, inv, hfind, hcreated⟩ := hsince _ hx
  obtain ⟨before, s, j, s', after, hbefore, -, hstep, hafter, -⟩ := hres.reached
  have htable : svc.TableInv := by
    have hall : Machine.run (Service.step policyEngine) ({} : Service V W)
        (before ++ .task j (.effect t) :: after) = some svc := by
      rw [Machine.run_append, hbefore, Option.bind_some, Machine.run_cons_of_step hstep]
      exact hafter
    exact Service.tableInv_run hall
  have hobj := Service.find_some hfind
  have hstage : inv.incident.currentStage = .resolved := by
    simpa [Service.isResolved, hobj] using hres.resolved
  have hle := hres.notBefore inv hobj
  cases read with
  | getIncident now =>
    simp [Faithful, TakenAt, Service.getIncident, hfind, IncidentState.toResponse, hstage]
  | generateReport now =>
    obtain ⟨hat, hmttr⟩ := resolution_generateReport hstage now
    simp only [Faithful, TakenAt, Service.generatePostmortemReport, hfind, Except.ok.injEq, forall_eq', hat, hmttr,
      Option.some.injEq, and_iff_left_iff_imp]
    rintro rfl
    rw [Time.secondsSince, hcreated]
    rw [hcreated] at hle
    exact Int.tdiv_eq_ediv_of_nonneg (by omega)
  | listIncidents severity stage service limit offset clock =>
    simp only [Faithful, TakenAt, Service.listIncidents]
    constructor
    · intro h k st hk hid
      obtain rfl := htable.incident_eq hfind (Service.mem_listed (List.mem_of_getElem? hk)) hid
      have hmem := h (inv.incident.toResponse (clock.now k))
        (List.mem_map.2 ⟨(inv.incident, k), List.mk_mem_zipIdx_iff_getElem?.2 hk, rfl⟩) hid
      simpa [IncidentState.toResponse, hstage] using hmem
    · rintro h resp hresp hid
      obtain ⟨⟨st, k⟩, hzip, rfl⟩ := List.mem_map.1 hresp
      have hk := List.mk_mem_zipIdx_iff_getElem?.1 hzip
      obtain rfl := htable.incident_eq hfind (Service.mem_listed (List.mem_of_getElem? hk)) hid
      simp [IncidentState.toResponse, hstage, h k _ hk hid]

end

/-- The incident of `resolvePayment` is created and resolved at time 0. -/
theorem payment_resolvedSince :
    letI := Py.asciiTable
    letI := Py.asciiText
    ∃ svc : Service Unit Unit, svc.ResolvedSince {} 0 ⟨0⟩ ∧
      ∃ inv, svc.find "inc-00000001" = some (0, inv) ∧ inv.incident.createdAt = ⟨0⟩ := by
  -- the stage becomes RESOLVED in step 78
  have hrun : letI := Py.asciiTable
      letI := Py.asciiText
      ∃ s : Service Unit Unit,
        Machine.run (Service.step {}) {} (Service.resolvePayment.take 78) = some s ∧
        s.isResolved 0 = false ∧
        ∃ s', Machine.run (Service.step {}) s [.task 0 (.effect ⟨0⟩)] = some s' ∧
          Machine.Along (Service.step {}) (fun s _ => s.isResolved 0 = true) s'
            (Service.resolvePayment.drop 79) ∧
          ∃ svc, Machine.run (Service.step {}) s' (Service.resolvePayment.drop 79) = some svc ∧
            svc.isResolved 0 = true ∧
            (svc.find "inc-00000001").any (fun found => found.1 == 0 && decide (found.2.incident.createdAt = ⟨0⟩)) =
              true := by decide +kernel
  let _ := Py.asciiTable
  let _ := Py.asciiText
  obtain ⟨s, hs, hbefore, s', hs', halong, svc, hsvc, hres, hfound⟩ := hrun
  obtain ⟨⟨i, inv⟩, hfind, hinv⟩ := (Option.any_eq_true _ _).1 hfound
  simp only [Bool.and_eq_true, beq_iff_eq, decide_eq_true_eq] at hinv
  obtain ⟨rfl, hcreated⟩ := hinv
  have hobj := Service.find_some hfind
  refine ⟨svc, ⟨⟨_, s, 0, s', _, hs, hbefore, ?_, hsvc, halong⟩, hres, ?_⟩, inv, hfind, hcreated⟩
  · simpa using hs'
  · intro inv' hinv'
    cases hobj.symm.trans hinv'
    rw [hcreated]

/-- Read at the time of the resolution. -/
theorem read_faithful_at_once :
    letI := Py.asciiTable
    letI := Py.asciiText
    ∃ svc : Service Unit Unit, ∀ x ∈ [(svc, getIncident ⟨0⟩), (svc, generateReport ⟨0⟩)],
      x.2.Faithful x.1 "inc-00000001" ⟨0⟩ ⟨0⟩ := by
  let _ := Py.asciiTable
  let _ := Py.asciiText
  obtain ⟨svc, hsince, hfind⟩ := payment_resolvedSince
  have hall : ∀ x ∈ [(svc, getIncident ⟨0⟩), (svc, generateReport ⟨0⟩)],
      x.1.ResolvedSince {} 0 ⟨0⟩ ∧
        ∃ inv, x.1.find "inc-00000001" = some (0, inv) ∧ inv.incident.createdAt = ⟨0⟩ := by
    intro x hx
    simp only [List.mem_cons, List.not_mem_nil, or_false] at hx
    rcases hx with rfl | rfl
    · exact ⟨hsince, hfind⟩
    · exact ⟨hsince, hfind⟩
  refine ⟨svc, (read_faithful_iff 0 ⟨0⟩ "inc-00000001" ⟨0⟩ _ hall).2 ?_⟩
  intro x hx
  simp only [List.mem_cons, List.not_mem_nil, or_false] at hx
  rcases hx with rfl | rfl
  · rfl
  · rfl

/-- Read a minute later, it was resolved a minute later. -/
theorem read_drifts :
    letI := Py.asciiTable
    letI := Py.asciiText
    ∃ svc : Service Unit Unit, svc.ResolvedSince {} 0 ⟨0⟩ ∧
      ¬ (getIncident ⟨60000000⟩).Faithful svc "inc-00000001" ⟨0⟩ ⟨0⟩ := by
  let _ := Py.asciiTable
  let _ := Py.asciiText
  obtain ⟨svc, hsince, inv, hfind, -⟩ := payment_resolvedSince
  have hstage : inv.incident.currentStage = .resolved := by
    simpa [Service.isResolved, Service.find_some hfind] using hsince.resolved
  refine ⟨svc, hsince, fun h => ?_⟩
  have hat := h (inv.incident.toResponse ⟨60000000⟩) (by simp [Service.getIncident, hfind])
  simp [IncidentState.toResponse, hstage] at hat

end Read

end OpsPilot
