import Mathlib.Algebra.GroupWithZero.Nat
import OpsPilot.Api.Lessons
/-!
# The default wiring (`default_incident_service`, `default_registry`)

`IncidentService()` and `SearchIncidentMemoryTool()` are both built without a manager, so each
builds an `EpisodicMemoryManager()` of its own: what the service learns is written to one, and what
the memory analyst searches is the other. A step is one of the service, or a search.

| here | there |
| --- | --- |
| `Deployment.service`      | `default_incident_service` (incident_service.py:391) |
| `Deployment.searchTool`   | the `SearchIncidentMemoryTool()` of `default_registry` (registry.py:44) |
| `Label.search`            | the call of memory_analyst.py:30; its role is the one the tool asks for |
-/
namespace OpsPilot

structure Deployment (V W : Type) where
  service : Service V W := {}
  searchTool : SearchIncidentMemoryTool V := {}

inductive Deployment.Label (V W : Type) where
  | service (l : Service.Label V W)
  | search (query service : String) (limit : Nat)

namespace Deployment

/-- The ids of incidents and those of the curated postmortems differ. -/
theorem incident_not_curated (hex : String) :
    "PM-" ++ ("inc-" ++ hex) ∉ historicalPostmortems.map HistoricalPostmortem.incidentId := by
  rw [seeded_ids]
  intro hmem
  simp only [List.mem_cons, List.not_mem_nil, or_false] at hmem
  rcases hmem with h | h | h | h | h
  all_goals
    have hchars := congrArg String.toList h
    simp at hchars

section
variable {V S W : Type} [Unicode] [UnicodeText] [LinearOrder S]

def step (policyEngine : RiskPolicyEngine) (embedder : Embedder V S) (d : Deployment V W) :
    Label V W → Option (Deployment V W)
  | .service l => (d.service.step policyEngine l).map fun service => { d with service }
  | .search query service limit =>
    some { d with searchTool := (d.searchTool.run embedder query (some service) limit).2 }

variable {policyEngine : RiskPolicyEngine} {embedder : Embedder V S} {d : Deployment V W}

/-- A search with this filter returns the document. -/
def Recalls (embedder : Embedder V S) (d : Deployment V W) (doc : VectorDocument V)
    (query service : String) (limit : Nat) : Prop :=
  ∃ output, (d.searchTool.run embedder query (some service) limit).1 = .ok output ∧
    doc.id ∈ output.found.map MemoryMatch.incidentId

/-- The texts fit the budget: the first one is returned whatever its length (episodic.py:151). -/
def WithinBudget (texts : List String) : Prop :=
  ∀ before text, before ++ [text] <+: texts → before ≠ [] → ((before ++ [text]).map String.length).sum ≤ 2400

/-- What a closed loop would be: every lesson about a resolved incident is recalled by every search
that asks for something, for its service, and has room for all documents. -/
def LoopClosed (embedder : Embedder V S)
    (d : Deployment V W) : Prop :=
  ∀ lesson ∈ d.service.lessons, lesson.2.currentStage = .resolved → ∀ query limit, Py.isBlank query = false →
    d.service.lessons.length + historicalPostmortems.length ≤ limit →
    WithinBudget (d.service.lessons.map fun lesson => lesson.1.text) →
    Recalls embedder d lesson.1 query (lesson.2.affectedServices.head?.getD "unknown") limit

/-- The tool finds what its own manager holds. -/
theorem found_run {tool : SearchIncidentMemoryTool V} {query : String} {service : Option String}
    {limit : Nat} {output : MemorySearch}
    (h : (tool.run embedder query service limit).1 = .ok output) {id : String}
    (hid : id ∈ output.found.map MemoryMatch.incidentId) :
    id ∈ (tool.run embedder query service limit).2.memoryManager.ids := by
  cases hs : (tool.memoryManager.searchSimilarIncidents embedder query service limit).1 with
  | error exc =>
    have herror : (tool.run embedder query service limit).1 = .error exc := by
      simp only [SearchIncidentMemoryTool.run, hs]
      rfl
    rw [herror] at h
    cases h
  | ok results =>
    have hok : (tool.run embedder query service limit).1 = .ok
        { query := .str query, serviceFilter := .optionalText service, matchCount := results.length
          found := results.map (SearchIncidentMemoryTool.matchOf embedder)
          formattedContext := EpisodicMemoryManager.formatMemoriesForPrompt embedder results } := by
      simp only [SearchIncidentMemoryTool.run, hs]
      rfl
    rw [hok] at h
    cases h
    simp only [List.map_map, List.mem_map] at hid
    obtain ⟨res, hres, rfl⟩ := hid
    exact EpisodicMemoryManager.found_searchSimilarIncidents hs hres

/-- The searched memory only ever holds curated documents. -/
def Curated (tool : SearchIncidentMemoryTool V) : Prop :=
  ∀ id ∈ tool.memoryManager.ids, id ∈ historicalPostmortems.map HistoricalPostmortem.incidentId

theorem curated_run {tool : SearchIncidentMemoryTool V} (h : Curated tool) (query : String)
    (service : Option String) (limit : Nat) :
    Curated (tool.run embedder query service limit).2 := by
  intro id hid
  rcases EpisodicMemoryManager.ids_searchSimilarIncidents hid with hold | hseed
  · exact h id hold
  · exact hseed

theorem wiring_run {as : List (Label V W)}
    (hrun : Machine.run (step policyEngine embedder) ({} : Deployment V W) as = some d) :
    Service.LessonInv d.service ∧ Curated d.searchTool := by
  refine Machine.run_induction (P := fun _ d => Service.LessonInv d.service ∧ Curated d.searchTool) ?_ ?_ as d hrun
  · refine ⟨⟨rfl, by simp, by simp, by simp⟩, ?_⟩
    intro id hid
    cases hid
  · rintro as d l d' - ⟨hlesson, hcurated⟩ hst
    cases l with
    | service l =>
      obtain ⟨service, hservice, rfl⟩ := Option.map_eq_some_iff.1 hst
      exact ⟨Service.lessonInv_move hlesson (Service.move_of_step hservice), hcurated⟩
    | search query service limit =>
      cases hst
      exact ⟨hlesson, curated_run hcurated query (some service) limit⟩

theorem not_recalls {doc : VectorDocument V} {incident : IncidentState}
    (hinv : Service.LessonInv d.service) (hcurated : Curated d.searchTool)
    (hlesson : (doc, incident) ∈ d.service.lessons) (query service : String) (limit : Nat) :
    ¬ Recalls embedder d doc query service limit := by
  rintro ⟨output, hok, hfound⟩
  obtain ⟨hex, hname, hid⟩ := hinv.ids _ hlesson
  have hmem := curated_run hcurated query (some service) limit _ (found_run hok hfound)
  have hdoc : doc.id = "PM-" ++ ("inc-" ++ hex) := by rw [hid, hname]
  rw [hdoc] at hmem
  exact incident_not_curated hex hmem

/-- **Nothing that is learned is recalled**: whatever the service has indexed, no later search of
the memory analyst returns it, for any query, filter and limit. -/
theorem never_recalls (as : List (Label V W)) (d : Deployment V W)
    (hrun : Machine.run (step policyEngine embedder) {} as = some d) (doc : VectorDocument V)
    (incident : IncidentState) (hlesson : (doc, incident) ∈ d.service.lessons)
    (query service : String) (limit : Nat) : ¬ Recalls embedder d doc query service limit := by
  obtain ⟨hinv, hcurated⟩ := wiring_run hrun
  exact not_recalls hinv hcurated hlesson query service limit

end

/-- The search of an analyst for the payment service, with room for every document. -/
theorem never_recalls_payment :
    letI := Py.asciiTable
    letI := Py.asciiText
    ∃ (d : Deployment Unit Unit) (doc : VectorDocument Unit) (incident : IncidentState),
      Machine.run (step {} (alikeEmbedder 0)) {} (Service.resolvePayment.map .service) = some d ∧
      (doc, incident) ∈ d.service.lessons ∧ incident.currentStage = .resolved ∧
      ¬ Recalls (alikeEmbedder 0) d doc "latency" "payment-service" 6 := by
  have hend : letI := Py.asciiTable
      letI := Py.asciiText
      ∃ d : Deployment Unit Unit,
        Machine.run (step {} (alikeEmbedder 0)) {} (Service.resolvePayment.map .service) = some d ∧
        d.service.lessons.any (fun lesson => lesson.2.currentStage = .resolved) = true := by decide +kernel
  let _ := Py.asciiTable
  let _ := Py.asciiText
  obtain ⟨d, hrun, hany⟩ := hend
  obtain ⟨⟨doc, incident⟩, hlesson, hres⟩ := List.any_eq_true.1 hany
  exact ⟨d, doc, incident, hrun, hlesson, by simpa using hres,
    never_recalls _ d hrun doc incident hlesson "latency" "payment-service" 6⟩

/-- A restart helps, the incident is indexed, and the next analyst finds nothing of it. -/
theorem loop_not_closed :
    letI := Py.asciiTable
    letI := Py.asciiText
    ∃ d : Deployment Unit Unit,
      Machine.run (step {} (alikeEmbedder 0)) {} (Service.resolvePayment.map .service) = some d ∧
      ¬ LoopClosed (alikeEmbedder 0) d := by
  have hend : letI := Py.asciiTable
      letI := Py.asciiText
      ∃ d : Deployment Unit Unit,
        Machine.run (step {} (alikeEmbedder 0)) {} (Service.resolvePayment.map .service) = some d ∧
        d.service.lessons.length = 1 ∧
        d.service.lessons.all (fun lesson => lesson.2.currentStage = .resolved) = true := by decide +kernel
  let _ := Py.asciiTable
  let _ := Py.asciiText
  obtain ⟨d, hrun, hlength, hall⟩ := hend
  refine ⟨d, hrun, fun hclosed => ?_⟩
  obtain ⟨lesson, hlessons⟩ := List.length_eq_one_iff.1 hlength
  have hlesson : lesson ∈ d.service.lessons := by simp [hlessons]
  have hres : lesson.2.currentStage = .resolved := by simpa using List.all_eq_true.1 hall lesson hlesson
  have hbudget : WithinBudget (d.service.lessons.map fun lesson => lesson.1.text) := by
    intro before text hprefix hne
    have hle := hprefix.length_le
    simp only [hlessons, List.length_append, List.map_cons, List.map_nil, List.length_cons, List.length_nil] at hle
    exact absurd (List.length_eq_zero_iff.1 (by omega)) hne
  have hrecalls := hclosed lesson hlesson hres "latency" 6 (by decide) (by rw [hlength]; decide) hbudget
  obtain ⟨hinv, hcurated⟩ := wiring_run hrun
  exact not_recalls hinv hcurated hlesson _ _ _ hrecalls

end Deployment

end OpsPilot
