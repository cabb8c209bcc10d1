import OpsPilot.Lib.Run
import OpsPilot.Memory.Episodic
/-!
# Concurrent calls on one memory (`src/memory/episodic.py`)

A call runs without interruption from one `await` of the embedding provider to the next; between
them other calls run. What the provider answers comes with the label: it may answer the same text
differently, or raise. The `await`s of the store suspend nothing, for its methods have none.

| here | there |
| --- | --- |
| `MemoryCall.indexing pm`                 | `await … embed_text(doc_text)` (episodic.py:49) |
| `MemoryCall.seeding docs pm rest search` | the one in the loop over the curated postmortems (episodic.py:78) |
| `MemoryCall.querying search`             | `await … embed_text(query)` (episodic.py:119) |

`run_indexPostmortem`, `run_seedDefaultMemories` and `run_searchSimilarIncidents` say that a call
that is not interrupted is the one of `Episodic`.
-/
namespace OpsPilot

variable {V S : Type}

/-- The arguments of `search_similar_incidents`. -/
structure MemoryQuery where
  query : String
  service : Option String := none
  topK : Int := 3
  maxCharBudget : Nat := 2400

inductive MemoryRequest where
  | indexPostmortem (pm : HistoricalPostmortem)
  | seedDefaultMemories
  | searchSimilarIncidents (search : MemoryQuery)

/-- Where a call stands. One that seeds for a search goes on with the search. -/
inductive MemoryCall (V S : Type) where
  | indexing (pm : HistoricalPostmortem)
  | seeding (docs : List (VectorDocument V)) (pm : HistoricalPostmortem) (rest : List HistoricalPostmortem)
      (search : Option MemoryQuery)
  | querying (search : MemoryQuery)
  | done
  | returned (results : List (VectorSearchResult V S))
  | raised (exc : PyException)

theorem nodup_seeded_ids : (historicalPostmortems.map HistoricalPostmortem.incidentId).Nodup := by
  rw [seeded_ids]
  decide

namespace MemoryCall

/-- The ids that the call adds to the store when it comes to its end. -/
def pending : MemoryCall V S → List String
  | .indexing pm => [pm.incidentId]
  | .seeding .. => historicalPostmortems.map HistoricalPostmortem.incidentId
  | .querying _ | .done | .returned _ | .raised _ => []

theorem nodup_pending (call : MemoryCall V S) : call.pending.Nodup := by
  cases call with
  | indexing pm => exact List.nodup_singleton _
  | seeding => exact nodup_seeded_ids
  | querying | done | returned | raised => exact List.nodup_nil

/-- A search that has come to its end. -/
def searched : Except PyException (List (VectorSearchResult V S)) → MemoryCall V S
  | .error exc => .raised exc
  | .ok results => .returned results

end MemoryCall

/-- A manager and the calls made of it, in the order of their starts. -/
structure ConcurrentMemory (V S : Type) where
  manager : EpisodicMemoryManager V := {}
  calls : List (MemoryCall V S) := []

namespace ConcurrentMemory

open EpisodicMemoryManager

inductive Label (V : Type) where
  | start (request : MemoryRequest)
  | resume (i : Nat) (answer : Except PyException V)

/-- What comes after the seeding. -/
def afterSeeding : Option MemoryQuery → MemoryCall V S
  | none => .done
  | some search => .querying search

/-- The loop of `seed_default_memories` with `pms` to go, and what comes after it. -/
def seedFrom (manager : EpisodicMemoryManager V) (docs : List (VectorDocument V))
    (pms : List HistoricalPostmortem) (search : Option MemoryQuery) :
    EpisodicMemoryManager V × MemoryCall V S :=
  match pms with
  | [] => ({ vectorStore := manager.vectorStore.addDocuments docs, seeded := true }, afterSeeding search)
  | pm :: rest => (manager, .seeding docs pm rest search)

/-- A call up to its first `await` of the provider. -/
def enter [UnicodeText] (manager : EpisodicMemoryManager V) :
    MemoryRequest → EpisodicMemoryManager V × MemoryCall V S
  | .indexPostmortem pm => (manager, .indexing pm)
  | .seedDefaultMemories =>
    if manager.seeded then (manager, .done) else seedFrom manager [] historicalPostmortems none
  | .searchSimilarIncidents search =>
    if Py.isBlank search.query then (manager, .returned [])
    else if manager.seeded then (manager, .querying search)
    else seedFrom manager [] historicalPostmortems (some search)

section
variable [LinearOrder S]

/-- A call from one `await` of the provider to the next. -/
def resumed (embedder : Embedder V S) (manager : EpisodicMemoryManager V) :
    MemoryCall V S → Except PyException V → Option (EpisodicMemoryManager V × MemoryCall V S)
  | .indexing pm, .ok embedding =>
    some (manager.addPostmortem pm embedding, .done)
  | .seeding docs pm rest search, .ok embedding =>
    some (seedFrom manager (docs ++ [document pm (formatPostmortemText pm) embedding]) rest search)
  | .querying search, .ok queryVector =>
    let results := manager.retrieve embedder queryVector search.service search.topK
    some (manager, .returned (enforceBudget search.maxCharBudget 0 [] (Py.sliceTo results search.topK)))
  | .indexing _, .error exc | .seeding .., .error exc | .querying _, .error exc => some (manager, .raised exc)
  | .done, _ | .returned _, _ | .raised _, _ => none

variable [UnicodeText]

def step (embedder : Embedder V S) (s : ConcurrentMemory V S) : Label V → Option (ConcurrentMemory V S)
  | .start request =>
    let (manager, call) := enter s.manager request
    some { manager, calls := s.calls ++ [call] }
  | .resume i answer =>
    match s.calls[i]? with
    | none => none
    | some call => (resumed embedder s.manager call answer).map fun (manager, call) =>
        { manager, calls := s.calls.set i call }

/-- A manager over a store. -/
def ofStore (vectorStore : InMemoryVectorStore V) : ConcurrentMemory V S := { manager := { vectorStore } }

/-! ## Calls that are not interrupted -/

theorem run_indexPostmortem (embedder : Embedder V S) (s : ConcurrentMemory V S) (pm : HistoricalPostmortem) :
    Machine.run (step embedder) s
        [.start (.indexPostmortem pm), .resume s.calls.length (embedder.embedText (docText pm))] =
      match s.manager.indexPostmortem embedder pm with
      | .error exc => some { s with calls := s.calls ++ [.raised exc] }
      | .ok manager => some { manager, calls := s.calls ++ [.done] } := by
  cases he : embedder.embedText (docText pm) with
  | error exc => simp [Machine.run, step, enter, resumed, indexPostmortem, he, Except.map]
  | ok embedding => simp [Machine.run, step, enter, resumed, indexPostmortem, he, Except.map]

/-- The loop of a seeding, with `docs` embedded. -/
theorem run_seedFrom (embedder : Embedder V S) (manager : EpisodicMemoryManager V) (calls : List (MemoryCall V S))
    (docs : List (VectorDocument V)) (pms : List HistoricalPostmortem) (search : Option MemoryQuery) :
    ∃ labels, Machine.run (step embedder)
        { manager := (seedFrom (S := S) manager docs pms search).1,
          calls := calls ++ [(seedFrom manager docs pms search).2] } labels =
      match pms.mapM fun pm => documentOf embedder pm (formatPostmortemText pm) with
      | .error exc => some { manager, calls := calls ++ [.raised exc] }
      | .ok rest => some
          { manager := { vectorStore := manager.vectorStore.addDocuments (docs ++ rest), seeded := true },
            calls := calls ++ [afterSeeding search] } := by
  induction pms generalizing docs with
  | nil => exact ⟨[], by simp [seedFrom, pure, Except.pure]⟩
  | cons pm pms ih =>
    have hdoc : documentOf embedder pm (formatPostmortemText pm) =
        (embedder.embedText (formatPostmortemText pm)).map (document pm (formatPostmortemText pm)) := rfl
    simp only [List.mapM_cons, hdoc]
    cases he : embedder.embedText (formatPostmortemText pm) with
    | error exc =>
      refine ⟨[.resume calls.length (.error exc)], ?_⟩
      simp [Machine.run, step, seedFrom, resumed, Except.map, bind, Except.bind]
    | ok embedding =>
      let doc := document pm (formatPostmortemText pm) embedding
      obtain ⟨labels, hlabels⟩ := ih (docs ++ [doc])
      refine ⟨.resume calls.length (.ok embedding) :: labels, ?_⟩
      have hnext : step embedder { manager, calls := calls ++ [.seeding docs pm pms search] }
          (.resume calls.length (.ok embedding)) =
            some { manager := (seedFrom (S := S) manager (docs ++ [doc]) pms search).1
                   calls := calls ++ [(seedFrom manager (docs ++ [doc]) pms search).2] } := by
        simp [step, resumed, doc]
      refine (Machine.run_cons_of_step hnext).trans (hlabels.trans ?_)
      cases pms.mapM fun pm => documentOf embedder pm (formatPostmortemText pm) with
      | error exc => rfl
      | ok rest => simp [doc, Except.map, bind, Except.bind, pure, Except.pure]

theorem run_seedDefaultMemories (embedder : Embedder V S) (s : ConcurrentMemory V S) :
    ∃ labels, Machine.run (step embedder) s (.start .seedDefaultMemories :: labels) =
      match s.manager.seedDefaultMemories embedder with
      | .error exc => some { s with calls := s.calls ++ [.raised exc] }
      | .ok manager => some { manager, calls := s.calls ++ [.done] } := by
  cases hseeded : s.manager.seeded with
  | true => exact ⟨[], by simp [Machine.run, step, enter, seedDefaultMemories, hseeded]⟩
  | false =>
    obtain ⟨labels, hlabels⟩ := run_seedFrom embedder s.manager s.calls [] historicalPostmortems none
    refine ⟨labels, ?_⟩
    have hstart : step embedder s (.start .seedDefaultMemories) =
        some { manager := (seedFrom (S := S) s.manager [] historicalPostmortems none).1
               calls := s.calls ++ [(seedFrom s.manager [] historicalPostmortems none).2] } := by
      simp only [step, enter, hseeded, Bool.false_eq_true, if_false]
    rw [Machine.run_cons_of_step hstart, hlabels, seedDefaultMemories, hseeded]
    simp only [Bool.false_eq_true, if_false]
    cases historicalPostmortems.mapM fun pm => documentOf embedder pm (formatPostmortemText pm) with
    | error exc => rfl
    | ok docs => rfl

theorem run_searchSimilarIncidents (embedder : Embedder V S) (s : ConcurrentMemory V S) (search : MemoryQuery) :
    ∃ labels, Machine.run (step embedder) s (.start (.searchSimilarIncidents search) :: labels) =
      let (out, manager) := s.manager.searchSimilarIncidents embedder search.query search.service search.topK
        search.maxCharBudget
      some { manager, calls := s.calls ++ [.searched out] } := by
  have hquery : ∀ manager : EpisodicMemoryManager V,
      step embedder { manager, calls := s.calls ++ [.querying search] }
        (.resume s.calls.length (embedder.embedText search.query)) =
      some { manager, calls := s.calls ++ [.searched ((embedder.embedText search.query).map fun queryVector =>
        enforceBudget search.maxCharBudget 0 []
          (Py.sliceTo (manager.retrieve embedder queryVector search.service search.topK) search.topK))] } := by
    intro manager
    cases he : embedder.embedText search.query with
    | error exc => simp [step, resumed, Except.map, MemoryCall.searched]
    | ok queryVector => simp [step, resumed, Except.map, MemoryCall.searched]
  unfold searchSimilarIncidents
  by_cases hblank : Py.isBlank search.query
  · refine ⟨[], ?_⟩
    simp [Machine.run, step, enter, hblank, MemoryCall.searched]
  cases hseeded : s.manager.seeded with
  | true =>
    refine ⟨[.resume s.calls.length (embedder.embedText search.query)], ?_⟩
    have hstart : step embedder s (.start (.searchSimilarIncidents search)) =
        some { manager := s.manager, calls := s.calls ++ [.querying search] } := by
      simp [step, enter, hblank, hseeded]
    rw [Machine.run_cons_of_step hstart, Machine.run_cons, hquery, if_neg hblank, seedDefaultMemories, if_pos hseeded]
    cases embedder.embedText search.query with
    | error exc => rfl
    | ok queryVector => rfl
  | false =>
    obtain ⟨labels, hlabels⟩ := run_seedFrom embedder s.manager s.calls [] historicalPostmortems (some search)
    have hstart : step embedder s (.start (.searchSimilarIncidents search)) =
        some { manager := (seedFrom (S := S) s.manager [] historicalPostmortems (some search)).1
               calls := s.calls ++ [(seedFrom s.manager [] historicalPostmortems (some search)).2] } := by
      simp only [step, enter, hblank, hseeded, Bool.false_eq_true, if_false]
    rw [if_neg hblank, seedDefaultMemories, hseeded]
    simp only [Bool.false_eq_true, if_false]
    cases hdocs : historicalPostmortems.mapM fun pm => documentOf embedder pm (formatPostmortemText pm) with
    | error exc =>
      refine ⟨labels, ?_⟩
      rw [Machine.run_cons_of_step hstart, hlabels, hdocs]
      rfl
    | ok docs =>
      refine ⟨labels ++ [.resume s.calls.length (embedder.embedText search.query)], ?_⟩
      rw [Machine.run_cons_of_step hstart, Machine.run_concat, hlabels, hdocs]
      simp only [Option.bind_some, afterSeeding, hquery, List.nil_append, Except.map]
      cases embedder.embedText search.query with
      | error exc => rfl
      | ok queryVector => rfl

end

/-! ## What a step does -/

/-- A call that begins changes nothing. It finds nothing either, and seeds from the start. -/
theorem enter_cases [UnicodeText] (manager : EpisodicMemoryManager V) (request : MemoryRequest) :
    ∃ call : MemoryCall V S, enter manager request = (manager, call) ∧
      (∀ docs pm rest search, call = .seeding docs pm rest search →
        docs = [] ∧ pm :: rest = historicalPostmortems) ∧
      ∀ results, call = .returned results → results = [] := by
  have hseed : ∀ search, ∃ call : MemoryCall V S,
      seedFrom manager [] historicalPostmortems search = (manager, call) ∧
      (∀ docs pm rest search, call = .seeding docs pm rest search →
        docs = [] ∧ pm :: rest = historicalPostmortems) ∧
      ∀ results, call = .returned results → results = [] := by
    intro search
    obtain ⟨pm, rest, hpms⟩ : ∃ pm rest, historicalPostmortems = pm :: rest := ⟨_, _, rfl⟩
    rw [hpms]
    refine ⟨.seeding [] pm rest search, rfl, ?_, nofun⟩
    rintro docs pm' rest' search' ⟨⟩
    exact ⟨rfl, rfl⟩
  cases request with
  | indexPostmortem pm => exact ⟨.indexing pm, rfl, nofun, nofun⟩
  | seedDefaultMemories =>
    simp only [enter]
    split
    · exact ⟨.done, rfl, nofun, nofun⟩
    · exact hseed none
  | searchSimilarIncidents search =>
    simp only [enter]
    split
    · refine ⟨.returned [], rfl, nofun, ?_⟩
      rintro results ⟨⟩
      rfl
    · split
      · exact ⟨.querying search, rfl, nofun, nofun⟩
      · exact hseed (some search)

/-- The ids that the step adds to the store. -/
def adds (s : ConcurrentMemory V S) : Label V → List String
  | .resume i (.ok _) =>
    match s.calls[i]? with
    | some (.indexing pm) => [pm.incidentId]
    | some (.seeding _ _ [] _) => historicalPostmortems.map HistoricalPostmortem.incidentId
    | _ => []
  | _ => []

theorem nodup_adds (s : ConcurrentMemory V S) (l : Label V) : (s.adds l).Nodup := by
  unfold adds
  split
  · split
    · exact List.nodup_singleton _
    · exact nodup_seeded_ids
    · exact List.nodup_nil
  · exact List.nodup_nil

/-- An incident is added only while the store does not hold it. -/
def Fresh (s : ConcurrentMemory V S) (l : Label V) : Prop := s.manager.ids.Disjoint (s.adds l)

/-- A seeding holds the documents of the postmortems before the one that it waits for. -/
def Seeding (calls : List (MemoryCall V S)) : Prop :=
  ∀ docs pm rest search, .seeding docs pm rest search ∈ calls →
    docs.map VectorDocument.id ++ (pm :: rest).map HistoricalPostmortem.incidentId =
      historicalPostmortems.map HistoricalPostmortem.incidentId

section
variable [LinearOrder S] {embedder : Embedder V S}

theorem resumed_cases {manager manager' : EpisodicMemoryManager V} {call call' : MemoryCall V S}
    {answer : Except PyException V} (h : resumed embedder manager call answer = some (manager', call')) :
    (∃ exc, answer = .error exc ∧ manager' = manager ∧ call' = .raised exc) ∨
    (∃ embedding, answer = .ok embedding ∧
      ((∃ pm, call = .indexing pm ∧ call' = .done ∧
        manager' = { manager with
          vectorStore := manager.vectorStore.addDocuments [document pm (docText pm) embedding] }) ∨
      (∃ docs pm search, call = .seeding docs pm [] search ∧ call' = afterSeeding search ∧
        manager' = { vectorStore := manager.vectorStore.addDocuments
                      (docs ++ [document pm (formatPostmortemText pm) embedding]), seeded := true }) ∨
      (∃ docs pm pm' rest search, call = .seeding docs pm (pm' :: rest) search ∧ manager' = manager ∧
        call' = .seeding (docs ++ [document pm (formatPostmortemText pm) embedding]) pm' rest search) ∨
      ∃ search, call = .querying search ∧ manager' = manager ∧
        call' = .returned (enforceBudget search.maxCharBudget 0 []
          (Py.sliceTo (manager.retrieve embedder embedding search.service search.topK) search.topK)))) := by
  cases answer with
  | error exc =>
    refine .inl ⟨exc, rfl, ?_⟩
    cases call with
    | indexing | seeding | querying =>
      cases h
      exact ⟨rfl, rfl⟩
    | done | returned | raised => cases h
  | ok embedding =>
    refine .inr ⟨embedding, rfl, ?_⟩
    cases call with
    | indexing pm =>
      cases h
      exact .inl ⟨pm, rfl, rfl, rfl⟩
    | seeding docs pm rest search =>
      cases rest with
      | nil =>
        cases h
        exact .inr (.inl ⟨docs, pm, search, rfl, rfl, rfl⟩)
      | cons pm' rest =>
        cases h
        exact .inr (.inr (.inl ⟨docs, pm, pm', rest, search, rfl, rfl, rfl⟩))
    | querying search =>
      cases h
      exact .inr (.inr (.inr ⟨search, rfl, rfl, rfl⟩))
    | done | returned | raised => cases h

variable [UnicodeText]

theorem step_cases {s s' : ConcurrentMemory V S} {l : Label V} (h : step embedder s l = some s') :
    (∃ request call, l = .start request ∧ enter s.manager request = (s.manager, call) ∧
      s' = { s with calls := s.calls ++ [call] }) ∨
    ∃ i answer call manager call', l = .resume i answer ∧ s.calls[i]? = some call ∧
      resumed embedder s.manager call answer = some (manager, call') ∧
      s' = { manager, calls := s.calls.set i call' } := by
  cases l with
  | start request =>
    obtain ⟨call, henter, -⟩ := enter_cases (S := S) s.manager request
    simp only [step, henter, Option.some.injEq] at h
    exact .inl ⟨request, call, rfl, henter, h.symm⟩
  | resume i answer =>
    cases hi : s.calls[i]? with
    | none => simp [step, hi] at h
    | some call =>
      simp only [step, hi, Option.map_eq_some_iff] at h
      obtain ⟨⟨manager, call'⟩, hr, rfl⟩ := h
      exact .inr ⟨i, answer, call, manager, call', rfl, hi, hr, rfl⟩

/-- A step extends the store by the ids that it adds. -/
theorem ids_step {s s' : ConcurrentMemory V S} {l : Label V} (hI : Seeding s.calls)
    (h : step embedder s l = some s') : s'.manager.ids = s.manager.ids ++ s.adds l := by
  obtain ⟨request, call, rfl, -, rfl⟩ | ⟨i, answer, call, manager, call', rfl, hi, hr, rfl⟩ := step_cases h
  · simp [adds]
  · obtain ⟨exc, rfl, rfl, rfl⟩ | ⟨embedding, rfl, ⟨pm, rfl, rfl, rfl⟩ | ⟨docs, pm, search, rfl, rfl, rfl⟩ |
      ⟨docs, pm, pm', rest, search, rfl, rfl, rfl⟩ | ⟨search, rfl, rfl, rfl⟩⟩ := resumed_cases hr
    · simp [adds]
    · simp [adds, hi, ids, InMemoryVectorStore.addDocuments, document]
    · have hids := hI docs pm [] search (List.mem_of_getElem? hi)
      simp [adds, hi, ids, InMemoryVectorStore.addDocuments, document, ← hids]
    · simp [adds, hi]
    · simp [adds, hi]

/-- A label that is not enabled adds nothing. -/
theorem adds_of_not_step {s : ConcurrentMemory V S} {l : Label V} (h : step embedder s l = none) :
    s.adds l = [] := by
  cases l with
  | start request => cases h
  | resume i answer =>
    cases hi : s.calls[i]? with
    | none => cases answer <;> simp [adds, hi]
    | some call =>
      simp only [step, hi, Option.map_eq_none_iff] at h
      cases answer with
      | error exc => rfl
      | ok embedding =>
        cases call with
        | indexing | seeding | querying => cases h
        | done | returned | raised => simp [adds, hi]

theorem seeding_step {s s' : ConcurrentMemory V S} {l : Label V} (hI : Seeding s.calls)
    (h : step embedder s l = some s') : Seeding s'.calls := by
  obtain ⟨request, call, rfl, henter, rfl⟩ | ⟨i, answer, call, manager, call', rfl, hi, hr, rfl⟩ := step_cases h
  · intro docs pm rest search hmem
    rcases List.mem_append.1 hmem with hold | hnew
    · exact hI docs pm rest search hold
    · obtain ⟨call', henter', hseed, -⟩ := enter_cases (S := S) s.manager request
      rw [henter] at henter'
      cases henter'
      obtain ⟨rfl, hpms⟩ := hseed docs pm rest search (List.mem_singleton.1 hnew).symm
      rw [hpms, List.map_nil, List.nil_append]
  · intro docs pm rest search hmem
    rcases List.mem_or_eq_of_mem_set hmem with hold | hnew
    · exact hI docs pm rest search hold
    · obtain ⟨exc, rfl, rfl, rfl⟩ | ⟨embedding, rfl, ⟨pm, rfl, rfl, rfl⟩ | ⟨docs, pm, next, rfl, rfl, rfl⟩ |
        ⟨docs', pm', pm'', rest', search', rfl, rfl, rfl⟩ | ⟨search, rfl, rfl, rfl⟩⟩ := resumed_cases hr
      · cases hnew
      · cases hnew
      · cases next with
        | none => cases hnew
        | some search => cases hnew
      · cases hnew
        have hids := hI docs' pm' (pm :: rest) search (List.mem_of_getElem? hi)
        rw [← hids]
        simp [document]
      · cases hnew

end

/-! ## Documents are unique -/

open InMemoryVectorStore (admitted listed)

/-- The budget keeps a part of the results, in their order. -/
theorem listed_enforceBudget (maxCharBudget acc : Nat) (kept results : List (VectorSearchResult V S)) :
    (listed (enforceBudget maxCharBudget acc kept results)).Sublist (listed (kept ++ results)) := by
  induction results generalizing acc kept with
  | nil => simp [enforceBudget]
  | cons res results ih =>
    rw [enforceBudget]
    split
    · simp [listed]
    · simpa using ih _ (kept ++ [res])

section
variable [LinearOrder S] {embedder : Embedder V S}

/-- No incident is stored twice, and none is found twice, so that a document that a search leaves out
gave way to as many other incidents as the search has room for. -/
structure Unique (embedder : Embedder V S) (s : ConcurrentMemory V S) : Prop where
  stored : s.manager.ids.Nodup
  found : ∀ queryVector (limit : Int) metadataFilters,
    (listed (s.manager.vectorStore.search embedder queryVector limit metadataFilters)).Nodup
  ranked : ∀ queryVector (limit : Nat) metadataFilters, ∀ doc ∈ s.manager.vectorStore.documents,
    admitted metadataFilters doc = true →
    let results := s.manager.vectorStore.search embedder queryVector limit metadataFilters
    doc.id ∉ listed results → results.length = limit ∧
      ∀ res ∈ results, embedder.cosineSimilarity queryVector doc.embedding ≤ res.similarityScore
  returned : ∀ results, .returned results ∈ s.calls → (listed results).Nodup

theorem Unique.mk' {s : ConcurrentMemory V S} (hids : s.manager.ids.Nodup)
    (hcalls : ∀ results, .returned results ∈ s.calls → (listed results).Nodup) : s.Unique embedder where
  stored := hids
  found queryVector limit metadataFilters :=
    InMemoryVectorStore.nodup_search hids embedder queryVector limit metadataFilters
  ranked _ _ _ _ hdoc hadm hout := InMemoryVectorStore.search_full hdoc hadm hout
  returned := hcalls

theorem nodup_retrieve {manager : EpisodicMemoryManager V} (h : manager.ids.Nodup) (embedder : Embedder V S)
    (queryVector : V) (service : Option String) (topK : Int) :
    (listed (manager.retrieve embedder queryVector service topK)).Nodup := by
  have hsearch : ∀ metadataFilters,
      (listed (manager.vectorStore.search embedder queryVector topK metadataFilters)).Nodup :=
    InMemoryVectorStore.nodup_search h embedder queryVector topK
  unfold retrieve
  cases service with
  | none => exact hsearch []
  | some s =>
    by_cases hs : s = ""
    · simpa [hs] using hsearch []
    · simp only [hs, if_false]
      split
      · exact hsearch []
      · exact hsearch [("service", s)]

variable [UnicodeText]

/-- A step keeps the documents unique exactly if it adds no incident that is there. -/
theorem unique_step {s s' : ConcurrentMemory V S} {l : Label V} (hI : Seeding s.calls) (hU : s.Unique embedder)
    (h : step embedder s l = some s') : s'.Unique embedder ↔ s.Fresh l := by
  have hids := ids_step hI h
  constructor
  · intro hU'
    have hnodup := hU'.stored
    rw [hids, List.nodup_append'] at hnodup
    exact hnodup.2.2
  · intro hfresh
    refine .mk' ?_ ?_
    · rw [hids, List.nodup_append']
      exact ⟨hU.stored, nodup_adds s l, hfresh⟩
    · obtain ⟨request, call, rfl, henter, rfl⟩ | ⟨i, answer, call, manager, call', rfl, hi, hr, rfl⟩ := step_cases h
      · intro results hmem
        rcases List.mem_append.1 hmem with hold | hnew
        · exact hU.returned results hold
        · obtain ⟨call', henter', -, hret⟩ := enter_cases (S := S) s.manager request
          rw [henter] at henter'
          cases henter'
          rw [hret results (List.mem_singleton.1 hnew).symm]
          exact List.nodup_nil
      · intro results hmem
        rcases List.mem_or_eq_of_mem_set hmem with hold | rfl
        · exact hU.returned results hold
        · obtain ⟨exc, rfl, rfl, hcall⟩ | ⟨embedding, rfl, ⟨pm, rfl, hcall, rfl⟩ | ⟨docs, pm, next, rfl, hcall, rfl⟩ |
            ⟨docs, pm, pm', rest, search, rfl, rfl, hcall⟩ | ⟨search, rfl, rfl, hcall⟩⟩ := resumed_cases hr
          · cases hcall
          · cases hcall
          · cases next with
            | none => cases hcall
            | some search => cases hcall
          · cases hcall
          · cases hcall
            have hnodup := nodup_retrieve hU.stored embedder embedding search.service search.topK
            refine (hnodup.sublist ?_).sublist (listed_enforceBudget _ 0 [] _)
            exact (Py.sliceTo_sublist _ _).map _

/-- **Documents are unique** in all states of a run exactly if the store had none twice to begin with
and every call that comes to its end adds incidents that are not there. -/
theorem unique_iff (embedder : Embedder V S) (vectorStore : InMemoryVectorStore V) (labels : List (Label V)) :
    (∀ before, before <+: labels → ∀ s, Machine.run (step embedder) (ofStore vectorStore) before = some s →
      s.Unique embedder) ↔
    (vectorStore.documents.map VectorDocument.id).Nodup ∧
      Machine.Along (step embedder) Fresh (ofStore vectorStore) labels := by
  have hnone : ∀ (s : ConcurrentMemory V S) l, step embedder s l = none → s.Fresh l := by
    intro s l h
    rw [Fresh, adds_of_not_step h]
    exact List.disjoint_nil_right _
  have hstart : (ofStore vectorStore : ConcurrentMemory V S).Unique embedder ↔
      (vectorStore.documents.map VectorDocument.id).Nodup :=
    ⟨Unique.stored, fun h => .mk' h nofun⟩
  rw [← hstart]
  exact Machine.forall_prefix_iff_along (I := fun s => Seeding s.calls) (fun s l s' => seeding_step)
    (fun s l s' => unique_step) hnone nofun

end

/-! ## Calls that keep apart -/

/-- The ids that are in the store or on their way to it. -/
def held (s : ConcurrentMemory V S) : List String := s.manager.ids ++ s.calls.flatMap MemoryCall.pending

/-- What a resumed call adds and still has to add, it had to add before. -/
theorem held_set {s : ConcurrentMemory V S} {i : Nat} {call call' : MemoryCall V S}
    {manager : EpisodicMemoryManager V} (hi : s.calls[i]? = some call) {added : List String}
    (hids : manager.ids = s.manager.ids ++ added) (hcall : (added ++ call'.pending).Sublist call.pending)
    (h : s.held.Nodup) :
    (held { manager, calls := s.calls.set i call' }).Nodup ∧ s.manager.ids.Disjoint added := by
  obtain ⟨hlt, rfl⟩ := List.getElem?_eq_some_iff.1 hi
  let before := (s.calls.take i).flatMap MemoryCall.pending
  let after := (s.calls.drop (i + 1)).flatMap MemoryCall.pending
  have hheld : s.held = s.manager.ids ++ (before ++ (s.calls[i].pending ++ after)) := by
    have hsplit : s.calls = s.calls.take i ++ s.calls[i] :: s.calls.drop (i + 1) := by simp
    rw [held]
    conv_lhs => rw [hsplit]
    rw [List.flatMap_append, List.flatMap_cons]
  have hheld' : held { manager, calls := s.calls.set i call' } =
      s.manager.ids ++ added ++ (before ++ (call'.pending ++ after)) := by
    rw [held, hids, List.set_eq_take_append_cons_drop, if_pos hlt, List.flatMap_append, List.flatMap_cons]
  have hperm : (held { manager, calls := s.calls.set i call' }).Perm
      (s.manager.ids ++ (before ++ ((added ++ call'.pending) ++ after))) := by
    rw [hheld', List.perm_iff_count]
    intro id
    simp only [List.count_append]
    omega
  have hnodup : (s.manager.ids ++ (before ++ ((added ++ call'.pending) ++ after))).Nodup := by
    rw [hheld] at h
    exact h.sublist ((List.Sublist.refl _).append ((List.Sublist.refl _).append (hcall.append (List.Sublist.refl _))))
  refine ⟨hperm.nodup_iff.2 hnodup, fun id hid hadded => ?_⟩
  exact (List.nodup_append'.1 hnodup).2.2 hid (by simp [hadded])

/-- A call begins only when what it will add is neither in the store nor on its way to it. -/
def Apart [UnicodeText] (s : ConcurrentMemory V S) : Label V → Prop
  | .start request => s.held.Disjoint (enter (S := S) s.manager request).2.pending
  | .resume .. => True

section
variable [LinearOrder S] {embedder : Embedder V S}

/-- A resumed call adds what it had to add, or nothing. -/
theorem adds_resumed {s : ConcurrentMemory V S} {i : Nat} {call call' : MemoryCall V S}
    {manager : EpisodicMemoryManager V} {answer : Except PyException V} (hi : s.calls[i]? = some call)
    (hr : resumed embedder s.manager call answer = some (manager, call')) :
    (s.adds (.resume i answer) ++ call'.pending).Sublist call.pending := by
  obtain ⟨exc, rfl, rfl, rfl⟩ | ⟨embedding, rfl, ⟨pm, rfl, rfl, rfl⟩ | ⟨docs, pm, next, rfl, rfl, rfl⟩ |
    ⟨docs, pm, pm', rest, search, rfl, rfl, rfl⟩ | ⟨search, rfl, rfl, rfl⟩⟩ := resumed_cases hr
  · simp [adds, MemoryCall.pending]
  · simp [adds, hi, MemoryCall.pending]
  · cases next with
    | none => simp [adds, hi, MemoryCall.pending, afterSeeding]
    | some search => simp [adds, hi, MemoryCall.pending, afterSeeding]
  · simp [adds, hi, MemoryCall.pending]
  · simp [adds, hi, MemoryCall.pending]

variable [UnicodeText]

/-- Calls that keep apart when they begin add no incident that is there when they end. -/
theorem fresh_of_apart (embedder : Embedder V S) {vectorStore : InMemoryVectorStore V}
    (hstore : (vectorStore.documents.map VectorDocument.id).Nodup) {labels : List (Label V)}
    (halong : Machine.Along (step embedder) Apart (ofStore vectorStore) labels) :
    Machine.Along (step embedder) Fresh (ofStore vectorStore) labels := by
  refine Machine.along_mono_of_invariant (I := fun s => Seeding s.calls ∧ s.held.Nodup) ?_ ?_ ⟨nofun, ?_⟩ halong
  · rintro s l s' ⟨hI, hheld⟩ hC hst
    refine ⟨seeding_step hI hst, ?_⟩
    have hids := ids_step hI hst
    obtain ⟨request, call, rfl, henter, rfl⟩ | ⟨i, answer, call, manager, call', rfl, hi, hr, rfl⟩ := step_cases hst
    · have hnew : (held { s with calls := s.calls ++ [call] }) = s.held ++ call.pending := by
        simp [held]
      rw [hnew, List.nodup_append']
      rw [Apart, henter] at hC
      exact ⟨hheld, call.nodup_pending, hC⟩
    · exact (held_set hi hids (adds_resumed hi hr) hheld).1
  · rintro s l ⟨hI, hheld⟩ -
    cases hst : step embedder s l with
    | none =>
      rw [Fresh, adds_of_not_step hst]
      exact List.disjoint_nil_right _
    | some s' =>
      have hids := ids_step hI hst
      obtain ⟨request, call, rfl, henter, rfl⟩ | ⟨i, answer, call, manager, call', rfl, hi, hr, rfl⟩ := step_cases hst
      · exact List.disjoint_nil_right _
      · exact (held_set hi hids (adds_resumed hi hr) hheld).2
  · simpa [held, ofStore, ids] using hstore

end

def latencyPostmortem : HistoricalPostmortem :=
  { incidentId := "INC-1", title := "", service := "payment-service", severity := "SEV-2", summary := ""
    rootCause := "" }

/-- A report is generated twice: its incident is stored twice. -/
theorem indexed_twice :
    letI := Py.asciiText
    ∃ s, Machine.run (step (alikeEmbedder 1)) (ofStore {})
        [.start (.indexPostmortem latencyPostmortem), .resume 0 (.ok ()),
          .start (.indexPostmortem latencyPostmortem), .resume 1 (.ok ())] = some s ∧
      s.manager.ids = ["INC-1", "INC-1"] ∧ ¬ s.Unique (alikeEmbedder 1) := by
  let _ := Py.asciiText
  refine ⟨_, rfl, rfl, fun hU => ?_⟩
  have hids : (["INC-1", "INC-1"] : List String).Nodup := hU.stored
  exact absurd hids (by decide)

end ConcurrentMemory

end OpsPilot
