import OpsPilot.Lib.Ranking
import OpsPilot.Lib.Slice
import OpsPilot.Memory.SeedData
/-!
# Episodic memory (`src/memory/episodic.py`, `src/memory/vector_store.py`)

What is floating point here is a parameter: an `Embedder` embeds texts, or raises, compares
vectors, and prints a similarity. Everything below holds for each of them.

| here | there |
| --- | --- |
| `InMemoryVectorStore.search`                     | vector_store.py:60 |
| `EpisodicMemoryManager.indexPostmortem`          | episodic.py:48 |
| `EpisodicMemoryManager.searchSimilarIncidents`   | episodic.py:110 |
| `SearchIncidentMemoryTool.run`                   | `_run` (memory_tools.py:22) |
-/
namespace OpsPilot

/-- The embedding provider and the arithmetic on similarities. -/
structure Embedder (V S : Type) where
  /-- `embed_text` -/
  embedText : String → Except PyException V
  /-- `_cosine_similarity` -/
  cosineSimilarity : V → V → S
  /-- `round(score, 4)` -/
  round4 : S → PyFloat
  /-- `f"{score:.3f}"` -/
  fixed3 : S → String

/-- Every text has the same embedding, so any two texts are equally similar. -/
def alikeEmbedder (similarity : Nat) : Embedder Unit Nat where
  embedText _ := .ok ()
  cosineSimilarity _ _ := similarity
  round4 _ := .zero
  fixed3 _ := toString similarity ++ ".000"

/-- vector_store.py:9 -/
structure VectorDocument (V : Type) where
  id : String
  text : String
  embedding : V
  metadata : Dict String Json

/-- vector_store.py:18 -/
structure VectorSearchResult (V S : Type) where
  document : VectorDocument V
  similarityScore : S

/-- vector_store.py:42 -/
structure InMemoryVectorStore (V : Type) where
  documents : List (VectorDocument V) := []

/-- episodic.py:18 -/
structure EpisodicMemoryManager (V : Type) where
  vectorStore : InMemoryVectorStore V := {}
  seeded : Bool := false

variable {V S : Type}

/-! ## The store -/

namespace InMemoryVectorStore

def addDocuments (store : InMemoryVectorStore V) (documents : List (VectorDocument V)) :
    InMemoryVectorStore V :=
  { documents := store.documents ++ documents }

/-- The filters are met; the only one there is in the program is the service's name. -/
def admitted (metadataFilters : List (String × String)) (doc : VectorDocument V) : Bool :=
  metadataFilters.all fun (k, v) => (doc.metadata.getD k .null).eqStr v

variable [LinearOrder S]

def search (embedder : Embedder V S) (store : InMemoryVectorStore V) (queryVector : V) (limit : Int)
    (metadataFilters : List (String × String)) : List (VectorSearchResult V S) :=
  let candidates := store.documents.filter (admitted metadataFilters)
  let scored := candidates.map fun doc =>
    { document := doc, similarityScore := embedder.cosineSimilarity queryVector doc.embedding }
  Py.sliceTo (Ranking.rank VectorSearchResult.similarityScore scored) limit

/-- Only stored documents that meet the filters are found. -/
theorem mem_search {embedder : Embedder V S} {store : InMemoryVectorStore V} {queryVector : V}
    {limit : Int} {metadataFilters : List (String × String)} {res : VectorSearchResult V S}
    (h : res ∈ store.search embedder queryVector limit metadataFilters) :
    res.document ∈ store.documents ∧ admitted metadataFilters res.document = true := by
  have hsorted := Ranking.mem_rank.1 ((Py.sliceTo_sublist _ _).subset h)
  obtain ⟨doc, hdoc, rfl⟩ := List.mem_map.1 hsorted
  exact List.mem_filter.1 hdoc

/-- The ids of the documents found. -/
def listed (results : List (VectorSearchResult V S)) : List String := results.map fun res => res.document.id

/-- All the admitted documents, best first. -/
def ranking (embedder : Embedder V S) (store : InMemoryVectorStore V) (queryVector : V)
    (metadataFilters : List (String × String)) : List (VectorSearchResult V S) :=
  Ranking.rank VectorSearchResult.similarityScore
    ((store.documents.filter (admitted metadataFilters)).map fun doc =>
      { document := doc, similarityScore := embedder.cosineSimilarity queryVector doc.embedding })

theorem search_eq (embedder : Embedder V S) (store : InMemoryVectorStore V) (queryVector : V) (limit : Int)
    (metadataFilters : List (String × String)) :
    store.search embedder queryVector limit metadataFilters =
      Py.sliceTo (store.ranking embedder queryVector metadataFilters) limit := rfl

theorem search_natCast (embedder : Embedder V S) (store : InMemoryVectorStore V) (queryVector : V) (limit : Nat)
    (metadataFilters : List (String × String)) :
    store.search embedder queryVector limit metadataFilters =
      (store.ranking embedder queryVector metadataFilters).take limit := Py.sliceTo_natCast _ limit

theorem pairwise_ranking (embedder : Embedder V S) (store : InMemoryVectorStore V) (queryVector : V)
    (metadataFilters : List (String × String)) :
    (store.ranking embedder queryVector metadataFilters).Pairwise fun a b =>
      b.similarityScore ≤ a.similarityScore :=
  Ranking.pairwise_rank VectorSearchResult.similarityScore _

/-- Documents with distinct ids are found at most once. -/
theorem nodup_search {store : InMemoryVectorStore V} (h : (store.documents.map VectorDocument.id).Nodup)
    (embedder : Embedder V S) (queryVector : V) (limit : Int) (metadataFilters : List (String × String)) :
    (listed (store.search embedder queryVector limit metadataFilters)).Nodup := by
  have hperm : (listed (store.ranking embedder queryVector metadataFilters)).Perm
      ((store.documents.filter (admitted metadataFilters)).map VectorDocument.id) := by
    refine ((Ranking.rank_perm _ _).map _).trans ?_
    rw [List.map_map]
    exact .refl _
  rw [search_eq, listed, Py.map_sliceTo]
  exact (hperm.nodup_iff.2 (h.sublist (List.filter_sublist.map _))).sublist (Py.sliceTo_sublist _ _)

/-- An admitted document is left out only for `limit` others that are as similar at least. -/
theorem search_full {embedder : Embedder V S} {store : InMemoryVectorStore V} {queryVector : V} {limit : Nat}
    {metadataFilters : List (String × String)} {doc : VectorDocument V} (hdoc : doc ∈ store.documents)
    (hadm : admitted metadataFilters doc = true)
    (hout : doc.id ∉ listed (store.search embedder queryVector limit metadataFilters)) :
    (store.search embedder queryVector limit metadataFilters).length = limit ∧
      ∀ res ∈ store.search embedder queryVector limit metadataFilters,
        embedder.cosineSimilarity queryVector doc.embedding ≤ res.similarityScore := by
  rw [search_natCast] at hout ⊢
  let found : VectorSearchResult V S :=
    { document := doc, similarityScore := embedder.cosineSimilarity queryVector doc.embedding }
  have hmem : found ∈ store.ranking embedder queryVector metadataFilters := by
    refine Ranking.mem_rank.2 ?_
    exact List.mem_map.2 ⟨doc, List.mem_filter.2 ⟨hdoc, hadm⟩, rfl⟩
  have hrest : found ∈ (store.ranking embedder queryVector metadataFilters).drop limit := by
    rw [← List.take_append_drop limit (store.ranking embedder queryVector metadataFilters)] at hmem
    rcases List.mem_append.1 hmem with htake | hdrop
    · exact absurd (List.mem_map.2 ⟨found, htake, rfl⟩) hout
    · exact hdrop
  constructor
  · have hlt : limit < (store.ranking embedder queryVector metadataFilters).length := by
      have hpos := List.length_pos_of_mem hrest
      rw [List.length_drop] at hpos
      omega
    rw [List.length_take]
    omega
  · intro res hres
    have hpair := store.pairwise_ranking embedder queryVector metadataFilters
    rw [← List.take_append_drop limit (store.ranking embedder queryVector metadataFilters)] at hpair
    exact (List.pairwise_append.1 hpair).2.2 res hres found hrest

end InMemoryVectorStore

/-! ## The manager -/

namespace EpisodicMemoryManager

/-- One line per item. -/
def bullets (items : List String) : String := "\n".intercalate (items.map fun s => "- " ++ s)

/-- episodic.py:30 -/
def formatPostmortemText (pm : HistoricalPostmortem) : String :=
  "Incident: " ++ pm.incidentId ++ " - " ++ pm.title ++ "\n" ++
    "Service: " ++ pm.service ++ " | Severity: " ++ pm.severity ++ "\n" ++
    "Summary: " ++ pm.summary ++ "\n" ++
    "Root Cause: " ++ pm.rootCause ++ "\n" ++
    "Detection Signals:\n" ++ bullets pm.detectionSignals ++ "\n" ++
    "Remediation Steps:\n" ++ bullets pm.remediationSteps ++ "\n" ++
    "Prevention Measures:\n" ++ bullets pm.preventionMeasures

/-- The document of a postmortem, once its text is embedded (episodic.py:53). -/
def document (pm : HistoricalPostmortem) (docText : String) (embedding : V) : VectorDocument V :=
  { id := pm.incidentId, text := docText, embedding
    metadata := (Dict.ofList [("incident_id", .str pm.incidentId), ("title", .str pm.title),
      ("service", .str pm.service), ("severity", .str pm.severity), ("root_cause", .str pm.rootCause),
      ("remediation_steps", .arr (pm.remediationSteps.map .str))]).update pm.metadata }

def documentOf (embedder : Embedder V S) (pm : HistoricalPostmortem) (docText : String) :
    Except PyException (VectorDocument V) :=
  (embedder.embedText docText).map (document pm docText)

/-- The text that is indexed (episodic.py:50). -/
def docText (pm : HistoricalPostmortem) : String :=
  if pm.fullText ≠ "" then pm.fullText else formatPostmortemText pm

/-- `index_postmortem` from the answer of the provider on (episodic.py:53). -/
def addPostmortem (manager : EpisodicMemoryManager V) (pm : HistoricalPostmortem) (embedding : V) :
    EpisodicMemoryManager V :=
  { manager with vectorStore := manager.vectorStore.addDocuments [document pm (docText pm) embedding] }

def indexPostmortem (embedder : Embedder V S) (manager : EpisodicMemoryManager V)
    (pm : HistoricalPostmortem) : Except PyException (EpisodicMemoryManager V) :=
  (embedder.embedText (docText pm)).map (manager.addPostmortem pm)

/-- episodic.py:74 -/
def seedDefaultMemories (embedder : Embedder V S) (manager : EpisodicMemoryManager V) :
    Except PyException (EpisodicMemoryManager V) :=
  if manager.seeded then .ok manager
  else (historicalPostmortems.mapM fun pm => documentOf embedder pm (formatPostmortemText pm)).map fun docs =>
    { vectorStore := manager.vectorStore.addDocuments docs, seeded := true }

/-- episodic.py:147, from the results kept so far. -/
def enforceBudget (maxCharBudget : Nat) :
    Nat → List (VectorSearchResult V S) → List (VectorSearchResult V S) → List (VectorSearchResult V S)
  | _, budgetedResults, [] => budgetedResults
  | accumulatedChars, budgetedResults, res :: results =>
    let docLen := res.document.text.length
    if accumulatedChars + docLen > maxCharBudget ∧ ¬ budgetedResults.isEmpty then
      let remaining := max 100 (maxCharBudget - accumulatedChars)
      let truncatedDoc := { res.document with text := Py.take res.document.text remaining ++ "\n...[truncated]" }
      budgetedResults ++ [{ res with document := truncatedDoc }]
    else enforceBudget maxCharBudget (accumulatedChars + docLen) (budgetedResults ++ [res]) results

/-- The documents for the service, else for any service (episodic.py:131). -/
def retrieve [LinearOrder S] (embedder : Embedder V S) (manager : EpisodicMemoryManager V)
    (queryVector : V) (service : Option String) (topK : Int) : List (VectorSearchResult V S) :=
  let results :=
    match service with
    | some s => if s = "" then [] else manager.vectorStore.search embedder queryVector topK [("service", s)]
    | none => []
  if results.isEmpty then manager.vectorStore.search embedder queryVector topK [] else results

/-- What a search returns or raises, and the manager after it. -/
def searchSimilarIncidents [UnicodeText] [LinearOrder S] (embedder : Embedder V S)
    (manager : EpisodicMemoryManager V) (query : String) (service : Option String) (topK : Int := 3)
    (maxCharBudget : Nat := 2400) :
    Except PyException (List (VectorSearchResult V S)) × EpisodicMemoryManager V :=
  if Py.isBlank query then (.ok [], manager)
  else
    match manager.seedDefaultMemories embedder with
    | .error exc => (.error exc, manager)
    | .ok manager =>
      match embedder.embedText query with
      | .error exc => (.error exc, manager)
      | .ok queryVector =>
        let results := manager.retrieve embedder queryVector service topK
        (.ok (enforceBudget maxCharBudget 0 [] (Py.sliceTo results topK)), manager)

/-- episodic.py:166 -/
def formatMemoriesForPrompt [Unicode] (embedder : Embedder V S)
    (results : List (VectorSearchResult V S)) : String :=
  if results.isEmpty then "No historical postmortems matching the query were found in memory."
  else "\n".intercalate <| results.zipIdx.map fun (res, i) =>
    let doc := res.document
    let steps := match doc.metadata.getD "remediation_steps" (.arr []) with
      | .arr steps => steps
      | _ => []
    "### [Historical Match " ++ toString (i + 1) ++ "] " ++ doc.id ++ ": " ++
      (doc.metadata.getD "title" (.str "Unknown")).pyStr ++ "\n" ++
      "- **Similarity Score**: " ++ embedder.fixed3 res.similarityScore ++ "\n" ++
      "- **Target Service**: " ++ (doc.metadata.getD "service" (.str "N/A")).pyStr ++ "\n" ++
      "- **Root Cause**: " ++ (doc.metadata.getD "root_cause" (.str "N/A")).pyStr ++ "\n" ++
      "- **Proven Remediation**:\n" ++
      "\n".intercalate (steps.map fun r => "    * " ++ r.pyStr) ++ "\n"

end EpisodicMemoryManager

/-! ## What is in the memory and what is found -/

namespace EpisodicMemoryManager

/-- The ids of the documents. -/
def ids (manager : EpisodicMemoryManager V) : List String :=
  manager.vectorStore.documents.map VectorDocument.id

theorem id_documentOf {embedder : Embedder V S} {pm : HistoricalPostmortem} {text : String}
    {doc : VectorDocument V} (h : documentOf embedder pm text = .ok doc) :
    doc.id = pm.incidentId := by
  unfold documentOf at h
  cases he : embedder.embedText text with
  | error exc =>
    rw [he] at h
    cases h
  | ok embedding =>
    rw [he] at h
    cases h
    rfl

theorem ids_documentsOf {embedder : Embedder V S} {pms : List HistoricalPostmortem}
    {docs : List (VectorDocument V)}
    (h : pms.mapM (fun pm => documentOf embedder pm (formatPostmortemText pm)) = .ok docs) :
    docs.map VectorDocument.id = pms.map HistoricalPostmortem.incidentId := by
  induction pms generalizing docs with
  | nil =>
    cases h
    rfl
  | cons pm pms ih =>
    rw [List.mapM_cons] at h
    cases hd : documentOf embedder pm (formatPostmortemText pm) with
    | error exc =>
      rw [hd] at h
      cases h
    | ok doc =>
      rw [hd] at h
      cases hds : pms.mapM (fun pm => documentOf embedder pm (formatPostmortemText pm)) with
      | error exc =>
        rw [hds] at h
        cases h
      | ok rest =>
        rw [hds] at h
        cases h
        rw [List.map_cons, List.map_cons, id_documentOf hd, ih hds]

/-- Seeding adds the curated documents, if anything. -/
theorem ids_seedDefaultMemories {embedder : Embedder V S}
    {manager manager' : EpisodicMemoryManager V}
    (h : manager.seedDefaultMemories embedder = .ok manager') {id : String}
    (hid : id ∈ manager'.ids) :
    id ∈ manager.ids ∨ id ∈ historicalPostmortems.map HistoricalPostmortem.incidentId := by
  unfold seedDefaultMemories at h
  split at h
  · cases h
    exact .inl hid
  · cases hds : historicalPostmortems.mapM (fun pm => documentOf embedder pm (formatPostmortemText pm)) with
    | error exc =>
      rw [hds] at h
      cases h
    | ok docs =>
      rw [hds] at h
      cases h
      have hmem : id ∈ (manager.vectorStore.documents ++ docs).map VectorDocument.id := hid
      rw [List.map_append, List.mem_append, ids_documentsOf hds] at hmem
      exact hmem

/-- The budget cuts texts and drops results; it makes up none. -/
theorem id_enforceBudget {maxCharBudget acc : Nat} {kept results : List (VectorSearchResult V S)}
    {res : VectorSearchResult V S} (h : res ∈ enforceBudget maxCharBudget acc kept results) :
    ∃ res' ∈ kept ++ results, res.document.id = res'.document.id := by
  induction results generalizing acc kept with
  | nil => exact ⟨res, by simpa [enforceBudget] using h, rfl⟩
  | cons r results ih =>
    rw [enforceBudget] at h
    split at h
    · rcases List.mem_append.1 h with hkept | hcut
      · exact ⟨res, List.mem_append_left _ hkept, rfl⟩
      · obtain rfl := List.mem_singleton.1 hcut
        exact ⟨r, by simp, rfl⟩
    · obtain ⟨res', hmem, hid⟩ := ih h
      exact ⟨res', by simpa using hmem, hid⟩

theorem mem_retrieve [LinearOrder S] {embedder : Embedder V S} {manager : EpisodicMemoryManager V} {queryVector : V}
    {service : Option String} {topK : Int} {res : VectorSearchResult V S}
    (h : res ∈ manager.retrieve embedder queryVector service topK) :
    res.document ∈ manager.vectorStore.documents := by
  unfold retrieve at h
  cases service with
  | none => exact (InMemoryVectorStore.mem_search h).1
  | some s =>
    by_cases hs : s = ""
    · simp only [hs, if_true, List.isEmpty_nil] at h
      exact (InMemoryVectorStore.mem_search h).1
    · simp only [hs, if_false] at h
      split at h
      · exact (InMemoryVectorStore.mem_search h).1
      · exact (InMemoryVectorStore.mem_search h).1

section
variable [UnicodeText] [LinearOrder S]

/-- A search leaves the manager seeded or as it was. -/
theorem ids_searchSimilarIncidents {embedder : Embedder V S} {manager : EpisodicMemoryManager V}
    {query : String} {service : Option String} {topK : Int} {maxCharBudget : Nat} {id : String}
    (hid : id ∈ (manager.searchSimilarIncidents embedder query service topK maxCharBudget).2.ids) :
    id ∈ manager.ids ∨ id ∈ historicalPostmortems.map HistoricalPostmortem.incidentId := by
  unfold searchSimilarIncidents at hid
  split at hid
  · exact .inl hid
  · cases hs : manager.seedDefaultMemories embedder with
    | error exc =>
      simp only [hs] at hid
      exact .inl hid
    | ok manager' =>
      simp only [hs] at hid
      have hmem : id ∈ manager'.ids := by
        split at hid
        · exact hid
        · exact hid
      exact ids_seedDefaultMemories hs hmem

/-- **Nothing is made up**: a search finds documents of the manager it leaves behind. -/
theorem found_searchSimilarIncidents {embedder : Embedder V S} {manager : EpisodicMemoryManager V}
    {query : String} {service : Option String} {topK : Int} {maxCharBudget : Nat}
    {results : List (VectorSearchResult V S)}
    (h : (manager.searchSimilarIncidents embedder query service topK maxCharBudget).1 = .ok results)
    {res : VectorSearchResult V S} (hres : res ∈ results) :
    res.document.id ∈ (manager.searchSimilarIncidents embedder query service topK maxCharBudget).2.ids := by
  unfold searchSimilarIncidents at h ⊢
  split at h
  · cases h
    cases hres
  · rename_i hblank
    rw [if_neg hblank]
    cases hs : manager.seedDefaultMemories embedder with
    | error exc =>
      simp only [hs] at h
      cases h
    | ok manager' =>
      simp only [hs] at h ⊢
      cases hv : embedder.embedText query with
      | error exc =>
        simp only [hv] at h
        cases h
      | ok queryVector =>
        simp only [hv] at h ⊢
        cases h
        obtain ⟨res', hmem, hid⟩ := id_enforceBudget hres
        rw [hid]
        exact List.mem_map_of_mem (mem_retrieve ((Py.sliceTo_sublist _ _).subset hmem))

end

end EpisodicMemoryManager

/-! ## The tool -/

/-- memory_tools.py:9 -/
structure SearchIncidentMemoryTool (V : Type) where
  memoryManager : EpisodicMemoryManager V := {}

/-- One of the `matches` of memory_tools.py:39. -/
structure MemoryMatch where
  incidentId : String
  title : Json
  service : Json
  similarityScore : PyFloat
  rootCause : Json
  remediationSteps : Json
  summary : Json

/-- memory_tools.py:52 -/
structure MemorySearch where
  query : Json
  serviceFilter : Json
  matchCount : Nat
  found : List MemoryMatch
  formattedContext : String

namespace SearchIncidentMemoryTool

/-- memory_tools.py:42 -/
def matchOf (embedder : Embedder V S) (r : VectorSearchResult V S) : MemoryMatch :=
  let metadata := r.document.metadata
  { incidentId := r.document.id, title := metadata.getD "title" (.str ""), service := metadata.getD "service" (.str ""),
    similarityScore := embedder.round4 r.similarityScore, rootCause := metadata.getD "root_cause" (.str ""),
    remediationSteps := metadata.getD "remediation_steps" (.arr []), summary := metadata.getD "summary" (.str "") }

/-- What `_run` returns or raises, and the tool after it. -/
def run [Unicode] [UnicodeText] [LinearOrder S] (embedder : Embedder V S)
    (tool : SearchIncidentMemoryTool V) (query : String) (service : Option String)
    (limit : Int := 3) : Except PyException MemorySearch × SearchIncidentMemoryTool V :=
  let (results, memoryManager) := tool.memoryManager.searchSimilarIncidents embedder query service limit
  let output := results.map fun results =>
    { query := .str query, serviceFilter := .optionalText service, matchCount := results.length
      found := results.map (matchOf embedder)
      formattedContext := EpisodicMemoryManager.formatMemoriesForPrompt embedder results }
  (output, { memoryManager })

end SearchIncidentMemoryTool

end OpsPilot
