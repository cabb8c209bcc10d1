import Mathlib.Algebra.GroupWithZero.Nat
import OpsPilot.Lib.Ranking
import OpsPilot.Memory.Concurrent
/-!
# The context budget (`EpisodicMemoryManager.search_similar_incidents`)

The loop over the ranked documents (episodic.py:141) keeps the first one whatever its length. A
later one that does not fit is cut, to 100 characters at least, and gets a marker after the cut; so
what is cut never fits. `budget_respected_iff` says when the budget holds: when nothing is cut, that
is, when the closest documents fit into it as they are.
-/
namespace OpsPilot

open Ranking

variable {V S : Type}

/-- The characters of all the texts. -/
def totalChars (docs : List (VectorDocument V)) : Nat := (docs.map fun doc => doc.text.length).sum

theorem totalChars_concat (docs : List (VectorDocument V)) (doc : VectorDocument V) :
    totalChars (docs ++ [doc]) = totalChars docs + doc.text.length := by
  simp [totalChars]

/-! ## The documents that are searched for -/

namespace InMemoryVectorStore

/-- The documents of the service; all of them when it has none. -/
def scope (store : InMemoryVectorStore V) (service : Option String) : List (VectorDocument V) :=
  let own :=
    match service with
    | some s => if s = "" then [] else store.documents.filter (admitted [("service", s)])
    | none => []
  if own.isEmpty then store.documents else own

variable [LinearOrder S]

/-- The `topK` documents of the scope that are the closest to the query. -/
def closest (embedder : Embedder V S) (store : InMemoryVectorStore V) (queryVector : V) (service : Option String)
    (topK : Nat) : List (VectorDocument V) :=
  (rank (fun doc => embedder.cosineSimilarity queryVector doc.embedding) (store.scope service)).take topK

theorem documents_search (embedder : Embedder V S) (store : InMemoryVectorStore V) (queryVector : V) (limit : Nat)
    (metadataFilters : List (String × String)) :
    (store.search embedder queryVector limit metadataFilters).map VectorSearchResult.document =
      (rank (fun doc => embedder.cosineSimilarity queryVector doc.embedding)
        (store.documents.filter (admitted metadataFilters))).take limit := by
  rw [search_natCast, List.map_take]
  exact congrArg (List.take limit) (map_rank_results (fun _ => rfl) (fun _ => rfl) _)

end InMemoryVectorStore

namespace EpisodicMemoryManager

/-! ## The loop -/

/-- A cut text is as long as what is left of the budget, and longer by the marker. -/
theorem length_truncated {text : String} {remaining left : Nat} (hleft : left ≤ remaining)
    (htext : left < text.length) : left < (Py.take text remaining ++ "\n...[truncated]").length := by
  have hmarker : "\n...[truncated]".length = 15 := by decide
  have hcut : (Py.take text remaining).length = min remaining text.length := by
    rw [Py.take, String.length_ofList, List.length_take, String.length_toList]
  rw [String.length_append, hmarker, hcut]
  omega

/-- The loop keeps to the budget exactly when it does not cut anything. -/
theorem totalChars_enforceBudget {maxCharBudget acc : Nat} {kept results : List (VectorSearchResult V S)}
    (hacc : totalChars (kept.map VectorSearchResult.document) = acc) :
    totalChars ((enforceBudget maxCharBudget acc kept results).map VectorSearchResult.document) ≤ maxCharBudget ↔
      acc + totalChars (results.map VectorSearchResult.document) ≤ maxCharBudget := by
  induction results generalizing acc kept with
  | nil =>
    rw [enforceBudget, hacc]
    rfl
  | cons res results ih =>
    have hcons : totalChars ((res :: results).map VectorSearchResult.document) =
        res.document.text.length + totalChars (results.map VectorSearchResult.document) := by
      simp [totalChars]
    rw [enforceBudget, hcons]
    split
    · rename_i hover
      have hcut : maxCharBudget - acc < res.document.text.length → maxCharBudget - acc <
          (Py.take res.document.text (max 100 (maxCharBudget - acc)) ++ "\n...[truncated]").length :=
        length_truncated (le_max_right _ _)
      rw [List.map_append, List.map_singleton, totalChars_concat, hacc]
      simp only
      omega
    · rw [ih (by rw [List.map_append, List.map_singleton, totalChars_concat, hacc]), Nat.add_assoc]

theorem totalChars_returned (maxCharBudget : Nat) (results : List (VectorSearchResult V S)) :
    totalChars ((enforceBudget maxCharBudget 0 [] results).map VectorSearchResult.document) ≤ maxCharBudget ↔
      totalChars (results.map VectorSearchResult.document) ≤ maxCharBudget := by
  have hnone : totalChars (([] : List (VectorSearchResult V S)).map VectorSearchResult.document) = 0 := rfl
  rw [totalChars_enforceBudget hnone, Nat.zero_add]

section
variable [LinearOrder S] (embedder : Embedder V S)

/-- The fallback to all services when the search by the service finds nothing. -/
theorem documents_retrieve (manager : EpisodicMemoryManager V) (queryVector : V) (service : Option String)
    (topK : Nat) :
    (manager.retrieve embedder queryVector service topK).map VectorSearchResult.document =
      manager.vectorStore.closest embedder queryVector service topK := by
  have hall : (manager.vectorStore.search embedder queryVector topK []).map VectorSearchResult.document =
      (rank (fun doc => embedder.cosineSimilarity queryVector doc.embedding)
        manager.vectorStore.documents).take topK := by
    rw [InMemoryVectorStore.documents_search]
    have hadmitted : manager.vectorStore.documents.filter (InMemoryVectorStore.admitted []) =
        manager.vectorStore.documents := List.filter_eq_self.2 fun _ _ => rfl
    rw [hadmitted]
  unfold retrieve InMemoryVectorStore.closest InMemoryVectorStore.scope
  cases service with
  | none => exact hall
  | some s =>
    by_cases hs : s = ""
    · simp only [hs, if_true]
      exact hall
    · simp only [hs, if_false]
      have hown := manager.vectorStore.documents_search embedder queryVector topK [("service", s)]
      generalize hfound : manager.vectorStore.search embedder queryVector topK [("service", s)] = found at hown ⊢
      generalize manager.vectorStore.documents.filter (InMemoryVectorStore.admitted [("service", s)]) = own at hown ⊢
      cases own with
      | nil =>
        have hnone : found = [] := by
          rw [← List.map_eq_nil_iff (f := VectorSearchResult.document), hown]
          simp [rank]
        rw [hnone]
        exact hall
      | cons doc own =>
        cases topK with
        | zero =>
          have hnone : found = [] := by
            rw [← List.map_eq_nil_iff (f := VectorSearchResult.document), hown, List.take_zero]
          rw [hnone, List.take_zero]
          simpa using hall
        | succ topK =>
          have hsome : found ≠ [] := by
            intro hnone
            rw [hnone, List.map_nil] at hown
            have hlen := congrArg List.length hown
            rw [List.length_take, (rank_perm _ _).length_eq] at hlen
            simp at hlen
          rw [if_neg (by simpa using hsome)]
          exact hown

theorem length_retrieve (manager : EpisodicMemoryManager V) (queryVector : V) (service : Option String) (topK : Nat) :
    (manager.retrieve embedder queryVector service topK).length ≤ topK := by
  rw [← List.length_map (f := VectorSearchResult.document), documents_retrieve, InMemoryVectorStore.closest,
    List.length_take]
  exact min_le_left _ _

variable [UnicodeText]

/-- A search that seeds, embeds and finds something. -/
theorem searchSimilarIncidents_ok {manager seeded : EpisodicMemoryManager V} {query : String} {queryVector : V}
    (hquery : Py.isBlank query = false) (hseeded : manager.seedDefaultMemories embedder = .ok seeded)
    (hvector : embedder.embedText query = .ok queryVector) (service : Option String) (topK maxCharBudget : Nat) :
    (manager.searchSimilarIncidents embedder query service topK maxCharBudget).1 =
      .ok (enforceBudget maxCharBudget 0 [] (seeded.retrieve embedder queryVector service topK)) := by
  unfold searchSimilarIncidents
  rw [hquery, hseeded]
  simp only [Bool.false_eq_true, if_false, hvector]
  rw [Py.sliceTo_natCast, List.take_of_length_le (seeded.length_retrieve embedder queryVector service topK)]

/-- **When the budget is respected**: a search that returns keeps to it exactly when the closest documents
fit into it together. -/
theorem budget_respected_iff (manager : EpisodicMemoryManager V) {query : String} (hquery : Py.isBlank query = false)
    (service : Option String) (topK maxCharBudget : Nat) :
    (∀ results, (manager.searchSimilarIncidents embedder query service topK maxCharBudget).1 = .ok results →
      totalChars (results.map VectorSearchResult.document) ≤ maxCharBudget) ↔
    ∀ seeded queryVector, manager.seedDefaultMemories embedder = .ok seeded →
      embedder.embedText query = .ok queryVector →
      totalChars (seeded.vectorStore.closest embedder queryVector service topK) ≤ maxCharBudget := by
  have hbudget : ∀ (seeded : EpisodicMemoryManager V) (queryVector : V),
      totalChars ((enforceBudget maxCharBudget 0 [] (seeded.retrieve embedder queryVector service topK)).map
          VectorSearchResult.document) ≤ maxCharBudget ↔
        totalChars (seeded.vectorStore.closest embedder queryVector service topK) ≤ maxCharBudget := by
    intro seeded queryVector
    rw [totalChars_returned, documents_retrieve]
  constructor
  · intro h seeded queryVector hseeded hvector
    exact (hbudget seeded queryVector).1
      (h _ (searchSimilarIncidents_ok embedder hquery hseeded hvector service topK maxCharBudget))
  · intro h results hresults
    cases hseeded : manager.seedDefaultMemories embedder with
    | error exc =>
      simp [searchSimilarIncidents, hquery, hseeded] at hresults
    | ok seeded =>
      cases hvector : embedder.embedText query with
      | error exc =>
        simp [searchSimilarIncidents, hquery, hseeded, hvector] at hresults
      | ok queryVector =>
        rw [searchSimilarIncidents_ok embedder hquery hseeded hvector service topK maxCharBudget] at hresults
        cases hresults
        exact (hbudget seeded queryVector).2 (h seeded queryVector hseeded hvector)

end

/-- A document without metadata. -/
def plainDocument (id text : String) : VectorDocument Unit :=
  { id, text, embedding := (), metadata := Dict.empty }

/-- A manager that has been seeded and holds two short documents. -/
def twoDocuments : EpisodicMemoryManager Unit :=
  { vectorStore := { documents := [plainDocument "A" "pool", plainDocument "B" "leak"] }, seeded := true }

/-- Both are found, in the order of the store. -/
theorem closest_twoDocuments : twoDocuments.vectorStore.closest (alikeEmbedder 1) () none 2 =
    [plainDocument "A" "pool", plainDocument "B" "leak"] := by
  have hrank : rank (fun doc : VectorDocument Unit => (alikeEmbedder 1).cosineSimilarity () doc.embedding)
      [plainDocument "A" "pool", plainDocument "B" "leak"] = [plainDocument "A" "pool", plainDocument "B" "leak"] :=
    rank_of_pairwise (List.pairwise_of_forall fun _ _ => le_rfl)
  exact congrArg (List.take 2) hrank

/-- Eight characters fit into a budget of eight. -/
theorem budget_respected_exactly :
    letI := Py.asciiText
    ∃ results, (twoDocuments.searchSimilarIncidents (alikeEmbedder 1) "latency" none 2 8).1 = .ok results ∧
      totalChars (results.map VectorSearchResult.document) ≤ 8 := by
  let _ := Py.asciiText
  have hquery : Py.isBlank "latency" = false := by decide
  have hseeded : twoDocuments.seedDefaultMemories (alikeEmbedder 1) = .ok twoDocuments := rfl
  have hresults := searchSimilarIncidents_ok (alikeEmbedder 1) hquery hseeded rfl none 2 8
  refine ⟨_, hresults,
    (budget_respected_iff (alikeEmbedder 1) twoDocuments hquery none 2 8).2 ?_ _ hresults⟩
  rintro seeded ⟨⟩ ⟨⟩ -
  rw [closest_twoDocuments]
  decide +kernel

/-- They do not fit into seven: the second one is not cut, and the marker comes after it. -/
theorem budget_exceeded :
    letI := Py.asciiText
    ∃ results, (twoDocuments.searchSimilarIncidents (alikeEmbedder 1) "latency" none 2 7).1 = .ok results ∧
      ¬ totalChars (results.map VectorSearchResult.document) ≤ 7 := by
  let _ := Py.asciiText
  refine ⟨_, searchSimilarIncidents_ok (alikeEmbedder 1) (by decide) rfl rfl none 2 7, ?_⟩
  rw [totalChars_returned, documents_retrieve, closest_twoDocuments]
  decide +kernel

end EpisodicMemoryManager

end OpsPilot
