import Mathlib.Analysis.Real.Sqrt
import OpsPilot.Lib.Ranking
import OpsPilot.Memory.Episodic
/-!
# The vector search with exact arithmetic (`src/memory/vector_store.py`)

Here embeddings are vectors of real numbers, and the filters may hold any value. Whether a value of
the metadata equals the one that a filter asks for is a parameter, `same`: Python compares numbers
across their types.

| here | there |
| --- | --- |
| `cosineSimilarity`               | `_cosine_similarity` (vector_store.py:49) |
| `InMemoryVectorStore.searchBy`   | `search` (vector_store.py:60) |
| `meets`                          | the loop over the filters (vector_store.py:70) |

`search_eq_searchBy` says that `InMemoryVectorStore.search` is the same search.
-/
namespace OpsPilot

open Ranking

variable {V S : Type}

/-! ## The search -/

namespace InMemoryVectorStore

/-- `doc.metadata.get(k) == v` for every entry of the filters; no filters admit everything. -/
def meets (same : Json → Json → Bool) (metadataFilters : Option (Dict String Json)) (doc : VectorDocument V) : Bool :=
  match metadataFilters with
  | none => true
  | some filters => filters.entries.all fun (k, v) => same (doc.metadata.getD k .null) v

/-- Every entry of the filters is found in the metadata: under its key, there is a value that equals its own. -/
def Satisfies (same : Json → Json → Bool) (metadataFilters : Option (Dict String Json)) (doc : VectorDocument V) :
    Prop :=
  ∀ filters, metadataFilters = some filters → ∀ k v, filters.get? k = some v →
    same (doc.metadata.getD k .null) v = true

theorem meets_iff {same : Json → Json → Bool} {metadataFilters : Option (Dict String Json)} {doc : VectorDocument V} :
    meets same metadataFilters doc = true ↔ Satisfies same metadataFilters doc := by
  unfold Satisfies
  cases metadataFilters with
  | none => simp [meets]
  | some filters =>
    simp only [meets, Option.some.injEq, forall_eq', List.all_eq_true, Prod.forall]
    constructor
    · intro h k v hget
      exact h k v (Dict.mem_of_look hget)
    · intro h k v hmem
      exact h k v (Dict.look_of_mem filters.nodup hmem)

instance (same : Json → Json → Bool) (metadataFilters : Option (Dict String Json)) (doc : VectorDocument V) :
    Decidable (Satisfies same metadataFilters doc) :=
  decidable_of_iff (meets same metadataFilters doc = true) meets_iff

/-- The loop over the filters keeps the documents that satisfy them. -/
theorem filter_meets (same : Json → Json → Bool) (metadataFilters : Option (Dict String Json))
    (documents : List (VectorDocument V)) :
    documents.filter (meets same metadataFilters) =
      documents.filter fun doc => Satisfies same metadataFilters doc := by
  refine List.filter_congr fun doc _ => ?_
  rw [Bool.eq_iff_iff, meets_iff, decide_eq_true_iff]

def searchBy [LinearOrder S] (same : Json → Json → Bool) (similarity : V → V → S) (store : InMemoryVectorStore V)
    (queryVector : V) (limit : Int) (metadataFilters : Option (Dict String Json)) :
    List (VectorSearchResult V S) :=
  let candidates := store.documents.filter (meets same metadataFilters)
  let scored := candidates.map fun doc => { document := doc, similarityScore := similarity queryVector doc.embedding }
  Py.sliceTo (rank VectorSearchResult.similarityScore scored) limit

/-- Filters by strings. -/
def stringFilters (metadataFilters : List (String × String)) (hkeys : (metadataFilters.map Prod.fst).Nodup) :
    Dict String Json where
  entries := metadataFilters.map fun (k, v) => (k, .str v)
  nodup := by
    rw [List.map_map]
    exact hkeys

/-- The search of `Memory.Episodic`, for an equality under which a string equals itself alone. -/
theorem search_eq_searchBy [LinearOrder S] {same : Json → Json → Bool} (hsame : ∀ v s, same v (.str s) = v.eqStr s)
    (embedder : Embedder V S) (store : InMemoryVectorStore V) (queryVector : V) (limit : Int)
    {metadataFilters : List (String × String)} (hkeys : (metadataFilters.map Prod.fst).Nodup) :
    store.search embedder queryVector limit metadataFilters =
      store.searchBy same embedder.cosineSimilarity queryVector limit (some (stringFilters metadataFilters hkeys)) := by
  have hmeets : ∀ doc : VectorDocument V,
      admitted metadataFilters doc = meets same (some (stringFilters metadataFilters hkeys)) doc := by
    intro doc
    simp only [admitted, meets, stringFilters, List.all_map, Function.comp_def, hsame]
  rw [search, searchBy, funext hmeets]

section
variable [LinearOrder S] (same : Json → Json → Bool) (similarity : V → V → S) (store : InMemoryVectorStore V)
  (queryVector : V) (metadataFilters : Option (Dict String Json))

/-- The documents found are the most similar of those that satisfy the filters. -/
theorem isTopK_searchBy (limit : Nat) :
    IsTopK (fun doc => similarity queryVector doc.embedding) limit
      (store.documents.filter fun doc => Satisfies same metadataFilters doc)
      ((store.searchBy same similarity queryVector limit metadataFilters).map VectorSearchResult.document) := by
  rw [← filter_meets, searchBy, Py.sliceTo_natCast, List.map_take, map_rank_results (fun _ => rfl) fun _ => rfl]
  exact isTopK_rank _ limit _

/-- The score of a result is the similarity of its document. -/
theorem score_searchBy {limit : Int} {res : VectorSearchResult V S}
    (h : res ∈ store.searchBy same similarity queryVector limit metadataFilters) :
    res.similarityScore = similarity queryVector res.document.embedding := by
  have hmem := (Py.sliceTo_sublist _ _).subset h
  rw [(rank_perm _ _).mem_iff] at hmem
  obtain ⟨doc, -, rfl⟩ := List.mem_map.1 hmem
  rfl

end

end InMemoryVectorStore

/-! ## The score -/

/-- vector_store.py:49 -/
noncomputable def cosineSimilarity (a b : List ℝ) : ℝ :=
  if a = [] ∨ b = [] ∨ a.length ≠ b.length then 0
  else
    let dotProduct := (List.zipWith (· * ·) a b).sum
    let normA := √(a.map fun x => x * x).sum
    let normB := √(b.map fun y => y * y).sum
    if normA = 0 ∨ normB = 0 then 0
    else
      let sim := dotProduct / (normA * normB)
      max 0 (min 1 ((sim + 1) / 2))

theorem cosineSimilarity_le_one (a b : List ℝ) : cosineSimilarity a b ≤ 1 := by
  unfold cosineSimilarity
  split
  · exact zero_le_one
  · simp only
    split
    · exact zero_le_one
    · exact max_le zero_le_one (min_le_left _ _)

theorem sum_squares_pos {a : List ℝ} (h : ∃ x ∈ a, x ≠ 0) : 0 < (a.map fun x => x * x).sum := by
  induction a with
  | nil =>
    obtain ⟨x, hx, -⟩ := h
    cases hx
  | cons y a ih =>
    have hrest : 0 ≤ (a.map fun x => x * x).sum := by
      refine List.sum_nonneg fun z hz => ?_
      obtain ⟨x, -, rfl⟩ := List.mem_map.1 hz
      exact mul_self_nonneg x
    rw [List.map_cons, List.sum_cons]
    by_cases hy : y = 0
    · obtain ⟨x, hx, hne⟩ := h
      rcases List.mem_cons.1 hx with rfl | hmem
      · exact absurd hy hne
      · exact add_pos_of_nonneg_of_pos (mul_self_nonneg y) (ih ⟨x, hmem, hne⟩)
    · exact add_pos_of_pos_of_nonneg (mul_self_pos.2 hy) hrest

theorem sum_zipWith_scaled (a : List ℝ) (c : ℝ) :
    (List.zipWith (· * ·) a (a.map (c * ·))).sum = c * (a.map fun x => x * x).sum := by
  induction a with
  | nil => simp
  | cons x a ih =>
    rw [List.map_cons, List.zipWith_cons_cons, List.sum_cons, ih, List.map_cons, List.sum_cons]
    ring

theorem sum_squares_scaled (a : List ℝ) (c : ℝ) :
    ((a.map (c * ·)).map fun x => x * x).sum = c * c * (a.map fun x => x * x).sum := by
  induction a with
  | nil => simp
  | cons x a ih =>
    simp only [List.map_cons, List.sum_cons, ih]
    ring

/-- A vector that points the same way has the full score. -/
theorem cosineSimilarity_scaled {a : List ℝ} (ha : ∃ x ∈ a, x ≠ 0) {c : ℝ} (hc : 0 < c) :
    cosineSimilarity a (a.map (c * ·)) = 1 := by
  have hne : a ≠ [] := by
    rintro rfl
    obtain ⟨x, hx, -⟩ := ha
    cases hx
  have hpos := sum_squares_pos ha
  have hroot : 0 < √(a.map fun x => x * x).sum := Real.sqrt_pos.2 hpos
  have hscaled : √((a.map (c * ·)).map fun x => x * x).sum = c * √(a.map fun x => x * x).sum := by
    rw [sum_squares_scaled, Real.sqrt_mul (mul_self_nonneg c), Real.sqrt_mul_self hc.le]
  unfold cosineSimilarity
  rw [if_neg (by simp [hne])]
  simp only [hscaled, sum_zipWith_scaled]
  rw [if_neg (by simp [hroot.ne', hc.ne'])]
  have hsquare : √(a.map fun x => x * x).sum * (c * √(a.map fun x => x * x).sum) = c * (a.map fun x => x * x).sum := by
    calc √(a.map fun x => x * x).sum * (c * √(a.map fun x => x * x).sum)
        = c * (√(a.map fun x => x * x).sum * √(a.map fun x => x * x).sum) := by ring
      _ = c * (a.map fun x => x * x).sum := by rw [Real.mul_self_sqrt hpos.le]
  rw [hsquare, div_self (mul_pos hc hpos).ne']
  norm_num

/-- **The search is an exact filtered top k**: the documents it finds are the `limit` most similar of those
that satisfy every filter, best first and in the order of insertion where the similarity does not decide;
and a document that points the way of the query puts a full score at the top. -/
theorem search_exact (same : Json → Json → Bool) (store : InMemoryVectorStore (List ℝ)) (queryVector : List ℝ)
    (limit : Nat) (metadataFilters : Option (Dict String Json)) :
    let results := store.searchBy same cosineSimilarity queryVector limit metadataFilters
    let matching := store.documents.filter fun doc => InMemoryVectorStore.Satisfies same metadataFilters doc
    IsTopK (fun doc => cosineSimilarity queryVector doc.embedding) limit matching
        (results.map VectorSearchResult.document) ∧
      (∀ res ∈ results, res.similarityScore = cosineSimilarity queryVector res.document.embedding) ∧
      (1 ≤ limit → (∃ x ∈ queryVector, x ≠ 0) →
        (∃ doc ∈ matching, ∃ c : ℝ, 0 < c ∧ doc.embedding = queryVector.map (c * ·)) →
        ∃ res, results.head? = some res ∧ res.similarityScore = 1) := by
  intro results matching
  have htop := store.isTopK_searchBy same cosineSimilarity queryVector metadataFilters limit
  have hscore : ∀ res ∈ results, res.similarityScore = cosineSimilarity queryVector res.document.embedding :=
    fun res hres => store.score_searchBy same cosineSimilarity queryVector metadataFilters hres
  refine ⟨htop, hscore, ?_⟩
  rintro hlimit hquery ⟨doc, hdoc, c, hc, hembedding⟩
  obtain ⟨first, hfirst, hbest⟩ := htop.head hlimit hdoc
  rw [List.head?_map, Option.map_eq_some_iff] at hfirst
  obtain ⟨res, hres, rfl⟩ := hfirst
  refine ⟨res, hres, ?_⟩
  rw [hscore res (List.mem_of_mem_head? hres)]
  refine le_antisymm (cosineSimilarity_le_one _ _) ?_
  rw [hembedding, cosineSimilarity_scaled hquery hc] at hbest
  exact hbest

end OpsPilot
