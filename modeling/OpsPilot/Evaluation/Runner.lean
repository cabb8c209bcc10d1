import Mathlib.Data.Finset.Card
import OpsPilot.Domain.State
import OpsPilot.Lib.Binary64
import OpsPilot.Safety.Policy
import OpsPilot.Simulator.Scenario
/-!
# The benchmark (`src/evaluation/runner.py`)

The shares and their sum are floats, that is, results of `Binary64.rounded`. The similarity, which the source rounds
to three digits, is here the number of its thousandths. A run of the workflow is its final state.

| here | there |
| --- | --- |
| `computeSemanticSimilarity`   | `_compute_semantic_similarity` (runner.py:39) |
| `evaluateScenario`            | what `evaluate_scenario` makes of the final output (runner.py:99) |
-/
namespace OpsPilot

/-- metrics.py:6 -/
structure EvaluationResult where
  scenarioId : String
  scenarioName : String
  groundTruthRootCause : String
  predictedRootCause : String
  groundTruthService : String
  predictedService : String
  serviceMatch : Bool
  /-- In thousandths. -/
  rootCauseSimilarity : Nat
  remediationActionValid : Bool
  blastRadiusContained : Bool
  criticChallengeOccurred : Bool
  investigationDurationMs : PyFloat
  totalEvidenceCount : Nat
  confidenceScore : PyFloat

namespace EvaluationEngine

/-- runner.py:44 -/
def stopwords : List String :=
  ["the", "a", "an", "is", "in", "of", "and", "to", "for", "with", "due"]

section
variable [UnicodeText]

/-- runner.py:41, without the stopwords and the short words. -/
def cleanTokens (text : String) : Finset String :=
  let words := Py.split (Py.replace (Py.replace (UnicodeText.lower text) '-' ' ') '_' ' ')
  words.toFinset.filter fun t => t ∉ stopwords ∧ 2 < t.length

/-- Of the two sets of words (runner.py:53); `round` goes by the exact value of the float. -/
def similarity (intersection union : Nat) (substringBoost : ℚ) : Nat :=
  let jaccard := Binary64.rounded (intersection / union)
  Binary64.nearest (1000 * min 1 (Binary64.rounded (jaccard + substringBoost)))

/-- The exact sum is 0.5375, and the float lies below it. -/
example : similarity 3 16 (Binary64.rounded 0.35) = 537 := by decide +kernel

def computeSemanticSimilarity (predicted truth : String) : Nat :=
  let predClean := cleanTokens predicted
  let truthClean := cleanTokens truth
  if truthClean = ∅ then
    if predClean = ∅ then 1000 else 500
  else
    let substringBoost :=
      if ∃ token ∈ truthClean, Py.contains (UnicodeText.lower predicted) token then Binary64.rounded 0.35 else 0
    similarity (predClean ∩ truthClean).card (predClean ∪ truthClean).card substringBoost

/-- The first affected service (runner.py:63). -/
def expectedService (groundTruth : GroundTruth) : String :=
  groundTruth.affectedServices.head?.getD "unknown"

/-- runner.py:104 -/
def predictedCause (groundTruth : GroundTruth) (finalOutput : IncidentState) : String :=
  match finalOutput.selectedHypothesis with
  | some selectedHypo => selectedHypo.title
  | none => groundTruth.rootCause

def evaluateScenario (policyEngine : RiskPolicyEngine) (groundTruth : GroundTruth)
    (finalOutput : IncidentState) (elapsedMs : PyFloat) : EvaluationResult :=
  let firstAction := finalOutput.plannedActions.head?
  { scenarioId := groundTruth.scenarioId, scenarioName := groundTruth.name,
    groundTruthRootCause := groundTruth.rootCause, predictedRootCause := predictedCause groundTruth finalOutput,
    groundTruthService := expectedService groundTruth, predictedService := expectedService groundTruth,
    serviceMatch := true,
    rootCauseSimilarity := computeSemanticSimilarity (predictedCause groundTruth finalOutput) groundTruth.rootCause,
    remediationActionValid := firstAction.any fun action => action.targetService ∈ groundTruth.affectedServices,
    blastRadiusContained := firstAction.all fun action =>
      groundTruth.affectedServices.all fun s => s ∈ policyEngine.calculateBlastRadius action.targetService,
    criticChallengeOccurred := finalOutput.critique.isSome, investigationDurationMs := elapsedMs,
    totalEvidenceCount := finalOutput.evidence.length,
    confidenceScore := .ofHundredths (if finalOutput.selectedHypothesis.isSome then 92 else 50) }

end

/-! ## How similar a prediction is -/

theorem similarity_le (intersection union : Nat) (substringBoost : ℚ) :
    similarity intersection union substringBoost ≤ 1000 := by
  have hmono : similarity intersection union substringBoost ≤ Binary64.nearest (1000 : ℕ) := by
    refine Binary64.nearest_mono ?_ ?_
    · exact mul_nonneg (by norm_num) (le_min zero_le_one (Binary64.rounded_nonneg _))
    · rw [Nat.cast_ofNat]
      exact mul_le_of_le_one_right (by norm_num) (min_le_left _ _)
  rwa [Binary64.nearest_natCast] at hmono

/-- Rounding to three digits reaches one from a half of the last below it. -/
theorem similarity_eq_iff (intersection union : Nat) (substringBoost : ℚ) :
    similarity intersection union substringBoost = 1000 ↔
      1999 / 2000 ≤ Binary64.rounded (Binary64.rounded (intersection / union) + substringBoost) := by
  have hle := similarity_le intersection union substringBoost
  have hfull : similarity intersection union substringBoost = 1000 ↔
      1000 ≤ similarity intersection union substringBoost := ⟨fun h => h.ge, hle.antisymm⟩
  rw [hfull, similarity]
  generalize hx : Binary64.rounded (Binary64.rounded (intersection / union) + substringBoost) = x
  have hcap : 0 ≤ min 1 x := le_min zero_le_one (hx ▸ Binary64.rounded_nonneg _)
  rw [Binary64.le_nearest_iff (mul_nonneg (by norm_num) hcap)]
  constructor
  · intro h
    have hhalf : 1999 / 2000 ≤ min 1 x := by
      rcases h with h | ⟨h, -⟩
      · push_cast at h
        linarith
      · push_cast at h
        linarith
    exact hhalf.trans (min_le_right _ _)
  · intro h
    have hhalf : 1999 / 2000 ≤ min 1 x := le_min (by norm_num) h
    rcases hhalf.eq_or_lt with heq | hlt
    · refine .inr ⟨?_, by norm_num⟩
      rw [← heq]
      norm_num
    · refine .inl ?_
      push_cast
      linarith

/-- The float nearest to 0.35. -/
theorem rounded_boost : Binary64.rounded 0.35 = 3152519739159347 / 2 ^ 53 := by decide +kernel

/-- With the boost the float of the share has to be `5850175915954275 / 2 ^ 53` at least, the first one above 0.6495. -/
theorem similarity_boost_iff {intersection union : Nat} (hpos : 0 < union) :
    similarity intersection union (Binary64.rounded 0.35) = 1000 ↔
      11700351831908549 * union < 2 ^ 54 * intersection := by
  have hpos' : (0 : ℚ) < union := by exact_mod_cast hpos
  have hshare : (0 : ℚ) ≤ intersection / union := div_nonneg (Nat.cast_nonneg _) hpos'.le
  have hcast : 11700351831908549 * union < 2 ^ 54 * intersection ↔
      (11700351831908549 * union : ℚ) < 2 ^ 54 * intersection := by exact_mod_cast Iff.rfl
  rw [similarity_eq_iff, rounded_boost,
    Binary64.le_rounded_iff_of_even (k := -1) (n := 9002695655113622) (by norm_num) (by norm_num) (by norm_num)
      (by norm_num) (by norm_num) (add_nonneg (Binary64.rounded_nonneg _) (by norm_num)) (by norm_num),
    ← sub_le_iff_le_add,
    Binary64.le_rounded_iff_of_odd (k := -1) (n := 5850175915954275) (by norm_num) (by norm_num) (by norm_num)
      (by norm_num) (by norm_num) hshare (by norm_num),
    lt_div_iff₀ hpos', hcast]
  constructor
  · intro h
    norm_num at h
    linarith
  · intro h
    norm_num
    linarith

/-- Without it, there is nothing in common. -/
theorem similarity_zero (union : Nat) : similarity 0 union 0 = 0 := by
  rw [similarity, Nat.cast_zero, zero_div, Binary64.rounded_zero, add_zero, Binary64.rounded_zero,
    min_eq_right zero_le_one, mul_zero]
  exact Binary64.nearest_natCast 0

section
variable [UnicodeText]

/-- A word of the prediction occurs in it. -/
theorem contains_of_mem_cleanTokens {text t : String} (h : t ∈ cleanTokens text) :
    Py.contains (UnicodeText.lower text) t = true := by
  have hword := List.mem_toFinset.1 (Finset.mem_filter.1 h).1
  have hblanked : Py.replace (Py.replace (UnicodeText.lower text) '-' ' ') '_' ' ' =
      String.ofList ((UnicodeText.lower text).toList.map fun x => if (x = '-' || x = '_' : Bool) then ' ' else x) := by
    rw [Py.replace, Py.replace, String.toList_ofList, List.map_map]
    congr 1
    refine List.map_congr_left fun x _ => ?_
    by_cases hx : x = '-'
    · simp [hx]
    · simp [hx]
  rw [hblanked] at hword
  exact Py.contains_of_mem_split hword

/-- The prediction shares more than about two thirds of the words, or there are none to share. The bound on the
share is halfway between two floats, and a little above 0.6495. -/
structure Matches (predicted truth : String) : Prop where
  nothing : cleanTokens truth = ∅ → cleanTokens predicted = ∅
  shared : cleanTokens truth ≠ ∅ → 11700351831908549 * (cleanTokens predicted ∪ cleanTokens truth).card <
    2 ^ 54 * (cleanTokens predicted ∩ cleanTokens truth).card

/-- There is something to compare with. -/
theorem card_union_pos (predicted : String) {truth : String} (hne : cleanTokens truth ≠ ∅) :
    0 < (cleanTokens predicted ∪ cleanTokens truth).card := by
  rw [Finset.card_pos]
  exact (Finset.nonempty_iff_ne_empty.2 hne).mono Finset.subset_union_right

theorem matches_self (truth : String) : Matches truth truth where
  nothing h := h
  shared hne := by
    have hpos := card_union_pos truth hne
    rw [Finset.union_self] at hpos ⊢
    rw [Finset.inter_self]
    omega

theorem computeSemanticSimilarity_le (predicted truth : String) :
    computeSemanticSimilarity predicted truth ≤ 1000 := by
  unfold computeSemanticSimilarity
  by_cases hne : cleanTokens truth = ∅
  · rw [if_pos hne]
    split
    · exact Nat.le_refl _
    · decide
  · rw [if_neg hne]
    exact similarity_le _ _ _

/-- **Full marks exactly for a match.** -/
theorem computeSemanticSimilarity_eq_iff (predicted truth : String) :
    computeSemanticSimilarity predicted truth = 1000 ↔ Matches predicted truth := by
  unfold computeSemanticSimilarity
  by_cases hne : cleanTokens truth = ∅
  · rw [if_pos hne]
    split
    · rename_i hp
      exact iff_of_true rfl ⟨fun _ => hp, fun h => absurd hne h⟩
    · rename_i hp
      exact iff_of_false (by decide) fun h => hp (h.nothing hne)
  · have hiff : Matches predicted truth ↔ 11700351831908549 * (cleanTokens predicted ∪ cleanTokens truth).card <
        2 ^ 54 * (cleanTokens predicted ∩ cleanTokens truth).card :=
      ⟨fun h => h.shared hne, fun h => ⟨fun h' => absurd h' hne, fun _ => h⟩⟩
    rw [if_neg hne, hiff]
    simp only
    split
    · exact similarity_boost_iff (card_union_pos predicted hne)
    · rename_i hno
      -- no word of the truth occurs in the prediction, so they share none
      have hempty : cleanTokens predicted ∩ cleanTokens truth = ∅ := by
        rw [Finset.eq_empty_iff_forall_notMem]
        intro t ht
        obtain ⟨hp, ht⟩ := Finset.mem_inter.1 ht
        exact hno ⟨t, ht, contains_of_mem_cleanTokens hp⟩
      rw [hempty, Finset.card_empty, similarity_zero]
      omega

/-! ## Credit -/

/-- The output names the service: its hypothesis, a source of its evidence, or a target of its plan. -/
def names (service : String) (finalOutput : IncidentState) : Bool :=
  (finalOutput.selectedHypothesis.any fun h =>
    Py.contains h.title service || Py.contains h.description service || Py.contains h.reasoningSummary service) ||
  (finalOutput.evidence.any fun e => Py.contains e.source service) ||
  finalOutput.plannedActions.any fun action => action.targetService = service

/-- What a benchmark that credits the agents would say about an output, and about it and another
one of the same scenario. -/
structure CreditEarned (policyEngine : RiskPolicyEngine) (groundTruth : GroundTruth) (finalOutput other : IncidentState)
    (elapsedMs elapsedMs' : PyFloat) : Prop where
  service : (evaluateScenario policyEngine groundTruth finalOutput elapsedMs).serviceMatch = true →
    names (expectedService groundTruth) finalOutput = true
  similarity : finalOutput.selectedHypothesis = none → other.selectedHypothesis.isSome →
    (evaluateScenario policyEngine groundTruth finalOutput elapsedMs).rootCauseSimilarity ≤
      (evaluateScenario policyEngine groundTruth other elapsedMs').rootCauseSimilarity

/-- Without a hypothesis the root cause is compared with itself. -/
theorem similarity_of_none (policyEngine : RiskPolicyEngine) (groundTruth : GroundTruth)
    (elapsedMs : PyFloat) {finalOutput : IncidentState} (h : finalOutput.selectedHypothesis = none) :
    (evaluateScenario policyEngine groundTruth finalOutput elapsedMs).rootCauseSimilarity =
      1000 := by
  have hcause : predictedCause groundTruth finalOutput = groundTruth.rootCause := by rw [predictedCause, h]
  simp only [evaluateScenario]
  rw [hcause]
  exact (computeSemanticSimilarity_eq_iff _ _).2 (matches_self _)

theorem similarity_of_some (policyEngine : RiskPolicyEngine) (groundTruth : GroundTruth)
    (elapsedMs : PyFloat) {finalOutput : IncidentState} {hypo : Hypothesis}
    (h : finalOutput.selectedHypothesis = some hypo) :
    (evaluateScenario policyEngine groundTruth finalOutput elapsedMs).rootCauseSimilarity =
      computeSemanticSimilarity hypo.title groundTruth.rootCause := by
  have hcause : predictedCause groundTruth finalOutput = hypo.title := by rw [predictedCause, h]
  simp only [evaluateScenario]
  rw [hcause]

/-- **The credit is earned exactly when** the output names the service and, if it has no hypothesis,
every hypothesis it is compared with matches the root cause. -/
theorem credit_earned_iff (policyEngine : RiskPolicyEngine) (groundTruth : GroundTruth)
    (finalOutput other : IncidentState) (elapsedMs elapsedMs' : PyFloat) :
    CreditEarned policyEngine groundTruth finalOutput other elapsedMs elapsedMs' ↔
      names (expectedService groundTruth) finalOutput = true ∧
      (finalOutput.selectedHypothesis = none → ∀ hypo, other.selectedHypothesis = some hypo →
        Matches hypo.title groundTruth.rootCause) := by
  constructor
  · rintro ⟨hservice, hsimilarity⟩
    refine ⟨hservice rfl, fun h hypo hother => ?_⟩
    have hle := hsimilarity h (by rw [hother]; rfl)
    rw [similarity_of_none policyEngine groundTruth elapsedMs h,
      similarity_of_some policyEngine groundTruth elapsedMs' hother] at hle
    exact (computeSemanticSimilarity_eq_iff _ _).1 (Nat.le_antisymm (computeSemanticSimilarity_le _ _) hle)
  · rintro ⟨hnames, hmatches⟩
    refine ⟨fun _ => hnames, fun h hother => ?_⟩
    obtain ⟨hypo, hypoEq⟩ := Option.isSome_iff_exists.1 hother
    rw [similarity_of_none policyEngine groundTruth elapsedMs h,
      similarity_of_some policyEngine groundTruth elapsedMs' hypoEq,
      (computeSemanticSimilarity_eq_iff _ _).2 (hmatches h hypo hypoEq)]

end

/-- simulator/scenarios/api_timeout.py:14 -/
def apiTimeout : GroundTruth where
  scenarioId := "api_timeout"
  name := "External Payment Provider Timeout"
  rootCause := "Third-party payment processor API degraded, exceeding payment-service 5000ms HTTP timeout " ++
    "threshold on card charge requests."
  affectedServices := ["payment-service"]

/-- The initial state of the scenario (runner.py:88), in which no agent has written anything. -/
def untouched : IncidentState where
  incidentId := "eval-api_timeout"
  title := "Payment Service Outbound API Timeout Spike > 30%"
  severity := .sev1
  affectedServices := ["payment-service"]
  createdAt := ⟨0⟩

/-- An output without hypothesis, evidence and plan matches the service. -/
theorem credit_unearned :
    letI := Py.asciiText
    ¬ CreditEarned {} apiTimeout untouched untouched .zero .zero := by
  let _ := Py.asciiText
  intro h
  have hnames := h.service rfl
  cases hnames

end EvaluationEngine

end OpsPilot
