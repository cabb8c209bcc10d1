import OpsPilot.Simulator.Queries
/-!
# The code repository (`simulator/services/mock_repo.py`)

| here | there |
| --- | --- |
| `getRecentDeployments`         | mock_repo.py:73, with the repository after it |
| `CommitRecord.isNamed`         | the condition in the loop of `get_commit_diff` (mock_repo.py:69) |
| `CommitRecord.meets`, `DeploymentEvent.meets` | no function of the source: all the filters at once |

The sort of `get_recent_commits` is that of a list of its own. `get_recent_deployments` begins with
`results = self.deployments`, and only a filter makes another list of it: without one the records of
the repository are sorted in place. `get_commit_diff` answers with the first commit whose SHA goes on
from the one that is asked for, be it the one that is asked for or not.
-/
namespace OpsPilot

open Ranking

/-- The record satisfies all the filters that are given. -/
def CommitRecord.meets (service : String) (since : Option Time) (c : CommitRecord) : Bool :=
  c.service == service && since.all fun since => decide (since.micros ≤ c.timestamp.micros)

def DeploymentEvent.meets (service : Option String) (since : Option Time) (d : DeploymentEvent) : Bool :=
  ((given service).all fun service => d.service == service) &&
    since.all fun since => decide (since.micros ≤ d.timestamp.micros)

/-- `c.commit_sha == commit_sha or c.commit_sha.startswith(commit_sha)` -/
def CommitRecord.isNamed (commitSha : String) (c : CommitRecord) : Bool :=
  c.commitSha == commitSha || commitSha.toList.isPrefixOf c.commitSha.toList

namespace MockCodeRepository

/-- mock_repo.py:52 -/
def recordCommit (repo : MockCodeRepository) (commit : CommitRecord) : MockCodeRepository :=
  { repo with commits := repo.commits ++ [commit] }

/-- mock_repo.py:55 -/
def recordDeployment (repo : MockCodeRepository) (deployment : DeploymentEvent) : MockCodeRepository :=
  { repo with deployments := repo.deployments ++ [deployment] }

/-- mock_repo.py:58 -/
def getRecentCommits (repo : MockCodeRepository) (service : String) (limit : Int := 5) (since : Option Time := none) :
    List CommitRecord :=
  let results := repo.commits.filter fun c => c.service == service
  let results := narrow since (fun since c => decide (since.micros ≤ c.timestamp.micros)) results
  Py.sliceTo (rank (fun c => c.timestamp.micros) results) limit

/-- mock_repo.py:67 -/
def getCommitDiff (repo : MockCodeRepository) (commitSha : String) : String :=
  match repo.commits.find? (CommitRecord.isNamed commitSha) with
  | some c => c.diff
  | none => ""

def getRecentDeployments (repo : MockCodeRepository) (service : Option String := none) (limit : Int := 5)
    (since : Option Time := none) : List DeploymentEvent × MockCodeRepository :=
  let results := repo.deployments
  let results := narrow (given service) (fun service d => d.service == service) results
  let results := narrow since (fun since d => decide (since.micros ≤ d.timestamp.micros)) results
  let sorted := rank (fun d => d.timestamp.micros) results
  -- without a filter `results` is the list of the repository itself
  let deployments := if (given service).isNone && since.isNone then sorted else repo.deployments
  (Py.sliceTo sorted limit, { repo with deployments })

theorem getRecentCommits_eq (repo : MockCodeRepository) (service : String) (limit : Int) (since : Option Time) :
    repo.getRecentCommits service limit since =
      Py.sliceTo (rank (fun c => c.timestamp.micros) (repo.commits.filter (CommitRecord.meets service since)))
        limit := by
  simp only [getRecentCommits, narrow_eq, List.filter_filter]
  congr 2
  refine List.filter_congr fun c _ => ?_
  simp only [CommitRecord.meets, Bool.and_comm]

theorem getRecentDeployments_fst (repo : MockCodeRepository) (service : Option String) (limit : Int)
    (since : Option Time) :
    (repo.getRecentDeployments service limit since).1 =
      Py.sliceTo (rank (fun d => d.timestamp.micros) (repo.deployments.filter (DeploymentEvent.meets service since)))
        limit := by
  simp only [getRecentDeployments, narrow_eq, List.filter_filter]
  congr 2
  refine List.filter_congr fun d _ => ?_
  simp only [DeploymentEvent.meets, Bool.and_comm]

/-- Without a filter the deployments are ranked; otherwise nothing happens to the repository. -/
theorem getRecentDeployments_snd (repo : MockCodeRepository) (service : Option String) (limit : Int)
    (since : Option Time) :
    (repo.getRecentDeployments service limit since).2 =
      if given service = none ∧ since = none then
        { repo with deployments := rank (fun d => d.timestamp.micros) repo.deployments }
      else repo := by
  simp only [getRecentDeployments]
  cases hservice : given service with
  | some s => simp
  | none =>
    cases since with
    | some t => simp
    | none => simp [narrow]

/-! ## Sequences of calls -/

inductive Call where
  | recordCommit (commit : CommitRecord)
  | recordDeployment (deployment : DeploymentEvent)
  | getRecentCommits (service : String) (limit : Nat) (since : Option Time)
  | getRecentDeployments (service : Option String) (limit : Nat) (since : Option Time)
  | getCommitDiff (commitSha : String)

def Call.isQuery : Call → Bool
  | .recordCommit _ | .recordDeployment _ => false
  | .getRecentCommits .. | .getRecentDeployments .. | .getCommitDiff _ => true

def Call.commits : Call → List CommitRecord
  | .recordCommit commit => [commit]
  | _ => []

def Call.deployments : Call → List DeploymentEvent
  | .recordDeployment deployment => [deployment]
  | _ => []

/-- The repository after a call. -/
def step (repo : MockCodeRepository) : Call → MockCodeRepository
  | .recordCommit commit => repo.recordCommit commit
  | .recordDeployment deployment => repo.recordDeployment deployment
  | .getRecentDeployments service limit since => (repo.getRecentDeployments service limit since).2
  | .getRecentCommits .. | .getCommitDiff _ => repo

def after (repo : MockCodeRepository) (calls : List Call) : MockCodeRepository := calls.foldl step repo

/-- What a query returns: the newest of the matching records, and for a SHA that one commit has the
diff of that commit. -/
def Answers (repo : MockCodeRepository) : Call → Prop
  | .recordCommit _ | .recordDeployment _ => True
  | .getRecentCommits service limit since =>
    IsTopK (fun c => c.timestamp.micros) limit (repo.commits.filter (CommitRecord.meets service since))
      (repo.getRecentCommits service limit since)
  | .getRecentDeployments service limit since =>
    IsTopK (fun d => d.timestamp.micros) limit (repo.deployments.filter (DeploymentEvent.meets service since))
      (repo.getRecentDeployments service limit since).1
  | .getCommitDiff commitSha =>
    ∀ c, (repo.commits.filter fun c => c.commitSha = commitSha) = [c] → repo.getCommitDiff commitSha = c.diff

/-- The call answers, and a query leaves the repository as it was. -/
def Exact (repo : MockCodeRepository) (call : Call) : Prop :=
  (call.isQuery = true → repo.step call = repo) ∧ repo.Answers call

def NewestFirst (deployments : List DeploymentEvent) : Prop :=
  deployments.Pairwise fun a b => b.timestamp.micros ≤ a.timestamp.micros

/-- The deployments are filtered, or are in order already; and of the commits before the one that is
asked for, the first whose SHA goes on from its SHA has the same diff. -/
def Undisturbed (repo : MockCodeRepository) : Call → Prop
  | .getRecentDeployments service _ since => given service ≠ none ∨ since ≠ none ∨ NewestFirst repo.deployments
  | .getCommitDiff commitSha =>
    ∀ before c others, repo.commits = before ++ c :: others → c.commitSha = commitSha →
      (∀ c' ∈ before ++ others, c'.commitSha ≠ commitSha) →
      ∀ c', before.find? (CommitRecord.isNamed commitSha) = some c' → c'.diff = c.diff
  | _ => True

/-! ## When the calls are exact -/

theorem after_concat (repo : MockCodeRepository) (calls : List Call) (call : Call) :
    repo.after (calls ++ [call]) = (repo.after calls).step call := by
  rw [after, List.foldl_append]
  rfl

/-- A call adds what it records, and else at most reorders the deployments. -/
theorem step_records (repo : MockCodeRepository) (call : Call) :
    (repo.step call).commits = repo.commits ++ call.commits ∧
      (repo.step call).deployments.Perm (repo.deployments ++ call.deployments) := by
  cases call with
  | recordCommit commit => exact ⟨rfl, by simp [step, MockCodeRepository.recordCommit, Call.deployments]⟩
  | recordDeployment deployment => exact ⟨by simp [step, MockCodeRepository.recordDeployment, Call.commits], .refl _⟩
  | getRecentCommits service limit since => exact ⟨(List.append_nil _).symm, by simp [step, Call.deployments]⟩
  | getRecentDeployments service limit since =>
    simp only [step, getRecentDeployments_snd, Call.commits, Call.deployments, List.append_nil]
    split
    · exact ⟨rfl, rank_perm _ _⟩
    · exact ⟨rfl, .refl _⟩
  | getCommitDiff commitSha => exact ⟨(List.append_nil _).symm, by simp [step, Call.deployments]⟩

/-- Whatever is called, the repository holds what has been recorded. -/
theorem after_records (repo : MockCodeRepository) (calls : List Call) :
    (repo.after calls).commits = repo.commits ++ calls.flatMap Call.commits ∧
      (repo.after calls).deployments.Perm (repo.deployments ++ calls.flatMap Call.deployments) := by
  induction calls using List.reverseRecOn with
  | nil => simp [after]
  | append_singleton calls call ih =>
    obtain ⟨hcommits, hdeployments⟩ := (repo.after calls).step_records call
    rw [after_concat, List.flatMap_append, List.flatMap_append, List.flatMap_singleton, List.flatMap_singleton]
    refine ⟨?_, ?_⟩
    · rw [hcommits, ih.1, List.append_assoc]
    · rw [← List.append_assoc]
      exact hdeployments.trans (ih.2.append_right _)

theorem rank_eq_self_iff (deployments : List DeploymentEvent) :
    rank (fun d => d.timestamp.micros) deployments = deployments ↔ NewestFirst deployments := by
  constructor
  · intro h
    rw [NewestFirst, ← h]
    exact pairwise_rank _ _
  · exact rank_of_pairwise

theorem isNamed_of_eq {commitSha : String} {c : CommitRecord} (h : c.commitSha = commitSha) :
    c.isNamed commitSha = true := by
  simp [CommitRecord.isNamed, h]

/-- The commit that alone has the SHA, with what was recorded before it and after it. -/
theorem filter_sha_eq_singleton_iff {commits : List CommitRecord} {commitSha : String} {c : CommitRecord} :
    (commits.filter fun c => c.commitSha = commitSha) = [c] ↔
      ∃ before others, commits = before ++ c :: others ∧ c.commitSha = commitSha ∧
        ∀ c' ∈ before ++ others, c'.commitSha ≠ commitSha := by
  rw [List.filter_eq_cons_iff]
  constructor
  · rintro ⟨before, others, rfl, hbefore, hc, hothers⟩
    refine ⟨before, others, rfl, of_decide_eq_true hc, ?_⟩
    intro c' hmem
    rcases List.mem_append.1 hmem with hin | hin
    · exact fun h => hbefore c' hin (decide_eq_true h)
    · exact fun h => List.filter_eq_nil_iff.1 hothers c' hin (decide_eq_true h)
  · rintro ⟨before, others, rfl, hc, hrest⟩
    refine ⟨before, others, rfl, ?_, decide_eq_true hc, ?_⟩
    · intro c' hin h
      exact hrest c' (List.mem_append_left _ hin) (of_decide_eq_true h)
    · refine List.filter_eq_nil_iff.2 fun c' hin h => ?_
      exact hrest c' (List.mem_append_right _ hin) (of_decide_eq_true h)

/-- The lookup stops at the commit, or at one before it that the SHA could abbreviate. -/
theorem getCommitDiff_eq {repo : MockCodeRepository} {before others : List CommitRecord} {c : CommitRecord}
    (h : repo.commits = before ++ c :: others) :
    repo.getCommitDiff c.commitSha = ((before.find? (CommitRecord.isNamed c.commitSha)).getD c).diff := by
  have hc : (c :: others).find? (CommitRecord.isNamed c.commitSha) = some c :=
    List.find?_cons_of_pos (isNamed_of_eq rfl)
  rw [getCommitDiff, h, List.find?_append, hc]
  cases before.find? (CommitRecord.isNamed c.commitSha) with
  | none => rfl
  | some c' => rfl

theorem exact_iff_undisturbed (repo : MockCodeRepository) (call : Call) :
    repo.Exact call ↔ repo.Undisturbed call := by
  cases call with
  | recordCommit commit => exact iff_of_true ⟨by simp [Call.isQuery], trivial⟩ trivial
  | recordDeployment deployment => exact iff_of_true ⟨by simp [Call.isQuery], trivial⟩ trivial
  | getRecentCommits service limit since =>
    refine iff_of_true ⟨fun _ => rfl, ?_⟩ trivial
    rw [Answers, getRecentCommits_eq, Py.sliceTo_natCast]
    exact isTopK_rank _ _ _
  | getRecentDeployments service limit since =>
    have hanswers : repo.Answers (.getRecentDeployments service limit since) := by
      rw [Answers, getRecentDeployments_fst, Py.sliceTo_natCast]
      exact isTopK_rank _ _ _
    rw [Exact, and_iff_left hanswers, step, getRecentDeployments_snd]
    simp only [Call.isQuery, forall_const, Undisturbed]
    split
    · rename_i hnone
      rw [← rank_eq_self_iff]
      simp only [hnone.1, hnone.2, ne_eq, not_true, false_or]
      exact ⟨congrArg deployments, fun hsorted => by rw [hsorted]⟩
    · rename_i hsome
      refine iff_of_true rfl ?_
      by_cases hservice : given service = none
      · exact .inr (.inl fun hsince => hsome ⟨hservice, hsince⟩)
      · exact .inl hservice
  | getCommitDiff commitSha =>
    have hreads : repo.Exact (.getCommitDiff commitSha) ↔ repo.Answers (.getCommitDiff commitSha) :=
      and_iff_right fun _ => rfl
    rw [hreads]
    simp only [Answers, Undisturbed, filter_sha_eq_singleton_iff]
    constructor
    · rintro h before c others hcommits rfl hrest c' hfirst
      have hdiff := h c ⟨before, others, hcommits, rfl, hrest⟩
      rw [getCommitDiff_eq hcommits, hfirst] at hdiff
      exact hdiff
    · rintro h c ⟨before, others, hcommits, rfl, hrest⟩
      rw [getCommitDiff_eq hcommits]
      cases hfirst : before.find? (CommitRecord.isNamed c.commitSha) with
      | none => rfl
      | some c' => exact h before c others hcommits rfl hrest c' hfirst

/-- **The calls of a sequence are exact exactly when** no unfiltered query of the deployments finds them out of order,
and no commit is hidden by an earlier one with a longer SHA and another diff. Whatever is called, the
repository holds what has been recorded, the commits in the order of their recording. -/
theorem exact_iff (repo : MockCodeRepository) (calls : List Call) :
    ((repo.after calls).commits = repo.commits ++ calls.flatMap Call.commits ∧
      (repo.after calls).deployments.Perm (repo.deployments ++ calls.flatMap Call.deployments)) ∧
    ((∀ before call, before ++ [call] <+: calls → (repo.after before).Exact call) ↔
      ∀ before call, before ++ [call] <+: calls → (repo.after before).Undisturbed call) := by
  refine ⟨repo.after_records calls, ?_⟩
  exact forall₃_congr fun before call _ => (repo.after before).exact_iff_undisturbed call

/-- A list of all deployments turns them round, and a short SHA has the diff of a longer one. -/
theorem not_exact :
    (let deployment (t : Nat) : DeploymentEvent :=
      { deploymentId := "dep-1", service := "order-service", version := "v2", previousVersion := "v1"
        timestamp := ⟨t⟩, deployedBy := "ci", commitSha := "abc" }
    let calls : List Call :=
      [.recordDeployment (deployment 0), .recordDeployment (deployment 1), .getRecentDeployments none 5 none]
    ¬ ∀ before call, before ++ [call] <+: calls → (after {} before).Exact call) ∧
    let commit (sha diff : String) : CommitRecord :=
      { commitSha := sha, service := "order-service", author := "dev", message := "fix", timestamp := ⟨0⟩, diff }
    let calls : List Call :=
      [.recordCommit (commit "abcd" "+1"), .recordCommit (commit "abc" "+2"), .getCommitDiff "abc"]
    ¬ ∀ before call, before ++ [call] <+: calls → (after {} before).Exact call := by
  refine ⟨?_, ?_⟩
  · intro deployment calls h
    have hexact := h [.recordDeployment (deployment 0), .recordDeployment (deployment 1)]
      (.getRecentDeployments none 5 none) (List.prefix_refl calls)
    have hordered := ((exact_iff_undisturbed _ _).1 hexact)
    simp [Undisturbed, given, NewestFirst, after, step, MockCodeRepository.recordDeployment, deployment] at hordered
  · intro commit calls h
    have hexact := h [.recordCommit (commit "abcd" "+1"), .recordCommit (commit "abc" "+2")]
      (.getCommitDiff "abc") (List.prefix_refl calls)
    have hdiff : (after {} [.recordCommit (commit "abcd" "+1"), .recordCommit (commit "abc" "+2")]).getCommitDiff
        "abc" = "+2" := hexact.2 (commit "abc" "+2") (by simp [after, step, MockCodeRepository.recordCommit, commit])
    revert hdiff
    decide +kernel

end MockCodeRepository

end OpsPilot
