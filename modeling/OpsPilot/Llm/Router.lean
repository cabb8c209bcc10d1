import OpsPilot.Lib.Run
import OpsPilot.Lib.Text
/-!
# The model router (`src/llm/router.py`, `src/llm/provider.py`)

`generate_structured` is two nested loops around one `await`: the providers in order, each up to
`max_retries` times. A call is suspended at that `await` only, so a step is the start of a call or
the reply to one; how a provider replies comes with the label. Costs are exact.

| here | there |
| --- | --- |
| `Position.awaiting p rest attempt` | `await provider.generate_structured(…)` (router.py:77) |
| `nextProvider`                     | `for provider in self.providers` (router.py:74), and the `raise` after it |
| `Call.attempts`                    | a record of ours: the providers tried, and their replies |

Left out: the prompts, which are passed on, the latency, which is logged, and the rest of the log.
-/
namespace OpsPilot

/-- provider.py:10 -/
@[ext] structure TokenUsage where
  inputTokens : Int := 0
  outputTokens : Int := 0
  totalTokens : Int := 0
  estimatedCostUsd : Rat := 0
deriving DecidableEq

namespace TokenUsage

instance : Zero TokenUsage := ⟨{}⟩

instance : Add TokenUsage where
  add a b :=
    { inputTokens := a.inputTokens + b.inputTokens, outputTokens := a.outputTokens + b.outputTokens,
      totalTokens := a.totalTokens + b.totalTokens, estimatedCostUsd := a.estimatedCostUsd + b.estimatedCostUsd }

protected theorem add_comm (a b : TokenUsage) : a + b = b + a :=
  TokenUsage.ext (Int.add_comm _ _) (Int.add_comm _ _) (Int.add_comm _ _) (Rat.add_comm _ _)

protected theorem add_assoc (a b c : TokenUsage) : a + b + c = a + (b + c) :=
  TokenUsage.ext (Int.add_assoc _ _ _) (Int.add_assoc _ _ _) (Int.add_assoc _ _ _) (Rat.add_assoc _ _ _)

@[simp] protected theorem zero_add (a : TokenUsage) : 0 + a = a :=
  TokenUsage.ext (Int.zero_add _) (Int.zero_add _) (Int.zero_add _) (Rat.zero_add _)

@[simp] protected theorem add_zero (a : TokenUsage) : a + 0 = a := by
  rw [TokenUsage.add_comm, TokenUsage.zero_add]

instance : Std.Associative (α := TokenUsage) (· + ·) := ⟨TokenUsage.add_assoc⟩

instance : Std.LawfulLeftIdentity (α := TokenUsage) (· + ·) 0 where
  left_id := TokenUsage.zero_add

end TokenUsage

/-- provider.py:17 -/
structure LLMResponse (T : Type) where
  parsed : T
  rawContent : String
  usage : TokenUsage
  provider : String
  model : String

variable {P T : Type}

namespace ModelRouter

/-- Where a call stands. -/
inductive Position (P T : Type) where
  | awaiting (provider : P) (rest : List P) (attempt : Nat)
  | returned (response : LLMResponse T)
  | raised (exc : PyException)

/-- The first attempt on the next provider, if there is one. -/
def nextProvider (maxRetries : Nat) (lastError : Option PyException) : List P → Position P T
  | [] =>
    .raised (.runtimeError ("All LLM providers in fallback chain exhausted. Final error: " ++
      (match lastError with
      | some exc => exc.message
      | none => "None")))
  | provider :: rest =>
    if 1 ≤ maxRetries then .awaiting provider rest 1 else nextProvider maxRetries lastError rest

/-- After a failed attempt (router.py:101). -/
def nextAttempt (maxRetries : Nat) (provider : P) (rest : List P) (attempt : Nat) (exc : PyException) :
    Position P T :=
  if attempt + 1 ≤ maxRetries then .awaiting provider rest (attempt + 1)
  else nextProvider maxRetries (some exc) rest

/-- A call of `generate_structured`. -/
structure Call (P T : Type) where
  maxRetries : Nat
  attempts : List (P × Except PyException (LLMResponse T)) := []
  position : Position P T

end ModelRouter

/-- router.py:27, with the calls made so far. -/
structure ModelRouter (P T : Type) where
  providers : List P
  cumulativeUsage : TokenUsage := 0
  calls : List (ModelRouter.Call P T) := []

namespace ModelRouter

/-- router.py:30 -/
def ofProviders (providers defaultChain : List P) : ModelRouter P T where
  providers := if providers.isEmpty then defaultChain else providers

inductive Label (T : Type) where
  | start (maxRetries : Nat)
  | reply (i : Nat) (outcome : Except PyException (LLMResponse T))

/-- The reply to a call that awaits it: a response is accounted and returned. -/
def receive (c : Call P T) (provider : P) (rest : List P) (attempt : Nat) :
    Except PyException (LLMResponse T) → TokenUsage × Call P T
  | .ok response =>
    (response.usage,
      { c with attempts := c.attempts ++ [(provider, .ok response)], position := .returned response })
  | .error exc =>
    (0, { c with
      attempts := c.attempts ++ [(provider, .error exc)]
      position := nextAttempt c.maxRetries provider rest attempt exc })

def step (s : ModelRouter P T) : Label T → Option (ModelRouter P T)
  | .start maxRetries =>
    some { s with calls := s.calls ++ [{ maxRetries, position := nextProvider maxRetries none s.providers }] }
  | .reply i outcome =>
    match s.calls[i]? with
    | some c =>
      match c.position with
      | .awaiting provider rest attempt =>
        let (usage, c) := receive c provider rest attempt outcome
        some { s with cumulativeUsage := s.cumulativeUsage + usage, calls := s.calls.set i c }
      | _ => none
    | none => none

/-! ## The search -/

/-- The order of the attempts: each provider `maxRetries` times. -/
def schedule (providers : List P) (maxRetries : Nat) : List P :=
  providers.flatMap (List.replicate maxRetries)

@[simp] theorem schedule_cons (p : P) (providers : List P) (maxRetries : Nat) :
    schedule (p :: providers) maxRetries = List.replicate maxRetries p ++ schedule providers maxRetries := rfl

/-- The attempt raised. -/
def Failed (a : P × Except PyException (LLMResponse T)) : Prop := ∃ exc, a.2 = .error exc

/-- What is promised of a call, at any time. -/
structure Exact (providers : List P) (c : Call P T) : Prop where
  /-- The attempts follow the schedule. -/
  order : c.attempts.map Prod.fst <+: schedule providers c.maxRetries
  /-- While every attempt has failed the next one is under way. -/
  waits : ∀ p rest attempt, c.position = .awaiting p rest attempt →
    c.attempts.map Prod.fst ++ [p] <+: schedule providers c.maxRetries ∧ ∀ a ∈ c.attempts, Failed a
  /-- The first response is returned, and nothing is tried after it. -/
  returns : ∀ response, c.position = .returned response ↔
    ∃ before p, c.attempts = before ++ [(p, .ok response)] ∧ ∀ a ∈ before, Failed a
  /-- It raises exactly when all attempts have. -/
  raises : (∃ exc, c.position = .raised exc) ↔
    c.attempts.length = (schedule providers c.maxRetries).length ∧ ∀ a ∈ c.attempts, Failed a
  error : ∀ exc, c.position = .raised exc → ∃ msg, exc = .runtimeError msg

/-- The usage of the response of a call, if it has returned one. -/
def usageOf (c : Call P T) : TokenUsage :=
  match c.position with
  | .returned response => response.usage
  | _ => 0

/-- How a call stands in its schedule: what has been tried, and what is left. -/
def CallInv (providers : List P) (c : Call P T) : Prop :=
  match c.position with
  | .awaiting p rest attempt =>
    (∀ a ∈ c.attempts, Failed a) ∧ 1 ≤ attempt ∧ attempt ≤ c.maxRetries ∧
      schedule providers c.maxRetries =
        c.attempts.map Prod.fst ++ (List.replicate (c.maxRetries - attempt + 1) p ++ schedule rest c.maxRetries)
  | .returned response =>
    ∃ before p after, c.attempts = before ++ [(p, .ok response)] ∧ (∀ a ∈ before, Failed a) ∧
      schedule providers c.maxRetries = c.attempts.map Prod.fst ++ after
  | .raised exc =>
    (∀ a ∈ c.attempts, Failed a) ∧ schedule providers c.maxRetries = c.attempts.map Prod.fst ∧
      ∃ msg, exc = .runtimeError msg

/-- Going on with the next provider keeps to the schedule. -/
theorem callInv_nextProvider {providers rest : List P} {maxRetries : Nat} {lastError : Option PyException}
    {attempts : List (P × Except PyException (LLMResponse T))} (hf : ∀ a ∈ attempts, Failed a)
    (hs : schedule providers maxRetries = attempts.map Prod.fst ++ schedule rest maxRetries) :
    CallInv providers { maxRetries, attempts, position := nextProvider maxRetries lastError rest } := by
  induction rest with
  | nil => exact ⟨hf, by simpa [schedule] using hs, _, rfl⟩
  | cons p rest ih =>
    unfold nextProvider
    split
    · rename_i hpos
      refine ⟨hf, Nat.le_refl 1, hpos, ?_⟩
      rw [hs, schedule_cons]
      have hall : maxRetries - 1 + 1 = maxRetries := by omega
      simp only [hall]
    · rename_i hzero
      have hnone : maxRetries = 0 := by omega
      refine ih ?_
      rw [hs, schedule_cons, hnone]
      rfl

theorem callInv_receive {providers : List P} {c : Call P T} {p : P} {rest : List P} {attempt : Nat}
    (h : CallInv providers c) (hp : c.position = .awaiting p rest attempt)
    (outcome : Except PyException (LLMResponse T)) : CallInv providers (receive c p rest attempt outcome).2 := by
  simp only [CallInv, hp] at h
  obtain ⟨hf, hone, hle, hs⟩ := h
  have hsplit : schedule providers c.maxRetries = (c.attempts.map Prod.fst ++ [p]) ++
      (List.replicate (c.maxRetries - attempt) p ++ schedule rest c.maxRetries) := by
    rw [hs, List.replicate_succ]
    simp
  cases outcome with
  | ok response =>
    refine ⟨c.attempts, p, List.replicate (c.maxRetries - attempt) p ++ schedule rest c.maxRetries, rfl, hf, ?_⟩
    rw [show (receive c p rest attempt (.ok response)).2.maxRetries = c.maxRetries from rfl, hsplit]
    simp [receive]
  | error exc =>
    have hf' : ∀ a ∈ c.attempts ++ [(p, .error exc)], Failed a := by
      intro a ha
      rcases List.mem_append.1 ha with hold | hnew
      · exact hf a hold
      · obtain rfl := List.mem_singleton.1 hnew
        exact ⟨exc, rfl⟩
    simp only [receive, nextAttempt]
    split
    · rename_i hmore
      refine ⟨hf', by omega, hmore, ?_⟩
      have hleft : c.maxRetries - (attempt + 1) + 1 = c.maxRetries - attempt := by omega
      rw [hsplit]
      simp [hleft]
    · rename_i hlast
      have hnone : c.maxRetries - attempt = 0 := by omega
      refine callInv_nextProvider hf' ?_
      rw [hsplit, hnone]
      simp

/-- Attempts that end with a response have not all failed. -/
theorem not_all_failed {attempts before : List (P × Except PyException (LLMResponse T))} {p : P}
    {response : LLMResponse T} (h : attempts = before ++ [(p, .ok response)]) : ¬ ∀ a ∈ attempts, Failed a := by
  intro hall
  obtain ⟨exc, hexc⟩ := hall (p, .ok response) (by simp [h])
  cases hexc

/-- Two ways to see one first success. -/
theorem first_ok_unique {attempts before before' : List (P × Except PyException (LLMResponse T))} {p p' : P}
    {response response' : LLMResponse T} (h : attempts = before ++ [(p, .ok response)])
    (h' : attempts = before' ++ [(p', .ok response')]) : response = response' := by
  have hlast := (List.append_inj' (h.symm.trans h') rfl).2
  simp only [List.cons.injEq, Prod.mk.injEq, Except.ok.injEq, and_true] at hlast
  exact hlast.2

theorem exact_awaiting {providers rest : List P} {c : Call P T} {p : P} {attempt : Nat} (h : CallInv providers c)
    (hp : c.position = .awaiting p rest attempt) : Exact providers c := by
  simp only [CallInv, hp] at h
  obtain ⟨hf, hone, hle, hs⟩ := h
  have hnext : c.attempts.map Prod.fst ++ [p] <+: schedule providers c.maxRetries :=
    ⟨List.replicate (c.maxRetries - attempt) p ++ schedule rest c.maxRetries, by
      rw [hs, List.replicate_succ]
      simp⟩
  refine ⟨(List.prefix_append _ _).trans hnext, ?_, ?_, ?_, ?_⟩
  · intro p' rest' attempt' hp'
    obtain ⟨rfl, -, -⟩ := Position.awaiting.inj (hp.symm.trans hp')
    exact ⟨hnext, hf⟩
  · intro response
    rw [hp]
    refine ⟨nofun, ?_⟩
    rintro ⟨before, p', hsplit, -⟩
    exact absurd hf (not_all_failed hsplit)
  · rw [hp]
    refine ⟨nofun, ?_⟩
    rintro ⟨hlen, -⟩
    have hlonger := hnext.length_le
    simp only [List.length_append, List.length_map, List.length_singleton, hlen] at hlonger
    omega
  · intro exc he
    cases hp.symm.trans he

theorem exact_returned {providers : List P} {c : Call P T} {response : LLMResponse T} (h : CallInv providers c)
    (hp : c.position = .returned response) : Exact providers c := by
  simp only [CallInv, hp] at h
  obtain ⟨before, p, after, hsplit, hf, hs⟩ := h
  refine ⟨⟨after, hs.symm⟩, ?_, ?_, ?_, ?_⟩
  · intro p' rest attempt hp'
    cases hp.symm.trans hp'
  · intro response'
    constructor
    · intro hp'
      cases hp.symm.trans hp'
      exact ⟨before, p, hsplit, hf⟩
    · rintro ⟨before', p', hsplit', -⟩
      rw [hp, first_ok_unique hsplit hsplit']
  · rw [hp]
    refine ⟨nofun, ?_⟩
    rintro ⟨-, hall⟩
    exact absurd hall (not_all_failed hsplit)
  · intro exc he
    cases hp.symm.trans he

theorem exact_raised {providers : List P} {c : Call P T} {exc : PyException} (h : CallInv providers c)
    (hp : c.position = .raised exc) : Exact providers c := by
  simp only [CallInv, hp] at h
  obtain ⟨hf, hs, hmsg⟩ := h
  refine ⟨⟨[], by rw [hs, List.append_nil]⟩, ?_, ?_, ?_, ?_⟩
  · intro p rest attempt hp'
    cases hp.symm.trans hp'
  · intro response
    rw [hp]
    refine ⟨nofun, ?_⟩
    rintro ⟨before, p, hsplit, -⟩
    exact absurd hf (not_all_failed hsplit)
  · rw [hp, hs]
    simp only [Position.raised.injEq, exists_eq', List.length_map, true_and, true_iff]
    exact hf
  · intro exc' he
    cases hp.symm.trans he
    exact hmsg

theorem CallInv.exact {providers : List P} {c : Call P T} (h : CallInv providers c) : Exact providers c := by
  cases hp : c.position with
  | awaiting p rest attempt => exact exact_awaiting h hp
  | returned response => exact exact_returned h hp
  | raised exc => exact exact_raised h hp

/-! ## The accounts -/

/-- What a call that awaited its provider adds by the reply is the usage of its response. -/
theorem usage_receive {c : Call P T} {p : P} {rest : List P} {attempt : Nat}
    (outcome : Except PyException (LLMResponse T)) :
    (receive c p rest attempt outcome).1 = usageOf (receive c p rest attempt outcome).2 := by
  cases outcome with
  | ok response => rfl
  | error exc =>
    have hnext : ∀ rest : List P, ∀ response : LLMResponse T,
        nextProvider c.maxRetries (some exc) rest ≠ .returned response := by
      intro rest response
      induction rest with
      | nil => exact nofun
      | cons q rest ih =>
        unfold nextProvider
        split
        · exact nofun
        · exact ih
    simp only [receive, usageOf, nextAttempt]
    split
    · rename_i response hret
      split at hret
      · cases hret
      · exact absurd hret (hnext rest response)
    · rfl

/-- Replacing a call that counts nothing adds what the new one counts. -/
theorem sum_usage_set {calls : List (Call P T)} {i : Nat} {c c' : Call P T} (hi : calls[i]? = some c)
    (hc : usageOf c = 0) : ((calls.set i c').map usageOf).sum = (calls.map usageOf).sum + usageOf c' := by
  induction calls generalizing i with
  | nil => simp at hi
  | cons d calls ih =>
    cases i with
    | zero =>
      simp only [List.getElem?_cons_zero, Option.some.injEq] at hi
      subst hi
      simp only [List.set_cons_zero, List.map_cons, List.sum_cons, hc, TokenUsage.zero_add]
      exact TokenUsage.add_comm _ _
    | succ i =>
      simp only [List.getElem?_cons_succ] at hi
      simp only [List.set_cons_succ, List.map_cons, List.sum_cons, ih hi]
      exact (TokenUsage.add_assoc _ _ _).symm

/-- The calls keep to their schedules, and the accounts are settled. -/
structure RouterInv (providers : List P) (s : ModelRouter P T) : Prop where
  chain : s.providers = providers
  calls : ∀ c ∈ s.calls, CallInv providers c
  usage : s.cumulativeUsage = (s.calls.map usageOf).sum

theorem usageOf_nextProvider (maxRetries : Nat) (lastError : Option PyException) (providers : List P)
    (attempts : List (P × Except PyException (LLMResponse T))) :
    usageOf { maxRetries, attempts, position := nextProvider maxRetries lastError providers } = 0 := by
  induction providers with
  | nil => rfl
  | cons p providers ih =>
    unfold nextProvider
    split
    · rfl
    · exact ih

theorem routerInv_step {providers : List P} {s s' : ModelRouter P T} {l : Label T} (h : RouterInv providers s)
    (hst : s.step l = some s') : RouterInv providers s' := by
  cases l with
  | start maxRetries =>
    cases hst
    refine ⟨h.chain, fun c hc => ?_, ?_⟩
    · rcases List.mem_append.1 hc with hold | hnew
      · exact h.calls c hold
      · obtain rfl := List.mem_singleton.1 hnew
        rw [h.chain]
        exact callInv_nextProvider nofun rfl
    · simp only [List.map_append, List.map_cons, List.map_nil, List.sum_append, List.sum_cons, List.sum_nil,
        usageOf_nextProvider, TokenUsage.add_zero]
      exact h.usage
  | reply i outcome =>
    simp only [step] at hst
    split at hst
    · rename_i c hi
      split at hst
      · rename_i p rest attempt hp
        cases hst
        refine ⟨h.chain, fun c' hc' => ?_, ?_⟩
        · rcases List.mem_or_eq_of_mem_set hc' with hold | rfl
          · exact h.calls c' hold
          · exact callInv_receive (h.calls c (List.mem_of_getElem? hi)) hp outcome
        · have hzero : usageOf c = 0 := by simp only [usageOf, hp]
          simp only [sum_usage_set hi hzero, h.usage, usage_receive]
      · cases hst
    · cases hst

/-- **Failover is exact and accounted once**: at any time every call has tried the providers in order,
has returned the first response or raised when there was none, and the usage is that of the
responses returned so far. -/
theorem failover_exact (providers defaultChain : List P) (as : List (Label T)) (s : ModelRouter P T)
    (hrun : Machine.run step (ofProviders providers defaultChain) as = some s) :
    (∀ c ∈ s.calls, Exact (if providers.isEmpty then defaultChain else providers) c) ∧
      s.cumulativeUsage = (s.calls.map usageOf).sum := by
  have hinv : RouterInv (if providers.isEmpty then defaultChain else providers) s := by
    refine Machine.Reachable.invariant ⟨as, hrun⟩ ?_ fun t l t' => routerInv_step
    exact ⟨rfl, nofun, rfl⟩
  exact ⟨fun c hc => (hinv.calls c hc).exact, hinv.usage⟩

/-- Two calls at once: the first fails over to the second provider after two attempts. -/
theorem failover_exact_two_calls :
    let used : TokenUsage := { inputTokens := 10, outputTokens := 5, totalTokens := 15, estimatedCostUsd := 1 / 100 }
    let response : LLMResponse Unit := { parsed := (), rawContent := "", usage := used, provider := "b", model := "m" }
    let as : List (Label Unit) :=
      [.start 2, .reply 0 (.error (.runtimeError "down")), .start 1, .reply 0 (.error (.runtimeError "down")),
        .reply 1 (.ok response), .reply 0 (.ok response)]
    ∃ s, Machine.run step (ofProviders ["a", "b"] []) as = some s ∧
      s.calls.map (fun c => c.attempts.map Prod.fst) = [["a", "a", "b"], ["a"]] ∧
      s.cumulativeUsage.totalTokens = 30 ∧ ∀ c ∈ s.calls, Exact ["a", "b"] c := by
  intro used response as
  have hend : ∃ s, Machine.run step (ofProviders ["a", "b"] []) as = some s ∧
      s.calls.map (fun c => c.attempts.map Prod.fst) = [["a", "a", "b"], ["a"]] ∧
      s.cumulativeUsage.totalTokens = 30 := ⟨_, rfl, rfl, rfl⟩
  obtain ⟨s, hs, hcalls, husage⟩ := hend
  exact ⟨s, hs, hcalls, husage, (failover_exact ["a", "b"] [] as s hs).1⟩

end ModelRouter

end OpsPilot
