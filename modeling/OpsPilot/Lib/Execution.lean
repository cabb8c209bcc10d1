import OpsPilot.Lib.Run
import Mathlib.Order.Interval.Set.Infinite
import Mathlib.Order.Interval.Finset.Nat
import Mathlib.Data.Set.Finite.Lattice
/-!
# Infinite executions

An execution of a partial step function is an infinite sequence of states with the labels
that lead from each to the next. Two rules, again about no system in particular:

* `finite_of_potential` — an event happens finitely often when some potential never grows
  from a point on and drops whenever the event happens.
* `exists_of_schedule` — a schedule of labels can be followed for ever when an invariant,
  which may depend on the time, enables the next label and is kept by it;
  `exists_of_rounds` says so for a schedule of rounds that can each be run as a whole.
-/
namespace Machine

variable {σ α : Type} {step : σ → α → Option σ}

structure Execution (step : σ → α → Option σ) where
  state : Nat → σ
  label : Nat → α
  next : ∀ n, step (state n) (label n) = some (state (n + 1))

namespace Execution

variable (ex : Execution step)

/-- The rule `Reachable.invariant` for the steps from `N` on, where `C` holds of the labels. -/
theorem invariant_from {I : σ → Prop} {C : α → Prop} {N : Nat} (h0 : I (ex.state N))
    (hC : ∀ n, N ≤ n → C (ex.label n)) (hs : ∀ s a s', I s → C a → step s a = some s' → I s') :
    ∀ n, N ≤ n → I (ex.state n) := by
  intro n hn
  induction n, hn using Nat.le_induction with
  | base => exact h0
  | succ n hn ih => exact hs _ _ _ ih (hC n hn) (ex.next n)

theorem reachable {s₀ : σ} (h0 : Reachable step s₀ (ex.state 0)) (n : Nat) :
    Reachable step s₀ (ex.state n) := by
  induction n with
  | zero => exact h0
  | succ n ih =>
    obtain ⟨as, has⟩ := ih
    exact ⟨as ++ [ex.label n], run_concat_some.2 ⟨_, has, ex.next n⟩⟩

theorem finite_of_potential (f : σ → Nat) {Q : Nat → Prop} {N : Nat}
    (hle : ∀ n, N ≤ n → f (ex.state (n + 1)) ≤ f (ex.state n))
    (hlt : ∀ n, N ≤ n → Q n → f (ex.state (n + 1)) < f (ex.state n)) :
    {n | N ≤ n ∧ Q n}.Finite := by
  -- induction on what is left of the potential at `N`
  induction hv : f (ex.state N) using Nat.strong_induction_on generalizing N with
  | _ v ih =>
    by_cases hex : ∃ n, N ≤ n ∧ Q n
    · obtain ⟨m, hm, hQ⟩ := hex
      have hmono : ∀ n, N ≤ n → f (ex.state n) ≤ f (ex.state N) := by
        intro n hn
        induction n, hn using Nat.le_induction with
        | base => exact Nat.le_refl _
        | succ n hn hi => exact Nat.le_trans (hle n hn) hi
      have hdrop : f (ex.state (m + 1)) < v := by
        have h1 := hlt m hm hQ
        have h2 := hmono m hm
        omega
      have hrest : {n | m + 1 ≤ n ∧ Q n}.Finite :=
        ih _ hdrop (fun n hn => hle n (by omega)) (fun n hn => hlt n (by omega)) rfl
      refine ((Set.finite_Iic m).union hrest).subset ?_
      rintro n ⟨-, hn⟩
      rcases Nat.lt_or_ge m n with hlt' | hge
      · exact .inr ⟨hlt', hn⟩
      · exact .inl hge
    · have hempty : {n | N ≤ n ∧ Q n} = ∅ := by
        rw [Set.eq_empty_iff_forall_notMem]
        exact fun n hn => hex ⟨n, hn⟩
      rw [hempty]
      exact Set.finite_empty

/-- What happens finitely often has a last time. -/
theorem last_of_finite {Q : Nat → Prop} {N : Nat} (h : {n | N ≤ n ∧ Q n}.Finite) :
    ∃ M, N ≤ M ∧ ∀ n, M ≤ n → ¬ Q n := by
  obtain ⟨b, hb⟩ := h.bddAbove
  refine ⟨max N (b + 1), Nat.le_max_left _ _, fun n hn hQ => ?_⟩
  have hle : n ≤ b := hb ⟨Nat.le_trans (Nat.le_max_left _ _) hn, hQ⟩
  have hge : b + 1 ≤ n := Nat.le_trans (Nat.le_max_right _ _) hn
  omega

/-- What happens finitely often after a later time does so after an earlier one. -/
theorem finite_extend {Q : Nat → Prop} {N M : Nat} (h : {n | M ≤ n ∧ Q n}.Finite) :
    {n | N ≤ n ∧ Q n}.Finite := by
  refine ((Set.finite_Iio M).union h).subset ?_
  rintro n ⟨-, hn⟩
  rcases Nat.lt_or_ge n M with hlt | hge
  · exact .inl hlt
  · exact .inr ⟨hge, hn⟩

theorem exists_of_schedule {s₀ : σ} (J : Nat → σ → Prop) (schedule : Nat → α) (h0 : J 0 s₀)
    (hs : ∀ n s, J n s → ∃ s', step s (schedule n) = some s' ∧ J (n + 1) s') :
    ∃ ex : Execution step, ex.state 0 = s₀ ∧ ex.label = schedule ∧ ∀ n, J n (ex.state n) := by
  choose next hnext hJ using hs
  let states : (n : Nat) → {s // J n s} :=
    fun n => Nat.rec ⟨s₀, h0⟩ (fun n s => ⟨next n s.1 s.2, hJ n s.1 s.2⟩) n
  refine ⟨⟨fun n => (states n).1, schedule, fun n => ?_⟩, rfl, rfl, fun n => (states n).2⟩
  exact hnext n (states n).1 (states n).2

/-- A prefix of a run that can be completed goes on with the next label. -/
theorem step_of_run {s t s' : σ} {as : List α} {i : Nat} (hi : i < as.length)
    (h : run step s as = some t) (hp : run step s (as.take i) = some s') :
    ∃ s'', step s' as[i] = some s'' ∧ run step s (as.take (i + 1)) = some s'' := by
  have hsplit : as = as.take (i + 1) ++ as.drop (i + 1) := (List.take_append_drop _ _).symm
  rw [hsplit, run_append, Option.bind_eq_some_iff] at h
  obtain ⟨s'', hs'', -⟩ := h
  have hnext := hs''
  rw [← List.take_append_getElem hi, run_concat, hp] at hnext
  exact ⟨s'', hnext, hs''⟩

theorem exists_of_rounds {s₀ : σ} {len : Nat} (hlen : 0 < len) (P : Nat → σ → Prop)
    (round : Nat → List α) (hround : ∀ k, (round k).length = len) (h0 : P 0 s₀)
    (hs : ∀ k s, P k s → ∃ s', run step s (round k) = some s' ∧ P (k + 1) s') :
    ∃ ex : Execution step, ex.state 0 = s₀ ∧
      ∀ n, (round (n / len))[n % len]? = some (ex.label n) := by
  have hlt : ∀ n, n % len < (round (n / len)).length := fun n => by
    rw [hround]
    exact Nat.mod_lt n hlen
  obtain ⟨ex, h0, hlabel, -⟩ : ∃ ex : Execution step, ex.state 0 = s₀ ∧ _ := exists_of_schedule
    (fun n s => ∃ t, P (n / len) t ∧ run step t ((round (n / len)).take (n % len)) = some s)
    (fun n => (round (n / len)).get ⟨n % len, hlt n⟩) ⟨s₀, by simpa using h0, by simp⟩ <| by
      rintro n s ⟨t, hP, hrun⟩
      obtain ⟨t', hrun', hP'⟩ := hs _ t hP
      obtain ⟨s', hstep, hnext⟩ := step_of_run (hlt n) hrun' hrun
      refine ⟨s', hstep, ?_⟩
      have hn := Nat.mod_add_div n len
      by_cases hlast : n % len + 1 = len
      · -- the round is over, and its last state begins the next one
        obtain ⟨hdiv, hmod⟩ : (n + 1) / len = n / len + 1 ∧ (n + 1) % len = 0 :=
          (Nat.div_mod_unique hlen).2 ⟨by rw [Nat.mul_add]; omega, hlen⟩
        rw [hlast, List.take_of_length_le (Nat.le_of_eq (hround _)), hrun'] at hnext
        rw [hdiv, hmod]
        exact ⟨t', hP', by simpa using hnext⟩
      · obtain ⟨hdiv, hmod⟩ : (n + 1) / len = n / len ∧ (n + 1) % len = n % len + 1 :=
          (Nat.div_mod_unique hlen).2 ⟨by omega, by have := Nat.mod_lt n hlen; omega⟩
        rw [hdiv, hmod]
        exact ⟨t, hP, hnext⟩
  exact ⟨ex, h0, fun n => by rw [hlabel]; exact List.getElem?_eq_getElem (hlt n)⟩

end Execution

end Machine
