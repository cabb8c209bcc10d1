import Mathlib.Order.Lattice
/-!
# Stable sorting by a key, the best of a list and the latest of a list

`sortBy key` is Python's `sort(key=key)`, `rank score` is `sort(key=score, reverse=True)`: both are
stable. `IsTopK` and `IsLatest` say what a top k and a latest k of a list are without mentioning a
sort; `isTopK_rank` and `isLatest_sorted` say that the ends of the sorted lists are these.
-/
namespace Ranking

variable {α S : Type} [LinearOrder S]

/-- `l.sort(key=key)` -/
def sortBy (key : α → S) (l : List α) : List α := l.mergeSort fun a b => decide (key a ≤ key b)

/-- `l.sort(key=score, reverse=True)`, which is stable too -/
def rank (score : α → S) (l : List α) : List α := l.mergeSort fun a b => decide (score b ≤ score a)

/-- `out` are the `k` best of `l`, best first; where the score does not decide, `l` does. -/
structure IsTopK (score : α → S) (k : Nat) (l out : List α) : Prop where
  length_eq : out.length = min k l.length
  sorted : out.Pairwise fun a b => score b ≤ score a
  stable : ∀ s, (out.filter fun a => score a = s) <+: l.filter fun a => score a = s
  best : ∃ omitted, (out ++ omitted).Perm l ∧ ∀ a ∈ out, ∀ b ∈ omitted, score b ≤ score a

/-- `out` are the `k` latest of `l`, in the order of time. -/
structure IsLatest (time : α → S) (k : Nat) (l out : List α) : Prop where
  length_eq : out.length = min k l.length
  sorted : out.Pairwise fun a b => time a ≤ time b
  latest : ∃ omitted, (omitted ++ out).Perm l ∧ ∀ a ∈ out, ∀ b ∈ omitted, time b ≤ time a

/-! ## Sorting -/

theorem le_trans_bool (key : α → S) (a b c : α) (hab : decide (key a ≤ key b) = true)
    (hbc : decide (key b ≤ key c) = true) : decide (key a ≤ key c) = true :=
  decide_eq_true (le_trans (of_decide_eq_true hab) (of_decide_eq_true hbc))

theorem le_total_bool (key : α → S) (a b : α) : (decide (key a ≤ key b) || decide (key b ≤ key a)) = true := by
  simpa using le_total (key a) (key b)

theorem sortBy_perm (key : α → S) (l : List α) : (sortBy key l).Perm l := List.mergeSort_perm l _

theorem mem_sortBy {key : α → S} {l : List α} {a : α} : a ∈ sortBy key l ↔ a ∈ l := List.mem_mergeSort

theorem pairwise_sortBy (key : α → S) (l : List α) : (sortBy key l).Pairwise fun a b => key a ≤ key b :=
  (List.pairwise_mergeSort (le_trans_bool key) (le_total_bool key) l).imp of_decide_eq_true

/-- To sort what the keys are computed from is to sort them. -/
theorem map_sortBy {β : Type} (key : β → S) (f : α → β) (l : List α) :
    (sortBy (fun a => key (f a)) l).map f = sortBy key (l.map f) :=
  List.map_mergeSort fun _ _ _ _ => rfl

/-- What is sorted into a list that was in order does not disturb the rest of it. -/
theorem filter_sortBy_append {key : α → S} {l added : List α} {p : α → Bool}
    (hl : l.Pairwise fun a b => key a ≤ key b) (hadded : ∀ a ∈ added, p a = false) :
    (sortBy key (l ++ added)).filter p = l.filter p := by
  have hnone : added.filter p = [] := List.filter_eq_nil_iff.2 fun a ha => by simp [hadded a ha]
  have hsub : (l.filter p).Sublist (sortBy key (l ++ added)) := by
    refine List.sublist_mergeSort (le_trans_bool key) (le_total_bool key) ?_ ?_
    · exact (hl.sublist List.filter_sublist).imp fun hab => decide_eq_true hab
    · exact List.filter_sublist.trans (List.sublist_append_left l added)
  have hsub' : (l.filter p).Sublist ((sortBy key (l ++ added)).filter p) := by
    have hidem : (l.filter p).filter p = l.filter p := by simp
    rw [← hidem]
    exact hsub.filter p
  have hlen : ((sortBy key (l ++ added)).filter p).length = (l.filter p).length := by
    rw [((sortBy_perm key (l ++ added)).filter p).length_eq, List.filter_append, hnone, List.append_nil]
  exact (hsub'.eq_of_length hlen.symm).symm

@[simp] theorem rank_nil (score : α → S) : rank score [] = [] := List.mergeSort_nil

theorem rank_perm (score : α → S) (l : List α) : (rank score l).Perm l := List.mergeSort_perm l _

theorem mem_rank {score : α → S} {l : List α} {a : α} : a ∈ rank score l ↔ a ∈ l := List.mem_mergeSort

theorem pairwise_rank (score : α → S) (l : List α) : (rank score l).Pairwise fun a b => score b ≤ score a := by
  refine (List.pairwise_mergeSort ?_ ?_ l).imp of_decide_eq_true
  · intro a b c hab hbc
    exact le_trans_bool score c b a hbc hab
  · intro a b
    exact le_total_bool score b a

/-- To rank what the scores are computed from is to rank them. -/
theorem map_rank {β : Type} (score : β → S) (f : α → β) (l : List α) :
    (rank (fun a => score (f a)) l).map f = rank score (l.map f) :=
  List.map_mergeSort fun _ _ _ _ => rfl

/-- To rank results that carry a score is to rank what they are the results of. -/
theorem map_rank_results {β : Type} {score : α → S} {result : α → β} {scoreOf : β → S} {source : β → α}
    (hscore : ∀ a, scoreOf (result a) = score a) (hsource : ∀ a, source (result a) = a) (l : List α) :
    (rank scoreOf (l.map result)).map source = rank score l := by
  have hrank : (rank score l).map result = rank scoreOf (l.map result) := by
    refine List.map_mergeSort ?_
    intro a _ b _
    rw [hscore a, hscore b]
  have hid : source ∘ result = id := funext hsource
  rw [← hrank, List.map_map, hid, List.map_id]

/-- What is in order already stays as it is. -/
theorem rank_of_pairwise {score : α → S} {l : List α} (h : l.Pairwise fun a b => score b ≤ score a) :
    rank score l = l :=
  List.mergeSort_of_pairwise (h.imp fun hab => decide_eq_true hab)

/-- Elements with one score keep their order. -/
theorem filter_rank (score : α → S) (l : List α) (s : S) :
    ((rank score l).filter fun a => score a = s) = l.filter fun a => score a = s := by
  let tied := l.filter fun a => score a = s
  have htied : tied.Pairwise fun a b => decide (score b ≤ score a) = true := by
    refine List.pairwise_of_forall_mem_list fun a ha b hb => ?_
    have hscore : ∀ c ∈ tied, score c = s := fun c hc => of_decide_eq_true (List.mem_filter.1 hc).2
    rw [hscore a ha, hscore b hb]
    exact decide_eq_true le_rfl
  have hsub : tied.Sublist (rank score l) := by
    refine List.sublist_mergeSort ?_ ?_ htied List.filter_sublist
    · intro a b c hab hbc
      exact le_trans_bool score c b a hbc hab
    · intro a b
      exact le_total_bool score b a
  have hsub' : tied.Sublist ((rank score l).filter fun a => score a = s) := by
    have hidem : tied.filter (fun a => score a = s) = tied := by simp [tied]
    rw [← hidem]
    exact hsub.filter _
  exact (hsub'.eq_of_length ((rank_perm score l).filter _).length_eq.symm).symm

/-- One element more is put behind all that are better, and before all others. -/
theorem exists_rank_cons (score : α → S) (a : α) (l : List α) :
    ∃ better others, rank score (a :: l) = better ++ a :: others ∧ rank score l = better ++ others ∧
      (∀ b ∈ better, score a < score b) ∧ ∀ b ∈ others, score b ≤ score a := by
  have htrans : ∀ a b c : α, decide (score b ≤ score a) → decide (score c ≤ score b) → decide (score c ≤ score a) :=
    fun a b c hab hbc => le_trans_bool score c b a hbc hab
  obtain ⟨better, others, hcons, hl, hbetter⟩ :=
    List.mergeSort_cons htrans (fun a b => le_total_bool score b a) a l
  refine ⟨better, others, hcons, hl, ?_, ?_⟩
  · intro b hb
    simpa using hbetter b hb
  · have hsorted := pairwise_rank score (a :: l)
    rw [rank, hcons, List.pairwise_append] at hsorted
    exact (List.pairwise_cons.1 hsorted.2.1).1

theorem rank_cons (score : α → S) (a : α) (l : List α) :
    rank score (a :: l) =
      ((rank score l).filter fun b => score a < score b) ++ a :: (rank score l).filter fun b => score b ≤ score a := by
  obtain ⟨better, others, hcons, hl, habove, hbelow⟩ := exists_rank_cons score a l
  have hfirst : (better ++ others).filter (fun b => score a < score b) = better := by
    rw [List.filter_append, List.filter_eq_self.2 fun b hb => decide_eq_true (habove b hb),
      List.filter_eq_nil_iff.2 fun b hb h => not_lt.2 (hbelow b hb) (of_decide_eq_true h), List.append_nil]
  have hlast : (better ++ others).filter (fun b => score b ≤ score a) = others := by
    rw [List.filter_append, List.filter_eq_self.2 fun b hb => decide_eq_true (hbelow b hb),
      List.filter_eq_nil_iff.2 fun b hb h => not_le.2 (habove b hb) (of_decide_eq_true h), List.nil_append]
  rw [hcons, hl, hfirst, hlast]

/-- In a longer list the ranked elements have the same order. -/
theorem rank_sublist {score : α → S} {l l' : List α} (h : l.Sublist l') :
    (rank score l).Sublist (rank score l') := by
  induction h with
  | slnil => exact List.Sublist.refl _
  | @cons l l' a h ih =>
    obtain ⟨better, others, hcons, hl', -⟩ := exists_rank_cons score a l'
    rw [hl'] at ih
    rw [hcons]
    exact ih.trans ((List.sublist_cons_self a others).append_left better)
  | @cons_cons l l' a h ih =>
    rw [rank_cons, rank_cons]
    exact (ih.filter _).append ((ih.filter _).cons_cons a)

/-! ## The ends of a sorted list -/

/-- The first `k` of the ranking are the best. -/
theorem isTopK_rank (score : α → S) (k : Nat) (l : List α) : IsTopK score k l ((rank score l).take k) where
  length_eq := by rw [List.length_take, (rank_perm score l).length_eq]
  sorted := (pairwise_rank score l).sublist (List.take_sublist _ _)
  stable s := by
    rw [← filter_rank score l s]
    exact (List.take_prefix k _).filter _
  best := by
    refine ⟨(rank score l).drop k, ?_, ?_⟩
    · rw [List.take_append_drop]
      exact rank_perm score l
    · have hpair := pairwise_rank score l
      rw [← List.take_append_drop k (rank score l)] at hpair
      exact (List.pairwise_append.1 hpair).2.2

/-- The best of a non-empty list comes first. -/
theorem IsTopK.head {score : α → S} {k : Nat} {l out : List α} (h : IsTopK score k l out) (hk : 1 ≤ k)
    {b : α} (hb : b ∈ l) : ∃ a, out.head? = some a ∧ score b ≤ score a := by
  obtain ⟨omitted, hperm, hbest⟩ := h.best
  cases hout : out with
  | nil =>
    have hlen := h.length_eq
    have hpos := List.length_pos_of_mem hb
    rw [hout, List.length_nil] at hlen
    omega
  | cons a rest =>
    refine ⟨a, rfl, ?_⟩
    have hsorted := h.sorted
    rw [hout] at hperm hbest hsorted
    rcases List.mem_append.1 (hperm.mem_iff.2 hb) with hin | hleft
    · rcases List.mem_cons.1 hin with rfl | hrest
      · exact le_rfl
      · exact (List.pairwise_cons.1 hsorted).1 b hrest
    · exact hbest a List.mem_cons_self b hleft

/-- The last `k` of a list in the order of time are the latest. -/
theorem isLatest_sorted {time : α → S} {l : List α} (h : l.Pairwise fun a b => time a ≤ time b) (k : Nat) :
    IsLatest time k l (l.drop (l.length - k)) where
  length_eq := by
    rw [List.length_drop]
    omega
  sorted := h.sublist (List.drop_sublist _ _)
  latest := by
    refine ⟨l.take (l.length - k), ?_, ?_⟩
    · rw [List.take_append_drop]
    · intro a ha b hb
      rw [← List.take_append_drop (l.length - k) l] at h
      exact (List.pairwise_append.1 h).2.2 b hb a ha

end Ranking
