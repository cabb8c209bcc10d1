import Mathlib.Data.List.Basic
/-!
# Finite streams: cutting after a terminator, and bounded histories

`cutAfter p l` is what a reader that stops at the first `p`-element has read of `l`.
`pushBounded n h x` appends to a history and drops its oldest entry when it is over `n`
long; from an empty history it always holds the last `n` pushed (`pushBounded_drop`).
-/
namespace Feed

variable {α : Type}

/-- The elements of `l` up to and including the first one satisfying `p`. -/
def cutAfter (p : α → Bool) : List α → List α
  | [] => []
  | a :: l => if p a then [a] else a :: cutAfter p l

theorem cutAfter_of_none {p : α → Bool} {l : List α} (h : ∀ a ∈ l, p a = false) :
    cutAfter p l = l := by
  induction l with
  | nil => rfl
  | cons a l ih =>
    have ha : p a = false := h a List.mem_cons_self
    simp only [cutAfter, ha, Bool.false_eq_true, if_false]
    rw [ih fun b hb => h b (List.mem_cons_of_mem a hb)]

/-- The stream is cut exactly at the first terminator. -/
theorem cutAfter_append_cons {p : α → Bool} {l m : List α} {a : α} (h : ∀ b ∈ l, p b = false)
    (ha : p a = true) : cutAfter p (l ++ a :: m) = l ++ [a] := by
  induction l with
  | nil => simp [cutAfter, ha]
  | cons b l ih =>
    have hb : p b = false := h b List.mem_cons_self
    simp only [List.cons_append, cutAfter, hb, Bool.false_eq_true, if_false]
    rw [ih fun c hc => h c (List.mem_cons_of_mem b hc)]

/-- An uninterrupted part of a stream is a prefix of its cut. -/
theorem prefix_cutAfter {p : α → Bool} {l m : List α} (h : ∀ b ∈ l, p b = false) :
    l <+: cutAfter p (l ++ m) := by
  induction l with
  | nil => exact List.nil_prefix
  | cons b l ih =>
    have hb : p b = false := h b List.mem_cons_self
    simp only [List.cons_append, cutAfter, hb, Bool.false_eq_true, if_false]
    exact List.cons_prefix_cons.2 ⟨rfl, ih fun c hc => h c (List.mem_cons_of_mem b hc)⟩

theorem cutAfter_map {β : Type} (f : α → β) (p : β → Bool) (l : List α) :
    cutAfter p (l.map f) = (cutAfter (p ∘ f) l).map f := by
  induction l with
  | nil => rfl
  | cons a l ih =>
    simp only [List.map_cons, cutAfter, Function.comp_apply, ih]
    split <;> simp

/-- Append to a history of at most `n` entries: the oldest entry goes when it overflows. -/
def pushBounded (n : Nat) (h : List α) (x : α) : List α :=
  if n < (h ++ [x]).length then (h ++ [x]).tail else h ++ [x]

theorem pushBounded_of_lt {n : Nat} {h : List α} {x : α} (hlt : h.length < n) :
    pushBounded n h x = h ++ [x] := by
  have : ¬ n < (h ++ [x]).length := by simp; omega
  rw [pushBounded, if_neg this]

theorem pushBounded_of_le {n : Nat} {h : List α} {x : α} (hle : n ≤ h.length) :
    pushBounded n h x = (h ++ [x]).drop 1 := by
  have : n < (h ++ [x]).length := by simp; omega
  rw [pushBounded, if_pos this, List.drop_one]

/-- A history holding the last `n` of `l` holds, after a push, the last `n` of `l ++ [x]`. -/
theorem pushBounded_drop (n : Nat) (l : List α) (x : α) :
    pushBounded n (l.drop (l.length - n)) x = (l ++ [x]).drop ((l ++ [x]).length - n) := by
  have hlen : (l.drop (l.length - n)).length = min n l.length := by simp; omega
  have happ : l.drop (l.length - n) ++ [x] = (l ++ [x]).drop (l.length - n) :=
    (List.drop_append_of_le_length (Nat.sub_le _ _)).symm
  by_cases hn : n ≤ l.length
  · rw [pushBounded_of_le (by omega), happ, List.drop_drop]
    congr 1
    simp
    omega
  · rw [pushBounded_of_lt (by omega), happ]
    congr 1
    simp
    omega

end Feed
